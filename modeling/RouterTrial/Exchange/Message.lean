import RouterTrial.Exchange.Url
import RouterTrial.Fault
import RouterTrial.Json.Printer
import RouterTrial.Json.Reader

/-!
# Exchanges

An exchange sends a request to a server and gets a reply, or fails. A request whose address is none,
or whose headers hold control characters, is not sent at all and counts as a failed exchange.
-/

namespace RouterTrial

/-! ### Requests -/

/-- A request to a server. -/
structure Request where
  method : String
  url : String
  /-- Names in lower case with their values. -/
  headers : List (String × String)
  body : String
  /-- The milliseconds after which the exchange is given up. -/
  timeout : Nat
  deriving Repr, DecidableEq

namespace Request

/-- The accepted kinds of content, where any will do. -/
def acceptAll : String × String := ("accept", "*/*")

/-- A request to `url` with a JSON `body`. -/
def post (url : String) (headers : List (String × String)) (body : Json) (timeout : Nat) :
    Request :=
  ⟨"POST", url, headers ++ [("content-type", "application/json")], body.compact, timeout⟩

/-- A request to `url` without a body. -/
def get (url : String) (headers : List (String × String)) (timeout : Nat) : Request :=
  ⟨"GET", url, headers, "", timeout⟩

/-- The `value` can stand in a header: it has no control character but the tab. -/
def isHeaderValue (value : String) : Bool :=
  value.toList.all fun c => c == '\t' || (0x20 ≤ c.toNat && c.toNat != 0x7F)

/-- The request `r` can be sent: it goes to an address on the web, and every value
`isHeaderValue`. -/
def isSendable (r : Request) : Bool :=
  (Url.ofText? r.url).isSome && r.headers.all fun h => isHeaderValue h.2

/-- The address of `path` below the address `base`. -/
def below (base path : String) : String :=
  String.ofList (Text.dropEndWhile (· == '/') base.toList) ++ path

end Request

/-! ### Answers -/

/-- A reply of a server. -/
structure Reply where
  status : Nat
  body : List UInt8
  /-- The body has arrived as a whole. -/
  complete : Bool
  deriving Repr, DecidableEq

/-- What an exchange comes to. -/
inductive Answer where
  /-- There is no reply: nothing was sent, or nothing came back in time. -/
  | failed
  | reply (r : Reply)
  deriving Repr, DecidableEq

/-- The number of characters of a body that a message shows. -/
def excerptLength : Nat := 200

namespace Reply

/-- The status of the reply `r` is one of success. -/
def isSuccess (r : Reply) : Bool := 200 ≤ r.status && r.status < 300

/-- The text of the body of `r`, if it has arrived as a whole. -/
def text? (r : Reply) : Option String :=
  if r.complete then some (Text.Utf8.decodeLossy r.body) else none

/-- The text of the body of `r`, empty if it broke off. -/
def text (r : Reply) : String := r.text?.getD ""

/-- The text of the body of `r`, if it has arrived as a whole and is well formed. -/
def exactText? (r : Reply) : Option String :=
  if r.complete then Text.Utf8.decode? r.body else none

/-- The tree of the body of `r`, if it has arrived as a whole. Octets that make up no character are
harmless in it as long as they stand in strings that nobody looks at. -/
def tree? (r : Reply) : Option Json.Raw := if r.complete then Json.Raw.ofOctets? r.body else none

/-- The short name of the status of `r`, with an excerpt of `text`. -/
def statusText (r : Reply) (text : String) : String :=
  "HTTP_" ++ toString r.status ++ ": " ++ Text.clip excerptLength text

end Reply

/-- The fault of an exchange that failed. -/
def Fault.unreachable : Fault := .transport "no reply"

/-- The fault of a body that broke off. -/
def Fault.brokenBody : Fault := .decode "body broke off"

/-! ### Networks -/

/-- A way to make exchanges. -/
structure Network (m : Type → Type) where
  exchange : Request → m Answer

/-- Makes the exchange of the request `r`, if it can be sent; otherwise it counts as `failed`. -/
def Network.send {m : Type → Type} [Monad m] (n : Network m) (r : Request) : m Answer :=
  if r.isSendable then n.exchange r else pure .failed

end RouterTrial
