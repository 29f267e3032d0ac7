import RouterTrial.Exchange.Message
import RouterTrial.Json.Reader

/-!
# Octets of exchanges

How a request stands on a connection, and how a reply is read from the octets that have come back by
the time the connection closes. A body is as long as its header says, or comes in chunks, or goes on
to the end; one that is shorter than announced is not complete.
-/

namespace RouterTrial

/-! ### Requests -/

namespace Request

/-- The end of a line. -/
def lineEnd : String := "\r\n"

/-- The value of the header that names the host of `u`. -/
def hostHeader (u : Url) : String :=
  if u.socket = (if u.secure then 443 else 80) then u.host
  else u.host ++ ":" ++ toString u.socket

/-- The lines of the request `r` before its body. -/
def headLines (r : Request) (u : Url) : List String :=
  [r.method ++ " " ++ u.target ++ " HTTP/1.1", "host: " ++ hostHeader u]
    ++ r.headers.map (fun h => h.1 ++ ": " ++ h.2)
    ++ (if r.body.isEmpty then [] else ["content-length: " ++ toString r.body.utf8ByteSize])
    ++ ["connection: close"]

/-- The octets of the request `r` to the address `u`. -/
def toOctets (r : Request) (u : Url) : ByteArray :=
  (String.join ((r.headLines u).map (· ++ lineEnd)) ++ lineEnd ++ r.body).toUTF8

end Request

/-! ### Replies -/

namespace Reply

/-- The octets of a line, and those behind its end. -/
def cutLine? : List UInt8 → Option (List UInt8 × List UInt8)
  | 13 :: 10 :: rest => some ([], rest)
  | b :: rest => (cutLine? rest).map fun parts => (b :: parts.1, parts.2)
  | [] => none

/-- The lines up to an empty one, and the octets behind it; there are so many lines at most. -/
def headLines? : Nat → List UInt8 → Option (List String × List UInt8)
  | 0, _ => none
  | lines + 1, octets =>
    (cutLine? octets).bind fun parts =>
      if parts.1.isEmpty then some ([], parts.2)
      else
        (headLines? lines parts.2).map fun more =>
          (Text.Utf8.decodeLossy parts.1 :: more.1, more.2)

/-- The status in the first `line` of a reply. -/
def status? (line : String) : Option Nat :=
  match Text.splitOn ' ' line.toList with
  | _ :: code :: _ => Number.natural? code
  | _ => none

/-- The value of the header with this `name` among `lines`. -/
def header? (name : String) (lines : List String) : Option String :=
  lines.findSome? fun line =>
    (Text.cut ':' line.toList).bind fun parts =>
      if String.ofList (parts.1.map Text.lowerChar) = name then
        some (String.ofList (Text.trimChars parts.2))
      else none

/-- The number of octets that the first `line` of a chunk announces. -/
def chunkSize? (line : List UInt8) : Option Nat :=
  let digits := (line.map fun b => Char.ofNat b.toNat).takeWhile Char.isAlphanum
  if digits.isEmpty then none
  else digits.foldlM (fun n c => (Json.hexValue? c).map (16 * n + ·)) 0

/-- The body that chunks make up, so many at most, and whether the last one has arrived. -/
def joinChunks : Nat → List UInt8 → List UInt8 × Bool
  | 0, _ => ([], false)
  | chunks + 1, octets =>
    match cutLine? octets with
    | none => ([], false)
    | some (line, rest) =>
      match chunkSize? line with
      | none => ([], false)
      | some 0 => ([], true)
      | some size =>
        if rest.length < size + 2 then (rest.take size, false)
        else
          let more := joinChunks chunks (rest.drop (size + 2))
          (rest.take size ++ more.1, more.2)

/-- The `status` is one of a reply that has no body. -/
def isBodiless (status : Nat) : Bool := status == 204 || status == 304

/-- The body that `rest` starts with in a reply with these `headers`, and whether it is complete. -/
def content (status : Nat) (headers : List String) (rest : List UInt8) : List UInt8 × Bool :=
  if isBodiless status then ([], true)
  else if (header? "transfer-encoding" headers).map Text.lower = some "chunked" then
    joinChunks (rest.length + 1) rest
  else
    match (header? "content-length" headers).bind fun n => Number.natural? n.toList with
    | some size => (rest.take size, size ≤ rest.length)
    | none => (rest, true)

/-- The reply that the `octets` of a connection make up. -/
def ofOctets? (octets : List UInt8) : Option Reply := do
  let (lines, rest) ← headLines? (octets.length + 1) octets
  let status ← lines.head?.bind status?
  let (octets, complete) := content status (lines.drop 1) rest
  return ⟨status, octets, complete⟩

end Reply

end RouterTrial
