import RouterTrial.Directory.Json
import RouterTrial.Exchange.Message

/-!
# The listing service

The exchange that asks for the connectors of an account.
-/

namespace RouterTrial

/-- Where connectors are listed, and for which merchant. -/
structure ListingService where
  url : String
  merchant : String
  key : String
  /-- Milliseconds. -/
  timeout : Nat
  deriving Repr, DecidableEq

namespace ListingService

/-- The request of the service `s` for its listings. -/
def request (s : ListingService) : Request :=
  .get (Request.below s.url ("/api/account/" ++ s.merchant ++ "/profile/connectors"))
    [Request.acceptAll, ("api-key", s.key)] s.timeout

/-- The listings of an answer, or the `Fault` that keeps it from having any. -/
def readListings : Answer → Except Fault (List Listing)
  | .failed => .error .unreachable
  | .reply r =>
    if r.isSuccess then
      match r.text? with
      | none => .error .brokenBody
      | some text =>
        match Listing.listOfText? text with
        | none => .error (.decode "listings are malformed")
        | some listings => .ok listings
    else .error (.transport (r.statusText r.text))

/-- Asks the service `s` for its listings over the network `n`. -/
def fetch {m : Type → Type} [Monad m] (s : ListingService) (n : Network m) :
    m (Except Fault (List Listing)) :=
  readListings <$> n.send s.request

end ListingService

end RouterTrial
