import RouterTrial.Fault
import RouterTrial.Log
import RouterTrial.Roster

/-!
# Directories

Where the roster of a trial comes from: connectors that are named in the configuration, or, if it
names none, the listings of a source, of which those are taken that are enabled for the profile. A
source that fails counts as one without listings, so the only fault is that there is no connector.
-/

namespace RouterTrial

/-- A connector as a source of listings has it. -/
structure Listing where
  connector : String
  account : String
  profile : Option String
  disabled : Bool
  deriving Repr, DecidableEq

/-- The listed connector `l` is enabled for the `profile`. -/
def Listing.isEnabled (profile : String) (l : Listing) : Bool :=
  !l.disabled && l.profile == some profile

/-- The roster of those `listings` that are enabled for the `profile`. -/
def Roster.ofListings (profile : String) (listings : List Listing) : Roster :=
  Roster.ofList
    ((listings.filter (Listing.isEnabled profile)).map fun l => (l.connector, l.account))

/-- Where to find the connectors of a trial. -/
structure Directory (m : Type → Type) where
  /-- The connectors that need no source. -/
  fixed : List (String × String)
  profile : String
  /-- Asks for the listed connectors, if there is anybody to ask. -/
  source : Option (m (Except Fault (List Listing)))

namespace Directory

variable {m : Type → Type}

/-- The directory of the connectors in `pairs`, which needs no source. -/
def ofFixed (pairs : List (String × String)) : Directory m := ⟨pairs, "", none⟩

/-- The directory `d` with its source in another monad. -/
def lift {n : Type → Type} (f : ∀ {α : Type}, m α → n α) (d : Directory m) : Directory n :=
  ⟨d.fixed, d.profile, d.source.map f⟩

/-- The listings of an answer; none if the source failed. -/
def listings : Except Fault (List Listing) → List Listing
  | .ok found => found
  | .error _ => []

/-- The warning that a source failed, if it did. -/
def failureLog : Except Fault (List Listing) → Log
  | .ok _ => []
  | .error fault => [⟨.warn, "connector lookup failed: " ++ fault.message⟩]

/-- What follows for the `profile` from the `answer` of a source: a roster, or a fault if it would
be empty. -/
def conclude (profile : String) (answer : Except Fault (List Listing)) :
    Except DirectoryFault Roster × Log :=
  let roster := Roster.ofListings profile (listings answer)
  if roster.isEmpty then (.error (.noneEnabled profile), failureLog answer)
  else
    (.ok roster,
      failureLog answer ++
        [⟨.info, "connector map loaded for profile " ++ profile ++ ": "
          ++ Text.quoteList roster.names⟩])

/-- The roster of the directory `d`, and what is logged on the way to it. The source is asked only
if there are no `fixed` connectors. -/
def resolve [Monad m] (d : Directory m) : m (Except DirectoryFault Roster × Log) :=
  if d.fixed.isEmpty then
    match d.source with
    | none => pure (.error .noSource, [])
    | some ask => do return conclude d.profile (← ask)
  else pure (.ok (Roster.ofList d.fixed), [])

end Directory

end RouterTrial
