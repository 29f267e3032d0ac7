/-!
# Test cards

The two cards that payments are made with: one that is accepted and one that is declined.
-/

namespace RouterTrial

/-- A test card. -/
inductive Card where
  /-- The card whose payments succeed. -/
  | success
  /-- The card whose payments are declined. -/
  | fail
  deriving Repr, DecidableEq, Inhabited

namespace Card

/-- The name of a card in records, which `ofName?` reads. -/
def name : Card → String
  | success => "SUCCESS"
  | fail => "FAIL"

/-- The card with this `name`, if there is one. -/
def ofName? : String → Option Card
  | "SUCCESS" => some success
  | "FAIL" => some fail
  | _ => none

/-- The number on the card. -/
def number : Card → String
  | success => "4242424242424242"
  | fail => "4000000000000002"

theorem ofName?_name (c : Card) : ofName? c.name = some c := by cases c <;> rfl

end Card

end RouterTrial
