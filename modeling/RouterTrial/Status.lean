import RouterTrial.Text.Case

/-!
# Payment statuses

The four statuses that payments are counted by, and how the word that a payment endpoint uses is
taken for one of them: white space around it and its letter case do not matter, and an unknown word
is a failure.
-/

namespace RouterTrial

/-- The status of a payment. -/
inductive Status where
  | charged
  | authorized
  | failure
  | declined
  deriving Repr, DecidableEq

namespace Status

/-- The statuses in their order. -/
def all : List Status := [charged, authorized, failure, declined]

/-- The place of a status in `all` of them. -/
def rank : Status → Nat
  | charged => 0
  | authorized => 1
  | failure => 2
  | declined => 3

instance : Ord Status := ⟨fun x y => compare x.rank y.rank⟩

/-- The name of a status in records, which `ofName?` reads. -/
def name : Status → String
  | charged => "CHARGED"
  | authorized => "AUTHORIZED"
  | failure => "FAILURE"
  | declined => "DECLINED"

/-- The status with this name. -/
def ofName? : String → Option Status
  | "CHARGED" => some charged
  | "AUTHORIZED" => some authorized
  | "FAILURE" => some failure
  | "DECLINED" => some declined
  | _ => none

/-- The payment went through. -/
def isSuccess : Status → Bool
  | charged | authorized => true
  | failure | declined => false

/-- The status that a word stands for, in lower case and without white space around it. -/
def ofWord : String → Status
  | "charged" => charged
  | "succeeded" => charged
  | "authorized" => authorized
  | "failed" => failure
  | "declined" => declined
  | _ => failure

/-- The status that `text` stands for: that of its word, as `ofWord` knows it. -/
def ofText (text : String) : Status := ofWord (Text.lower (Text.trim text))

theorem ofName?_name (s : Status) : ofName? s.name = some s := by cases s <;> rfl

end Status

end RouterTrial
