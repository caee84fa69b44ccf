/-!
Sets of characters, each given by the runs of neighbouring characters that it consists of. Whether a
character belongs to one is decidable.
-/

namespace FilterWatch.Text

/-- A set of characters: the codes of the first and the last character of each run. -/
structure CharSet where
  runs : List (Nat × Nat)
  deriving DecidableEq, Repr

namespace CharSet

instance : Membership Char CharSet where
  mem set c := ∃ run ∈ set.runs, run.1 ≤ c.toNat ∧ c.toNat ≤ run.2

instance (c : Char) (set : CharSet) : Decidable (c ∈ set) :=
  inferInstanceAs (Decidable (∃ run ∈ set.runs, run.1 ≤ c.toNat ∧ c.toNat ≤ run.2))

instance : Union CharSet where
  union first second := ⟨first.runs ++ second.runs⟩

end CharSet

end FilterWatch.Text
