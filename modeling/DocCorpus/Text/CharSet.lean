/-
  Sets of characters given by intervals of code points. The tables of character properties are
  values of this type; a member lies in one of the intervals (`CharSet.search_eq_true`).
-/

namespace DocCorpus

/-- A set of characters as ascending, disjoint intervals of code points, both ends included. -/
structure CharSet where
  intervals : List (Nat × Nat)

namespace CharSet

/-- Whether one of the intervals holds the code point. The search ends at the first interval that
starts after it. -/
def search : List (Nat × Nat) → Nat → Bool
  | [], _ => false
  | (first, last) :: rest, n =>
    if n < first then false else if n ≤ last then true else search rest n

/-- Membership of a character. -/
def has (s : CharSet) (c : Char) : Bool := search s.intervals c.toNat

theorem search_eq_true {l : List (Nat × Nat)} {n : Nat} (h : search l n = true) :
    ∃ i ∈ l, i.1 ≤ n ∧ n ≤ i.2 := by
  induction l with
  | nil => simp [search] at h
  | cons i l ih =>
    obtain ⟨a, b⟩ := i
    simp only [search] at h
    split at h
    · simp at h
    · split at h
      · exact ⟨(a, b), by simp, by omega, by assumption⟩
      · obtain ⟨j, hj, hn⟩ := ih h
        exact ⟨j, List.mem_cons_of_mem _ hj, hn⟩

end CharSet
end DocCorpus
