/-
  Promotion and demotion of listed items: promoted items come first, demoted ones last, and all
  others between. Among the promoted, and among the demoted, the first pattern that matches
  decides; items of one place keep their order.
-/
import DocCorpus.Glob

namespace DocCorpus

/-- Where an item belongs in a listing. -/
inductive Place
  | promoted (rank : Nat)
  | unmoved
  | demoted (rank : Nat)
  deriving DecidableEq

namespace Place

/-- Whether an item of place `a` may stand before an item of place `b`. -/
def precedes : Place → Place → Bool
  | .promoted i, .promoted j => i ≤ j
  | .promoted _, _ => true
  | .unmoved, .promoted _ => false
  | .unmoved, _ => true
  | .demoted i, .demoted j => i ≤ j
  | .demoted _, _ => false

theorem precedes_refl (a : Place) : a.precedes a = true := by
  cases a <;> simp [precedes]

theorem precedes_total (a b : Place) : (a.precedes b || b.precedes a) = true := by
  cases a <;> cases b <;> simp [precedes, Nat.le_total]

theorem precedes_trans {a b c : Place} (hab : a.precedes b = true) (hbc : b.precedes c = true) :
    a.precedes c = true := by
  cases a <;> cases b <;> cases c <;> simp_all [precedes]
  all_goals omega

end Place

/-- The patterns that move items to the front and to the end. -/
structure Precedence where
  promote : PatternSet
  demote : PatternSet

namespace Precedence

/-- The place of an identifier; promotion goes before demotion. -/
def place (rules : Precedence) (id : String) : Place :=
  match rules.promote.firstMatch? id with
  | some rank => .promoted rank
  | none =>
    match rules.demote.firstMatch? id with
    | some rank => .demoted rank
    | none => .unmoved

/-- The items in the order of their places. -/
def arrange {α : Type} (rules : Precedence) (id : α → String) (items : List α) : List α :=
  items.mergeSort fun a b => (rules.place (id a)).precedes (rules.place (id b))

theorem arrange_perm {α : Type} (rules : Precedence) (id : α → String) (items : List α) :
    (rules.arrange id items).Perm items :=
  List.mergeSort_perm ..

theorem pairwise_arrange {α : Type} (rules : Precedence) (id : α → String) (items : List α) :
    (rules.arrange id items).Pairwise fun a b =>
      (rules.place (id a)).precedes (rules.place (id b)) = true := by
  unfold arrange
  apply List.pairwise_mergeSort
  · intro a b c hab hbc
    exact Place.precedes_trans hab hbc
  · intro a b
    exact Place.precedes_total ..

end Precedence
end DocCorpus
