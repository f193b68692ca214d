/-
  The order of a listing. Items are moved by their places alone, and items of one place keep their
  order (`placed_arrange`); a list in the order of its places is settled by its items of each
  place (`eq_of_placed`). So leaving out items and arranging may be done in either order
  (`filter_arrange`).
-/
import DocCorpus.Precedence

namespace DocCorpus

theorem Place.precedes_antisymm {a b : Place} (hab : a.precedes b = true)
    (hba : b.precedes a = true) : a = b := by
  cases a <;> cases b <;> simp_all [Place.precedes]
  all_goals omega

namespace Precedence

variable {α : Type} {rules : Precedence} {id : α → String}

/-! ## Items of one place -/

/-- The items of a place, in their order. -/
def placed (rules : Precedence) (id : α → String) (place : Place) (items : List α) : List α :=
  items.filter fun a => rules.place (id a) = place

theorem mem_placed {place : Place} {items : List α} {a : α} :
    a ∈ placed rules id place items ↔ a ∈ items ∧ rules.place (id a) = place := by
  unfold placed
  rw [List.mem_filter, decide_eq_true_iff]

theorem placed_cons (place : Place) (a : α) (items : List α) :
    placed rules id place (a :: items) =
      if rules.place (id a) = place then a :: placed rules id place items
      else placed rules id place items := by
  unfold placed
  rw [List.filter_cons]
  simp only [decide_eq_true_iff]

theorem placed_filter (place : Place) (p : α → Bool) (items : List α) :
    placed rules id place (items.filter p) = (placed rules id place items).filter p := by
  unfold placed
  rw [List.filter_filter, List.filter_filter]
  exact List.filter_congr fun a _ => Bool.and_comm ..

/-- A list in the order of the places of its items. -/
def Ordered (rules : Precedence) (id : α → String) (items : List α) : Prop :=
  items.Pairwise fun a b => (rules.place (id a)).precedes (rules.place (id b)) = true

theorem ordered_arrange (items : List α) : Ordered rules id (rules.arrange id items) :=
  pairwise_arrange rules id items

/-- Arranging keeps the order of items of one place. -/
theorem placed_arrange (place : Place) (items : List α) :
    placed rules id place (rules.arrange id items) = placed rules id place items := by
  have hperm : (placed rules id place (rules.arrange id items)).Perm
      (placed rules id place items) :=
    (arrange_perm rules id items).filter _
  have hordered : Ordered rules id (placed rules id place items) := by
    refine List.pairwise_of_forall_mem_list fun a ha b hb => ?_
    rw [(mem_placed.1 ha).2, (mem_placed.1 hb).2]
    exact Place.precedes_refl place
  have hsublist : (placed rules id place items).Sublist (rules.arrange id items) := by
    refine List.sublist_mergeSort ?_ ?_ hordered List.filter_sublist
    · exact fun _ _ _ => Place.precedes_trans
    · exact fun _ _ => Place.precedes_total ..
  have hsame : placed rules id place (placed rules id place items) = placed rules id place items :=
    List.filter_eq_self.2 fun a ha => decide_eq_true (mem_placed.1 ha).2
  have hplaced : (placed rules id place (placed rules id place items)).Sublist
      (placed rules id place (rules.arrange id items)) :=
    hsublist.filter _
  rw [hsame] at hplaced
  exact (hplaced.eq_of_length hperm.length_eq.symm).symm

/-! ## Lists in order -/

/-- The first item of a list in order stands before all items of a list with the same items. -/
theorem precedes_of_placed {a b : α} {as bs : List α} (hordered : Ordered rules id (a :: as))
    (h : ∀ place, placed rules id place (a :: as) = placed rules id place (b :: bs)) :
    (rules.place (id a)).precedes (rules.place (id b)) = true := by
  have hb : b ∈ placed rules id (rules.place (id b)) (a :: as) := by
    rw [h, mem_placed]
    exact ⟨List.mem_cons_self, rfl⟩
  rcases List.mem_cons.1 (mem_placed.1 hb).1 with rfl | hb
  · exact Place.precedes_refl _
  · exact List.rel_of_pairwise_cons hordered hb

/-- Two lists in order are the same if they have the same items of each place. -/
theorem eq_of_placed {as bs : List α} (has : Ordered rules id as) (hbs : Ordered rules id bs)
    (h : ∀ place, placed rules id place as = placed rules id place bs) : as = bs := by
  have hne : ∀ (a : α) (items : List α), placed rules id (rules.place (id a)) (a :: items) ≠ [] := by
    intro a items
    rw [placed_cons, if_pos rfl]
    exact List.cons_ne_nil _ _
  induction as generalizing bs with
  | nil =>
    cases bs with
    | nil => rfl
    | cons b bs => exact absurd (h _).symm (hne b bs)
  | cons a as ih =>
    cases bs with
    | nil => exact absurd (h _) (hne a as)
    | cons b bs =>
      have hplace : rules.place (id a) = rules.place (id b) :=
        Place.precedes_antisymm (precedes_of_placed has h)
          (precedes_of_placed hbs fun place => (h place).symm)
      have hhead : a = b := by
        have hfirst := h (rules.place (id a))
        rw [placed_cons, placed_cons, if_pos rfl, if_pos hplace.symm] at hfirst
        exact (List.cons.inj hfirst).1
      subst hhead
      rw [ih has.of_cons hbs.of_cons fun place => ?_]
      have hrest := h place
      rw [placed_cons, placed_cons] at hrest
      split at hrest
      · exact (List.cons.inj hrest).2
      · exact hrest

/-- Leaving out items before they are arranged or after is the same. -/
theorem filter_arrange (p : α → Bool) (items : List α) :
    (rules.arrange id items).filter p = rules.arrange id (items.filter p) := by
  have hordered : Ordered rules id ((rules.arrange id items).filter p) :=
    (ordered_arrange items).filter p
  refine eq_of_placed hordered (ordered_arrange (items.filter p)) fun place => ?_
  rw [placed_filter, placed_arrange, placed_arrange, placed_filter]

/-- What is left of an arranged list does not depend on what is left out first. -/
theorem filter_arrange_comm (p q : α → Bool) (items : List α) :
    (rules.arrange id (items.filter p)).filter q = (rules.arrange id (items.filter q)).filter p := by
  rw [filter_arrange, filter_arrange, List.filter_filter, List.filter_filter]
  simp only [Bool.and_comm]

end Precedence
end DocCorpus
