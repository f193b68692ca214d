/-
  A listing in blocks. The places of a listing have an order of their own (`places`), and an
  arranged list is what the items of each place, in their given order, make when they are put
  together in that order (`arrange_eq_flatMap`). Spelled out for promotion and demotion, with the
  place of an item read off the patterns, that is `arrange_eq_blocks`.
-/
import DocCorpus.Proofs.Precedence

namespace DocCorpus

/-! ## The first pattern that matches -/

namespace PatternSet

variable {s : PatternSet} {i : Nat} {id : String}

/-- The pattern at a position matches the identifier, and none before it does. -/
def FirstMatches (s : PatternSet) (i : Nat) (id : String) : Prop :=
  ∃ h : i < s.globs.length, s.globs[i].isMatch id = true ∧
    ∀ (j : Nat) (hj : j < i), ¬ s.globs[j].isMatch id = true

theorem firstMatch?_eq_some_iff : s.firstMatch? id = some i ↔ s.FirstMatches i id :=
  List.findIdx?_eq_some_iff_getElem

theorem firstMatch?_eq_none_iff :
    s.firstMatch? id = none ↔ ∀ g ∈ s.globs, g.isMatch id = false :=
  List.findIdx?_eq_none_iff

instance : Decidable (s.FirstMatches i id) := decidable_of_iff _ firstMatch?_eq_some_iff

theorem FirstMatches.lt_size (h : s.FirstMatches i id) : i < s.size := h.1

end PatternSet

namespace Precedence

variable {α : Type} {rules : Precedence} {id : α → String}

/-! ## Places read off the patterns -/

theorem place_eq_promoted_iff {x : String} {rank : Nat} :
    rules.place x = .promoted rank ↔ rules.promote.FirstMatches rank x := by
  rw [← PatternSet.firstMatch?_eq_some_iff]
  unfold place
  cases rules.promote.firstMatch? x with
  | some i => simp only [Place.promoted.injEq, Option.some.injEq]
  | none => cases rules.demote.firstMatch? x <;> simp

theorem place_eq_unmoved_iff {x : String} :
    rules.place x = .unmoved ↔
      (∀ g ∈ rules.promote.globs, g.isMatch x = false) ∧
        ∀ g ∈ rules.demote.globs, g.isMatch x = false := by
  rw [← PatternSet.firstMatch?_eq_none_iff, ← PatternSet.firstMatch?_eq_none_iff]
  unfold place
  cases rules.promote.firstMatch? x with
  | some i => simp
  | none => cases rules.demote.firstMatch? x <;> simp

theorem place_eq_demoted_iff {x : String} {rank : Nat} :
    rules.place x = .demoted rank ↔
      (∀ g ∈ rules.promote.globs, g.isMatch x = false) ∧ rules.demote.FirstMatches rank x := by
  rw [← PatternSet.firstMatch?_eq_none_iff, ← PatternSet.firstMatch?_eq_some_iff]
  unfold place
  cases rules.promote.firstMatch? x with
  | some i => simp
  | none => cases rules.demote.firstMatch? x <;> simp

/-- The places that patterns can give, in the order of a listing. -/
def places (rules : Precedence) : List Place :=
  (List.range rules.promote.size).map .promoted ++
    (.unmoved :: (List.range rules.demote.size).map .demoted)

theorem place_mem_places (x : String) : rules.place x ∈ rules.places := by
  unfold places
  cases hplace : rules.place x with
  | promoted rank =>
    have hrank := (place_eq_promoted_iff.1 hplace).lt_size
    exact List.mem_append_left _ (List.mem_map_of_mem (List.mem_range.2 hrank))
  | unmoved => exact List.mem_append_right _ List.mem_cons_self
  | demoted rank =>
    have hrank := (place_eq_demoted_iff.1 hplace).2.lt_size
    exact List.mem_append_right _
      (List.mem_cons_of_mem _ (List.mem_map_of_mem (List.mem_range.2 hrank)))

/-- Each of the places comes once, and after those before it. -/
theorem pairwise_places (rules : Precedence) :
    rules.places.Pairwise fun a b => a.precedes b = true ∧ a ≠ b := by
  unfold places
  rw [List.pairwise_append, List.pairwise_cons, List.pairwise_map, List.pairwise_map]
  refine ⟨?_, ⟨?_, ?_⟩, ?_⟩
  · exact List.pairwise_lt_range.imp fun hlt =>
      ⟨decide_eq_true (Nat.le_of_lt hlt), fun heq => Nat.ne_of_lt hlt (Place.promoted.inj heq)⟩
  · intro place hplace
    obtain ⟨rank, -, rfl⟩ := List.mem_map.1 hplace
    exact ⟨rfl, nofun⟩
  · exact List.pairwise_lt_range.imp fun hlt =>
      ⟨decide_eq_true (Nat.le_of_lt hlt), fun heq => Nat.ne_of_lt hlt (Place.demoted.inj heq)⟩
  · intro front hfront place hplace
    obtain ⟨rank, -, rfl⟩ := List.mem_map.1 hfront
    rcases List.mem_cons.1 hplace with rfl | hplace
    · exact ⟨rfl, nofun⟩
    · obtain ⟨rank, -, rfl⟩ := List.mem_map.1 hplace
      exact ⟨rfl, nofun⟩

/-! ## Blocks -/

theorem placed_placed (place other : Place) (items : List α) :
    placed rules id place (placed rules id other items) =
      if place = other then placed rules id place items else [] := by
  split
  · next heq =>
    subst heq
    exact List.filter_eq_self.2 fun a ha => decide_eq_true (mem_placed.1 ha).2
  · next hne =>
    refine List.filter_eq_nil_iff.2 fun a ha => ?_
    rw [decide_eq_true_iff, (mem_placed.1 ha).2]
    exact fun heq => hne heq.symm

/-- Of blocks for different places, only its own has the items of a place. -/
theorem placed_flatMap {places : List Place} (hplaces : places.Nodup) (place : Place)
    (items : List α) :
    placed rules id place (places.flatMap fun other => placed rules id other items) =
      if place ∈ places then placed rules id place items else [] := by
  have hfilter : ∀ l : List Place,
      placed rules id place (l.flatMap fun other => placed rules id other items) =
        l.flatMap fun other => if place = other then placed rules id place items else [] := by
    intro l
    simp only [← placed_placed]
    exact List.filter_flatMap
  rw [hfilter]
  induction places with
  | nil => rfl
  | cons other places ih =>
    obtain ⟨hother, hplaces⟩ := List.nodup_cons.1 hplaces
    rw [List.flatMap_cons, ih hplaces]
    by_cases heq : place = other
    · subst heq
      rw [if_pos rfl, if_neg hother, if_pos List.mem_cons_self, List.append_nil]
    · rw [if_neg heq, List.nil_append]
      simp only [List.mem_cons, heq, false_or]

/-- Blocks in the order of their places make a list in order. -/
theorem ordered_flatMap {places : List Place}
    (hplaces : places.Pairwise fun a b => a.precedes b = true) (items : List α) :
    Ordered rules id (places.flatMap fun place => placed rules id place items) := by
  refine List.pairwise_flatMap.2 ⟨fun place _ => ?_, hplaces.imp fun hprecedes a ha b hb => ?_⟩
  · refine List.pairwise_of_forall_mem_list fun a ha b hb => ?_
    rw [(mem_placed.1 ha).2, (mem_placed.1 hb).2]
    exact Place.precedes_refl place
  · rw [(mem_placed.1 ha).2, (mem_placed.1 hb).2]
    exact hprecedes

/-- An arranged list is made of the items of each place, in their order. -/
theorem arrange_eq_flatMap (items : List α) :
    rules.arrange id items = rules.places.flatMap fun place => placed rules id place items := by
  have hplaces := pairwise_places rules
  refine eq_of_placed (ordered_arrange items) (ordered_flatMap (hplaces.imp And.left) items) ?_
  intro place
  rw [placed_arrange, placed_flatMap (hplaces.imp And.right)]
  split
  · rfl
  · next hnone =>
    refine List.filter_eq_nil_iff.2 fun a _ => ?_
    rw [decide_eq_true_iff]
    exact fun heq => hnone (heq ▸ place_mem_places (id a))

/-- An arranged list starts with the items that each promotion pattern is the first to match,
pattern by pattern; then come those that no pattern matches, and then those that no promotion
pattern matches and each demotion pattern is the first to match. In each block the items keep their
order, and none is lost or repeated. -/
theorem arrange_eq_blocks (rules : Precedence) (id : α → String) (items : List α) :
    rules.arrange id items =
        (List.range rules.promote.size).flatMap (fun i =>
          items.filter fun a => rules.promote.FirstMatches i (id a)) ++
        (items.filter (fun a =>
          (∀ g ∈ rules.promote.globs, g.isMatch (id a) = false) ∧
            ∀ g ∈ rules.demote.globs, g.isMatch (id a) = false) ++
        (List.range rules.demote.size).flatMap (fun i =>
          items.filter fun a =>
            (∀ g ∈ rules.promote.globs, g.isMatch (id a) = false) ∧
              rules.demote.FirstMatches i (id a))) ∧
      (rules.arrange id items).Perm items := by
  refine ⟨?_, arrange_perm rules id items⟩
  rw [arrange_eq_flatMap, places, List.flatMap_append, List.flatMap_cons, List.flatMap_map,
    List.flatMap_map]
  simp only [placed, place_eq_promoted_iff, place_eq_unmoved_iff, place_eq_demoted_iff]

end Precedence
end DocCorpus
