/-
  Entries under distinct keys. Where no key stands twice, what is found is what stands there, in
  whatever order (`lookup_eq_some_iff`, `lookup_of_perm`); entries in ascending order are known by
  what they are (`eq_of_ascending`). So a table is made of its entries in any order
  (`Table.ofList_of_perm`), and its first key with a property is the least one
  (`Table.find?_keys_eq_some_iff`).
-/
import DocCorpus.Table
import Mathlib.Data.List.Sort
import Mathlib.Data.String.Basic
import Mathlib.Order.Bounds.Defs

namespace DocCorpus

namespace Table

variable {α : Type}

section

variable {κ : Type} [BEq κ] [LawfulBEq κ] {entries entries' : List (κ × α)} {key : κ} {value : α}

theorem lookup_eq_some_iff (h : (entries.map Prod.fst).Nodup) :
    entries.lookup key = some value ↔ (key, value) ∈ entries := by
  induction entries with
  | nil => exact iff_of_false nofun List.not_mem_nil
  | cons e entries ih =>
    rw [List.map_cons, List.nodup_cons] at h
    by_cases hkey : key = e.1
    · subst hkey
      have hnot : (e.1, value) ∉ entries := fun hmem => h.1 (List.mem_map.2 ⟨_, hmem, rfl⟩)
      rw [List.lookup_cons_self, Option.some_inj, List.mem_cons, or_iff_left hnot]
      exact ⟨fun hvalue => hvalue ▸ rfl, fun he => congrArg Prod.snd he.symm⟩
    · have hne : (key, value) ≠ e := fun he => hkey (congrArg Prod.fst he)
      rw [List.lookup_cons, beq_eq_false_iff_ne.2 hkey, List.mem_cons, or_iff_right hne]
      exact ih h.2

theorem lookup_of_perm (h : entries.Perm entries') (hkeys : (entries.map Prod.fst).Nodup) :
    entries.lookup key = entries'.lookup key := by
  refine Option.ext fun value => ?_
  rw [lookup_eq_some_iff hkeys, lookup_eq_some_iff ((h.map Prod.fst).nodup_iff.1 hkeys), h.mem_iff]

end

/-- Two lists of the same entries are one if both ascend. -/
theorem eq_of_ascending {κ : Type} [LT κ] (hasymm : ∀ a b : κ, a < b → ¬ b < a)
    {entries entries' : List (κ × α)} (h : entries.Pairwise fun a b => a.1 < b.1)
    (h' : entries'.Pairwise fun a b => a.1 < b.1) (hmem : ∀ e, e ∈ entries ↔ e ∈ entries') :
    entries = entries' := by
  have hirrefl : Std.Irrefl fun a b : κ × α => a.1 < b.1 := ⟨fun a ha => hasymm _ _ ha ha⟩
  have hantisymm : Std.Antisymm fun a b : κ × α => a.1 < b.1 :=
    ⟨fun _ _ hab hba => absurd hba (hasymm _ _ hab)⟩
  exact h.eq_of_mem_iff h' hmem

theorem nodup_keys (t : Table α) : (t.entries.map Prod.fst).Nodup :=
  List.pairwise_map.2 (t.ascending.imp fun hlt => ne_of_lt hlt)

/-- The first key with a property is the least one. -/
theorem find?_keys_eq_some_iff {t : Table α} {p : String → Bool} {key : String} :
    t.keys.find? p = some key ↔ IsLeast {k | k ∈ t.keys ∧ p k = true} key := by
  have hascending : t.keys.Pairwise (· < ·) := List.pairwise_map.2 t.ascending
  rw [List.find?_eq_some_iff_append]
  constructor
  · rintro ⟨hp, before, after, hkeys, hbefore⟩
    rw [hkeys] at hascending ⊢
    refine ⟨⟨List.mem_append_right _ List.mem_cons_self, hp⟩, ?_⟩
    rintro other ⟨hother, hpother⟩
    rcases List.mem_append.1 hother with hother | hother
    · have hnot := hbefore other hother
      rw [show p other = true from hpother] at hnot
      cases hnot
    · rcases List.mem_cons.1 hother with rfl | hother
      · exact le_rfl
      · exact le_of_lt (List.rel_of_pairwise_cons (List.pairwise_append.1 hascending).2.1 hother)
  · rintro ⟨⟨hkey, hp⟩, hleast⟩
    obtain ⟨before, after, hkeys⟩ := List.append_of_mem hkey
    refine ⟨hp, before, after, hkeys, fun other hother => ?_⟩
    rw [hkeys] at hascending hleast
    have hlt : other < key :=
      (List.pairwise_append.1 hascending).2.2 other hother key List.mem_cons_self
    rw [Bool.not_eq_true', ← Bool.not_eq_true]
    intro hpother
    exact not_lt_of_ge (hleast ⟨List.mem_append_left _ hother, hpother⟩) hlt

theorem eq_empty {t : Table α} (h : t.isEmpty = true) : t = .empty := by
  cases t
  cases List.isEmpty_iff.1 h
  rfl

/-- A table is what is found in it. -/
theorem ext_get? {t t' : Table α} (h : ∀ key, t.get? key = t'.get? key) : t = t' := by
  have hentries : t.entries = t'.entries := by
    refine eq_of_ascending (fun _ _ => lt_asymm) t.ascending t'.ascending fun e => ?_
    rw [← lookup_eq_some_iff t.nodup_keys, ← lookup_eq_some_iff t'.nodup_keys]
    exact iff_of_eq (congrArg (· = some e.2) (h e.1))
  cases t
  cases t'
  cases hentries
  rfl

theorem get?_foldl_insert {entries : List (String × α)} {key : String}
    (h : (entries.map Prod.fst).Nodup) (t : Table α) :
    (entries.foldl (fun t e => t.insert e.1 e.2) t).get? key =
      (entries.lookup key).or (t.get? key) := by
  induction entries generalizing t with
  | nil => rfl
  | cons e entries ih =>
    rw [List.map_cons, List.nodup_cons] at h
    rw [List.foldl_cons, ih h.2, get?_insert]
    by_cases hkey : key = e.1
    · subst hkey
      have hnone : entries.lookup e.1 = none := by
        refine Option.eq_none_iff_forall_ne_some.2 fun value hvalue => h.1 ?_
        exact List.mem_map.2 ⟨_, (lookup_eq_some_iff h.2).1 hvalue, rfl⟩
      rw [if_pos rfl, hnone, List.lookup_cons_self]
      rfl
    · rw [if_neg hkey, List.lookup_cons, beq_eq_false_iff_ne.2 hkey]

/-- A table is made of its entries, in whatever order they come. -/
theorem ofList_of_perm {entries : List (String × α)} {t : Table α} (h : entries.Perm t.entries) :
    ofList entries = t := by
  have hkeys : (entries.map Prod.fst).Nodup := (h.map Prod.fst).nodup_iff.2 t.nodup_keys
  refine ext_get? fun key => ?_
  show (entries.foldl (fun t e => t.insert e.1 e.2) empty).get? key = t.get? key
  rw [get?_foldl_insert hkeys, lookup_of_perm h hkeys]
  exact Option.or_none

end Table
end DocCorpus
