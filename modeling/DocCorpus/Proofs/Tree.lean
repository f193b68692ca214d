/-
  Trees up to the order of members. Formats differ in the order in which they keep the members of a
  table (`Tree.Reordered`). A tree reads as a value if it does in every such order (`Tree.ReadsAs`):
  texts do, and so do lists and tables of what does.
-/
import DocCorpus.Proofs.Outcome
import DocCorpus.Proofs.Table
import DocCorpus.Record
import Mathlib.Data.List.Perm.Basic

namespace DocCorpus.Tree

open Outcome

/-- The same tree, but for the order of the members of its tables. -/
inductive Reordered : Tree → Tree → Prop
  | refl (t : Tree) : Reordered t t
  | list {items items' : List Tree} (h : List.Forall₂ Reordered items items') :
    Reordered (.list items) (.list items')
  | table {members between members' : List (String × Tree)}
    (hkeys : members.map Prod.fst = between.map Prod.fst)
    (hvalues : List.Forall₂ Reordered (members.map Prod.snd) (between.map Prod.snd))
    (hperm : between.Perm members') : Reordered (.table members) (.table members')

/-- The same member, but for the order of members in its value. -/
def SameMember (m m' : String × Tree) : Prop := m.1 = m'.1 ∧ m.2.Reordered m'.2

variable {α : Type} {t : Tree}

theorem Reordered.exists_list {items : List Tree} (h : (Tree.list items).Reordered t) :
    ∃ items', t = .list items' ∧ List.Forall₂ Reordered items items' := by
  cases h with
  | refl => exact ⟨items, rfl, List.forall₂_same.2 fun item _ => .refl item⟩
  | list hitems => exact ⟨_, rfl, hitems⟩

theorem Reordered.exists_table {members : List (String × Tree)}
    (h : (Tree.table members).Reordered t) :
    ∃ between members', t = .table members' ∧ between.map Prod.fst = members.map Prod.fst ∧
      List.Forall₂ SameMember members between ∧ between.Perm members' := by
  cases h with
  | refl =>
    exact ⟨members, members, rfl, rfl, List.forall₂_same.2 fun m _ => ⟨rfl, .refl m.2⟩, .refl _⟩
  | table hkeys hvalues hperm =>
    refine ⟨_, _, rfl, hkeys.symm, ?_, hperm⟩
    rw [← List.forall₂_eq_eq_eq, List.forall₂_map_left_iff, List.forall₂_map_right_iff] at hkeys
    rw [List.forall₂_map_left_iff, List.forall₂_map_right_iff] at hvalues
    exact hkeys.mp (fun _ _ => And.intro) hvalues

/-- In whatever order the members of its tables come, the tree is read as the value. -/
def ReadsAs (read : Tree → Except ShapeFault α) (t : Tree) (a : α) : Prop :=
  ∀ t', t.Reordered t' → read t' = .ok a

theorem readsAs_text (s : String) : ReadsAs readText (.text s) s := by
  intro t h
  cases h
  rfl

theorem readsAs_text? (s : String) : ReadsAs readText? (.text s) (some s) := by
  intro t h
  cases h
  rfl

theorem readsAs_flag (b : Bool) : ReadsAs readFlag (.boolean b) b := by
  intro t h
  cases h
  rfl

/-- A list is read item by item. -/
theorem readsAs_list {item : Tree → Except ShapeFault α} {f : α → Tree}
    (h : ∀ a, ReadsAs item (f a) a) (as : List α) :
    ReadsAs (readList item) (.list (as.map f)) as := by
  intro t ht
  obtain ⟨items, rfl, hitems⟩ := ht.exists_list
  rw [List.forall₂_map_left_iff] at hitems
  exact mapM_eq_ok_iff.2 (hitems.imp fun a t ht => h a t ht).flip

/-- Members that are read are entered one after the other. -/
theorem foldlM_insert {value : Tree → Except ShapeFault α} {members : List (String × Tree)}
    {entries : List (String × α)}
    (h : List.Forall₂ (fun m e => m.1 = e.1 ∧ value m.2 = .ok e.2) members entries)
    (table : Table α) :
    members.foldlM (fun table m => (value m.2).map (table.insert m.1)) table =
      .ok (entries.foldl (fun table e => table.insert e.1 e.2) table) := by
  induction h generalizing table with
  | nil => rfl
  | cons hentry _ ih =>
    rw [List.foldlM_cons, hentry.1, hentry.2]
    exact ih _

/-- A table is read member by member. -/
theorem readsAs_table {value : Tree → Except ShapeFault α} {f : α → Tree}
    (h : ∀ a, ReadsAs value (f a) a) (table : Table α) :
    ReadsAs (readTable value) (.table (table.entries.map fun e => (e.1, f e.2))) table := by
  intro t ht
  obtain ⟨between, members, rfl, -, hbetween, hperm⟩ := ht.exists_table
  rw [List.forall₂_map_left_iff] at hbetween
  have hreads : List.Forall₂ (fun m e => m.1 = e.1 ∧ value m.2 = .ok e.2) between table.entries :=
    (hbetween.imp fun e m hm => ⟨hm.1.symm, h e.2 m.2 hm.2⟩).flip
  obtain ⟨entries, hentries, hsame⟩ := List.perm_comp_forall₂ hperm.symm hreads
  refine (foldlM_insert hentries .empty).trans ?_
  exact congrArg Except.ok (Table.ofList_of_perm hsame)

end DocCorpus.Tree
