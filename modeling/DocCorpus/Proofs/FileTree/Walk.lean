/-
  Walks through a tree. A walk goes from directory to directory and takes the names in each in their
  order, but the files it comes to are in one order throughout, that of the lists of names that lead
  to them (`pairwise_walk`). In a tree where everything stands in a directory these are the files on
  whose way no name is skipped (`mem_walk_iff`).
-/
import DocCorpus.Proofs.FileTree.Change
import Mathlib.Data.List.Induction
import Mathlib.Data.List.MinMax
import Mathlib.Data.String.Basic

namespace DocCorpus.FileTree

variable {t : FileTree} {place names : List String} {name : String} {entry : FileEntry}
  {content : ByteArray} {skips : String → Bool} {fuel : Nat}

/-! ## Trees of a file system -/

/-- A tree as a file system has it: nothing stands twice, and everything stands in a directory. -/
structure WellFormed (t : FileTree) : Prop where
  distinct : t.Distinct
  housed : ∀ e ∈ t.entries, ∃ directory name,
    e.1 = directory ++ [name] ∧ t.lookup? directory = some .directory

theorem WellFormed.mem_entries_iff (h : t.WellFormed) (hnames : names ≠ []) :
    (names, entry) ∈ t.entries ↔ t.lookup? names = some entry :=
  ⟨fun hmem => lookup?_eq_some_of_mem h.distinct hmem hnames,
    fun hlookup => mem_entries_of_lookup? hlookup hnames⟩

/-- A place with something below it is a directory. -/
theorem WellFormed.directory_above (h : t.WellFormed) (hnames : names ≠ [])
    (hentry : t.lookup? (place ++ names) = some entry) : t.lookup? place = some .directory := by
  induction names using List.reverseRecOn generalizing entry with
  | nil => exact absurd rfl hnames
  | append_singleton front last ih =>
    have hne : place ++ (front ++ [last]) ≠ [] := by simp
    obtain ⟨directory, name, hsplit, hdirectory⟩ :=
      h.housed _ (mem_entries_of_lookup? hentry hne)
    rw [← List.append_assoc] at hsplit
    obtain rfl := (List.append_inj' hsplit rfl).1
    by_cases hfront : front = []
    · rwa [hfront, List.append_nil] at hdirectory
    · exact ih hfront hdirectory

/-! ## What stands in a directory -/

/-- An entry stands in a directory under the last of its names, if the others lead there. -/
theorem child_eq_some_iff {found : FileEntry} :
    (match names.getLast? with
      | some last => if names.dropLast = place then some (last, found) else none
      | none => none) = some (name, entry) ↔ names = place ++ [name] ∧ found = entry := by
  constructor
  · intro h
    split at h
    · next last hlast =>
      split at h
      · next hplace =>
        obtain ⟨rfl, rfl⟩ := Prod.mk.inj (Option.some.inj h)
        obtain ⟨front, rfl⟩ := List.getLast?_eq_some_iff.1 hlast
        rw [List.dropLast_concat] at hplace
        exact ⟨hplace ▸ rfl, rfl⟩
      · cases h
    · cases h
  · rintro ⟨rfl, rfl⟩
    rw [List.getLast?_concat, List.dropLast_concat]
    exact if_pos rfl

theorem mem_children_iff :
    (name, entry) ∈ t.children place ↔ (place ++ [name], entry) ∈ t.entries := by
  unfold children
  rw [List.mem_filterMap]
  constructor
  · rintro ⟨⟨names, found⟩, hmem, hchild⟩
    obtain ⟨rfl, rfl⟩ := child_eq_some_iff.1 hchild
    exact hmem
  · intro hmem
    exact ⟨_, hmem, child_eq_some_iff.2 ⟨rfl, rfl⟩⟩

theorem nodup_children (h : t.Distinct) : ((t.children place).map Prod.fst).Nodup := by
  have hentries : t.entries.Pairwise fun e e' => e.1 ≠ e'.1 := List.pairwise_map.1 h
  refine List.pairwise_map.2 (List.pairwise_filterMap.2 (hentries.imp ?_))
  rintro ⟨names, found⟩ ⟨names', found'⟩ hne ⟨name, entry⟩ hchild ⟨name', entry'⟩ hchild' rfl
  exact hne ((child_eq_some_iff.1 hchild).1.trans (child_eq_some_iff.1 hchild').1.symm)

/-- The names in a directory come each once and in their order. -/
theorem pairwise_sortedChildren (h : t.Distinct) :
    (t.sortedChildren place).Pairwise fun a b => a.1 < b.1 := by
  have hperm : (t.sortedChildren place).Perm (t.children place) := List.mergeSort_perm ..
  have hnodup : (t.sortedChildren place).Pairwise fun a b => a.1 ≠ b.1 :=
    List.pairwise_map.1 ((hperm.map Prod.fst).nodup_iff.2 (nodup_children h))
  have hsorted : (t.sortedChildren place).Pairwise fun a b => decide (a.1 ≤ b.1) = true := by
    refine List.pairwise_mergeSort (fun a b c hab hbc => ?_) (fun a b => ?_) _
    · exact decide_eq_true (le_trans (of_decide_eq_true hab) (of_decide_eq_true hbc))
    · rw [Bool.or_eq_true, decide_eq_true_iff, decide_eq_true_iff]
      exact le_total a.1 b.1
  exact hsorted.imp₂ (fun a b hle hne => lt_of_le_of_ne (of_decide_eq_true hle) hne) hnodup

/-! ## What a walk comes to -/

/-- A walk comes to the files in its directory, and to what walks through the directories in it
come to. -/
theorem mem_walkFrom_succ_iff :
    (names, content) ∈ t.walkFrom skips (fuel + 1) place ↔
      ∃ name rest, names = name :: rest ∧ skips name = false ∧
        (rest = [] ∧ (place ++ [name], .file content) ∈ t.entries ∨
          (place ++ [name], .directory) ∈ t.entries ∧
            (rest, content) ∈ t.walkFrom skips fuel (place ++ [name])) := by
  have hmem : ∀ {name entry}, (name, entry) ∈ t.sortedChildren place ↔
      (place ++ [name], entry) ∈ t.entries := List.mem_mergeSort.trans mem_children_iff
  rw [walkFrom, List.mem_flatMap]
  constructor
  · rintro ⟨⟨name, entry⟩, hchild, hfound⟩
    dsimp only at hfound
    split at hfound
    · cases hfound
    · next hskips =>
      rw [hmem] at hchild
      split at hfound
      · obtain ⟨rfl, rfl⟩ := Prod.mk.inj (List.mem_singleton.1 hfound)
        exact ⟨name, [], rfl, eq_false_of_ne_true hskips, .inl ⟨rfl, hchild⟩⟩
      · obtain ⟨⟨rest, _⟩, hrest, heq⟩ := List.mem_map.1 hfound
        obtain ⟨rfl, rfl⟩ := Prod.mk.inj heq
        exact ⟨name, rest, rfl, eq_false_of_ne_true hskips, .inr ⟨hchild, hrest⟩⟩
  · rintro ⟨name, rest, rfl, hskips, ⟨rfl, hfile⟩ | ⟨hdirectory, hrest⟩⟩
    · refine ⟨(name, .file content), hmem.2 hfile, ?_⟩
      dsimp only
      rw [hskips]
      exact List.mem_singleton.2 rfl
    · refine ⟨(name, .directory), hmem.2 hdirectory, ?_⟩
      dsimp only
      rw [hskips]
      exact List.mem_map.2 ⟨(rest, content), hrest, rfl⟩

/-- In a well-formed tree that is every file, near enough, on whose way no name is skipped. -/
theorem WellFormed.mem_walkFrom_iff (h : t.WellFormed) :
    (names, content) ∈ t.walkFrom skips fuel place ↔
      names ≠ [] ∧ names.length ≤ fuel ∧ (∀ name ∈ names, skips name = false) ∧
        t.lookup? (place ++ names) = some (.file content) := by
  have hmem : ∀ {place name entry}, (place ++ [name], entry) ∈ t.entries ↔
      t.lookup? (place ++ [name]) = some entry :=
    h.mem_entries_iff (List.append_ne_nil_of_right_ne_nil _ (List.cons_ne_nil _ _))
  induction fuel generalizing place names with
  | zero =>
    simp only [walkFrom, List.not_mem_nil, false_iff]
    rintro ⟨hne, hlength, -⟩
    exact hne (List.length_eq_zero_iff.1 (Nat.le_zero.1 hlength))
  | succ fuel ih =>
    rw [mem_walkFrom_succ_iff]
    constructor
    · rintro ⟨name, rest, rfl, hskips, ⟨rfl, hfile⟩ | ⟨-, hrest⟩⟩
      · exact ⟨List.cons_ne_nil _ _, Nat.succ_le_succ (Nat.zero_le fuel),
          List.forall_mem_singleton.2 hskips, hmem.1 hfile⟩
      · obtain ⟨-, hlength, hnames, hfile⟩ := ih.1 hrest
        rw [List.append_assoc] at hfile
        exact ⟨List.cons_ne_nil _ _, Nat.succ_le_succ hlength,
          List.forall_mem_cons.2 ⟨hskips, hnames⟩, hfile⟩
    · rintro ⟨hne, hlength, hnames, hfile⟩
      obtain ⟨name, rest, rfl⟩ := List.exists_cons_of_ne_nil hne
      obtain ⟨hskips, hrest⟩ := List.forall_mem_cons.1 hnames
      refine ⟨name, rest, rfl, hskips, ?_⟩
      by_cases hempty : rest = []
      · subst hempty
        exact .inl ⟨rfl, hmem.2 hfile⟩
      · rw [← List.singleton_append, ← List.append_assoc] at hfile
        exact .inr ⟨hmem.2 (h.directory_above hempty hfile),
          ih.2 ⟨hempty, Nat.le_of_succ_le_succ hlength, hrest, hfile⟩⟩

/-- All that a walk comes to under a name of its directory has that name first. -/
theorem exists_cons_of_mem_under {found : List String × ByteArray}
    {files : List (List String × ByteArray)}
    (h : found ∈ (if skips name then []
      else
        match entry with
        | .file content => [([name], content)]
        | .directory => files.map fun (names, content) => (name :: names, content))) :
    ∃ rest, found.1 = name :: rest := by
  split at h
  · cases h
  · split at h
    · exact ⟨[], congrArg Prod.fst (List.mem_singleton.1 h)⟩
    · obtain ⟨⟨rest, _⟩, -, rfl⟩ := List.mem_map.1 h
      exact ⟨rest, rfl⟩

/-- Within a directory the order is that of the first names; below one of them the first name is
the same, and the order is that of the walk there. -/
theorem pairwise_walkFrom (h : t.Distinct) :
    (t.walkFrom skips fuel place).Pairwise fun a b => a.1 < b.1 := by
  induction fuel generalizing place with
  | zero => exact .nil
  | succ fuel ih =>
    rw [walkFrom, List.pairwise_flatMap]
    refine ⟨?_, (pairwise_sortedChildren h).imp ?_⟩
    · rintro ⟨name, entry⟩ -
      dsimp only
      split
      · exact .nil
      · split
        · exact List.pairwise_singleton _ _
        · exact List.pairwise_map.2 (ih.imp fun hlt => List.cons_lt_cons_iff.2 (.inr ⟨rfl, hlt⟩))
    · rintro ⟨name, entry⟩ ⟨name', entry'⟩ hlt found hfound found' hfound'
      obtain ⟨rest, hnames⟩ := exists_cons_of_mem_under hfound
      obtain ⟨rest', hnames'⟩ := exists_cons_of_mem_under hfound'
      rw [hnames, hnames']
      exact List.cons_lt_cons_iff.2 (.inl hlt)

/-! ## Whole walks -/

theorem below?_append (place names : List String) : below? place (place ++ names) = some names := by
  induction place with
  | nil => rfl
  | cons name place ih =>
    rw [List.cons_append, below?, if_pos rfl, ih]

/-- A walk goes as deep as anything stands. -/
theorem length_le_depthBelow (h : (place ++ names, entry) ∈ t.entries) (hnames : names ≠ []) :
    names.length ≤ t.depthBelow place := by
  have hbelow : (names, entry) ∈ t.below place := by
    refine List.mem_filterMap.2 ⟨_, h, ?_⟩
    obtain ⟨name, rest, rfl⟩ := List.exists_cons_of_ne_nil hnames
    dsimp only
    rw [below?_append]
  exact List.le_max_of_le' 0 (List.mem_map.2 ⟨_, hbelow, rfl⟩) (Nat.le_refl _)

/-- A walk comes to the files below its place on whose way no name is skipped. -/
theorem WellFormed.mem_walk_iff (h : t.WellFormed) :
    (names, content) ∈ t.walk place skips ↔
      names ≠ [] ∧ (∀ name ∈ names, skips name = false) ∧
        t.lookup? (place ++ names) = some (.file content) := by
  unfold walk
  rw [h.mem_walkFrom_iff]
  constructor
  · rintro ⟨hne, -, hnames, hfile⟩
    exact ⟨hne, hnames, hfile⟩
  · rintro ⟨hne, hnames, hfile⟩
    have hentry := mem_entries_of_lookup? hfile (List.append_ne_nil_of_right_ne_nil place hne)
    exact ⟨hne, length_le_depthBelow hentry hne, hnames, hfile⟩

/-- The files of a walk come each once, in the order of the names that lead to them. -/
theorem pairwise_walk (h : t.Distinct) (place : List String) (skips : String → Bool) :
    (t.walk place skips).Pairwise fun a b => a.1 < b.1 :=
  pairwise_walkFrom h

end DocCorpus.FileTree
