/-
  What operations do to the files of a tree. The files are seen through one function from places to
  contents (`fileAt?`); an operation that succeeds changes that function at the places it names and
  nowhere else, and every directory stays (`Keeps`).
-/
import DocCorpus.Proofs.FileTree.Way
import DocCorpus.Proofs.Table
import Mathlib.Logic.Function.Basic

namespace DocCorpus

namespace FileTree

variable {t t' : FileTree} {p : Path} {place names : List String} {content : ByteArray}

/-! ## Files -/

/-- The content of the file at a place. -/
def fileAt? (t : FileTree) (names : List String) : Option ByteArray :=
  match t.lookup? names with
  | some (.file content) => some content
  | _ => none

theorem fileAt?_eq_some_iff :
    t.fileAt? names = some content ↔ t.lookup? names = some (.file content) := by
  unfold fileAt?
  split <;> simp_all

theorem fileAt?_eq_none (h : t.lookup? names = none ∨ t.lookup? names = some .directory) :
    t.fileAt? names = none := by
  unfold fileAt?
  rcases h with h | h <;> rw [h]

theorem mem_entries_of_lookup? {entry : FileEntry} (h : t.lookup? names = some entry)
    (hnames : names ≠ []) : (names, entry) ∈ t.entries := by
  rw [lookup?, if_neg hnames] at h
  obtain ⟨_, _, hentries, _⟩ := List.lookup_eq_some_iff.1 h
  rw [hentries]
  exact List.mem_append_right _ List.mem_cons_self

theorem mem_entries_of_fileAt?_eq_some (h : t.fileAt? names = some content) :
    (names, .file content) ∈ t.entries := by
  rw [fileAt?_eq_some_iff] at h
  refine mem_entries_of_lookup? h ?_
  rintro rfl
  cases h

theorem lookup?_eq_some_of_mem {entry : FileEntry} (hdistinct : t.Distinct)
    (h : (names, entry) ∈ t.entries) (hnames : names ≠ []) : t.lookup? names = some entry := by
  rw [lookup?, if_neg hnames]
  exact (Table.lookup_eq_some_iff hdistinct).2 h

/-! ## Entries put and erased -/

theorem lookup?_erase_self (h : place ≠ []) : (t.erase place).lookup? place = none := by
  unfold lookup? erase
  rw [if_neg h, List.lookup_eq_none_iff]
  intro e he
  rw [bne_iff_ne]
  exact fun heq => of_decide_eq_true (List.mem_filter.1 he).2 heq.symm

theorem distinct_erase (h : t.Distinct) : (t.erase place).Distinct :=
  h.sublist (List.filter_sublist.map Prod.fst)

theorem distinct_put {entry : FileEntry} (h : t.Distinct) : (t.put place entry).Distinct := by
  refine List.nodup_cons.2 ⟨?_, distinct_erase h⟩
  intro hmem
  obtain ⟨e, he, heq⟩ := List.mem_map.1 hmem
  exact of_decide_eq_true (List.mem_filter.1 he).2 heq

theorem keeps_put {entry : FileEntry} (hplace : place ≠ [])
    (h : t.lookup? place = some .directory → entry = .directory) : Keeps t (t.put place entry) where
  workingDirectory := rfl
  directories names hnames := by
    by_cases heq : names = place
    · subst heq
      rw [lookup?_put_self hplace, h hnames]
    · rw [lookup?_put_of_ne heq, hnames]
  distinct := distinct_put

theorem keeps_erase (h : t.lookup? place ≠ some .directory) : Keeps t (t.erase place) where
  workingDirectory := rfl
  directories names hnames := by
    rw [lookup?_erase_of_ne, hnames]
    rintro rfl
    exact h hnames
  distinct := distinct_erase

theorem fileAt?_put_file (hplace : place ≠ []) :
    (t.put place (.file content)).fileAt? = Function.update t.fileAt? place (some content) := by
  funext names
  by_cases heq : names = place
  · subst heq
    rw [Function.update_self, fileAt?_eq_some_iff, lookup?_put_self hplace]
  · rw [Function.update_of_ne heq, fileAt?, lookup?_put_of_ne heq]
    rfl

theorem fileAt?_put_directory (hplace : place ≠ []) (h : t.lookup? place = none) :
    (t.put place .directory).fileAt? = t.fileAt? := by
  funext names
  by_cases heq : names = place
  · subst heq
    rw [fileAt?_eq_none (.inr (lookup?_put_self hplace)), fileAt?_eq_none (.inl h)]
  · rw [fileAt?, lookup?_put_of_ne heq]
    rfl

theorem fileAt?_erase (hplace : place ≠ []) :
    (t.erase place).fileAt? = Function.update t.fileAt? place none := by
  funext names
  by_cases heq : names = place
  · subst heq
    rw [Function.update_self, fileAt?_eq_none (.inl (lookup?_erase_self hplace))]
  · rw [Function.update_of_ne heq, fileAt?, lookup?_erase_of_ne heq]
    rfl

/-! ## What operations put and erase -/

theorem append_singleton_ne_nil (directory : List String) (last : String) :
    directory ++ [last] ≠ [] :=
  List.append_ne_nil_of_right_ne_nil _ (List.cons_ne_nil _ _)

theorem put_of_makeDirectory (h : t.makeDirectory p = .ok t') :
    t.placeOf p ≠ [] ∧ t.lookup? (t.placeOf p) = none ∧ t' = t.put (t.placeOf p) .directory := by
  obtain ⟨⟨directory, last⟩, htarget, h⟩ := Outcome.bind_eq_ok_iff.1 h
  cases last with
  | dots => cases h
  | name last slash =>
    have hplace := follow_eq_ok (target_eq_ok htarget).1
    rw [← hplace]
    dsimp only at h
    split at h
    · cases h
    · next hnone =>
      injection h with h
      exact ⟨append_singleton_ne_nil directory last, hnone, h.symm⟩

theorem put_of_writeFile (h : t.writeFile p content = .ok t') :
    t.Reaches p (t.placeOf p) ∧ t.lookup? (t.placeOf p) ≠ some .directory ∧
      t' = t.put (t.placeOf p) (.file content) := by
  obtain ⟨⟨directory, last⟩, htarget, h⟩ := Outcome.bind_eq_ok_iff.1 h
  dsimp only at h
  split at h
  · next last heq =>
    injection heq with hdirectory hlast
    subst hdirectory hlast
    have hreaches : t.Reaches p (directory ++ [last]) := ⟨directory, last, htarget, rfl⟩
    rw [← hreaches.place_eq]
    split at h
    · cases h
    · next hfile =>
      injection h with h
      exact ⟨hreaches, hfile, h.symm⟩
  · cases h

theorem put_of_renameFile {source : Path} (h : t.renameFile source p = .ok t') :
    ∃ entry, t.lookup? (t.placeOf source) = some entry ∧ t.Reaches p (t.placeOf p) ∧
      t.lookup? (t.placeOf p) ≠ some .directory ∧
      t' = (t.erase (t.placeOf source)).put (t.placeOf p) entry := by
  obtain ⟨⟨place, entry⟩, hfind, h⟩ := Outcome.bind_eq_ok_iff.1 h
  obtain ⟨rfl, hentry⟩ := find_eq_ok hfind
  obtain ⟨⟨directory, last⟩, htarget, h⟩ := Outcome.bind_eq_ok_iff.1 h
  dsimp only at h
  split at h
  · cases h
  · cases h
  · next last heq =>
    injection heq with hdirectory hlast
    subst hdirectory hlast
    have hreaches : t.Reaches p (directory ++ [last]) := ⟨directory, last, htarget, rfl⟩
    rw [← hreaches.place_eq]
    split at h
    · cases h
    · next hnew =>
      injection h with h
      exact ⟨entry, hentry, hreaches, hnew, h.symm⟩

theorem erase_of_removeFile (h : t.removeFile p = .ok t') :
    t.placeOf p ≠ [] ∧ t.lookup? (t.placeOf p) ≠ some .directory ∧
      t' = t.erase (t.placeOf p) := by
  obtain ⟨⟨directory, last⟩, htarget, h⟩ := Outcome.bind_eq_ok_iff.1 h
  cases last with
  | dots => cases h
  | name last slash =>
    have hplace := follow_eq_ok (target_eq_ok htarget).1
    rw [← hplace]
    dsimp only at h
    split at h
    · cases h
    · cases h
    · next hfile =>
      split at h
      · cases h
      · injection h with h
        exact ⟨append_singleton_ne_nil directory last, by rw [hfile]; simp, h.symm⟩

/-! ## Directories made -/

theorem makeDirectory_eq_ok (h : t.makeDirectory p = .ok t') :
    Keeps t t' ∧ t'.fileAt? = t.fileAt? := by
  obtain ⟨hplace, hnone, rfl⟩ := put_of_makeDirectory h
  exact ⟨keeps_put hplace fun _ => rfl, fileAt?_put_directory hplace hnone⟩

/-- Directories are made one at a time, each at a path above the last. -/
theorem makeDirectories_induction {R : FileTree → FileTree → Prop} (hrefl : ∀ t, R t t)
    (htrans : ∀ {t t' t''}, R t t' → R t' t'' → R t t'')
    (hmake : ∀ {t t' q}, Relation.ReflTransGen (fun p above => Path.parent? p = some above) p q →
      t.makeDirectory q = .ok t' → R t t')
    (t : FileTree) (fuel : Nat) : R t (t.makeDirectories p fuel).2 := by
  induction fuel generalizing t p with
  | zero => exact hrefl t
  | succ fuel ih =>
    rw [makeDirectories]
    split
    · exact hrefl t
    · split
      · next hmade => exact hmake .refl hmade
      · split
        · exact hrefl t
        · next above hparent =>
          have habove := ih (fun hq => hmake (.head hparent hq)) t
          split
          · next hstopped =>
            rw [hstopped] at habove
            exact habove
          · next hdone =>
            rw [hdone] at habove
            split
            · next hmade => exact htrans habove (hmake .refl hmade)
            · exact habove
      · exact hrefl t

/-- Directories that are made, before a fault or without one, leave all files as they are. -/
theorem makeDirectories_keeps (t : FileTree) (p : Path) (fuel : Nat) :
    Keeps t (t.makeDirectories p fuel).2 ∧ (t.makeDirectories p fuel).2.fileAt? = t.fileAt? :=
  makeDirectories_induction (R := fun t t' => Keeps t t' ∧ t'.fileAt? = t.fileAt?)
    (fun t => ⟨Keeps.refl t, rfl⟩) (fun h h' => ⟨h.1.trans h'.1, h'.2.trans h.2⟩)
    (fun _ hmade => makeDirectory_eq_ok hmade) t fuel

/-! ## Files written, moved and removed -/

theorem writeFile_eq_ok (h : t.writeFile p content = .ok t') :
    Keeps t t' ∧ t'.fileAt? = Function.update t.fileAt? (t.placeOf p) (some content) := by
  obtain ⟨hreaches, hfile, rfl⟩ := put_of_writeFile h
  exact ⟨keeps_put hreaches.ne_nil fun hdirectory => absurd hdirectory hfile,
    fileAt?_put_file hreaches.ne_nil⟩

/-- A file that is moved leaves its place and stands where the new path leads to. -/
theorem renameFile_eq_ok {source : Path} (h : t.renameFile source p = .ok t')
    (hfile : t.fileAt? (t.placeOf source) = some content) (hsource : t.placeOf source ≠ []) :
    Keeps t t' ∧ t'.Reaches p (t.placeOf p) ∧
      t'.fileAt? = Function.update (Function.update t.fileAt? (t.placeOf source) none) (t.placeOf p)
        (some content) := by
  obtain ⟨entry, hentry, hreaches, hnew, rfl⟩ := put_of_renameFile h
  rw [fileAt?_eq_some_iff, hentry] at hfile
  injection hfile with hfile
  subst hfile
  have herased : Keeps t (t.erase (t.placeOf source)) := keeps_erase (by rw [hentry]; simp)
  have hput : Keeps (t.erase (t.placeOf source))
      ((t.erase (t.placeOf source)).put (t.placeOf p) (.file content)) := by
    refine keeps_put hreaches.ne_nil fun hdirectory => ?_
    by_cases heq : t.placeOf p = t.placeOf source
    · rw [heq, lookup?_erase_self hsource] at hdirectory
      cases hdirectory
    · rw [lookup?_erase_of_ne heq] at hdirectory
      exact absurd hdirectory hnew
  have hkeeps := herased.trans hput
  refine ⟨hkeeps, hreaches.mono hkeeps, ?_⟩
  rw [fileAt?_put_file hreaches.ne_nil, fileAt?_erase hsource]

theorem removeFile_eq_ok (h : t.removeFile p = .ok t') :
    Keeps t t' ∧ t'.fileAt? = Function.update t.fileAt? (t.placeOf p) none := by
  obtain ⟨hplace, hfile, rfl⟩ := erase_of_removeFile h
  exact ⟨keeps_erase hfile, fileAt?_erase hplace⟩

/-- A path that reaches a place has nothing to remove only if nothing stands there. -/
theorem removeFile_eq_notFound (hreaches : t.Reaches p place)
    (h : t.removeFile p = .error .notFound) : t.fileAt? place = none := by
  obtain ⟨directory, last, htarget, rfl⟩ := hreaches
  unfold removeFile at h
  rw [htarget, Outcome.ok_bind] at h
  dsimp only at h
  split at h
  · next hnone => exact fileAt?_eq_none (.inl hnone)
  · cases h
  · cases h

/-- A file is found for removal if everything on its way is there. -/
theorem removeFile_ne_notFound (htext : p.text ≠ "")
    (hway : ∀ names, t.OnWay p names → t.lookup? names ≠ none) :
    t.removeFile p ≠ .error .notFound := by
  intro h
  rcases Outcome.bind_eq_error_iff.1 h with h | ⟨⟨directory, last⟩, htarget, h⟩
  · exact target_ne_notFound htext hway h
  · cases last with
    | dots => cases h
    | name last slash =>
      have hplace := follow_eq_ok (target_eq_ok htarget).1
      dsimp only at h
      rw [hplace] at h
      split at h
      · next hnone => exact hway _ (onWay_placeOf t p) hnone
      · cases h
      · split at h <;> cases h

theorem readBytes_eq_ok (h : t.readBytes p = .ok content) :
    t.fileAt? (t.placeOf p) = some content := by
  obtain ⟨⟨place, entry⟩, hfind, h⟩ := Outcome.bind_eq_ok_iff.1 h
  obtain ⟨rfl, hentry⟩ := find_eq_ok hfind
  cases entry with
  | directory => cases h
  | file content' =>
    injection h with h
    rw [fileAt?_eq_some_iff, hentry, h]

theorem Reaches.readBytes_iff (h : t.Reaches p place) :
    t.readBytes p = .ok content ↔ t.fileAt? place = some content := by
  refine ⟨fun hread => ?_, fun hfile => h.readBytes (fileAt?_eq_some_iff.1 hfile)⟩
  rw [h.place_eq]
  exact readBytes_eq_ok hread

end FileTree

/-! ## Programs -/

namespace Disk

open FileTree

variable {α β : Type} {t t' : FileTree}

theorem runOn_bind (t : FileTree) (x : Disk α) (f : α → Disk β) :
    runOn t (x >>= f) =
      match runOn t x with
      | (.ok a, between) => runOn between (f a)
      | (.error failure, between) => (.error failure, between) := by
  unfold runOn
  rw [ExceptT.run_bind, StateT.run_bind]
  rcases (x.run).run t with ⟨_ | a, between⟩ <;> rfl

theorem runOn_bind_eq_ok_iff {x : Disk α} {f : α → Disk β} {b : β} :
    runOn t (x >>= f) = (.ok b, t') ↔
      ∃ a between, runOn t x = (.ok a, between) ∧ runOn between (f a) = (.ok b, t') := by
  rw [runOn_bind]
  rcases runOn t x with ⟨failure | a, between⟩ <;> simp

theorem runOn_bind_eq_error_iff {x : Disk α} {f : α → Disk β} {failure : Failure} :
    runOn t (x >>= f) = (.error failure, t') ↔
      runOn t x = (.error failure, t') ∨
        ∃ a between, runOn t x = (.ok a, between) ∧ runOn between (f a) = (.error failure, t') := by
  rw [runOn_bind]
  rcases runOn t x with ⟨failure | a, between⟩ <;> simp

theorem exists_of_isOk {x : Disk α} (h : (runOn t x).1.isOk = true) :
    ∃ a t', runOn t x = (.ok a, t') := by
  obtain ⟨a, ha⟩ := Outcome.exists_of_isOk h
  exact ⟨a, (runOn t x).2, Prod.ext ha rfl⟩

theorem runOn_pure (t : FileTree) (a : α) : runOn t (pure a) = (.ok a, t) := rfl

theorem runOn_get (t : FileTree) : runOn t get = (.ok t, t) := rfl

theorem runOn_set (t made : FileTree) : runOn t (set made) = (.ok (), made) := rfl

theorem runOn_throw (t : FileTree) (failure : Failure) :
    runOn t (throw failure : Disk α) = (.error failure, t) := rfl

theorem runOn_lift (t : FileTree) (x : Except Failure α) :
    runOn t (liftM x) = (x, t) := rfl

theorem runOn_change_eq_ok_iff {p : Path} {operation : FileTree → Except FileFault FileTree} :
    runOn t (change p operation) = (.ok (), t') ↔ operation t = .ok t' := by
  unfold change
  rw [runOn_bind_eq_ok_iff]
  constructor
  · rintro ⟨_, _, hget, h⟩
    cases hget
    cases hmade : operation t with
    | error fault =>
      rw [hmade] at h
      cases h
    | ok made =>
      rw [hmade] at h
      cases h
      rfl
  · intro hmade
    refine ⟨t, t, rfl, ?_⟩
    rw [hmade]
    rfl

theorem runOn_makeAllDirectories (t : FileTree) (p : Path) :
    runOn t (makeAllDirectories p) =
      ((t.makeAllDirectories p).1.mapError fun fault => .file p.text fault,
        (t.makeAllDirectories p).2) := by
  unfold makeAllDirectories
  rw [runOn_bind, runOn_get]
  dsimp only
  rw [runOn_bind, runOn_set]
  dsimp only
  cases (t.makeAllDirectories p).1 <;> rfl

theorem makeAllDirectories_keeps {p : Path} {result : Except Failure Unit}
    (h : runOn t (makeAllDirectories p) = (result, t')) :
    Keeps t t' ∧ t'.fileAt? = t.fileAt? := by
  rw [runOn_makeAllDirectories] at h
  obtain ⟨-, rfl⟩ := Prod.mk.inj h
  exact makeDirectories_keeps t p _

end Disk
end DocCorpus
