/-
  Where paths lead. What stands in a tree decides whether a path can be followed, but not where it
  leads to: that is settled by its parts alone (`placeOf`). A path below another leads to a place
  below the place of the other (`placeOf_join`); one that is reached stays reached while the
  directories on its way stay (`Reaches.mono`).
-/
import DocCorpus.FileTree
import DocCorpus.Proofs.Outcome
import DocCorpus.Proofs.Path

namespace DocCorpus.FileTree

open DocCorpus.Path (Idle Proper Canonical)

variable {t t' : FileTree} {p base : Path} {place next : List String}

/-! ## Places -/

/-- The place that a part of a path leads to from another. -/
def moved (place : List String) (part : List Char) : List String :=
  if Idle part then place
  else if part = ['.', '.'] then place.dropLast
  else place ++ [String.ofList part]

/-- The place that a path leads to, if the directories on its way are there. -/
def placeOf (t : FileTree) (p : Path) : List String := p.segments.foldl moved (t.start p)

theorem foldl_moved_filter (l : List (List Char)) (place : List String) :
    (l.filter (¬ Idle ·)).foldl moved place = l.foldl moved place := by
  induction l generalizing place with
  | nil => rfl
  | cons part l ih =>
    by_cases hidle : Idle part
    · rw [List.filter_cons_of_neg (by simpa using hidle), List.foldl_cons, ih]
      unfold moved
      rw [if_pos hidle]
    · rw [List.filter_cons_of_pos (by simpa using hidle), List.foldl_cons, List.foldl_cons, ih]

theorem foldl_moved_of_proper {l : List (List Char)} (h : ∀ part ∈ l, Proper part)
    (place : List String) : l.foldl moved place = place ++ l.map String.ofList := by
  induction l generalizing place with
  | nil => rw [List.foldl_nil, List.map_nil, List.append_nil]
  | cons part l ih =>
    obtain ⟨hpart, hl⟩ := List.forall_mem_cons.1 h
    have hidle : ¬ Idle part := not_or.2 ⟨hpart.1, hpart.2.1⟩
    rw [List.foldl_cons, ih hl, moved, if_neg hidle, if_neg hpart.2.2, List.append_assoc]
    rfl

theorem start_eq {q : Path} (h : q.isAbsolute = p.isAbsolute) : t.start q = t.start p := by
  unfold start
  rw [h]

theorem placeOf_eq (t : FileTree) (p : Path) :
    t.placeOf p = (p.segments.filter (¬ Idle ·)).foldl moved (t.start p) :=
  (foldl_moved_filter p.segments _).symm

/-- A path that leads down leads to the place under its names. -/
theorem placeOf_join_names (t : FileTree) (base : Path) (hp : p.Descends) :
    t.placeOf (base.join p) = t.placeOf base ++ p.names := by
  obtain ⟨habsolute, hsegments⟩ := Path.filter_segments_join base hp.relative
  have hproper : ∀ part ∈ p.segments.filter (Proper ·), Proper part := fun part hpart =>
    of_decide_eq_true (List.mem_filter.1 hpart).2
  rw [placeOf_eq, hsegments, List.foldl_append, start_eq habsolute, ← placeOf_eq,
    hp.filter_segments, foldl_moved_of_proper hproper, Path.names_eq]

theorem placeOf_join (t : FileTree) (base : Path) (hp : p.Canonical) :
    t.placeOf (base.join p) = t.placeOf base ++ p.parts := by
  rw [placeOf_join_names t base hp.descends, hp.names]

/-- The path above one that ends in a name leads to the place above. -/
theorem exists_parent?_placeOf {front idle : List (List Char)} {last : List Char}
    (h : p.segments = front ++ last :: idle) (hidle : ∀ part ∈ idle, Idle part)
    (hlast : Proper last) :
    ∃ above, p.parent? = some above ∧
      ∀ t : FileTree, t.placeOf p = t.placeOf above ++ [String.ofList last] := by
  obtain ⟨above, hparent, habsolute, hsegments⟩ := Path.exists_parent? h hidle hlast
  refine ⟨above, hparent, fun t => ?_⟩
  have hnone : idle.filter (¬ Idle ·) = [] := by
    rw [List.filter_eq_nil_iff]
    exact fun part hpart => by simpa using hidle part hpart
  have hkept : ¬ Idle last := not_or.2 ⟨hlast.1, hlast.2.1⟩
  rw [placeOf_eq, h, List.filter_append, List.filter_cons_of_pos (by simpa using hkept), hnone,
    ← hsegments, List.foldl_append, ← start_eq habsolute, ← placeOf_eq,
    foldl_moved_of_proper (List.forall_mem_singleton.2 hlast)]
  rfl

/-! ## Directories that stay -/

/-- No list of names stands for two things. -/
def Distinct (t : FileTree) : Prop := (t.entries.map Prod.fst).Nodup

/-- A tree with at least the directories of another, and the same working directory. -/
structure Keeps (t t' : FileTree) : Prop where
  workingDirectory : t'.workingDirectory = t.workingDirectory
  directories : ∀ names, t.lookup? names = some .directory → t'.lookup? names = some .directory
  distinct : t.Distinct → t'.Distinct

theorem Keeps.refl (t : FileTree) : Keeps t t := ⟨rfl, fun _ h => h, id⟩

theorem Keeps.trans {t'' : FileTree} (h : Keeps t t') (h' : Keeps t' t'') : Keeps t t'' :=
  ⟨h'.workingDirectory.trans h.workingDirectory,
    fun names hnames => h'.directories names (h.directories names hnames),
    fun hdistinct => h'.distinct (h.distinct hdistinct)⟩

theorem Keeps.start (h : Keeps t t') (p : Path) : t'.start p = t.start p := by
  unfold FileTree.start
  rw [h.workingDirectory]

theorem Keeps.placeOf (h : Keeps t t') (p : Path) : t'.placeOf p = t.placeOf p := by
  unfold FileTree.placeOf
  rw [h.start]

theorem enter_eq_ok {part : List Char} (hpart : part ≠ [])
    (h : t.enter place (String.ofList part) = .ok next) :
    t.lookup? place = some .directory ∧ next = moved place part := by
  have hdot : String.ofList part = "." ↔ part = ['.'] := String.ofList_inj
  have hdots : String.ofList part = ".." ↔ part = ['.', '.'] := String.ofList_inj
  unfold enter at h
  split at h
  · cases h
  · cases h
  · next hplace =>
    refine ⟨hplace, ?_⟩
    unfold moved
    simp only [hdot, hdots] at h
    split at h
    · next hpart =>
      have hidle : Idle part := .inr hpart
      injection h with h
      rw [if_pos hidle, h]
    · next hne =>
      have hidle : ¬ Idle part := not_or.2 ⟨hpart, hne⟩
      rw [if_neg hidle]
      split at h
      · next hdots =>
        injection h with h
        rw [if_pos hdots, h]
      · next hdots =>
        rw [if_neg hdots]
        split at h
        · cases h
        · injection h with h
          exact h.symm

theorem enter_name {name : String} (h : t.enter place name = .ok next)
    (hname : name ≠ "." ∧ name ≠ "..") : next = place ++ [name] := by
  unfold enter at h
  rw [if_neg hname.1, if_neg hname.2] at h
  split at h
  · cases h
  · cases h
  · split at h
    · cases h
    · injection h with h
      exact h.symm

theorem Keeps.enter (hk : Keeps t t') {name : String} (h : t.enter place name = .ok next) :
    t'.enter place name = .ok next := by
  unfold FileTree.enter at h ⊢
  split at h
  · cases h
  · cases h
  · next hplace =>
    rw [hk.directories place hplace]
    exact h

theorem foldlM_enter_eq_ok {l : List (List Char)}
    (h : ((l.filter (· ≠ [])).map String.ofList).foldlM t.enter place = .ok next) :
    next = l.foldl moved place := by
  induction l generalizing place with
  | nil =>
    injection h with h
    exact h.symm
  | cons part l ih =>
    rw [List.foldl_cons]
    by_cases hpart : part = []
    · rw [List.filter_cons_of_neg (by simpa using hpart)] at h
      rw [ih h, moved, if_pos (.inl hpart)]
    · rw [List.filter_cons_of_pos (by simpa using hpart), List.map_cons, List.foldlM_cons] at h
      obtain ⟨between, hbetween, h⟩ := Outcome.bind_eq_ok_iff.1 h
      rw [ih h, (enter_eq_ok hpart hbetween).2]

theorem Keeps.foldlM_enter (hk : Keeps t t') {names : List String}
    (h : names.foldlM t.enter place = .ok next) : names.foldlM t'.enter place = .ok next := by
  induction names generalizing place with
  | nil => exact h
  | cons name names ih =>
    rw [List.foldlM_cons] at h ⊢
    obtain ⟨between, hbetween, h⟩ := Outcome.bind_eq_ok_iff.1 h
    rw [hk.enter hbetween]
    exact ih h

/-! ## What paths reach -/

theorem follow_eq_ok (h : t.follow p = .ok place) : place = t.placeOf p := by
  obtain ⟨_, _, h⟩ := Outcome.bind_eq_ok_iff.1 h
  exact foldlM_enter_eq_ok h

theorem find_eq_ok {entry : FileEntry} (h : t.find p = .ok (place, entry)) :
    place = t.placeOf p ∧ t.lookup? place = some entry := by
  obtain ⟨place', hfollow, h⟩ := Outcome.bind_eq_ok_iff.1 h
  have key : (place', entry) = (place, entry) ∧ t.lookup? place' = some entry := by
    split at h
    · cases h
    · next hentry =>
      split at h
      · cases h
      · injection h with h
        injection h with hplace hfile
        subst hplace hfile
        exact ⟨rfl, hentry⟩
    · next hentry =>
      injection h with h
      injection h with hplace hdirectory
      subst hplace hdirectory
      exact ⟨rfl, hentry⟩
  obtain ⟨hplace, hentry⟩ := key
  injection hplace with hplace
  subst hplace
  exact ⟨follow_eq_ok hfollow, hentry⟩

/-- The last name of a path, put in its directory, stands where the path leads to. -/
theorem target_eq_ok {directory : List String} {last : String} {slash : Bool}
    (h : t.target p = .ok (directory, .name last slash)) :
    t.follow p = .ok (directory ++ [last]) ∧ slash = endsInSlash p := by
  unfold target at h
  unfold follow
  obtain ⟨_, hcheck, h⟩ := Outcome.bind_eq_ok_iff.1 h
  rw [hcheck]
  dsimp only at h
  split at h
  · cases h
  · next name hname =>
    obtain ⟨front, hfront, h⟩ := Outcome.bind_eq_ok_iff.1 h
    obtain ⟨finish, henter, h⟩ := Outcome.bind_eq_ok_iff.1 h
    split at h
    · cases h
    · next hdots =>
      injection h with h
      injection h with hdirectory hlast
      injection hlast with hlast hslash
      subst hdirectory hlast
      refine ⟨?_, hslash.symm⟩
      obtain ⟨init, hinit⟩ := List.getLast?_eq_some_iff.1 hname
      rw [hinit, List.dropLast_concat] at hfront
      have hfinish : finish = front ++ [name] := enter_name henter (not_or.1 hdots)
      rw [Outcome.ok_bind, hinit, List.foldlM_append, hfront, Outcome.ok_bind, List.foldlM_cons,
        henter, hfinish]
      rfl

theorem Keeps.target (hk : Keeps t t') {result : List String × LastName}
    (h : t.target p = .ok result) : t'.target p = .ok result := by
  unfold FileTree.target at h ⊢
  obtain ⟨_, hcheck, h⟩ := Outcome.bind_eq_ok_iff.1 h
  rw [hcheck, hk.start, Outcome.ok_bind]
  dsimp only at h ⊢
  split at h
  · exact h
  · next name hname =>
    obtain ⟨front, hfront, h⟩ := Outcome.bind_eq_ok_iff.1 h
    obtain ⟨finish, henter, h⟩ := Outcome.bind_eq_ok_iff.1 h
    rw [hk.foldlM_enter hfront, Outcome.ok_bind, hk.enter henter]
    exact h

/-- The place where a path puts its last name, whether or not anything is there. -/
def Reaches (t : FileTree) (p : Path) (place : List String) : Prop :=
  ∃ directory last, t.target p = .ok (directory, .name last false) ∧ place = directory ++ [last]

theorem Reaches.follow (h : t.Reaches p place) : t.follow p = .ok place := by
  obtain ⟨_, _, htarget, rfl⟩ := h
  exact (target_eq_ok htarget).1

theorem Reaches.place_eq (h : t.Reaches p place) : place = t.placeOf p := follow_eq_ok h.follow

theorem Reaches.ne_nil (h : t.Reaches p place) : place ≠ [] := by
  obtain ⟨directory, last, _, rfl⟩ := h
  exact List.append_ne_nil_of_right_ne_nil directory (List.cons_ne_nil last [])

theorem Reaches.mono (h : t.Reaches p place) (hk : Keeps t t') : t'.Reaches p place := by
  obtain ⟨directory, last, htarget, hplace⟩ := h
  exact ⟨directory, last, hk.target htarget, hplace⟩

/-- A path that reaches a place ends in a name. -/
theorem Reaches.exists_last (h : t.Reaches p place) :
    ∃ front last, p.segments = front ++ [last] ∧ Proper last := by
  obtain ⟨directory, name, htarget, -⟩ := h
  have hslash := (target_eq_ok htarget).2
  unfold target at htarget
  obtain ⟨_, -, htarget⟩ := Outcome.bind_eq_ok_iff.1 htarget
  dsimp only at htarget
  split at htarget
  · cases htarget
  · next name' hname =>
    obtain ⟨_, -, htarget⟩ := Outcome.bind_eq_ok_iff.1 htarget
    obtain ⟨_, -, htarget⟩ := Outcome.bind_eq_ok_iff.1 htarget
    split at htarget
    · cases htarget
    · next hdots =>
      rcases List.eq_nil_or_concat' p.text.toList with htext | ⟨init, c, htext⟩
      · unfold namesIn Path.segments at hname
        rw [htext] at hname
        cases hname
      · have hc : c ≠ '/' := by
          rintro rfl
          unfold endsInSlash at hslash
          rw [htext, List.getLast?_concat] at hslash
          cases hslash
        obtain ⟨front, last, hsplit, hlast⟩ := Text.exists_splitOn_concat hc init
        have hsegments : p.segments = front ++ [last] := by
          unfold Path.segments
          rw [htext, hsplit]
        have hnamed : String.ofList last = name' := by
          unfold namesIn at hname
          rw [hsegments, List.filter_append, List.filter_cons_of_pos (by simpa using hlast),
            List.filter_nil, List.map_append, List.map_singleton, List.getLast?_concat] at hname
          exact Option.some.inj hname
        subst hnamed
        obtain ⟨hdot, hparent⟩ := not_or.1 hdots
        exact ⟨front, last, hsegments, hlast, fun h => hdot (by rw [h]),
          fun h => hparent (by rw [h])⟩

theorem Reaches.readBytes {content : ByteArray} (h : t.Reaches p place)
    (hfile : t.lookup? place = some (.file content)) : t.readBytes p = .ok content := by
  have hslash : endsInSlash p = false := by
    obtain ⟨_, _, htarget, rfl⟩ := h
    exact (target_eq_ok htarget).2.symm
  unfold FileTree.readBytes FileTree.find
  rw [h.follow, Outcome.ok_bind, hfile, hslash]
  rfl

end DocCorpus.FileTree
