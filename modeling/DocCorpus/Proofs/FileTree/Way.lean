/-
  Ways. A path leads through places, one for each of its first parts (`OnWay`); a path above it, or
  one that differs in parts that mean nothing, leads through no others. A path that is followed goes
  from directory to directory (`OnWay.directory`), and one that cannot be followed since something
  is missing comes to a place that is missing (`target_ne_notFound`).
-/
import DocCorpus.Proofs.FileTree.Place
import Mathlib.Logic.Relation

namespace DocCorpus.FileTree

open DocCorpus.Path (Idle Proper)

variable {t : FileTree} {p base : Path} {place next names : List String}

/-! ## Ways -/

/-- The places that a path leads through, from its start to where it leads. -/
def OnWay (t : FileTree) (p : Path) (names : List String) : Prop :=
  ∃ front, front <+: p.segments ∧ names = front.foldl moved (t.start p)

/-- Parts that mean nothing lead to no other place. -/
theorem onWay_iff : t.OnWay p place ↔
    ∃ front, front <+: p.segments.filter (¬ Idle ·) ∧ place = front.foldl moved (t.start p) := by
  constructor
  · rintro ⟨front, hfront, rfl⟩
    exact ⟨front.filter (¬ Idle ·), hfront.filter _, (foldl_moved_filter front _).symm⟩
  · rintro ⟨front, hfront, rfl⟩
    obtain ⟨whole, hwhole, rfl⟩ := List.prefix_filter_iff.1 hfront
    exact ⟨whole, hwhole, foldl_moved_filter whole _⟩

theorem onWay_placeOf (t : FileTree) (p : Path) : t.OnWay p (t.placeOf p) :=
  ⟨p.segments, List.prefix_rfl, rfl⟩

/-- A path that begins like another leads through places of its way only. -/
theorem OnWay.of_prefix {q : Path} (habsolute : q.isAbsolute = p.isAbsolute)
    (hsegments : q.segments.filter (¬ Idle ·) <+: p.segments.filter (¬ Idle ·))
    (h : t.OnWay q place) : t.OnWay p place := by
  obtain ⟨front, hfront, rfl⟩ := onWay_iff.1 h
  exact onWay_iff.2 ⟨front, hfront.trans hsegments, by rw [start_eq habsolute]⟩

theorem OnWay.of_parent? {above : Path} (hparent : p.parent? = some above)
    (h : t.OnWay above place) : t.OnWay p place := by
  obtain ⟨kept, rest, hsegments, hrest, rfl⟩ := Path.parent?_eq_some hparent
  obtain ⟨habsolute, hkept⟩ := Path.upTo_eq hsegments hrest
  refine h.of_prefix habsolute ?_
  rw [hkept, hsegments]
  exact (List.prefix_append kept rest).filter _

theorem OnWay.of_above {q : Path}
    (hq : Relation.ReflTransGen (fun p above => Path.parent? p = some above) p q)
    (h : t.OnWay q place) : t.OnWay p place := by
  induction hq with
  | refl => exact h
  | tail _ hparent ih => exact ih (h.of_parent? hparent)

/-- The way to a place below another: it goes to that one, and down from there. -/
theorem OnWay.of_join (hp : p.Descends) (h : t.OnWay (base.join p) place) :
    t.OnWay base place ∨ ∃ down, down ≠ [] ∧ down <+: p.names ∧ place = t.placeOf base ++ down := by
  obtain ⟨habsolute, hsegments⟩ := Path.filter_segments_join base hp.relative
  obtain ⟨front, ⟨back, hfront⟩, rfl⟩ := onWay_iff.1 h
  rw [hsegments, List.append_eq_append_iff] at hfront
  rw [start_eq habsolute]
  rcases hfront with ⟨rest, hbase, -⟩ | ⟨down, rfl, hdown⟩
  · exact .inl (onWay_iff.2 ⟨front, ⟨rest, hbase.symm⟩, rfl⟩)
  · rw [List.foldl_append, ← placeOf_eq]
    rw [hp.filter_segments] at hdown
    have hproper : ∀ part ∈ down, Proper part := by
      intro part hpart
      have hmem : part ∈ p.segments.filter (Proper ·) := by
        rw [hdown]
        exact List.mem_append_left back hpart
      exact of_decide_eq_true (List.mem_filter.1 hmem).2
    rw [foldl_moved_of_proper hproper]
    by_cases hnil : down = []
    · left
      rw [hnil, List.map_nil, List.append_nil]
      exact onWay_placeOf t base
    · refine .inr ⟨down.map String.ofList, by simpa using hnil, ?_, rfl⟩
      rw [Path.names_eq, hdown, List.map_append]
      exact List.prefix_append _ _

/-! ## Ways that are followed -/

/-- Names that are followed to their end go from directory to directory. -/
theorem foldlM_enter_directory {l front : List (List Char)}
    (h : ((l.filter (· ≠ [])).map String.ofList).foldlM t.enter place = .ok next)
    (hfront : front <+: l) :
    front.foldl moved place = next ∨ t.lookup? (front.foldl moved place) = some .directory := by
  induction l generalizing place front with
  | nil =>
    injection h with h
    rw [List.prefix_nil.1 hfront]
    exact .inl h
  | cons part l ih =>
    by_cases hpart : part = []
    · rw [List.filter_cons_of_neg (by simpa using hpart)] at h
      rcases List.prefix_cons_iff.1 hfront with rfl | ⟨inner, rfl, hinner⟩
      · exact ih h List.nil_prefix
      · rw [List.foldl_cons, moved, if_pos (.inl hpart)]
        exact ih h hinner
    · rw [List.filter_cons_of_pos (by simpa using hpart), List.map_cons, List.foldlM_cons] at h
      obtain ⟨between, hbetween, h⟩ := Outcome.bind_eq_ok_iff.1 h
      obtain ⟨hplace, rfl⟩ := enter_eq_ok hpart hbetween
      rcases List.prefix_cons_iff.1 hfront with rfl | ⟨inner, rfl, hinner⟩
      · exact .inr hplace
      · rw [List.foldl_cons]
        exact ih h hinner

/-- Every place on the way of a path that is followed is a directory, or where it leads to. -/
theorem OnWay.directory (hway : t.OnWay p names) (h : t.follow p = .ok place) :
    names = place ∨ t.lookup? names = some .directory := by
  obtain ⟨front, hfront, rfl⟩ := hway
  obtain ⟨_, _, h⟩ := Outcome.bind_eq_ok_iff.1 h
  exact foldlM_enter_directory h hfront

theorem enter_eq_notFound {name : String} (h : t.enter place name = .error .notFound) :
    t.lookup? place = none := by
  unfold enter at h
  split at h
  · next hnone => exact hnone
  · cases h
  · split at h
    · cases h
    · split at h
      · cases h
      · split at h <;> cases h

/-- Names that cannot be followed since something is missing come to a place that is missing. -/
theorem foldlM_enter_eq_notFound {l : List (List Char)}
    (h : ((l.filter (· ≠ [])).map String.ofList).foldlM t.enter place = .error .notFound) :
    ∃ front, front <+: l ∧ t.lookup? (front.foldl moved place) = none := by
  induction l generalizing place with
  | nil => cases h
  | cons part l ih =>
    by_cases hpart : part = []
    · rw [List.filter_cons_of_neg (by simpa using hpart)] at h
      obtain ⟨front, hfront, hnone⟩ := ih h
      refine ⟨part :: front, List.prefix_cons_inj part |>.2 hfront, ?_⟩
      rw [List.foldl_cons, moved, if_pos (.inl hpart)]
      exact hnone
    · rw [List.filter_cons_of_pos (by simpa using hpart), List.map_cons, List.foldlM_cons] at h
      rcases Outcome.bind_eq_error_iff.1 h with h | ⟨between, hbetween, h⟩
      · exact ⟨[], List.nil_prefix, enter_eq_notFound h⟩
      · obtain ⟨-, rfl⟩ := enter_eq_ok hpart hbetween
        obtain ⟨front, hfront, hnone⟩ := ih h
        exact ⟨part :: front, (List.prefix_cons_inj part).2 hfront, hnone⟩

theorem target_ne_notFound (htext : p.text ≠ "")
    (hway : ∀ names, t.OnWay p names → t.lookup? names ≠ none) :
    t.target p ≠ .error .notFound := by
  intro h
  unfold target at h
  rcases Outcome.bind_eq_error_iff.1 h with h | ⟨_, _, h⟩
  · unfold checkPath at h
    split at h
    · cases h
    · cases h
  · dsimp only at h
    split at h
    · cases h
    · next last hlast =>
      obtain ⟨front, hfront, hnames⟩ : ∃ front, front <+: p.segments ∧
          (namesIn p).dropLast = (front.filter (· ≠ [])).map String.ofList := by
        obtain ⟨kept, hkept, hnames⟩ := List.prefix_map_iff.1 (List.dropLast_prefix (namesIn p))
        obtain ⟨front, hfront, rfl⟩ := List.prefix_filter_iff.1 hkept
        exact ⟨front, hfront, hnames⟩
      rw [hnames] at h
      rcases Outcome.bind_eq_error_iff.1 h with h | ⟨directory, hdirectory, h⟩
      · obtain ⟨inner, hinner, hnone⟩ := foldlM_enter_eq_notFound h
        exact hway _ ⟨inner, hinner.trans hfront, rfl⟩ hnone
      · obtain rfl := foldlM_enter_eq_ok hdirectory
        rcases Outcome.bind_eq_error_iff.1 h with h | ⟨_, _, h⟩
        · exact hway _ ⟨front, hfront, rfl⟩ (enter_eq_notFound h)
        · split at h <;> cases h

/-! ## Names in a directory -/

/-- A name that something in a directory can have. -/
structure FileName (name : String) : Prop where
  proper : Proper name.toList
  single : '/' ∉ name.toList
  plain : '\x00' ∉ name.toList
  short : name.utf8ByteSize ≤ longestName

theorem FileName.segments {name : String} (h : FileName name) :
    (Path.mk name).segments = [name.toList] := List.splitOn_eq_singleton h.single

theorem FileName.canonical {name : String} (h : FileName name) : (Path.mk name).Canonical := by
  unfold Path.Canonical
  rw [h.segments]
  exact List.forall_mem_singleton.2 h.proper

theorem checkPath_eq_ok_iff : checkPath p = .ok () ↔ '\x00' ∉ p.text.toList ∧ p.text ≠ "" := by
  unfold checkPath
  split
  · next hnull => simpa using fun h => absurd hnull (by simpa using h)
  · next hplain =>
    split
    · next hempty => simp [hempty]
    · next hne => simpa [hne] using hplain

/-- Relative paths below another have one text before their own. -/
theorem exists_text_join (base : Path) :
    ∃ front : String, ∀ p : Path, p.isAbsolute = false → (base.join p).text = front ++ p.text := by
  by_cases hempty : base.text = ""
  · refine ⟨"", fun p hp => ?_⟩
    unfold Path.join
    rw [if_pos (.inr hempty), String.empty_append]
  · have hrelative : ∀ p : Path, p.isAbsolute = false →
        ¬ (p.isAbsolute = true ∨ base.text = "") := by
      intro p hp
      simp [hp, hempty]
    by_cases hslash : base.text.toList.getLast? = some '/'
    · refine ⟨base.text, fun p hp => ?_⟩
      unfold Path.join
      rw [if_neg (hrelative p hp), if_pos hslash]
    · refine ⟨base.text ++ "/", fun p hp => ?_⟩
      unfold Path.join
      rw [if_neg (hrelative p hp), if_neg hslash]

theorem namesIn_join (base : Path) (hp : p.isAbsolute = false) :
    namesIn (base.join p) = namesIn base ++ namesIn p := by
  obtain ⟨front, hsegments, hfront, -⟩ := Path.exists_segments_join base hp
  unfold namesIn
  rw [hsegments, List.filter_append, hfront, List.map_append]

/-- The way to a place below another goes through all that lie between. -/
theorem onWay_join (t : FileTree) (base : Path) (hp : p.Descends) {down : List String}
    (hdown : down <+: p.names) : t.OnWay (base.join p) (t.placeOf base ++ down) := by
  obtain ⟨habsolute, hsegments⟩ := Path.filter_segments_join base hp.relative
  rw [Path.names_eq, List.prefix_map_iff, ← hp.filter_segments] at hdown
  obtain ⟨front, hfront, rfl⟩ := hdown
  have hproper : ∀ part ∈ front, Proper part := by
    intro part hpart
    have hmem := hfront.subset hpart
    rw [hp.filter_segments] at hmem
    exact of_decide_eq_true (List.mem_filter.1 hmem).2
  refine onWay_iff.2 ⟨base.segments.filter (¬ Idle ·) ++ front, ?_, ?_⟩
  · rw [hsegments]
    exact (List.prefix_append_right_inj _).2 hfront
  · rw [List.foldl_append, start_eq habsolute, ← placeOf_eq, foldl_moved_of_proper hproper]

theorem FileName.ne_dots {name : String} (h : FileName name) : name ≠ "." ∧ name ≠ ".." := by
  refine ⟨?_, ?_⟩ <;> rintro rfl
  · exact h.proper.2.1 rfl
  · exact h.proper.2.2 rfl

theorem enter_fileName {name : String} (hplace : t.lookup? place = some .directory)
    (hname : FileName name) : t.enter place name = .ok (place ++ [name]) := by
  unfold enter
  rw [hplace]
  dsimp only
  rw [if_neg hname.ne_dots.1, if_neg hname.ne_dots.2, if_neg (Nat.not_lt.2 hname.short)]

/-- Where a path is reached, the path that it goes down from leads to a directory, and so do the
names between. -/
theorem Reaches.directory (h : t.Reaches (base.join p) place) (hp : p.Descends)
    {down : List String} (hdown : down <+: p.names) (hne : down ≠ p.names) :
    t.lookup? (t.placeOf base ++ down) = some .directory := by
  refine ((onWay_join t base hp hdown).directory h.follow).resolve_left fun heq => hne ?_
  rw [h.place_eq, placeOf_join_names t base hp] at heq
  exact List.append_cancel_left heq

/-- Where a path is reached, every name in the directory that it goes down from is reached. -/
theorem Reaches.beside (h : t.Reaches (base.join p) place) (hp : p.Descends) {name : String}
    (hname : FileName name) : t.Reaches (base.join ⟨name⟩) (t.placeOf base ++ [name]) := by
  have hdirectory := h.directory hp List.nil_prefix hp.names_ne_nil.symm
  rw [List.append_nil] at hdirectory
  have hrelative := hname.canonical.isAbsolute
  have hne : name.toList ≠ [] := hname.proper.1
  obtain ⟨front, hfront⟩ := exists_text_join base
  obtain ⟨_, hcheck, hfollow⟩ := Outcome.bind_eq_ok_iff.1 h.follow
  have hcheckName : checkPath (base.join ⟨name⟩) = .ok () := by
    rw [checkPath_eq_ok_iff, hfront p hp.relative, String.toList_append, List.mem_append,
      not_or] at hcheck
    rw [checkPath_eq_ok_iff, hfront ⟨name⟩ hrelative, String.toList_append, List.mem_append, not_or]
    refine ⟨⟨hcheck.1.1, hname.plain⟩, fun hempty => hne ?_⟩
    exact String.toList_eq_nil_iff.2 (String.append_eq_empty_iff.1 hempty).2
  have hslash : endsInSlash (base.join ⟨name⟩) = false := by
    unfold endsInSlash
    rw [hfront ⟨name⟩ hrelative, String.toList_append, List.getLast?_append_of_ne_nil _ hne,
      beq_eq_false_iff_ne]
    exact fun hlast => hname.single (List.mem_of_getLast? hlast)
  have hnames : namesIn (base.join ⟨name⟩) = namesIn base ++ [name] := by
    have hkept : ([name.toList].filter (· ≠ [])).map String.ofList = [name] := by
      rw [List.filter_cons_of_pos (by simpa using hne), List.filter_nil, List.map_singleton,
        String.ofList_toList]
    rw [namesIn_join base hrelative]
    unfold namesIn
    rw [hname.segments, hkept]
  have hhome : (namesIn base).foldlM t.enter (t.start (base.join ⟨name⟩)) =
      .ok (t.placeOf base) := by
    rw [namesIn_join base hp.relative, List.foldlM_append,
      start_eq (Path.filter_segments_join base hp.relative).1] at hfollow
    obtain ⟨home, hhome, -⟩ := Outcome.bind_eq_ok_iff.1 hfollow
    rw [start_eq (Path.filter_segments_join base hrelative).1, hhome, foldlM_enter_eq_ok hhome]
    rfl
  refine ⟨t.placeOf base, name, ?_, rfl⟩
  unfold target
  rw [hcheckName, hnames, Outcome.ok_bind]
  dsimp only
  rw [List.getLast?_concat, List.dropLast_concat]
  dsimp only
  rw [hhome, Outcome.ok_bind, enter_fileName hdirectory hname, Outcome.ok_bind,
    if_neg (not_or.2 hname.ne_dots), hslash]
  rfl

end DocCorpus.FileTree
