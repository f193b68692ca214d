/-
  Paths put together and taken apart. A relative path below another adds its parts to those of the
  other (`exists_segments_join`); a path without its last part stays at the same start and loses
  nothing but that part and parts that mean nothing (`exists_parent?`). A path that leads down
  (`Descends`) is its names, for all that it means.
-/
import DocCorpus.Path
import DocCorpus.Proofs.Text.Splitting
import Mathlib.Data.List.Basic

namespace DocCorpus.Path

variable {p base : Path} {part last : List Char} {front : List (List Char)}

/-! ## Parts -/

/-- A part that means nothing after another. -/
def Idle (part : List Char) : Prop := part = [] ∨ part = ['.']

instance : DecidablePred Idle := fun _ => inferInstanceAs (Decidable (_ ∨ _))

/-- A part that is the name of something. -/
def Proper (part : List Char) : Prop := part ≠ [] ∧ part ≠ ['.'] ∧ part ≠ ['.', '.']

instance : DecidablePred Proper := fun _ => inferInstanceAs (Decidable (_ ∧ _ ∧ _))

/-- A path of names, with one separator between each two. -/
def Canonical (p : Path) : Prop := ∀ part ∈ p.segments, Proper part

instance : DecidablePred Canonical := fun p => inferInstanceAs (Decidable (∀ part ∈ p.segments, _))

/-- The parts of a path as names. -/
def parts (p : Path) : List String := p.segments.map String.ofList

theorem segments_ne_nil (p : Path) : p.segments ≠ [] := List.splitOn_ne_nil '/' _

theorem slash_not_mem_of_mem_segments (h : part ∈ p.segments) : '/' ∉ part :=
  Text.not_mem_of_mem_splitOn h

theorem intercalate_segments (p : Path) : ['/'].intercalate p.segments = p.text.toList :=
  List.intercalate_splitOn ..

theorem segments_ofList {l : List (List Char)} (hl : l ≠ []) (hslash : ∀ part ∈ l, '/' ∉ part) :
    (Path.mk (String.ofList (['/'].intercalate l))).segments = l := by
  unfold segments
  rw [String.toList_ofList]
  exact List.splitOn_intercalate '/' hslash hl

theorem segments_pair {first second : String} (hfirst : '/' ∉ first.toList)
    (hsecond : '/' ∉ second.toList) :
    (Path.mk (first ++ "/" ++ second)).segments = [first.toList, second.toList] := by
  unfold segments
  rw [String.toList_append, String.toList_append, List.append_assoc]
  change (first.toList ++ '/' :: second.toList).splitOn '/' = _
  rw [List.splitOn_append_cons_self, List.splitOn_eq_singleton hfirst,
    List.splitOn_eq_singleton hsecond]
  rfl

theorem parts_inj {p q : Path} : p.parts = q.parts ↔ p = q := by
  refine ⟨fun h => ?_, fun h => by rw [h]⟩
  have hsegments : p.segments = q.segments :=
    List.map_injective_iff.2 (fun _ _ => String.ofList_injective) h
  have htext : p.text.toList = q.text.toList := by
    rw [← intercalate_segments, hsegments, intercalate_segments]
  cases p
  cases q
  rw [Path.mk.injEq]
  exact String.toList_inj.1 htext

theorem stepOf?_of_proper (h : Proper part) : stepOf? part = some (.name (String.ofList part)) := by
  unfold stepOf?
  rw [if_neg (not_or.2 ⟨h.1, h.2.1⟩), if_neg h.2.2]

theorem filterMap_stepOf? {f : PathStep → Option String} (hname : ∀ s, f (.name s) = some s)
    (hparent : f .parent = none) (l : List (List Char)) :
    (l.filterMap stepOf?).filterMap f = (l.filter (Proper ·)).map String.ofList := by
  induction l with
  | nil => rfl
  | cons part l ih =>
    by_cases hproper : Proper part
    · rw [List.filterMap_cons_some (stepOf?_of_proper hproper), List.filterMap_cons_some (hname _),
        List.filter_cons_of_pos (by simpa using hproper), List.map_cons, ih]
    · rw [List.filter_cons_of_neg (by simpa using hproper), ← ih]
      by_cases hidle : Idle part
      · have hnone : stepOf? part = none := if_pos hidle
        rw [List.filterMap_cons_none hnone]
      · obtain ⟨hnil, hdot⟩ := not_or.1 hidle
        obtain rfl : part = ['.', '.'] := by
          by_contra hother
          exact hproper ⟨hnil, hdot, hother⟩
        have hup : stepOf? ['.', '.'] = some .parent := rfl
        rw [List.filterMap_cons_some hup, List.filterMap_cons_none hparent]

/-- The names in a path are its parts that name something. -/
theorem names_eq (p : Path) : p.names = (p.segments.filter (Proper ·)).map String.ofList := by
  unfold names steps
  dsimp only
  rw [List.filterMap_append, filterMap_stepOf? (fun _ => rfl) rfl]
  split
  · rfl
  · split <;> rfl

/-! ## Absolute paths -/

theorem isAbsolute_iff : p.isAbsolute = true ↔ p.text.toList.head? = some '/' := beq_iff_eq

theorem head_segments (p : Path) (h : p.isAbsolute = false) (hne : p.text ≠ "") :
    ∃ first rest, p.segments = first :: rest ∧ first ≠ [] := by
  have hhead : p.text.toList.head? ≠ some '/' := fun hhead => by
    rw [isAbsolute_iff.2 hhead] at h
    cases h
  unfold segments
  cases htext : p.text.toList with
  | nil => exact absurd (String.toList_eq_nil_iff.1 htext) hne
  | cons c text =>
    rw [htext] at hhead
    have hc : (c == '/') = false := by
      rw [beq_eq_false_iff_ne]
      rintro rfl
      exact hhead rfl
    rw [List.splitOn_cons_eq_if_modifyHead, hc]
    cases hsplit : text.splitOn '/' with
    | nil => exact absurd hsplit (List.splitOn_ne_nil '/' text)
    | cons first rest => exact ⟨c :: first, rest, rfl, List.cons_ne_nil _ _⟩

theorem segments_of_absolute (h : p.isAbsolute = true) :
    ∃ first rest, p.segments = [] :: first :: rest := by
  unfold segments
  cases htext : p.text.toList with
  | nil =>
    rw [isAbsolute_iff, htext] at h
    cases h
  | cons c text =>
    rw [isAbsolute_iff, htext] at h
    injection h with h
    subst h
    rw [List.splitOn_cons_eq_if_modifyHead, beq_self_eq_true, if_pos rfl]
    cases hsplit : text.splitOn '/' with
    | nil => exact absurd hsplit (List.splitOn_ne_nil '/' text)
    | cons first rest => exact ⟨first, rest, rfl⟩

/-- A path of at least two parts is absolute exactly if the first is empty. -/
theorem isAbsolute_iff_of_segments {first second : List Char} {rest : List (List Char)}
    (h : p.segments = first :: second :: rest) : p.isAbsolute = true ↔ first = [] := by
  constructor
  · intro habsolute
    obtain ⟨_, _, hsegments⟩ := segments_of_absolute habsolute
    rw [h] at hsegments
    injection hsegments
  · rintro rfl
    by_contra hrelative
    have hne : p.text ≠ "" := by
      intro htext
      unfold segments at h
      rw [htext] at h
      cases h
    obtain ⟨_, _, hsegments, hfirst⟩ := head_segments p (eq_false_of_ne_true hrelative) hne
    rw [h] at hsegments
    injection hsegments with hhead
    exact hfirst hhead.symm

theorem not_isAbsolute_of_segments {first : List Char} {rest : List (List Char)}
    (h : p.segments = first :: rest) (hfirst : first ≠ []) : p.isAbsolute = false := by
  refine eq_false_of_ne_true fun habsolute => ?_
  obtain ⟨_, _, hsegments⟩ := segments_of_absolute habsolute
  rw [h] at hsegments
  injection hsegments with hhead
  exact hfirst hhead

theorem Canonical.isAbsolute (h : p.Canonical) : p.isAbsolute = false := by
  obtain ⟨first, rest, hsegments⟩ := List.exists_cons_of_ne_nil (segments_ne_nil p)
  refine not_isAbsolute_of_segments hsegments (h first ?_).1
  rw [hsegments]
  exact List.mem_cons_self

/-! ## Joined paths -/

/-- A relative path below another: its parts follow those of the other, which may lose an empty
part at its end. -/
theorem exists_segments_join (base : Path) (hp : p.isAbsolute = false) :
    ∃ front, (base.join p).segments = front ++ p.segments ∧
      front.filter (· ≠ []) = base.segments.filter (· ≠ []) ∧
      (base.join p).isAbsolute = base.isAbsolute := by
  unfold join
  by_cases hempty : base.text = ""
  · rw [if_pos (.inr hempty)]
    have hbase : base = ⟨""⟩ := by
      cases base
      rw [← hempty]
    subst hbase
    exact ⟨[], rfl, rfl, hp⟩
  · rw [if_neg (by simp [hp, hempty])]
    have hne : base.text.toList ≠ [] := fun h => hempty (String.toList_eq_nil_iff.1 h)
    have habsolute : ∀ text : String,
        (Path.mk (base.text ++ text)).isAbsolute = base.isAbsolute := by
      intro text
      unfold isAbsolute
      rw [String.toList_append, List.head?_append_of_ne_nil _ hne]
    split
    · next hlast =>
      obtain ⟨text, htext⟩ : ∃ text, base.text.toList = text ++ ['/'] := by
        rw [List.getLast?_eq_some_iff] at hlast
        exact hlast
      refine ⟨text.splitOn '/', ?_, ?_, habsolute p.text⟩
      · unfold segments
        rw [String.toList_append, htext, List.append_assoc]
        exact List.splitOn_append_cons_self ..
      · unfold segments
        rw [htext, List.splitOn_append_cons_self, List.filter_append]
        simp
    · refine ⟨base.segments, ?_, rfl, ?_⟩
      · unfold segments
        rw [String.append_assoc, String.toList_append, String.toList_append]
        exact List.splitOn_append_cons_self ..
      · rw [String.append_assoc]
        exact habsolute _

theorem filter_idle_of_filter_nil {l l' : List (List Char)}
    (h : l.filter (· ≠ []) = l'.filter (· ≠ [])) :
    l.filter (¬ Idle ·) = l'.filter (¬ Idle ·) := by
  have key : ∀ l : List (List Char), (l.filter (· ≠ [])).filter (¬ Idle ·) = l.filter (¬ Idle ·) := by
    intro l
    rw [List.filter_filter]
    refine List.filter_congr fun part _ => ?_
    by_cases hpart : part = []
    · simp [Idle, hpart]
    · simp [hpart]
  rw [← key l, h, key]

/-- Of parts that mean something, a relative path below another has those of both. -/
theorem filter_segments_join (base : Path) (hp : p.isAbsolute = false) :
    (base.join p).isAbsolute = base.isAbsolute ∧
      (base.join p).segments.filter (¬ Idle ·) =
        base.segments.filter (¬ Idle ·) ++ p.segments.filter (¬ Idle ·) := by
  obtain ⟨front, hsegments, hfront, habsolute⟩ := exists_segments_join base hp
  refine ⟨habsolute, ?_⟩
  rw [hsegments, List.filter_append, filter_idle_of_filter_nil hfront]

/-! ## Paths that lead down -/

/-- A path with a name, without a root and without steps to the directory above: what it leads to is
below what it starts at. -/
structure Descends (p : Path) : Prop where
  relative : p.isAbsolute = false
  forward : ∀ part ∈ p.segments, part ≠ ['.', '.']
  named : ∃ part ∈ p.segments, Proper part

theorem Canonical.descends (h : p.Canonical) : p.Descends where
  relative := h.isAbsolute
  forward part hpart := (h part hpart).2.2
  named := by
    obtain ⟨part, hpart⟩ := List.exists_mem_of_ne_nil _ (segments_ne_nil p)
    exact ⟨part, hpart, h part hpart⟩

theorem Canonical.names (h : p.Canonical) : p.names = p.parts := by
  rw [names_eq, List.filter_eq_self.2 fun part hpart => decide_eq_true (h part hpart)]
  rfl

theorem Descends.text_ne (h : p.Descends) : p.text ≠ "" := by
  intro htext
  obtain ⟨part, hpart, hproper⟩ := h.named
  unfold segments at hpart
  rw [htext] at hpart
  exact hproper.1 (List.mem_singleton.1 hpart)

theorem Descends.filter_segments (h : p.Descends) :
    p.segments.filter (¬ Idle ·) = p.segments.filter (Proper ·) := by
  refine List.filter_congr fun part hpart => decide_eq_decide.2 ⟨fun hidle => ?_, fun hproper => ?_⟩
  · exact ⟨fun hnil => hidle (.inl hnil), fun hdot => hidle (.inr hdot), h.forward part hpart⟩
  · exact not_or.2 ⟨hproper.1, hproper.2.1⟩

/-- The last name of a path that leads down has nothing behind it that means something. -/
theorem Descends.exists_last (h : p.Descends) :
    ∃ front last idle, p.segments = front ++ last :: idle ∧ (∀ part ∈ idle, Idle part) ∧
      Proper last := by
  obtain ⟨-, hforward, hnamed⟩ := h
  generalize p.segments = l at hforward hnamed
  induction l with
  | nil =>
    obtain ⟨_, hpart, -⟩ := hnamed
    cases hpart
  | cons part l ih =>
    obtain ⟨-, hrest⟩ := List.forall_mem_cons.1 hforward
    by_cases hlater : ∃ part ∈ l, Proper part
    · obtain ⟨front, last, idle, rfl, hidle, hlast⟩ := ih hrest hlater
      exact ⟨part :: front, last, idle, rfl, hidle, hlast⟩
    · obtain ⟨named, hmem, hproper⟩ := hnamed
      obtain rfl : named = part :=
        (List.mem_cons.1 hmem).resolve_right fun hmem => hlater ⟨named, hmem, hproper⟩
      refine ⟨[], named, l, rfl, fun part hpart => ?_, hproper⟩
      by_contra hidle
      obtain ⟨hnil, hdot⟩ := not_or.1 hidle
      exact hlater ⟨part, hpart, hnil, hdot, hrest part hpart⟩

theorem names_of_segments {idle : List (List Char)} (h : p.segments = front ++ last :: idle)
    (hidle : ∀ part ∈ idle, Idle part) (hlast : Proper last) :
    p.names = (front.filter (Proper ·)).map String.ofList ++ [String.ofList last] := by
  have hnone : idle.filter (Proper ·) = [] := by
    rw [List.filter_eq_nil_iff]
    intro part hpart hproper
    exact (hidle part hpart).elim (of_decide_eq_true hproper).1 (of_decide_eq_true hproper).2.1
  rw [names_eq, h, List.filter_append, List.filter_cons_of_pos (by simpa using hlast), hnone,
    List.map_append, List.map_singleton]

theorem Descends.exists_names (h : p.Descends) :
    ∃ init last, p.names = init ++ [last] ∧ Proper last.toList ∧ '/' ∉ last.toList := by
  obtain ⟨front, last, idle, hsegments, hidle, hlast⟩ := h.exists_last
  refine ⟨_, _, names_of_segments hsegments hidle hlast, ?_, ?_⟩
  · rw [String.toList_ofList]
    exact hlast
  · rw [String.toList_ofList]
    refine slash_not_mem_of_mem_segments (p := p) ?_
    rw [hsegments]
    exact List.mem_append_right _ List.mem_cons_self

theorem Descends.names_ne_nil (h : p.Descends) : p.names ≠ [] := by
  obtain ⟨init, last, hnames, -⟩ := h.exists_names
  rw [hnames]
  exact List.append_ne_nil_of_right_ne_nil _ (List.cons_ne_nil _ _)

/-! ## The last part -/

variable {idle : List (List Char)}

theorem lastStep?_of_segments (h : p.segments = front ++ last :: idle)
    (hidle : ∀ part ∈ idle, Idle part) (hlast : Proper last) :
    p.lastStep? = some (.name (String.ofList last)) := by
  have hnone : idle.filterMap stepOf? = [] := by
    rw [List.filterMap_eq_nil_iff]
    exact fun part hpart => if_pos (hidle part hpart)
  unfold lastStep? steps
  rw [h, List.filterMap_append, List.filterMap_cons_some (stepOf?_of_proper hlast), hnone]
  dsimp only
  rw [← List.append_assoc, List.getLast?_concat]

theorem fileName?_of_segments (h : p.segments = front ++ last :: idle)
    (hidle : ∀ part ∈ idle, Idle part) (hlast : Proper last) :
    p.fileName? = some (String.ofList last) := by
  unfold fileName?
  rw [lastStep?_of_segments h hidle hlast]

theorem exists_dropIdle (l : List (List Char)) :
    ∃ idle, l = idle ++ dropIdle l ∧ (∀ part ∈ idle, Idle part) ∧ (dropIdle l = [] → l = []) := by
  induction l with
  | nil => exact ⟨[], rfl, fun _ h => (by cases h), fun _ => rfl⟩
  | cons part rest ih =>
    cases rest with
    | nil => exact ⟨[], rfl, fun _ h => (by cases h), fun h => (by cases h)⟩
    | cons next rest =>
      rw [dropIdle]
      split
      · next hidle =>
        obtain ⟨idle, heq, hall, hnil⟩ := ih
        refine ⟨part :: idle, by rw [List.cons_append, ← heq], ?_, fun h => (by cases hnil h)⟩
        intro x hx
        rcases List.mem_cons.1 hx with rfl | hx
        · exact hidle
        · exact hall x hx
      · exact ⟨[], rfl, fun _ h => (by cases h), fun h => (by cases h)⟩
      · intro h
        cases h

theorem dropIdle_of_proper (hlast : Proper last) (l : List (List Char)) :
    dropIdle (last :: l) = last :: l := by
  cases l with
  | nil => rfl
  | cons part rest =>
    rw [dropIdle, if_neg (not_or.2 ⟨hlast.1, hlast.2.1⟩)]
    exact List.cons_ne_nil part rest

theorem dropIdle_append (hidle : ∀ part ∈ idle, Idle part) (hlast : Proper last)
    (l : List (List Char)) : dropIdle (idle ++ last :: l) = last :: l := by
  induction idle with
  | nil => exact dropIdle_of_proper hlast l
  | cons part idle ih =>
    obtain ⟨hpart, hidle⟩ := List.forall_mem_cons.1 hidle
    have hskip : part = [] ∨ part = ['.'] := hpart
    rw [List.cons_append, dropIdle, if_pos hskip, ih hidle]
    exact List.append_ne_nil_of_right_ne_nil idle (List.cons_ne_nil last l)

/-- The text of parts is empty only for no part, or for one empty part. -/
theorem intercalate_eq_nil {first : List Char} {more : List (List Char)}
    (h : ['/'].intercalate (first :: more) = []) : first = [] ∧ more = [] := by
  cases more with
  | nil =>
    rw [List.intercalate_singleton] at h
    exact ⟨h, rfl⟩
  | cons second more =>
    rw [List.intercalate_cons_cons] at h
    simp at h

/-! ## The path above -/

/-- The path of the first parts of another. -/
def upTo (p : Path) (kept : List (List Char)) : Path :=
  ⟨if ['/'].intercalate kept = [] ∧ p.isAbsolute then "/"
    else String.ofList (['/'].intercalate kept)⟩

/-- The first parts of a path start where the path does. -/
theorem upTo_eq {kept rest : List (List Char)} (h : p.segments = kept ++ rest) (hrest : rest ≠ []) :
    (p.upTo kept).isAbsolute = p.isAbsolute ∧
      (p.upTo kept).segments.filter (¬ Idle ·) = kept.filter (¬ Idle ·) := by
  unfold upTo
  cases kept with
  | nil =>
    cases hp : p.isAbsolute with
    | true =>
      rw [if_pos ⟨rfl, rfl⟩]
      exact ⟨rfl, rfl⟩
    | false =>
      rw [if_neg (fun hroot => Bool.false_ne_true hroot.2)]
      exact ⟨rfl, rfl⟩
  | cons first more =>
    have hslash : ∀ part ∈ first :: more, '/' ∉ part := fun part hpart => by
      refine slash_not_mem_of_mem_segments (p := p) ?_
      rw [h]
      exact List.mem_append_left _ hpart
    have habsolute : p.isAbsolute = true ↔ first = [] := by
      obtain ⟨second, others, hothers⟩ :=
        List.exists_cons_of_ne_nil (List.append_ne_nil_of_right_ne_nil more hrest)
      have hsegments : p.segments = first :: second :: others := by
        rw [h, ← hothers, List.cons_append]
      exact isAbsolute_iff_of_segments hsegments
    by_cases hroot : ['/'].intercalate (first :: more) = [] ∧ p.isAbsolute
    · obtain ⟨rfl, rfl⟩ := intercalate_eq_nil hroot.1
      rw [if_pos hroot, hroot.2]
      exact ⟨rfl, rfl⟩
    · rw [if_neg hroot]
      have hsegments := segments_ofList (List.cons_ne_nil first more) hslash
      refine ⟨?_, by rw [hsegments]⟩
      cases more with
      | nil =>
        have hfirst : first ≠ [] := fun hfirst =>
          hroot ⟨by rw [hfirst]; rfl, habsolute.2 hfirst⟩
        rw [not_isAbsolute_of_segments hsegments hfirst]
        exact (eq_false_of_ne_true fun hp => hfirst (habsolute.1 hp)).symm
      | cons second more =>
        rw [Bool.eq_iff_iff, isAbsolute_iff_of_segments hsegments, habsolute]

/-- The path above another is that of some of its parts, and not of all. -/
theorem parent?_eq_some {above : Path} (h : p.parent? = some above) :
    ∃ kept rest, p.segments = kept ++ rest ∧ rest ≠ [] ∧ above = p.upTo kept := by
  obtain ⟨behind, hbehind, -, hnil⟩ := exists_dropIdle p.segments.reverse
  obtain ⟨last, front, hlast⟩ := List.exists_cons_of_ne_nil fun hdropped =>
    segments_ne_nil p (List.reverse_eq_nil_iff.1 (hnil hdropped))
  obtain ⟨idle, hidle, -, -⟩ := exists_dropIdle front
  refine ⟨(dropIdle front).reverse, idle.reverse ++ [last] ++ behind.reverse, ?_, by simp, ?_⟩
  · calc p.segments = (behind ++ last :: front).reverse := by
          rw [← hlast, ← hbehind, List.reverse_reverse]
      _ = (behind ++ last :: (idle ++ dropIdle front)).reverse := by rw [← hidle]
      _ = _ := by simp
  · unfold parent? at h
    rw [hlast] at h
    split at h
    · cases h
    · cases h
    · exact (Option.some.inj h).symm

/-- The path above one that ends in a name: what is left without the name and idle parts before
it. -/
theorem exists_parent? (h : p.segments = front ++ last :: idle)
    (hidle : ∀ part ∈ idle, Idle part) (hlast : Proper last) :
    ∃ above, p.parent? = some above ∧ above.isAbsolute = p.isAbsolute ∧
      above.segments.filter (¬ Idle ·) = front.filter (¬ Idle ·) := by
  obtain ⟨between, hbetween, hall, -⟩ := exists_dropIdle front.reverse
  obtain ⟨kept, hkept⟩ : ∃ kept, kept = (dropIdle front.reverse).reverse := ⟨_, rfl⟩
  have hfront : front = kept ++ between.reverse := by
    rw [hkept, ← List.reverse_append, ← hbetween, List.reverse_reverse]
  have hfilter : front.filter (¬ Idle ·) = kept.filter (¬ Idle ·) := by
    have hdropped : between.reverse.filter (¬ Idle ·) = [] := by
      rw [List.filter_eq_nil_iff]
      intro part hpart
      simpa using hall part (List.mem_reverse.1 hpart)
    rw [hfront, List.filter_append, hdropped, List.append_nil]
  have hparent : p.parent? = some (p.upTo kept) := by
    have hdropped : dropIdle p.segments.reverse = last :: front.reverse := by
      rw [h, List.reverse_append, List.reverse_cons, List.append_assoc, List.singleton_append]
      exact dropIdle_append (fun part hpart => hidle part (List.mem_reverse.1 hpart)) hlast _
    unfold parent?
    rw [lastStep?_of_segments h hidle hlast, hdropped, List.tail_cons]
    dsimp only
    rw [← hkept]
    rfl
  have hcut : p.segments = kept ++ (between.reverse ++ last :: idle) := by
    rw [h, hfront, List.append_assoc]
  obtain ⟨habsolute, hsegments⟩ :=
    upTo_eq hcut (List.append_ne_nil_of_right_ne_nil _ (List.cons_ne_nil last idle))
  exact ⟨p.upTo kept, hparent, habsolute, hsegments.trans hfilter.symm⟩

end DocCorpus.Path
