/-
  Comments of a text. A text from which the comments are taken has none left, unless a comment stood
  directly behind a part of the mark that starts one: then what the comment parted may be a mark
  (`not_hasComment_dropComments`). Since the marks have no line feed, a comment is found by looking
  at the lines (`hasComment_iff`), and leaving out lines or trimming them makes none
  (`Uncommented.of_thinned`).
-/
import DocCorpus.Proofs.Minify.Chunks

namespace DocCorpus.Minify

variable {s t front back : List Char}

/-! ## Comments -/

/-- A text with a comment that ends. -/
def HasComment (s : List Char) : Prop :=
  ∃ a b c, s = a ++ (commentStart ++ (b ++ (commentEnd ++ c)))

/-- A text without a comment directly behind a first part of the mark that starts comments. -/
def Seamless (s : List Char) : Prop :=
  ∀ a b c, s = a ++ (commentStart ++ (b ++ (commentEnd ++ c))) →
    ∀ part, part <+: commentStart → part ≠ [] → part ≠ commentStart → ¬ part <:+ a

theorem commentStart_ne_nil : commentStart ≠ [] := List.cons_ne_nil _ _

theorem commentEnd_ne_nil : commentEnd ≠ [] := List.cons_ne_nil _ _

theorem HasComment.start (h : HasComment s) : commentStart <:+: s := by
  obtain ⟨a, b, c, rfl⟩ := h
  exact (List.prefix_append commentStart _).isInfix.trans (List.suffix_append a _).isInfix

theorem HasComment.of_infix (h : HasComment s) (hs : s <:+: t) : HasComment t := by
  obtain ⟨a, b, c, rfl⟩ := h
  obtain ⟨x, y, rfl⟩ := hs
  exact ⟨x ++ a, b, c ++ y, by simp only [List.append_assoc]⟩

theorem firstComment?_eq_some (h : firstComment? s = some (front, back)) :
    (∃ inside, s = front ++ (commentStart ++ (inside ++ (commentEnd ++ back)))) ∧
      ¬ commentStart <:+: front := by
  simp only [firstComment?, Option.bind_eq_bind, Option.bind_eq_some_iff, Option.pure_def,
    Option.some.injEq, Prod.mk.injEq] at h
  obtain ⟨⟨f, opened⟩, hstart, ⟨inside, b⟩, hend, rfl, rfl⟩ := h
  refine ⟨⟨inside, ?_⟩, Text.not_infix_of_cutAt? commentStart_ne_nil hstart⟩
  rw [Text.cutAt?_eq_some hstart, ← Text.cutAt?_eq_some hend]

/-- A comment is found where there is one. -/
theorem firstComment?_eq_none_iff : firstComment? s = none ↔ ¬ HasComment s := by
  constructor
  · rintro hnone ⟨a, b, c, hs⟩
    have hstart : commentStart <:+: s := HasComment.start ⟨a, b, c, hs⟩
    cases hcut : Text.cutAt? commentStart s with
    | none => exact (Text.cutAt?_eq_none_iff commentStart_ne_nil).1 hcut hstart
    | some parts =>
      obtain ⟨front, opened⟩ := parts
      have hopened : b ++ (commentEnd ++ c) <:+ opened :=
        Text.suffix_of_cutAt? commentStart_ne_nil hcut hs
      have hend : commentEnd <:+: opened :=
        ((List.prefix_append _ c).isInfix.trans (List.suffix_append b _).isInfix).trans
          hopened.isInfix
      cases hcut' : Text.cutAt? commentEnd opened with
      | none => exact (Text.cutAt?_eq_none_iff commentEnd_ne_nil).1 hcut' hend
      | some rest =>
        simp [firstComment?, hcut, hcut'] at hnone
  · intro hnone
    cases hfirst : firstComment? s with
    | none => rfl
    | some parts =>
      obtain ⟨⟨inside, hs⟩, -⟩ := firstComment?_eq_some hfirst
      exact absurd ⟨parts.1, inside, parts.2, hs⟩ hnone

theorem dropComments_of_eq_some (h : firstComment? s = some (front, back)) :
    dropComments s = front ++ dropComments back := by
  rw [dropComments]
  split
  · next hnone =>
    rw [h] at hnone
    cases hnone
  · next f b heq =>
    rw [h] at heq
    obtain ⟨rfl, rfl⟩ := Prod.mk.inj (Option.some.inj heq)
    rfl

theorem dropComments_eq_self (h : ¬ HasComment s) : dropComments s = s := by
  rw [dropComments]
  split
  · rfl
  · next hsome =>
    rw [firstComment?_eq_none_iff.2 h] at hsome
    cases hsome

/-- What holds of a text without a comment, and of one with a first comment if it holds of what
follows the comment, holds of every text. -/
theorem comments_induction {motive : List Char → Prop} (plain : ∀ s, ¬ HasComment s → motive s)
    (comment : ∀ s front back, firstComment? s = some (front, back) → motive back → motive s)
    (s : List Char) : motive s := by
  induction s using dropComments.induct with
  | case1 s h => exact plain s (firstComment?_eq_none_iff.1 h)
  | case2 s front back h ih => exact comment s front back h ih

theorem length_dropComments_le (s : List Char) : (dropComments s).length ≤ s.length := by
  induction s using comments_induction with
  | plain s h => rw [dropComments_eq_self h]
  | comment s front back h ih =>
    obtain ⟨⟨inside, hs⟩, -⟩ := firstComment?_eq_some h
    rw [dropComments_of_eq_some h]
    have hlength := congrArg List.length hs
    simp only [List.length_append] at hlength ⊢
    omega

/-- The line feed at the end of a text stands in no comment. -/
theorem getLast?_dropComments (h : s.getLast? = some '\n') :
    (dropComments s).getLast? = some '\n' := by
  induction s using comments_induction with
  | plain s hplain => rw [dropComments_eq_self hplain, h]
  | comment s front back hfirst ih =>
    obtain ⟨⟨inside, rfl⟩, -⟩ := firstComment?_eq_some hfirst
    have hback : back.getLast? = some '\n' := by
      cases hlast : back.getLast? with
      | none =>
        -- A comment at the end would end with its own mark.
        obtain rfl := List.getLast?_eq_none_iff.1 hlast
        simp [commentEnd] at h
      | some c => simpa [List.getLast?_append, hlast] using h
    rw [dropComments_of_eq_some hfirst, List.getLast?_append, ih hback]
    rfl

theorem wholeLines_dropComments (h : Text.WholeLines s) : Text.WholeLines (dropComments s) := by
  cases hlast : s.getLast? with
  | none =>
    rw [List.getLast?_eq_none_iff.1 hlast, dropComments_eq_self]
    · exact Text.wholeLines_nil
    · exact fun hcomment => commentStart_ne_nil (List.infix_nil.1 hcomment.start)
  | some c =>
    obtain rfl := h c hlast
    intro d hd
    rw [getLast?_dropComments hlast] at hd
    exact (Option.some.inj hd).symm

theorem dropComments_nil : dropComments [] = [] :=
  dropComments_eq_self fun h => commentStart_ne_nil (List.infix_nil.1 h.start)

/-- Taking the comments leaves none, if none stood directly behind a part of their first mark. -/
theorem not_hasComment_dropComments (h : Seamless s) : ¬ HasComment (dropComments s) := by
  induction s using comments_induction with
  | plain s hplain => rwa [dropComments_eq_self hplain]
  | comment s front back hfirst ih =>
    obtain ⟨⟨inside, hs⟩, hfront⟩ := firstComment?_eq_some hfirst
    have hback : Seamless back := by
      rintro a b c rfl part hpart hne hproper hsuffix
      refine h (front ++ (commentStart ++ (inside ++ (commentEnd ++ a)))) b c ?_ part hpart hne
        hproper ?_
      · rw [hs]
        simp only [List.append_assoc]
      · simp only [← List.append_assoc]
        exact hsuffix.trans (List.suffix_append _ a)
    rw [dropComments_of_eq_some hfirst]
    rintro ⟨a, b, c, heq⟩
    rcases List.append_eq_append_iff.1 heq with ⟨rest, -, hrest⟩ | ⟨part, rfl, hpart⟩
    · exact ih hback ⟨rest, b, c, hrest⟩
    · -- The mark starts in `front`: it ends there, or `part` is the part of it before the comment.
      rcases List.append_eq_append_iff.1 hpart with ⟨rest, rfl, -⟩ | ⟨rest, hmark, -⟩
      · exact hfront ⟨a, rest, List.append_assoc ..⟩
      · by_cases hnil : part = []
        · subst hnil
          exact ih hback ⟨[], b, c, hpart.symm⟩
        · refine h _ _ _ hs part ⟨rest, hmark.symm⟩ hnil ?_ (List.suffix_append a part)
          rintro rfl
          exact hfront (List.suffix_append a _).isInfix

/-- The comment of a text with one comment is taken. -/
theorem dropComments_append {inside : List Char} (hfront : '<' ∉ front) (hinside : '-' ∉ inside)
    (hback : '<' ∉ back) :
    dropComments (front ++ (commentStart ++ (inside ++ (commentEnd ++ back)))) = front ++ back := by
  have hfirst : firstComment? (front ++ (commentStart ++ (inside ++ (commentEnd ++ back)))) =
      some (front, back) := by
    have hstart : Text.cutAt? commentStart
        (front ++ (commentStart ++ (inside ++ (commentEnd ++ back)))) =
        some (front, inside ++ (commentEnd ++ back)) := Text.cutAt?_append hfront _ _
    have hend : Text.cutAt? commentEnd (inside ++ (commentEnd ++ back)) = some (inside, back) :=
      Text.cutAt?_append hinside _ _
    simp [firstComment?, hstart, hend]
  rw [dropComments_of_eq_some hfirst, dropComments_eq_self]
  exact fun hcomment => hback (hcomment.start.subset List.mem_cons_self)

/-- A text with one character that starts the mark is seamless. -/
theorem seamless_of_count (h : s.count '<' ≤ 1) : Seamless s := by
  rintro a b c rfl part hpart hne - hsuffix
  have hmem : '<' ∈ part := by
    obtain ⟨d, rest, rfl⟩ := List.exists_cons_of_ne_nil hne
    rw [(List.cons_prefix_cons.1 hpart).1]
    exact List.mem_cons_self
  have hpos : 0 < a.count '<' := List.count_pos_iff.2 (hsuffix.subset hmem)
  have hmark : commentStart.count '<' = 1 := by decide
  rw [List.count_append, List.count_append] at h
  omega

/-! ## Comments and lines -/

/-- A mark stands before or behind a character that is not in it. -/
theorem mark_before_or_behind {mark rest : List Char} {d : Char} (hd : d ∉ mark) (hne : mark ≠ [])
    (heq : s ++ d :: t = front ++ (mark ++ rest)) :
    (∃ v, s = front ++ (mark ++ v) ∧ rest = v ++ d :: t) ∨
      ∃ v, front = s ++ d :: v ∧ t = v ++ (mark ++ rest) := by
  obtain ⟨e, mark, rfl⟩ := List.exists_cons_of_ne_nil hne
  rcases List.append_eq_append_iff.1 heq with ⟨v, hfront, hv⟩ | ⟨v, hs, hv⟩
  · cases v with
    | nil => exact absurd ((List.cons.inj hv).1 ▸ List.mem_cons_self) hd
    | cons c v =>
      obtain ⟨rfl, ht⟩ := List.cons.inj hv
      exact .inr ⟨v, hfront, ht⟩
  · rcases List.append_eq_append_iff.1 hv with ⟨w, rfl, hrest⟩ | ⟨w, hmark, hrest⟩
    · exact .inl ⟨w, hs, hrest⟩
    · cases w with
      | nil =>
        rw [List.append_nil] at hmark
        exact .inl ⟨[], by rw [hs, hmark, List.append_nil], hrest.symm⟩
      | cons c w =>
        obtain ⟨rfl, -⟩ := List.cons.inj hrest
        exact absurd (hmark ▸ List.mem_append_right v List.mem_cons_self) hd

/-- A text stands in two parts with a character between them only if it stands in one of them. -/
theorem infix_append_iff {mark : List Char} {d : Char} (hd : d ∉ mark) (hne : mark ≠ [])
    (s t : List Char) : mark <:+: s ++ d :: t ↔ mark <:+: s ∨ mark <:+: t := by
  constructor
  · rintro ⟨a, c, heq⟩
    rw [List.append_assoc] at heq
    rcases mark_before_or_behind hd hne heq.symm with ⟨v, rfl, -⟩ | ⟨v, -, rfl⟩
    · exact .inl ⟨a, v, List.append_assoc ..⟩
    · exact .inr ⟨v, c, List.append_assoc ..⟩
  · rintro (h | h)
    · exact h.trans (List.prefix_append _ _).isInfix
    · exact h.trans ((List.suffix_cons _ _).trans (List.suffix_append _ _)).isInfix

/-- A comment that goes on behind a character outside its marks starts before or behind it. -/
theorem hasComment_append_iff {d : Char} (hstart : d ∉ commentStart) (hend : d ∉ commentEnd)
    (s t : List Char) : HasComment (s ++ d :: t) ↔
      HasComment s ∨ HasComment t ∨ commentStart <:+: s ∧ commentEnd <:+: t := by
  constructor
  · rintro ⟨a, b, c, heq⟩
    rcases mark_before_or_behind hstart commentStart_ne_nil heq with ⟨v, rfl, hv⟩ | ⟨v, -, ht⟩
    · rcases mark_before_or_behind hend commentEnd_ne_nil hv.symm with ⟨w, rfl, -⟩ | ⟨w, -, ht⟩
      · exact .inl ⟨a, b, w, rfl⟩
      · exact .inr (.inr ⟨⟨a, v, List.append_assoc ..⟩, ⟨w, c, by rw [ht, List.append_assoc]⟩⟩)
    · exact .inr (.inl ⟨v, b, c, ht⟩)
  · rintro (h | h | ⟨⟨a, b, rfl⟩, ⟨b', c, rfl⟩⟩)
    · exact h.of_infix (List.prefix_append _ _).isInfix
    · exact h.of_infix ((List.suffix_cons _ _).trans (List.suffix_append _ _)).isInfix
    · exact ⟨a, b ++ d :: b', c, by simp⟩

/-- Lines through which no comment goes. -/
structure Uncommented (ls : List (List Char)) : Prop where
  lines : ∀ line ∈ ls, ¬ HasComment line
  pairs : ls.Pairwise fun line later => ¬ (commentStart <:+: line ∧ commentEnd <:+: later)

theorem uncommented_cons_iff {line : List Char} {ls : List (List Char)} :
    Uncommented (line :: ls) ↔ ¬ HasComment line ∧
      ¬ (commentStart <:+: line ∧ ∃ later ∈ ls, commentEnd <:+: later) ∧ Uncommented ls := by
  constructor
  · rintro ⟨hlines, hpairs⟩
    obtain ⟨hline, hlines⟩ := List.forall_mem_cons.1 hlines
    obtain ⟨hpair, hpairs⟩ := List.pairwise_cons.1 hpairs
    refine ⟨hline, ?_, hlines, hpairs⟩
    rintro ⟨hstart, later, hlater, hend⟩
    exact hpair later hlater ⟨hstart, hend⟩
  · rintro ⟨hline, hpair, hlines, hpairs⟩
    refine ⟨List.forall_mem_cons.2 ⟨hline, hlines⟩, List.pairwise_cons.2 ⟨?_, hpairs⟩⟩
    exact fun later hlater h => hpair ⟨h.1, later, hlater, h.2⟩

theorem not_hasComment_nil : ¬ HasComment [] :=
  fun h => commentStart_ne_nil (List.infix_nil.1 h.start)

/-- What of a line end stands before its line feed belongs to no mark. -/
theorem infix_front_iff {mark : List Char} (hreturn : '\r' ∉ mark) (hne : mark ≠ [])
    (line : List Char) (e : Text.LineEnd) : mark <:+: line ++ e.front ↔ mark <:+: line := by
  cases e with
  | lineFeed => rw [Text.LineEnd.front, List.append_nil]
  | returnAndLineFeed =>
    rw [Text.LineEnd.front, infix_append_iff hreturn hne, List.infix_nil, or_iff_left hne]

theorem hasComment_front_iff (line : List Char) (e : Text.LineEnd) :
    HasComment (line ++ e.front) ↔ HasComment line := by
  cases e with
  | lineFeed => rw [Text.LineEnd.front, List.append_nil]
  | returnAndLineFeed =>
    rw [Text.LineEnd.front, hasComment_append_iff (by decide) (by decide), List.infix_nil]
    simp [not_hasComment_nil, commentEnd_ne_nil]

/-- A mark without characters of line ends stands in a line of the text. -/
theorem infix_iff_lines {mark : List Char} (hmark : '\n' ∉ mark ∧ '\r' ∉ mark) (hne : mark ≠ [])
    (s : List Char) : mark <:+: s ↔ ∃ line ∈ Text.lines s, mark <:+: line := by
  induction s using Text.ended_induction with
  | line s hone =>
    rw [Text.lines_of_line hone]
    split
    · next hnil =>
      rw [hnil, List.infix_nil]
      simp [hne]
    · simp
  | step e s t hends ih =>
    rw [Text.lines_append hends, Text.LineEnd.text_append, ← List.append_assoc,
      infix_append_iff hmark.1 hne, infix_front_iff hmark.2 hne, ih]
    simp

/-- A text has a comment exactly if one goes through its lines. -/
theorem hasComment_iff (s : List Char) : HasComment s ↔ ¬ Uncommented (Text.lines s) := by
  induction s using Text.ended_induction with
  | line s hone =>
    rw [Text.lines_of_line hone]
    split
    · next hnil =>
      rw [hnil]
      exact iff_of_false not_hasComment_nil (not_not_intro ⟨nofun, .nil⟩)
    · have hnil : Uncommented [] := ⟨nofun, .nil⟩
      rw [uncommented_cons_iff]
      simp [hnil]
  | step e s t hends ih =>
    have hstart : commentStart <:+: s ++ e.front ↔ commentStart <:+: s :=
      infix_front_iff (by decide) commentStart_ne_nil s e
    rw [Text.lines_append hends, Text.LineEnd.text_append, ← List.append_assoc,
      hasComment_append_iff (by decide) (by decide), hasComment_front_iff, hstart, ih,
      infix_iff_lines (by decide) commentEnd_ne_nil t, uncommented_cons_iff, not_and_or, not_and_or,
      not_not, not_not]
    exact or_congr_right or_comm

/-- Lines that are left out or trimmed bring no comment about. -/
theorem Uncommented.of_thinned {ls ls' : List (List Char)} (h : Uncommented ls)
    (hthinned : Thinned ls' ls) : Uncommented ls' := by
  induction hthinned with
  | nil => exact h
  | drop plain rest ih => exact ih (uncommented_cons_iff.1 h).2.2
  | keep part fence rest ih =>
    obtain ⟨hline, hpair, hls⟩ := uncommented_cons_iff.1 h
    refine uncommented_cons_iff.2 ⟨fun hcomment => hline (hcomment.of_infix part), ?_, ih hls⟩
    rintro ⟨hstart, later', hlater', hend⟩
    obtain ⟨later, hlater, hinfix⟩ := rest.exists_mem hlater'
    exact hpair ⟨hstart.trans part, later, hlater, hend.trans hinfix⟩

end DocCorpus.Minify
