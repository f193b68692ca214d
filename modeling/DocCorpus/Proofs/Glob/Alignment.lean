/-
  Patterns match segment by segment. A pattern and an identifier are aligned when every globstar of
  the pattern stands for some of the segments of the identifier, whole and in order, and every
  other segment of the pattern fits one segment. The slashes of a compiled pattern sit in different
  pieces for the first, the last and the other segments; `after` says what is left of a text after
  a segment, so that one induction over the segments serves all of them.
-/
import DocCorpus.Proofs.Glob.Rows
import DocCorpus.Proofs.Text.Splitting
import DocCorpus.Proofs.Text.Trimming

namespace DocCorpus.Glob

/-! ## Alignments -/

/-- A segment of a pattern that fits a segment of an identifier. -/
inductive Fits : List Char → List Char → Prop
  | done : Fits [] []
  | run {pattern rest : List Char} (taken : List Char) (h : Fits pattern rest) :
      Fits ('*' :: pattern) (taken ++ rest)
  | one {pattern rest : List Char} (c : Char) (h : Fits pattern rest) :
      Fits ('?' :: pattern) (c :: rest)
  | same {pattern rest : List Char} {c : Char} (hrun : c ≠ '*') (hone : c ≠ '?')
      (h : Fits pattern rest) : Fits (c :: pattern) (c :: rest)

/-- The segments of a pattern, aligned with the segments of an identifier. -/
inductive Aligned : List (List Char) → List (List Char) → Prop
  | done : Aligned [] []
  | globstar {pattern rest : List (List Char)} (skipped : List (List Char))
      (h : Aligned pattern rest) : Aligned (globstar :: pattern) (skipped ++ rest)
  | segment {pattern rest : List (List Char)} {first taken : List Char} (hfirst : first ≠ globstar)
      (hfits : Fits first taken) (h : Aligned pattern rest) :
      Aligned (first :: pattern) (taken :: rest)

theorem aligned_nil_iff {segments : List (List Char)} : Aligned [] segments ↔ segments = [] := by
  constructor
  · intro h
    cases h
    rfl
  · rintro rfl
    exact .done

theorem aligned_globstar_iff {pattern segments : List (List Char)} :
    Aligned (globstar :: pattern) segments ↔
      ∃ skipped rest, segments = skipped ++ rest ∧ Aligned pattern rest := by
  constructor
  · intro h
    cases h with
    | globstar skipped h => exact ⟨skipped, _, rfl, h⟩
    | segment hfirst _ _ => exact absurd rfl hfirst
  · rintro ⟨skipped, rest, rfl, h⟩
    exact .globstar skipped h

theorem aligned_segment_iff {pattern segments : List (List Char)} {first : List Char}
    (hfirst : first ≠ globstar) :
    Aligned (first :: pattern) segments ↔
      ∃ taken rest, segments = taken :: rest ∧ Fits first taken ∧ Aligned pattern rest := by
  constructor
  · intro h
    cases h with
    | globstar skipped h => exact absurd rfl hfirst
    | segment _ hfits h => exact ⟨_, _, rfl, hfits, h⟩
  · rintro ⟨taken, rest, rfl, hfits, h⟩
    exact .segment hfirst hfits h

/-! ## Segments of a text -/

/-- The segments that a text holds after a segment that ends where the text starts. -/
inductive After : List Char → List (List Char) → Prop
  | done : After [] []
  | slash (text : List Char) : After ('/' :: text) (text.splitOn '/')

theorem After.splitOn_append {taken text : List Char} {segments : List (List Char)}
    (h : After text segments) :
    (taken ++ text).splitOn '/' = taken.splitOn '/' ++ segments := by
  cases h with
  | done => rw [List.append_nil, List.append_nil]
  | slash text => exact List.splitOn_append_cons_self ..

theorem After.splitOn_segment {taken text : List Char} {segments : List (List Char)}
    (h : After text segments) (htaken : '/' ∉ taken) :
    (taken ++ text).splitOn '/' = taken :: segments := by
  rw [h.splitOn_append, List.splitOn_eq_singleton htaken]
  rfl

/-- The first segment of a text goes up to its end or its first slash. -/
theorem exists_after_of_splitOn {text first : List Char} {segments : List (List Char)}
    (h : text.splitOn '/' = first :: segments) :
    ∃ rest, text = first ++ rest ∧ '/' ∉ first ∧ After rest segments := by
  induction text generalizing first with
  | nil =>
    rw [List.splitOn_nil] at h
    injection h with hfirst hsegments
    subst hfirst hsegments
    exact ⟨[], rfl, List.not_mem_nil, .done⟩
  | cons c text ih =>
    rw [List.splitOn_cons_eq_if_modifyHead] at h
    split at h
    · next hc =>
      rw [beq_iff_eq] at hc
      injection h with hfirst hsegments
      subst hc hfirst hsegments
      exact ⟨'/' :: text, rfl, List.not_mem_nil, .slash text⟩
    · next hc =>
      rw [beq_iff_eq] at hc
      cases hsplit : text.splitOn '/' with
      | nil => exact absurd hsplit (List.splitOn_ne_nil '/' text)
      | cons head tail =>
        rw [hsplit] at h
        injection h with hfirst hsegments
        subst hfirst hsegments
        obtain ⟨rest, rfl, hhead, hafter⟩ := ih hsplit
        exact ⟨rest, rfl, by rw [List.mem_cons, not_or]; exact ⟨Ne.symm hc, hhead⟩, hafter⟩

/-- Some of the first segments of a text make up the start of the text. -/
theorem exists_after_of_splitOn_append {skipped segments : List (List Char)}
    (hskipped : skipped ≠ []) {text : List Char} (h : text.splitOn '/' = skipped ++ segments) :
    ∃ taken rest, text = taken ++ rest ∧ After rest segments := by
  induction skipped generalizing text with
  | nil => exact absurd rfl hskipped
  | cons first skipped ih =>
    obtain ⟨rest, rfl, _, hafter⟩ := exists_after_of_splitOn h
    cases skipped with
    | nil => exact ⟨first, rest, rfl, hafter⟩
    | cons second skipped =>
      replace hafter : After rest (second :: skipped ++ segments) := hafter
      generalize hsegments : second :: skipped ++ segments = others at hafter
      cases hafter with
      | done => cases hsegments
      | slash text =>
        obtain ⟨taken, rest, rfl, hrest⟩ := ih (List.cons_ne_nil second skipped) hsegments.symm
        exact ⟨first ++ '/' :: taken, rest, by rw [List.append_assoc]; rfl, hrest⟩

/-! ## Pieces of a segment -/

theorem inSegment_iff {c : Char} : inSegment c = true ↔ c ≠ '/' := by
  unfold inSegment
  exact decide_eq_true_iff

theorem forall_inSegment_iff {taken : List Char} :
    (∀ c ∈ taken, inSegment c = true) ↔ '/' ∉ taken := by
  constructor
  · intro h hmem
    exact inSegment_iff.1 (h _ hmem) rfl
  · intro h c hc
    rw [inSegment_iff]
    rintro rfl
    exact h hc

theorem forall_inLine {text : List Char} (h : '\n' ∉ text) : ∀ c ∈ text, inLine c = true := by
  intro c hc
  unfold inLine
  rw [decide_eq_true_iff]
  rintro rfl
  exact h hc

/-- The pieces of a segment match what the segment fits, as far as the next slash at most. -/
theorem matches_segment_iff {segment : List Char} (hslash : '/' ∉ segment) {pieces : List Piece}
    {text : List Char} :
    Matches (ofSegment segment ++ pieces) text ↔
      ∃ taken rest, text = taken ++ rest ∧ '/' ∉ taken ∧ Fits segment taken ∧
        Matches pieces rest := by
  induction segment generalizing text with
  | nil =>
    constructor
    · intro h
      exact ⟨[], text, rfl, List.not_mem_nil, .done, h⟩
    · rintro ⟨taken, rest, rfl, _, hfits, h⟩
      cases hfits
      exact h
  | cons c segment ih =>
    rw [List.mem_cons, not_or] at hslash
    have ih := @ih hslash.2
    show (∃ taken rest, text = taken ++ rest ∧ (ofChar c).Takes taken ∧
      Matches (ofSegment segment ++ pieces) rest) ↔ _
    constructor
    · rintro ⟨head, rest, rfl, hhead, h⟩
      obtain ⟨taken, rest, rfl, htaken, hfits, h⟩ := ih.1 h
      refine ⟨head ++ taken, rest, (List.append_assoc ..).symm, ?_⟩
      rw [List.mem_append, not_or]
      by_cases hrun : c = '*'
      · subst hrun
        exact ⟨⟨forall_inSegment_iff.1 hhead, htaken⟩, .run head hfits, h⟩
      · by_cases hone : c = '?'
        · subst hone
          obtain ⟨c, hc, rfl⟩ := hhead
          refine ⟨⟨?_, htaken⟩, .one c hfits, h⟩
          rw [List.mem_singleton]
          exact Ne.symm (inSegment_iff.1 hc)
        · unfold ofChar at hhead
          rw [if_neg hrun, if_neg hone] at hhead
          rw [show head = [c] from hhead]
          refine ⟨⟨?_, htaken⟩, .same hrun hone hfits, h⟩
          rw [List.mem_singleton]
          exact hslash.1
    · rintro ⟨taken, rest, rfl, htaken, hfits, h⟩
      cases hfits with
      | run head hfits =>
        rw [List.mem_append, not_or] at htaken
        exact ⟨head, _, List.append_assoc .., forall_inSegment_iff.2 htaken.1,
          ih.2 ⟨_, rest, rfl, htaken.2, hfits, h⟩⟩
      | one c hfits =>
        rw [List.mem_cons, not_or] at htaken
        exact ⟨[c], _, rfl, ⟨c, inSegment_iff.2 (Ne.symm htaken.1), rfl⟩,
          ih.2 ⟨_, rest, rfl, htaken.2, hfits, h⟩⟩
      | same hrun hone hfits =>
        rw [List.mem_cons, not_or] at htaken
        have htakes : (ofChar c).Takes [c] := by
          unfold ofChar
          rw [if_neg hrun, if_neg hone]
          rfl
        exact ⟨[c], _, rfl, htakes, ih.2 ⟨_, rest, rfl, htaken.2, hfits, h⟩⟩

/-! ## Pieces of a pattern -/

/-- The pieces of the later segments match what is left of a text after a segment. -/
theorem matches_later_iff {pattern : List (List Char)} (hslash : ∀ segment ∈ pattern, '/' ∉ segment)
    {text : List Char} (hline : '\n' ∉ text) :
    Matches (pattern.flatMap ofLater) text ↔
      ∃ segments, After text segments ∧ Aligned pattern segments := by
  induction pattern generalizing text with
  | nil =>
    constructor
    · intro h
      rw [show text = [] from h]
      exact ⟨[], .done, .done⟩
    · rintro ⟨segments, hafter, haligned⟩
      rw [aligned_nil_iff] at haligned
      subst haligned
      generalize hsegments : ([] : List (List Char)) = segments at hafter
      cases hafter with
      | done => rfl
      | slash text => exact absurd hsegments.symm (List.splitOn_ne_nil '/' text)
  | cons first pattern ih =>
    obtain ⟨hfirstSlash, hslash⟩ := List.forall_mem_cons.1 hslash
    have ih := @ih hslash
    by_cases hfirst : first = globstar
    · subst hfirst
      show (∃ taken rest, text = taken ++ rest ∧ Piece.below.Takes taken ∧
        Matches (pattern.flatMap ofLater) rest) ↔ _
      constructor
      · rintro ⟨taken, rest, rfl, htaken, h⟩
        rw [List.mem_append, not_or] at hline
        obtain ⟨segments, hafter, haligned⟩ := (ih hline.2).1 h
        rcases htaken with rfl | ⟨line, rfl, _⟩
        · exact ⟨segments, hafter, .globstar [] haligned⟩
        · refine ⟨_, .slash (line ++ rest), ?_⟩
          rw [hafter.splitOn_append]
          exact .globstar _ haligned
      · rintro ⟨segments, hafter, haligned⟩
        obtain ⟨skipped, others, rfl, hothers⟩ := aligned_globstar_iff.1 haligned
        by_cases hskipped : skipped = []
        · subst hskipped
          exact ⟨[], text, rfl, .inl rfl, (ih hline).2 ⟨others, hafter, hothers⟩⟩
        · generalize hsegments : skipped ++ others = segments at hafter
          cases hafter with
          | done => exact absurd (List.append_eq_nil_iff.1 hsegments).1 hskipped
          | slash text =>
            obtain ⟨line, rest, rfl, hafter⟩ :=
              exists_after_of_splitOn_append hskipped hsegments.symm
            rw [List.mem_cons, not_or, List.mem_append, not_or] at hline
            exact ⟨'/' :: line, rest, rfl, .inr ⟨line, rfl, forall_inLine hline.2.1⟩,
              (ih hline.2.2).2 ⟨others, hafter, hothers⟩⟩
    · have hpieces : (first :: pattern).flatMap ofLater =
          .char '/' :: (ofSegment first ++ pattern.flatMap ofLater) := by
        rw [List.flatMap_cons, ofLater, if_neg hfirst]
        rfl
      rw [hpieces]
      constructor
      · rintro ⟨taken, rest, rfl, htaken, h⟩
        rw [show taken = ['/'] from htaken] at hline ⊢
        obtain ⟨segment, rest, rfl, hsegment, hfits, h⟩ := (matches_segment_iff hfirstSlash).1 h
        rw [List.mem_append, not_or, List.mem_append, not_or] at hline
        obtain ⟨segments, hafter, haligned⟩ := (ih hline.2.2).1 h
        refine ⟨_, .slash (segment ++ rest), ?_⟩
        rw [hafter.splitOn_segment hsegment]
        exact .segment hfirst hfits haligned
      · rintro ⟨segments, hafter, haligned⟩
        obtain ⟨segment, others, rfl, hfits, haligned⟩ := (aligned_segment_iff hfirst).1 haligned
        generalize hsegments : segment :: others = segments at hafter
        cases hafter with
        | done => cases hsegments
        | slash text =>
          obtain ⟨rest, rfl, hsegment, hafter⟩ := exists_after_of_splitOn hsegments.symm
          rw [List.mem_cons, not_or, List.mem_append, not_or] at hline
          exact ⟨['/'], segment ++ rest, rfl, rfl, (matches_segment_iff hfirstSlash).2
            ⟨segment, rest, rfl, hsegment, hfits,
              (ih hline.2.2).2 ⟨others, hafter, haligned⟩⟩⟩

/-- A segment at the start of a pattern takes the first segment of the text. -/
theorem matches_first_iff {first : List Char} {pattern : List (List Char)}
    (hfirst : first ≠ globstar) (hslash : ∀ segment ∈ first :: pattern, '/' ∉ segment)
    {text : List Char} (hline : '\n' ∉ text) :
    Matches (ofSegment first ++ pattern.flatMap ofLater) text ↔
      Aligned (first :: pattern) (text.splitOn '/') := by
  obtain ⟨hfirstSlash, hslash⟩ := List.forall_mem_cons.1 hslash
  rw [matches_segment_iff hfirstSlash, aligned_segment_iff hfirst]
  constructor
  · rintro ⟨segment, rest, rfl, hsegment, hfits, h⟩
    rw [List.mem_append, not_or] at hline
    obtain ⟨segments, hafter, haligned⟩ := (matches_later_iff hslash hline.2).1 h
    exact ⟨segment, segments, hafter.splitOn_segment hsegment, hfits, haligned⟩
  · rintro ⟨segment, segments, hsplit, hfits, haligned⟩
    obtain ⟨rest, rfl, hsegment, hafter⟩ := exists_after_of_splitOn hsplit
    rw [List.mem_append, not_or] at hline
    exact ⟨segment, rest, rfl, hsegment, hfits,
      (matches_later_iff hslash hline.2).2 ⟨segments, hafter, haligned⟩⟩

theorem matches_anything {text : List Char} (hline : '\n' ∉ text) : Matches [.anything] text :=
  ⟨text, [], (List.append_nil _).symm, forall_inLine hline, rfl⟩

/-- A globstar at the start of a pattern takes some of the first segments of the text, with the
slash that ends them. -/
theorem matches_above_iff {first : List Char} {pattern : List (List Char)}
    (hfirst : first ≠ globstar) (hslash : ∀ segment ∈ first :: pattern, '/' ∉ segment)
    {text : List Char} (hline : '\n' ∉ text) :
    Matches (.above :: (ofSegment first ++ pattern.flatMap ofLater)) text ↔
      Aligned (globstar :: first :: pattern) (text.splitOn '/') := by
  rw [aligned_globstar_iff]
  constructor
  · rintro ⟨taken, rest, rfl, htaken, h⟩
    rw [List.mem_append, not_or] at hline
    have haligned := (matches_first_iff hfirst hslash hline.2).1 h
    rcases htaken with rfl | ⟨line, rfl, _⟩
    · exact ⟨[], _, rfl, haligned⟩
    · refine ⟨line.splitOn '/', _, ?_, haligned⟩
      rw [List.append_assoc]
      exact List.splitOn_append_cons_self ..
  · rintro ⟨skipped, segments, hsplit, haligned⟩
    by_cases hskipped : skipped = []
    · subst hskipped
      rw [List.nil_append] at hsplit
      rw [← hsplit] at haligned
      exact ⟨[], text, rfl, .inl rfl, (matches_first_iff hfirst hslash hline).2 haligned⟩
    · obtain ⟨line, rest, rfl, hafter⟩ := exists_after_of_splitOn_append hskipped hsplit
      cases hafter with
      | done =>
        obtain ⟨_, _, heq, _⟩ := (aligned_segment_iff hfirst).1 haligned
        cases heq
      | slash text =>
        rw [List.mem_append, not_or, List.mem_cons, not_or] at hline
        exact ⟨line ++ ['/'], text, by rw [List.append_assoc]; rfl,
          .inr ⟨line, rfl, forall_inLine hline.1⟩,
          (matches_first_iff hfirst hslash hline.2.2).2 haligned⟩

theorem matches_ofSegments_iff {pattern : List (List Char)} (hne : pattern ≠ [])
    (hstart : ¬ [globstar, globstar] <+: pattern) (hslash : ∀ segment ∈ pattern, '/' ∉ segment)
    {text : List Char} (hline : '\n' ∉ text) :
    Matches (ofSegments pattern) text ↔ Aligned pattern (text.splitOn '/') := by
  match pattern with
  | [] => exact absurd rfl hne
  | [first] =>
    by_cases hfirst : first = globstar
    · subst hfirst
      rw [ofSegments, if_pos rfl]
      refine ⟨fun _ => ?_, fun _ => matches_anything hline⟩
      exact aligned_globstar_iff.2 ⟨_, [], (List.append_nil _).symm, .done⟩
    · have h := matches_first_iff hfirst hslash hline
      rw [List.flatMap_nil, List.append_nil] at h
      rw [ofSegments, if_neg hfirst]
      exact h
  | first :: second :: rest =>
    by_cases hfirst : first = globstar
    · subst hfirst
      have hsecond : second ≠ globstar := by
        rintro rfl
        exact hstart ⟨rest, rfl⟩
      rw [ofSegments, if_pos rfl, if_neg hsecond]
      exact matches_above_iff hsecond (List.forall_mem_cons.1 hslash).2 hline
    · rw [ofSegments, if_neg hfirst]
      exact matches_first_iff hfirst hslash hline

/-! ## Patterns -/

/-- A pattern that is more than blanks and slashes and does not start with two globstars matches
an identifier in one line exactly if their segments are aligned. -/
theorem isMatch_iff_aligned (pattern id : String) (hcore : core pattern ≠ [])
    (hstart : ¬ [globstar, globstar] <+: (core pattern).splitOn '/') (hid : '\n' ∉ id.toList) :
    (ofPattern pattern).isMatch id = true ↔
      Aligned ((core pattern).splitOn '/') ((Identifier.normalizeChars id.toList).splitOn '/') := by
  unfold ofPattern
  rw [if_neg hcore]
  show piecesMatch _ _ = true ↔ _
  rw [piecesMatch_iff]
  exact matches_ofSegments_iff (List.splitOn_ne_nil '/' _) hstart
    (fun _ => Text.not_mem_of_mem_splitOn) (Text.not_mem_strip hid)

theorem isMatch_iff_aligned_nested :
    core "/c*/**/v?" ≠ [] ∧ ¬ [globstar, globstar] <+: (core "/c*/**/v?").splitOn '/' ∧
      '\n' ∉ "core/a/b/v1/".toList ∧ (ofPattern "/c*/**/v?").isMatch "core/a/b/v1/" = true := by
  have hcore : core "/c*/**/v?" ≠ [] := by decide
  have hstart : ¬ [globstar, globstar] <+: (core "/c*/**/v?").splitOn '/' := by decide
  have hid : '\n' ∉ "core/a/b/v1/".toList := by decide
  refine ⟨hcore, hstart, hid, (isMatch_iff_aligned _ _ hcore hstart hid).2 ?_⟩
  have hfirst : Fits "c*".toList "core".toList :=
    .same (by decide) (by decide) (.run "ore".toList .done)
  have hlast : Fits "v?".toList "v1".toList := .same (by decide) (by decide) (.one '1' .done)
  have hrest : Aligned ["v?".toList] ["v1".toList] := .segment (by decide) hlast .done
  exact .segment (by decide) hfirst (.globstar ["a".toList, "b".toList] hrest)

end DocCorpus.Glob
