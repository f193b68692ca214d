/-
  What globstars cover where the segments around them matter. A run of globstars says no more than
  one of them, except at the start of a pattern: there the second one is compiled as if an empty
  segment stood before it (`ofSegments_run`), so that the pattern matches less
  (`isMatch_eq_collapsed_iff`). A globstar at the end of a pattern without other wildcards covers
  the identifier before it and all that lies below that in one line (`isMatch_below_iff`).
-/
import DocCorpus.Proofs.Glob.Alignment
import Mathlib.Data.List.Destutter

namespace DocCorpus.Glob

theorem splitOn_eq_singleton_nil_iff {text : List Char} : text.splitOn '/' = [[]] ↔ text = [] := by
  constructor
  · intro h
    have htext : ['/'].intercalate (text.splitOn '/') = text := List.intercalate_splitOn ..
    rw [← htext, h]
    rfl
  · rintro rfl
    exact List.splitOn_nil '/'

/-! ## Runs of globstars -/

/-- Two segments that are no run of globstars. -/
def Apart (first second : List Char) : Prop := ¬ (first = globstar ∧ second = globstar)

instance : DecidableRel Apart := fun _ _ => inferInstanceAs (Decidable (¬ _))

/-- The segments of a pattern with one globstar for every run of them. -/
def collapse (pattern : List (List Char)) : List (List Char) := pattern.destutter Apart

variable {pattern other segments : List (List Char)} {text : List Char}

theorem aligned_cons_congr (h : ∀ segments, Aligned pattern segments ↔ Aligned other segments)
    (first : List Char) : Aligned (first :: pattern) segments ↔ Aligned (first :: other) segments := by
  by_cases hfirst : first = globstar
  · rw [hfirst, aligned_globstar_iff, aligned_globstar_iff]
    simp only [h]
  · rw [aligned_segment_iff hfirst, aligned_segment_iff hfirst]
    simp only [h]

/-- What two globstars skip one after the other, one of them skips at once. -/
theorem aligned_globstar_globstar_iff :
    Aligned (globstar :: globstar :: pattern) segments ↔ Aligned (globstar :: pattern) segments := by
  constructor
  · intro h
    obtain ⟨skipped, others, rfl, hothers⟩ := aligned_globstar_iff.1 h
    obtain ⟨further, rest, rfl, hrest⟩ := aligned_globstar_iff.1 hothers
    rw [← List.append_assoc]
    exact .globstar (skipped ++ further) hrest
  · exact .globstar []

/-- A globstar also skips a segment that stands between two globstars. -/
theorem aligned_of_between {segment : List Char} (hsegment : segment ≠ globstar)
    (h : Aligned (globstar :: segment :: globstar :: pattern) segments) :
    Aligned (globstar :: pattern) segments := by
  obtain ⟨skipped, others, rfl, hothers⟩ := aligned_globstar_iff.1 h
  obtain ⟨taken, rest, rfl, -, hrest⟩ := (aligned_segment_iff hsegment).1 hothers
  have hmore : Aligned (globstar :: globstar :: pattern) (skipped ++ taken :: rest) := by
    rw [List.append_cons]
    exact .globstar (skipped ++ [taken]) hrest
  exact aligned_globstar_globstar_iff.1 hmore

theorem collapse_run (rest : List (List Char)) :
    collapse (globstar :: globstar :: rest) = collapse (globstar :: rest) := by
  have hrun : ¬ Apart globstar globstar := not_not.2 ⟨rfl, rfl⟩
  exact List.destutter'_cons_neg rest hrun

theorem aligned_collapse_iff : Aligned (collapse pattern) segments ↔ Aligned pattern segments := by
  cases pattern with
  | nil => rfl
  | cons first pattern =>
    show Aligned (pattern.destutter' Apart first) segments ↔ _
    induction pattern generalizing first segments with
    | nil => rfl
    | cons second pattern ih =>
      by_cases hapart : Apart first second
      · rw [List.destutter'_cons_pos _ hapart]
        exact aligned_cons_congr (fun _ => ih second) first
      · obtain ⟨rfl, rfl⟩ := not_not.1 hapart
        rw [List.destutter'_cons_neg _ hapart, ih, aligned_globstar_globstar_iff]

theorem not_run_collapse (pattern : List (List Char)) :
    ¬ [globstar, globstar] <+: collapse pattern := by
  rintro ⟨rest, hrest⟩
  have hchain : (collapse pattern).IsChain Apart := List.isChain_destutter ..
  rw [← hrest] at hchain
  exact (List.isChain_cons_cons.1 hchain).1 ⟨rfl, rfl⟩

/-- Only a single segment is collapsed to a segment other than the globstar. -/
theorem eq_singleton_of_collapse {segment : List Char} (hsegment : segment ≠ globstar)
    (h : collapse pattern = [segment]) : pattern = [segment] := by
  cases pattern with
  | nil => cases h
  | cons first pattern =>
    cases pattern with
    | nil => exact h
    | cons second pattern =>
      replace h : (second :: pattern).destutter' Apart first = [segment] := h
      by_cases hapart : Apart first second
      · rw [List.destutter'_cons_pos _ hapart] at h
        exact absurd (List.cons.inj h).2 (List.destutter'_ne_nil _ _)
      · have hmem : first ∈ (second :: pattern).destutter' Apart first := List.mem_destutter' ..
        rw [h, List.mem_singleton] at hmem
        exact absurd (hmem.symm.trans (not_not.1 hapart).1) hsegment

/-- A globstar after one at the start is compiled as if an empty segment stood between them. -/
theorem ofSegments_run (rest : List (List Char)) :
    ofSegments (globstar :: globstar :: rest) =
      ofSegments (globstar :: [] :: globstar :: rest) := rfl

theorem matches_run_iff {rest : List (List Char)} (hslash : ∀ segment ∈ rest, '/' ∉ segment)
    (hline : '\n' ∉ text) :
    Matches (ofSegments (globstar :: globstar :: rest)) text ↔
      Aligned (globstar :: [] :: globstar :: rest) (text.splitOn '/') := by
  have hgap : ¬ [globstar, globstar] <+: globstar :: [] :: globstar :: rest := by
    rintro ⟨others, hothers⟩
    cases hothers
  have hslashes : ∀ segment ∈ globstar :: [] :: globstar :: rest, '/' ∉ segment := by
    simp only [List.forall_mem_cons]
    exact ⟨by decide, List.not_mem_nil, by decide, hslash⟩
  rw [ofSegments_run]
  exact matches_ofSegments_iff (List.cons_ne_nil _ _) hgap hslashes hline

/-- A pattern that no run starts matches as its segments say. -/
theorem isMatch_iff_of_not_run {pattern id : String} (hcore : core pattern ≠ [])
    (hrun : ¬ [globstar, globstar] <+: (core pattern).splitOn '/') (hid : '\n' ∉ id.toList) :
    (ofPattern pattern).isMatch id = true ↔
      Aligned ((core pattern).splitOn '/')
        ((Identifier.normalizeChars id.toList).splitOn '/') := by
  have hline : '\n' ∉ Identifier.normalizeChars id.toList := Text.not_mem_strip hid
  rw [isMatch_iff_matches hcore]
  exact matches_ofSegments_iff (List.splitOn_ne_nil '/' _) hrun
    (fun _ => Text.not_mem_of_mem_splitOn) hline

/-- Where a pattern has runs of globstars, one globstar for each of them gives the same answer,
except if a run starts the pattern: then the identifier has to hold an empty segment as well. -/
theorem isMatch_eq_collapsed_iff (pattern collapsed id : String)
    (hcollapsed : (core collapsed).splitOn '/' = collapse ((core pattern).splitOn '/'))
    (hid : '\n' ∉ id.toList) :
    (ofPattern pattern).isMatch id = (ofPattern collapsed).isMatch id ↔
      ([globstar, globstar] <+: (core pattern).splitOn '/' →
        (ofPattern collapsed).isMatch id = true →
        Aligned (globstar :: [] :: (core collapsed).splitOn '/')
          ((Identifier.normalizeChars id.toList).splitOn '/')) := by
  have hline : '\n' ∉ Identifier.normalizeChars id.toList := Text.not_mem_strip hid
  have hempty : core collapsed = [] ↔ core pattern = [] := by
    rw [← splitOn_eq_singleton_nil_iff, ← splitOn_eq_singleton_nil_iff, hcollapsed]
    constructor
    · exact eq_singleton_of_collapse (by decide)
    · intro h
      rw [h]
      rfl
  by_cases hcore : core pattern = []
  · rw [isMatch_of_core hcore, isMatch_of_core (hempty.2 hcore)]
    simp
  · have hslash : ∀ segment ∈ (core pattern).splitOn '/', '/' ∉ segment :=
      fun _ => Text.not_mem_of_mem_splitOn
    have hone := isMatch_iff_of_not_run (mt hempty.1 hcore)
      (hcollapsed ▸ not_run_collapse _) hid
    rw [Bool.eq_iff_iff, hone]
    by_cases hrun : [globstar, globstar] <+: (core pattern).splitOn '/'
    · have hstart := hrun
      obtain ⟨rest, hrest⟩ := hrun
      have hsplit : (core pattern).splitOn '/' = globstar :: globstar :: rest := hrest.symm
      rw [hsplit, List.forall_mem_cons, List.forall_mem_cons] at hslash
      have hgap : ∀ segments, Aligned (globstar :: [] :: collapse (globstar :: rest)) segments ↔
          Aligned (globstar :: [] :: globstar :: rest) segments := fun _ =>
        aligned_cons_congr (fun _ => aligned_cons_congr (fun _ => aligned_collapse_iff) []) globstar
      rw [isMatch_iff_matches hcore, hcollapsed, hsplit, collapse_run, hgap, aligned_collapse_iff,
        matches_run_iff hslash.2.2 hline, ← hsplit]
      constructor
      · exact fun h _ => h.2
      · exact fun h => ⟨aligned_of_between (List.cons_ne_nil _ _).symm, h hstart⟩
    · rw [isMatch_iff_of_not_run hcore hrun hid, hcollapsed, aligned_collapse_iff]
      simp [hrun]

theorem isMatch_eq_collapsed_iff_gap :
    (core "**/v?").splitOn '/' = collapse ((core "/**/**/**/v?").splitOn '/') ∧
      '\n' ∉ "docs//v1".toList ∧
      (ofPattern "/**/**/**/v?").isMatch "docs//v1" = (ofPattern "**/v?").isMatch "docs//v1" := by
  have hcollapsed : (core "**/v?").splitOn '/' =
      collapse ((core "/**/**/**/v?").splitOn '/') := by decide
  have hid : '\n' ∉ "docs//v1".toList := by decide
  refine ⟨hcollapsed, hid, (isMatch_eq_collapsed_iff _ _ _ hcollapsed hid).2 fun _ _ => ?_⟩
  have hlast : Fits "v?".toList "v1".toList := .same (by decide) (by decide) (.one '1' .done)
  have hrest : Aligned [globstar, "v?".toList] ["v1".toList] :=
    .globstar [] (.segment (by decide) hlast .done)
  exact .globstar ["docs".toList] (.segment (by decide) .done hrest)

/-- Two globstars do not match an identifier of one segment, which one globstar matches. -/
theorem run_ne_globstar :
    (core "**").splitOn '/' = collapse ((core "**/**").splitOn '/') ∧ '\n' ∉ "index".toList ∧
      (ofPattern "**/**").isMatch "index" ≠ (ofPattern "**").isMatch "index" := by
  decide

/-! ## A globstar at the end -/

/-- A text without wildcards. -/
structure Literal (s : List Char) : Prop where
  run : '*' ∉ s
  one : '?' ∉ s

theorem Literal.tail {c : Char} {s : List Char} (h : Literal (c :: s)) : Literal s :=
  ⟨fun hmem => h.run (List.mem_cons_of_mem c hmem), fun hmem => h.one (List.mem_cons_of_mem c hmem)⟩

theorem Literal.ofChar_eq {c : Char} {s : List Char} (h : Literal (c :: s)) : ofChar c = .char c := by
  have hrun : c ≠ '*' := fun hc => h.run (hc ▸ List.mem_cons_self)
  have hone : c ≠ '?' := fun hc => h.one (hc ▸ List.mem_cons_self)
  unfold ofChar
  rw [if_neg hrun, if_neg hone]

theorem Literal.ne_globstar {s rest : List Char} (h : Literal (s ++ rest)) : s ≠ globstar := by
  rintro rfl
  exact h.run List.mem_cons_self

theorem ofSegments_cons {first : List Char} (hfirst : first ≠ globstar)
    (rest : List (List Char)) :
    ofSegments (first :: rest) = ofSegment first ++ rest.flatMap ofLater := by
  cases rest with
  | nil => rw [ofSegments, if_neg hfirst, List.flatMap_nil, List.append_nil]
  | cons second rest => rw [ofSegments, if_neg hfirst]

/-- The pieces of a text without wildcards are its characters, slashes included. -/
theorem Literal.pieces {s first : List Char} {rest : List (List Char)} (h : Literal s)
    (hsplit : s.splitOn '/' = first :: rest) :
    ofSegment first ++ rest.flatMap ofLater = s.map .char := by
  induction s generalizing first rest with
  | nil =>
    rw [List.splitOn_nil] at hsplit
    cases hsplit
    rfl
  | cons c s ih =>
    cases hs : s.splitOn '/' with
    | nil => exact absurd hs (List.splitOn_ne_nil '/' s)
    | cons second others =>
      have hpieces := ih h.tail hs
      rw [List.splitOn_cons_eq_if_modifyHead, hs] at hsplit
      split at hsplit
      · next hc =>
        obtain ⟨rfl, rfl⟩ := List.cons.inj hsplit
        obtain ⟨after, rfl, -, -⟩ := exists_after_of_splitOn hs
        have hsecond : ofLater second = .char '/' :: ofSegment second := by
          rw [ofLater, if_neg h.tail.ne_globstar]
        rw [List.flatMap_cons, hsecond, List.map_cons, ← hpieces, beq_iff_eq.1 hc]
        rfl
      · obtain ⟨rfl, rfl⟩ := List.cons.inj hsplit
        rw [List.map_cons, ← hpieces, ← h.ofChar_eq]
        rfl

theorem matches_char_append_iff {s : List Char} {pieces : List Piece} :
    Matches (s.map .char ++ pieces) text ↔ ∃ rest, text = s ++ rest ∧ Matches pieces rest := by
  induction s generalizing text with
  | nil =>
    constructor
    · exact fun h => ⟨text, rfl, h⟩
    · rintro ⟨rest, rfl, h⟩
      exact h
  | cons c s ih =>
    constructor
    · rintro ⟨taken, after, rfl, htaken, hafter⟩
      obtain ⟨rest, rfl, hrest⟩ := ih.1 hafter
      rw [show taken = [c] from htaken]
      exact ⟨rest, rfl, hrest⟩
    · rintro ⟨rest, rfl, hrest⟩
      exact ⟨[c], s ++ rest, rfl, rfl, ih.2 ⟨rest, rfl, hrest⟩⟩

theorem matches_below_iff :
    Matches [.below] text ↔ text = [] ∨ ∃ line, text = '/' :: line ∧ '\n' ∉ line := by
  constructor
  · rintro ⟨taken, rest, rfl, htaken, rfl⟩
    rw [List.append_nil]
    rcases htaken with rfl | ⟨line, rfl, hline⟩
    · exact .inl rfl
    · refine .inr ⟨line, rfl, fun hmem => ?_⟩
      exact absurd (hline '\n' hmem) (by decide)
  · rintro (rfl | ⟨line, rfl, hline⟩)
    · exact ⟨[], [], rfl, .inl rfl, rfl⟩
    · exact ⟨'/' :: line, [], (List.append_nil _).symm, .inr ⟨line, rfl, forall_inLine hline⟩, rfl⟩

/-- An identifier with a globstar below it is a pattern as it stands. -/
theorem core_below {front : String} (hne : front ≠ "") (hslash : Identifier.normalize front = front)
    (hblank : Text.trim front.toList = front.toList) :
    core (front ++ "/**") = front.toList ++ '/' :: globstar := by
  have htext : (front ++ "/**").toList = front.toList ++ '/' :: globstar := String.toList_append
  have hlast : (front.toList ++ '/' :: globstar).getLast? = some '*' := by
    rw [List.getLast?_append]
    rfl
  cases hfront : front.toList with
  | nil => exact absurd (String.toList_eq_nil_iff.1 hfront) hne
  | cons c rest =>
    have hhead : (front.toList ++ '/' :: globstar).head? = some c := by
      rw [hfront]
      rfl
    have hvisible : isBlank c = false := by
      refine Text.head_trim (s := front.toList) ?_
      rw [hblank, hfront]
      rfl
    have hnormal : Text.strip (· = '/') front.toList = front.toList := by
      have hchars := congrArg String.toList hslash
      rwa [Identifier.normalize, String.toList_ofList] at hchars
    have hstart : decide (c = '/') = false := by
      refine Text.head_strip (p := (· = '/')) (s := front.toList) ?_
      rw [hnormal, hfront]
      rfl
    unfold core
    rw [htext, Text.trim_eq_self hvisible (by decide : isBlank '*' = false) hhead hlast, ← hfront]
    refine Text.strip_eq_self (fun d hd => ?_) (fun d hd => ?_)
    · rw [hhead] at hd
      exact Option.some.inj hd ▸ hstart
    · rw [hlast] at hd
      exact Option.some.inj hd ▸ by decide

/-- It is compiled to its characters and one piece for what lies below. -/
theorem pieces_below {front : String} (hliteral : Literal front.toList) :
    ofSegments ((front.toList ++ '/' :: globstar).splitOn '/') =
      front.toList.map .char ++ [.below] := by
  have hsplit : (front.toList ++ '/' :: globstar).splitOn '/' =
      front.toList.splitOn '/' ++ [globstar] := List.splitOn_append_cons_self ..
  rw [hsplit]
  cases hfront : front.toList.splitOn '/' with
  | nil => exact absurd hfront (List.splitOn_ne_nil '/' _)
  | cons first others =>
    obtain ⟨rest, hrest, -, -⟩ := exists_after_of_splitOn hfront
    have hfirst : first ≠ globstar := (hrest ▸ hliteral : Literal (first ++ rest)).ne_globstar
    rw [List.cons_append, ofSegments_cons hfirst, List.flatMap_append, ← List.append_assoc,
      hliteral.pieces hfront]
    rfl

/-- A prefix with a globstar below it matches the prefix itself and whatever lies below it, as long
as there is no line feed in the part below. -/
theorem isMatch_below_iff {front : String} (hne : front ≠ "") (hliteral : Literal front.toList)
    (hslash : Identifier.normalize front = front) (hblank : Text.trim front.toList = front.toList)
    (id : String) :
    (ofPattern (front ++ "/**")).isMatch id = true ↔
      Identifier.normalize id = front ∨
        ∃ below : String, Identifier.normalize id = front ++ "/" ++ below ∧ '\n' ∉ below.toList := by
  have hcore := core_below hne hslash hblank
  have hid (s : String) : Identifier.normalizeChars id.toList = s.toList ↔
      Identifier.normalize id = s := by
    rw [← String.toList_inj, Identifier.normalize, String.toList_ofList]
  rw [isMatch_iff_matches (hcore ▸ List.append_ne_nil_of_right_ne_nil _ (List.cons_ne_nil _ _)),
    hcore, pieces_below hliteral, matches_char_append_iff]
  simp only [matches_below_iff]
  constructor
  · rintro ⟨rest, hrest, rfl | ⟨line, rfl, hline⟩⟩
    · rw [List.append_nil, hid] at hrest
      exact .inl hrest
    · refine .inr ⟨String.ofList line, ?_, by rwa [String.toList_ofList]⟩
      rw [← hid, hrest]
      simp
  · rintro (hfront | ⟨below, hbelow, hline⟩)
    · exact ⟨[], by rw [List.append_nil, hid, hfront], .inl rfl⟩
    · refine ⟨'/' :: below.toList, ?_, .inr ⟨_, rfl, hline⟩⟩
      rw [← hid] at hbelow
      rw [hbelow]
      simp

theorem isMatch_below_iff_guides :
    "v1.2/c++" ≠ "" ∧ Literal "v1.2/c++".toList ∧ Identifier.normalize "v1.2/c++" = "v1.2/c++" ∧
      Text.trim "v1.2/c++".toList = "v1.2/c++".toList ∧
      (ofPattern ("v1.2/c++" ++ "/**")).isMatch "/v1.2/c++/a b//?*/" = true := by
  have hne : "v1.2/c++" ≠ "" := by decide
  have hliteral : Literal "v1.2/c++".toList := ⟨by decide, by decide⟩
  have hslash : Identifier.normalize "v1.2/c++" = "v1.2/c++" := by decide
  have hblank : Text.trim "v1.2/c++".toList = "v1.2/c++".toList := by decide
  refine ⟨hne, hliteral, hslash, hblank, (isMatch_below_iff hne hliteral hslash hblank _).2 ?_⟩
  exact .inr ⟨"a b//?*", by decide, by decide⟩

/-- An identifier below a prefix is not matched if a line feed stands in the part below. -/
theorem not_isMatch_below_lineFeed :
    "guides" ≠ "" ∧ Literal "guides".toList ∧ Identifier.normalize "guides" = "guides" ∧
      Text.trim "guides".toList = "guides".toList ∧
      Identifier.normalize "guides/a\nb" = "guides" ++ "/" ++ "a\nb" ∧
      (ofPattern ("guides" ++ "/**")).isMatch "guides/a\nb" = false :=
  ⟨by decide, ⟨by decide, by decide⟩, by decide, by decide, by decide, by decide⟩

end DocCorpus.Glob
