/-
  Comments of a minified body. Comments are taken from each text between two fences on its own, so
  one that goes around fenced code stays (`comment_around_code`). Where taking comments brings no
  mark about and the asides keep the fences in step, no other comment stays
  (`no_comment_outside_code`).
-/
import DocCorpus.Proofs.Minify.Body

namespace DocCorpus.Minify

variable {s t : List Char}

/-- The text of all lines outside fenced code. -/
def outsideCode (s : List Char) : List Char := (outsideLines false (Text.pieces s)).flatten

/-! ## Comments of a text with fences -/

/-- The text outside code has a comment exactly if one goes through its lines. -/
theorem hasComment_outsideCode_iff (s : List Char) :
    HasComment (outsideCode s) ↔ ¬ Uncommented (outsideLines false (Text.lines s)) := by
  have hcut : Text.Cut (outsideLines false (Text.pieces s)) :=
    (Text.cut_pieces s).sublist (outsideLines_sublist false _)
  have hlines : Text.lines (outsideCode s) = outsideLines false (Text.lines s) := by
    unfold Text.lines outsideCode
    rw [Text.pieces_flatten hcut, outsideLines_map isFence_lineOf]
  rw [hasComment_iff, hlines]

/-- A run of pieces has a comment exactly if one goes through its lines. -/
theorem hasComment_run_iff {run : List (List Char)} (h : run ∈ runs false (Text.pieces s)) :
    HasComment run.flatten ↔ ¬ Uncommented (run.map Text.lineOf) := by
  have hcut : Text.Cut run := (Text.cut_pieces s).sublist (sublist_of_mem_runs false h)
  rw [hasComment_iff, Text.lines, Text.pieces_flatten hcut]

theorem runs_lines (s : List Char) :
    runs false (Text.lines s) = (runs false (Text.pieces s)).map (List.map Text.lineOf) :=
  runs_map isFence_lineOf false (Text.pieces s)

/-- Where no comment goes through a run of a text, none goes through a run of what is left of it by
leaving out lines that are no fences and by trimming. -/
theorem not_hasComment_of_thinned (hthinned : Thinned (Text.lines t) (Text.lines s))
    (hs : ∀ text ∈ runTexts false (Text.pieces s), ¬ HasComment text) :
    ∀ text ∈ runTexts false (Text.pieces t), ¬ HasComment text := by
  intro text htext
  obtain ⟨run, hrun, rfl⟩ := List.mem_map.1 htext
  rw [hasComment_run_iff hrun, not_not]
  have hlines : run.map Text.lineOf ∈ runs false (Text.lines t) := by
    rw [runs_lines]
    exact List.mem_map_of_mem hrun
  obtain ⟨run', hrun', hthin⟩ := hthinned.exists_run hlines
  rw [runs_lines] at hrun'
  obtain ⟨run', hmem, rfl⟩ := List.mem_map.1 hrun'
  have hnone := hs run'.flatten (List.mem_map_of_mem hmem)
  rw [hasComment_run_iff hmem, not_not] at hnone
  exact hnone.of_thinned hthin

theorem Uncommented.sublist {ls ls' : List (List Char)} (h : Uncommented ls)
    (hsub : ls'.Sublist ls) : Uncommented ls' :=
  ⟨fun line hline => h.lines line (hsub.subset hline), h.pairs.sublist hsub⟩

/-- No comment goes through the lines of runs if none goes through one of them and none starts in
one and ends in a later one. -/
theorem uncommented_outsideLines (hs : ∀ text ∈ runTexts false (Text.pieces s), ¬ HasComment text)
    (haround : (runTexts false (Text.pieces s)).Pairwise fun text later =>
      ¬ (commentStart <:+: text ∧ commentEnd <:+: later)) :
    Uncommented (outsideLines false (Text.lines s)) := by
  have hlines : ∀ run ∈ runs false (Text.pieces s), Uncommented (run.map Text.lineOf) := by
    intro run hrun
    have hnone := hs run.flatten (List.mem_map_of_mem hrun)
    rwa [hasComment_run_iff hrun, not_not] at hnone
  unfold outsideLines
  rw [runs_lines]
  constructor
  · intro line hline
    obtain ⟨ls, hls, hmem⟩ := List.mem_flatten.1 hline
    obtain ⟨run, hrun, rfl⟩ := List.mem_map.1 hls
    exact (hlines run hrun).lines line hmem
  · rw [List.pairwise_flatten, List.pairwise_map]
    constructor
    · intro ls hls
      obtain ⟨run, hrun, rfl⟩ := List.mem_map.1 hls
      exact (hlines run hrun).pairs
    · refine (List.pairwise_map.1 haround).imp ?_
      rintro run later hnone line hline line' hline' ⟨hstart, hend⟩
      exact hnone ⟨hstart.trans (Text.infix_flatten_of_mem_map hline),
        hend.trans (Text.infix_flatten_of_mem_map hline')⟩

/-! ## Comments of a minified body -/

/-- A text whose comments hide no mark: none stands directly behind a part of the mark that starts
comments, and no line becomes a fence by losing its comments. -/
structure Unhidden (s : List Char) : Prop where
  seamless : ∀ text ∈ runTexts false (Text.pieces s), Seamless text
  plain : ∀ text ∈ runTexts false (Text.pieces s),
    ∀ line ∈ Text.lines (dropComments text), isFence line = false

theorem Unhidden.runTexts_stripComments (h : Unhidden s) :
    runTexts false (Text.pieces (stripComments s)) =
      (runTexts false (Text.pieces s)).map dropComments := by
  refine runTexts_mapOutsideCode dropComments_nil (fun _ => wholeLines_dropComments) ?_
  intro text htext piece hpiece
  rw [← isFence_lineOf]
  exact h.plain text htext _ (List.mem_map_of_mem hpiece)

theorem Unhidden.not_hasComment (h : Unhidden s) :
    ∀ text ∈ runTexts false (Text.pieces (stripComments s)), ¬ HasComment text := by
  rw [h.runTexts_stripComments]
  intro text htext
  obtain ⟨text, hmem, rfl⟩ := List.mem_map.1 htext
  exact not_hasComment_dropComments (h.seamless text hmem)

/-- What is left of the comments of a body whose comments hide no mark. If behind every aside the
fences tell where code is, and no comment goes around code, none is left outside code. If no aside
holds a fence, none is left between two fences, whatever goes around code. -/
theorem no_comment_outside_code {s : String} (hs : Unhidden s.toList) :
    (Reading.text.InStep false (Text.lines (stripComments s.toList)) →
      (runTexts false (Text.pieces s.toList)).Pairwise (fun text later =>
        ¬ (commentStart <:+: dropComments text ∧ commentEnd <:+: dropComments later)) →
      ¬ HasComment (outsideCode (minify s).toList)) ∧
    (Reading.text.PlainAsides (Text.lines (stripComments s.toList)) →
      ∀ text ∈ runTexts false (Text.pieces (minify s).toList), ¬ HasComment text) := by
  have hruns := hs.runTexts_stripComments
  unfold minify
  rw [String.toList_ofList]
  constructor
  · intro hstep haround
    have hstripped : Uncommented (outsideLines false (Text.lines (stripComments s.toList))) := by
      refine uncommented_outsideLines hs.not_hasComment ?_
      rw [hruns, List.pairwise_map]
      exact haround
    have hleft : Uncommented (outsideLines false (leftLines s.toList)) :=
      hstripped.sublist hstep.outsideLines_left
    rw [hasComment_outsideCode_iff, not_not]
    exact hleft.of_thinned ((thinned_body s.toList).outsideLines false)
  · intro hplain
    exact not_hasComment_of_thinned (hplain.thinned_left.trans (thinned_body s.toList))
      hs.not_hasComment

theorem no_comment_outside_code_mixed :
    ¬ HasComment (outsideCode
      (minify "a <!-- x --> b\n```\n<!-- y -->\n```\n:::note\n```\nz\n```\n:::\n").toList) ∧
    ∀ text ∈ runTexts false (Text.pieces
      (minify "<!--\n```\n<!-- y -->\n```\n-->\n:::note\n<!-- z -->\n:::\n").toList),
      ¬ HasComment text := by
  have hinside : Unhidden
      "a <!-- x --> b\n```\n<!-- y -->\n```\n:::note\n```\nz\n```\n:::\n".toList := by
    refine ⟨fun text htext => seamless_of_count ?_, by decide +kernel⟩
    revert text
    decide +kernel
  have haround : Unhidden
      "<!--\n```\n<!-- y -->\n```\n-->\n:::note\n<!-- z -->\n:::\n".toList := by
    refine ⟨fun text htext => seamless_of_count ?_, by decide +kernel⟩
    revert text
    decide +kernel
  exact ⟨(no_comment_outside_code hinside).1 (by decide +kernel) (by decide +kernel),
    (no_comment_outside_code haround).2 (by decide +kernel)⟩

/-- A comment around fenced code stays. -/
theorem comment_around_code :
    minify "<!--\n```\ncode\n```\n-->\n" = "<!--\n```\ncode\n```\n-->" ∧
      HasComment (outsideCode (minify "<!--\n```\ncode\n```\n-->\n").toList) := by
  have hbody : minify "<!--\n```\ncode\n```\n-->\n" = "<!--\n```\ncode\n```\n-->" := by
    decide +kernel
  refine ⟨hbody, ?_⟩
  rw [hbody]
  exact ⟨[], ['\n'], [], by decide +kernel⟩

end DocCorpus.Minify
