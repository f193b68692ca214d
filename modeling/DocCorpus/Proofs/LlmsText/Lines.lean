/-
  The lines that a reader of an index sees. They are the lines of the text without the blanks at
  their ends, and the empty ones are passed over; so a text cut at a line feed is read as its two
  parts, and blanks at the ends of a text are not seen at all.
-/
import DocCorpus.LlmsText.Reader
import DocCorpus.Proofs.Text.Lines
import DocCorpus.Proofs.Text.Trimming
import Mathlib.Data.List.Basic

namespace DocCorpus.LlmsText

/-! ## Line by line -/

theorem trim_front (e : Text.LineEnd) (line : List Char) :
    Text.trim (line ++ e.front) = Text.trim line := by
  refine Text.strip_append ?_
  cases e with
  | lineFeed => exact fun c hc => nomatch hc
  | returnAndLineFeed => exact List.forall_mem_singleton.2 (by decide)

theorem contentLines_eq_splitOn (s : List Char) :
    contentLines s = ((s.splitOn '\n').map Text.trim).filter (· ≠ []) := by
  unfold contentLines
  induction s using Text.ended_induction with
  | line s h =>
    rw [Text.lines_of_line h, List.splitOn_eq_singleton h]
    split
    · next hnil =>
      subst hnil
      rfl
    · rfl
  | step e s t h ih =>
    rw [Text.lines_append h, Text.LineEnd.text_append, ← List.append_assoc,
      List.splitOn_append_cons_self_of_not_mem h.not_mem, List.map_cons, List.map_cons, trim_front,
      List.filter_cons, List.filter_cons, ih]

/-- A text cut at a line feed is read as its two parts. -/
theorem contentLines_append (s t : List Char) :
    contentLines (s ++ '\n' :: t) = contentLines s ++ contentLines t := by
  rw [contentLines_eq_splitOn, contentLines_eq_splitOn, contentLines_eq_splitOn,
    List.splitOn_append_cons_self, List.map_append, List.filter_append]

theorem contentLines_of_line {s : List Char} (h : '\n' ∉ s) :
    contentLines s = [Text.trim s].filter (· ≠ []) := by
  rw [contentLines_eq_splitOn, List.splitOn_eq_singleton h, List.map_singleton]

/-! ## Blanks at the ends -/

theorem contentLines_of_blank (w : List Char) (hw : ∀ c ∈ w, isBlank c = true) :
    contentLines w = [] := by
  induction w using Text.lines_induction with
  | line w h =>
    rw [contentLines_of_line h, show Text.trim w = [] from Text.strip_of_forall hw]
    rfl
  | step s t h ih =>
    have hs : ∀ c ∈ s, isBlank c = true := fun c hc => hw c (List.mem_append_left _ hc)
    have ht : ∀ c ∈ t, isBlank c = true := fun c hc =>
      hw c (List.mem_append_right _ (List.mem_cons_of_mem _ hc))
    rw [contentLines_append, ih ht, contentLines_of_line h,
      show Text.trim s = [] from Text.strip_of_forall hs]
    rfl

theorem contentLines_append_blank (s w : List Char) (hw : ∀ c ∈ w, isBlank c = true) :
    contentLines (s ++ w) = contentLines s := by
  induction s using Text.lines_induction with
  | line s h =>
    by_cases hmem : '\n' ∈ w
    · obtain ⟨first, rest, rfl, hfirst⟩ := List.eq_append_cons_of_mem hmem
      have hblank : ∀ c ∈ first, isBlank c = true := fun c hc => hw c (List.mem_append_left _ hc)
      have hrest := contentLines_of_blank rest fun c hc =>
        hw c (List.mem_append_right _ (List.mem_cons_of_mem _ hc))
      have hline : '\n' ∉ s ++ first := by
        rw [List.mem_append, not_or]
        exact ⟨h, hfirst⟩
      rw [← List.append_assoc, contentLines_append, hrest, List.append_nil,
        contentLines_of_line hline, contentLines_of_line h,
        show Text.trim (s ++ first) = Text.trim s from Text.strip_append hblank]
    · have hline : '\n' ∉ s ++ w := by
        rw [List.mem_append, not_or]
        exact ⟨h, hmem⟩
      rw [contentLines_of_line hline, contentLines_of_line h,
        show Text.trim (s ++ w) = Text.trim s from Text.strip_append hw]
  | step s t _ ih =>
    rw [List.append_assoc, List.cons_append, contentLines_append, contentLines_append, ih]

theorem contentLines_blank_append (w s : List Char) (hw : ∀ c ∈ w, isBlank c = true) :
    contentLines (w ++ s) = contentLines s := by
  induction w using Text.lines_induction with
  | line w h =>
    by_cases hmem : '\n' ∈ s
    · obtain ⟨first, rest, rfl, hfirst⟩ := List.eq_append_cons_of_mem hmem
      have hline : '\n' ∉ w ++ first := by
        rw [List.mem_append, not_or]
        exact ⟨h, hfirst⟩
      rw [← List.append_assoc, contentLines_append, contentLines_append,
        contentLines_of_line hline, contentLines_of_line hfirst,
        show Text.trim (w ++ first) = Text.trim first from Text.append_strip hw]
    · have hline : '\n' ∉ w ++ s := by
        rw [List.mem_append, not_or]
        exact ⟨h, hmem⟩
      rw [contentLines_of_line hline, contentLines_of_line hmem,
        show Text.trim (w ++ s) = Text.trim s from Text.append_strip hw]
  | step u t _ ih =>
    have hu := contentLines_of_blank u fun c hc => hw c (List.mem_append_left _ hc)
    have ht : ∀ c ∈ t, isBlank c = true := fun c hc =>
      hw c (List.mem_append_right _ (List.mem_cons_of_mem _ hc))
    rw [List.append_assoc, List.cons_append, contentLines_append, hu, List.nil_append, ih ht]

theorem contentLines_lineFeed (s : List Char) : contentLines ('\n' :: s) = contentLines s :=
  contentLines_blank_append ['\n'] s Text.forall_blank_lineFeed

theorem contentLines_trimEnd (s : List Char) : contentLines (Text.trimEnd s) = contentLines s := by
  obtain ⟨w, hs, hw⟩ := Text.exists_dropEnd_append isBlank s
  conv => rhs; rw [hs]
  exact (contentLines_append_blank _ w hw).symm

theorem contentLines_trim (s : List Char) : contentLines (Text.trim s) = contentLines s := by
  obtain ⟨w, hs, hw⟩ := Text.exists_dropWhile_append isBlank s
  have htrim : contentLines (Text.trim s) = contentLines (s.dropWhile isBlank) :=
    contentLines_trimEnd (s.dropWhile isBlank)
  conv => rhs; rw [hs]
  rw [htrim, contentLines_blank_append w _ hw]

/-! ## Texts made of lines -/

/-- A line that a reader sees as it is. -/
structure Solid (line : List Char) : Prop where
  one : '\n' ∉ line
  trimmed : Text.trim line = line
  visible : line ≠ []

theorem Solid.contentLines {line : List Char} (h : Solid line) : contentLines line = [line] := by
  rw [contentLines_of_line h.one, h.trimmed, List.filter_cons, if_pos (decide_eq_true h.visible)]
  rfl

/-- Lines with a line feed after each are read one after the other. -/
theorem contentLines_ended (lines : List (List Char)) :
    contentLines (lines.flatMap (· ++ ['\n'])) = lines.flatMap contentLines := by
  induction lines with
  | nil => rfl
  | cons line lines ih =>
    rw [List.flatMap_cons, List.append_assoc, List.singleton_append, contentLines_append, ih,
      List.flatMap_cons]

theorem contentLines_flatMap {lines : List (List Char)} (h : ∀ line ∈ lines, Solid line) :
    contentLines (lines.flatMap (· ++ ['\n'])) = lines := by
  rw [contentLines_ended, List.flatMap_congr fun line hline => (h line hline).contentLines,
    List.flatMap_singleton']

/-- Parts with an empty line between each two are read one after the other. -/
theorem contentLines_intercalate (parts : List (List Char)) :
    contentLines (['\n', '\n'].intercalate parts) = parts.flatMap contentLines := by
  induction parts with
  | nil => rfl
  | cons part parts ih =>
    cases parts with
    | nil => rw [List.intercalate_singleton, List.flatMap_singleton]
    | cons next parts =>
      rw [List.intercalate_cons_cons, List.append_assoc, List.flatMap_cons, ← ih]
      show contentLines (part ++ '\n' :: '\n' :: ['\n', '\n'].intercalate (next :: parts)) = _
      rw [contentLines_append, contentLines_lineFeed]

end DocCorpus.LlmsText
