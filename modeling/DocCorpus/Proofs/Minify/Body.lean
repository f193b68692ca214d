/-
  The passes together. Empty lines at the end of a text do not matter to the result, so joining the
  lines after one pass and cutting them again for the next changes nothing: a minified body is what
  the passes make of one list of lines (`body_eq`), and its lines are those without the empty ones
  at the ends (`lines_body`). From the lines outside asides they come by leaving out empty lines and
  trimming (`thinned_body`).
-/
import DocCorpus.Proofs.Minify.Asides
import Mathlib.Data.List.DropRight

namespace DocCorpus.Minify

/-! ## Empty lines at the ends -/

section

variable {ls w : List (List Char)}

theorem blank_of_mem_unlines (hw : ∀ line ∈ w, line = []) :
    ∀ c ∈ Text.unlines w, isBlank c = true := by
  induction w with
  | nil => exact nofun
  | cons line w ih =>
    obtain ⟨rfl, hrest⟩ := List.forall_mem_cons.1 hw
    clear hw
    cases w with
    | nil => exact nofun
    | cons next w =>
      have hcons : Text.unlines ([] :: next :: w) = '\n' :: Text.unlines (next :: w) :=
        Text.unlines_append (List.cons_ne_nil [] []) (List.cons_ne_nil next w)
      rw [hcons]
      exact List.forall_mem_cons.2 ⟨by decide, ih hrest⟩

/-- Empty lines at the end are trimmed. -/
theorem trim_unlines_append (ls : List (List Char)) (hw : ∀ line ∈ w, line = []) :
    Text.trim (Text.unlines (ls ++ w)) = Text.trim (Text.unlines ls) := by
  have hblank := blank_of_mem_unlines hw
  by_cases hls : ls = []
  · subst hls
    exact Text.strip_of_forall hblank
  · by_cases hnil : w = []
    · rw [hnil, List.append_nil]
    · rw [Text.unlines_append hls hnil]
      exact Text.strip_append (List.forall_mem_cons.2 ⟨by decide, hblank⟩)

/-- Empty lines at the start are trimmed. -/
theorem trim_append_unlines (ls : List (List Char)) (hw : ∀ line ∈ w, line = []) :
    Text.trim (Text.unlines (w ++ ls)) = Text.trim (Text.unlines ls) := by
  have hblank := blank_of_mem_unlines hw
  by_cases hls : ls = []
  · subst hls
    rw [List.append_nil]
    exact Text.strip_of_forall hblank
  · by_cases hnil : w = []
    · rw [hnil, List.nil_append]
    · rw [Text.unlines_append hnil hls, List.append_cons]
      exact Text.append_strip (List.forall_mem_append.2 ⟨hblank, Text.forall_blank_lineFeed⟩)

end

/-! ## Runs of empty lines -/

section

variable (inCode afterEmpty : Bool) {line : List Char} {ls : List (List Char)}

theorem collapseFrom_cons (line : List Char) (ls : List (List Char)) :
    collapseFrom inCode afterEmpty (line :: ls) =
      if !(inCode ^^ isFence line) && line.isEmpty && afterEmpty then
        collapseFrom (inCode ^^ isFence line) afterEmpty ls
      else line :: collapseFrom (inCode ^^ isFence line) line.isEmpty ls := by
  have hstep : (if isFence line then !inCode else inCode) = (inCode ^^ isFence line) := by
    cases isFence line <;> simp
  rw [collapseFrom, hstep]

theorem collapseFrom_visible (h : line ≠ []) (ls : List (List Char)) :
    collapseFrom inCode afterEmpty (line :: ls) =
      line :: collapseFrom (inCode ^^ isFence line) false ls := by
  have hempty : line.isEmpty = false := by
    rw [← Bool.not_eq_true]
    exact fun hempty => h (List.isEmpty_iff.1 hempty)
  rw [collapseFrom_cons, hempty, Bool.and_false, Bool.false_and, if_neg Bool.false_ne_true]

/-- Lines behind others are collapsed as they are, after an empty line or not. -/
theorem collapseFrom_append (ls ls' : List (List Char)) :
    ∃ afterEmpty', collapseFrom inCode afterEmpty (ls ++ ls') =
      collapseFrom inCode afterEmpty ls ++
        collapseFrom (codeAfter inCode ls) afterEmpty' ls' := by
  induction ls generalizing inCode afterEmpty with
  | nil => exact ⟨afterEmpty, rfl⟩
  | cons line ls ih =>
    rw [List.cons_append, collapseFrom_cons, collapseFrom_cons, codeAfter_cons]
    split
    · exact ih _ _
    · obtain ⟨afterEmpty', heq⟩ := ih (inCode ^^ isFence line) line.isEmpty
      exact ⟨afterEmpty', by rw [heq]; rfl⟩

/-- Only empty lines are left out. -/
theorem thinned_collapseFrom (ls : List (List Char)) :
    Thinned (collapseFrom inCode afterEmpty ls) ls := by
  induction ls generalizing inCode afterEmpty with
  | nil => exact .nil
  | cons line ls ih =>
    rw [collapseFrom_cons]
    split
    · next hdrop =>
      rw [Bool.and_eq_true, Bool.and_eq_true, List.isEmpty_iff] at hdrop
      exact .drop (hdrop.1.2 ▸ isFence_nil) (ih _ _)
    · exact .keep List.infix_rfl rfl (ih _ _)

theorem collapseFrom_sublist (ls : List (List Char)) :
    (collapseFrom inCode afterEmpty ls).Sublist ls := by
  induction ls generalizing inCode afterEmpty with
  | nil => exact .slnil
  | cons line ls ih =>
    rw [collapseFrom_cons]
    split
    · exact (ih _ _).cons line
    · exact (ih _ _).cons_cons line

/-- Lines in code are kept up to the fence that closes it. -/
theorem collapseFrom_code {inner : List (List Char)} {closing : List Char}
    (h : ∀ line ∈ inner, isFence line = false) (hclosing : isFence closing = true)
    (ls : List (List Char)) :
    collapseFrom true afterEmpty (inner ++ closing :: ls) =
      inner ++ closing :: collapseFrom false false ls := by
  induction inner generalizing afterEmpty with
  | nil =>
    rw [List.nil_append, collapseFrom_visible _ _ (ne_nil_of_isFence hclosing), hclosing]
    rfl
  | cons line inner ih =>
    obtain ⟨hline, hinner⟩ := List.forall_mem_cons.1 h
    rw [List.cons_append, collapseFrom_cons, hline, Bool.xor_false, Bool.not_true,
      Bool.false_and, Bool.false_and, if_neg Bool.false_ne_true, ih _ hinner]
    rfl

/-- Fenced code is kept. -/
theorem Fenced.collapseFrom_cons {opening closing : List Char} {inner : List (List Char)}
    (h : Fenced opening inner closing) (ls : List (List Char)) :
    collapseFrom false afterEmpty (opening :: (inner ++ closing :: ls)) =
      opening :: (inner ++ closing :: collapseFrom false false ls) := by
  rw [collapseFrom_visible _ _ (ne_nil_of_isFence h.opens), h.opens, Bool.xor_true, Bool.not_false,
    collapseFrom_code _ h.one h.closes]

/-- Empty lines at the end do not matter to the text of the collapsed lines. -/
theorem trim_collapseFrom_append {w : List (List Char)} (hw : ∀ line ∈ w, line = []) :
    Text.trim (Text.unlines (collapseFrom inCode afterEmpty (ls ++ w))) =
      Text.trim (Text.unlines (collapseFrom inCode afterEmpty ls)) := by
  obtain ⟨afterEmpty', heq⟩ := collapseFrom_append inCode afterEmpty ls w
  rw [heq]
  exact trim_unlines_append _ fun line hline => hw line ((collapseFrom_sublist _ _ w).subset hline)

end

/-! ## From one list of lines -/

/-- The lines outside asides of a text without its comments. -/
def leftLines (s : List Char) : List (List Char) :=
  Reading.text.left (Text.lines (stripComments s))

/-- Lines without blanks at their ends and runs of empty lines. -/
def tidyLines (ls : List (List Char)) : List (List Char) :=
  collapseFrom false false (ls.map Text.trimEnd)

theorem not_mem_of_mem_leftLines {s line : List Char} (h : line ∈ leftLines s) : '\n' ∉ line :=
  Text.not_mem_of_mem_lines ((Reading.text.left_sublist _).subset h)

theorem not_mem_trimEnd {c : Char} {line : List Char} (h : c ∉ line) : c ∉ Text.trimEnd line := by
  obtain ⟨w, hline, -⟩ := Text.exists_dropEnd_append isBlank line
  exact fun hmem => h (hline ▸ List.mem_append_left w hmem)

theorem getLast?_trimEnd_ne {c : Char} (hc : isBlank c = true) (line : List Char) :
    (Text.trimEnd line).getLast? ≠ some c := by
  intro hlast
  rw [Text.dropEnd_last hlast] at hc
  cases hc

/-- A minified body is made of the lines outside asides in one go. -/
theorem body_eq (s : List Char) :
    body s = Text.trim (Text.unlines (tidyLines (leftLines s))) := by
  have hone : ∀ line ∈ leftLines s, '\n' ∉ line := fun _ => not_mem_of_mem_leftLines
  -- `trimmed` are the lines that the third pass makes of the joined lines.
  obtain ⟨w₁, hw₁, hjoined⟩ := Text.exists_splitOn_unlines hone
  obtain ⟨w₂, hw₂, htrimmed⟩ := Text.exists_splitOn_eq_trimmed (Text.unlines (leftLines s))
  generalize hlines : (Text.lines (Text.unlines (leftLines s))).map Text.trimEnd = trimmed
    at htrimmed
  have hplain : ∀ line ∈ trimmed, '\n' ∉ line ∧ line.getLast? ≠ some '\r' := by
    intro line hline
    rw [← hlines] at hline
    obtain ⟨line, hmem, rfl⟩ := List.mem_map.1 hline
    exact ⟨not_mem_trimEnd (Text.not_mem_of_mem_lines hmem), getLast?_trimEnd_ne (by decide) line⟩
  obtain ⟨w₃, hw₃, hjoined'⟩ := Text.exists_splitOn_unlines fun line hline => (hplain line hline).1
  have hends : ∀ line ∈ (Text.unlines trimmed).splitOn '\n', line.getLast? ≠ some '\r' := by
    rw [hjoined']
    refine List.forall_mem_append.2 ⟨fun line hline => (hplain line hline).2, fun line hline => ?_⟩
    rw [hw₃ line hline]
    exact nofun
  obtain ⟨w₄, hw₄, hcut⟩ := Text.exists_splitOn_eq_lines hends
  have hempty : ∀ line ∈ w₁.map Text.trimEnd, line = [] := by
    intro line hline
    obtain ⟨line, hmem, rfl⟩ := List.mem_map.1 hline
    rw [hw₁ line hmem]
    rfl
  unfold body collapseBlankLines trimLineEnds tidyLines
  rw [stripAsides_eq]
  change Text.trim (Text.unlines (collapseFrom false false (Text.lines (Text.unlines
    ((Text.lines (Text.unlines (leftLines s))).map Text.trimEnd))))) = _
  rw [hlines, ← trim_collapseFrom_append false false hw₄, ← hcut, hjoined',
    trim_collapseFrom_append false false hw₃, ← trim_collapseFrom_append false false hw₂,
    ← htrimmed, hjoined, List.map_append, trim_collapseFrom_append false false hempty]

/-! ## The lines of a minified body -/

section

variable {ls w : List (List Char)}

theorem exists_unlines_cons (ls : List (List Char)) :
    ∃ rest, ∀ line, Text.unlines (line :: ls) = line ++ rest := by
  cases ls with
  | nil => exact ⟨[], fun line => (List.intercalate_singleton ..).trans (List.append_nil line).symm⟩
  | cons next ls =>
    refine ⟨'\n' :: Text.unlines (next :: ls), fun line => ?_⟩
    unfold Text.unlines
    rw [List.intercalate_cons_cons, List.append_assoc]
    rfl

theorem exists_unlines_concat (ls : List (List Char)) (line : List Char) :
    ∃ front, Text.unlines (ls ++ [line]) = front ++ line := by
  have hone : Text.unlines [line] = line := List.intercalate_singleton ..
  by_cases hls : ls = []
  · exact ⟨[], by rw [hls, List.nil_append, hone, List.nil_append]⟩
  · refine ⟨Text.unlines ls ++ ['\n'], ?_⟩
    rw [Text.unlines_append hls (List.cons_ne_nil line []), hone, List.append_assoc]
    rfl

/-- Lines that can be joined and found again: without line feeds and without blanks at their ends,
and the last one is not empty. -/
structure Tidy (ls : List (List Char)) : Prop where
  one : ∀ line ∈ ls, '\n' ∉ line
  ends : ∀ line ∈ ls, ∀ c, line.getLast? = some c → isBlank c = false
  last : ls.getLast? ≠ some []

theorem Tidy.last_unlines (h : Tidy ls) {c : Char} (hc : (Text.unlines ls).getLast? = some c) :
    isBlank c = false := by
  rcases List.eq_nil_or_concat ls with rfl | ⟨front, line, rfl⟩
  · cases hc
  · have hmem : line ∈ front ++ [line] := List.mem_append_right _ List.mem_cons_self
    obtain ⟨text, heq⟩ := exists_unlines_concat front line
    rw [List.concat_eq_append] at h hc
    cases hline : line.getLast? with
    | none =>
      refine absurd ?_ h.last
      rw [List.getLast?_eq_none_iff.1 hline, List.getLast?_concat]
    | some d =>
      rw [heq, List.getLast?_append, hline] at hc
      exact Option.some.inj hc ▸ h.ends line hmem d hline

theorem Tidy.lines_unlines (h : Tidy ls) : Text.lines (Text.unlines ls) = ls := by
  by_cases hnil : ls = []
  · rw [hnil]
    rfl
  · have hsplit : (Text.unlines ls).splitOn '\n' = ls := List.splitOn_intercalate '\n' h.one hnil
    have hends : ∀ line ∈ (Text.unlines ls).splitOn '\n', line.getLast? ≠ some '\r' := by
      intro line hline hlast
      rw [hsplit] at hline
      exact absurd (h.ends line hline '\r' hlast) (by decide)
    obtain ⟨w, hw, heq⟩ := Text.exists_splitOn_eq_lines hends
    rw [hsplit] at heq
    cases hlast : w.getLast? with
    | none => rw [List.getLast?_eq_none_iff.1 hlast, List.append_nil] at heq; exact heq.symm
    | some line =>
      refine absurd ?_ h.last
      rw [heq, List.getLast?_append, hlast, hw line (List.mem_of_getLast? hlast)]
      rfl

/-- Lines stay tidy, and the first one visible, when the first one is trimmed at its start. -/
theorem Tidy.trimStart {first : List Char} (h : Tidy (first :: ls)) (hfirst : first ≠ []) :
    Text.trimStart first ≠ [] ∧ Tidy (Text.trimStart first :: ls) := by
  obtain ⟨hone, hones⟩ := List.forall_mem_cons.1 h.one
  obtain ⟨hend, hends⟩ := List.forall_mem_cons.1 h.ends
  have hvisible : Text.trimStart first ≠ [] := by
    intro hnil
    have hall := List.dropWhile_eq_nil_iff.1 hnil
    have hlast := hend _ (List.getLast?_eq_some_getLast hfirst)
    rw [hall _ (List.getLast_mem hfirst)] at hlast
    cases hlast
  obtain ⟨w, hw, -⟩ := Text.exists_dropWhile_append isBlank first
  have hlast : ∀ c, (Text.trimStart first).getLast? = some c → first.getLast? = some c := by
    intro c hc
    rw [hw, List.getLast?_append, show (first.dropWhile isBlank).getLast? = some c from hc]
    rfl
  refine ⟨hvisible, List.forall_mem_cons.2 ⟨?_, hones⟩, List.forall_mem_cons.2 ⟨?_, hends⟩, ?_⟩
  · exact fun hmem => hone (hw ▸ List.mem_append_right w hmem)
  · exact fun c hc => hend c (hlast c hc)
  · cases ls with
    | nil => exact fun hnil => hvisible (Option.some.inj hnil)
    | cons next ls => exact h.last

/-- Trimming joined lines trims the start of the first one, if there are no empty lines at the
ends. -/
theorem Tidy.trim_unlines {first : List Char} (h : Tidy (first :: ls)) (hfirst : first ≠ []) :
    Text.trim (Text.unlines (first :: ls)) = Text.unlines (Text.trimStart first :: ls) := by
  obtain ⟨hvisible, htidy⟩ := h.trimStart hfirst
  obtain ⟨rest, hrest⟩ := exists_unlines_cons ls
  have hstart : (Text.unlines (first :: ls)).dropWhile isBlank =
      Text.unlines (Text.trimStart first :: ls) := by
    rw [hrest, hrest, List.dropWhile_append, if_neg]
    · rfl
    · exact fun hempty => hvisible (List.isEmpty_iff.1 hempty)
  unfold Text.trim Text.strip
  rw [hstart, Text.dropEnd_eq_self fun c hc => htidy.last_unlines hc]

theorem all_tidyLines {s line : List Char} (h : line ∈ tidyLines (leftLines s)) :
    '\n' ∉ line ∧ ∀ c, line.getLast? = some c → isBlank c = false := by
  obtain ⟨line', hmem, rfl⟩ := List.mem_map.1 ((collapseFrom_sublist _ _ _).subset h)
  exact ⟨not_mem_trimEnd (not_mem_of_mem_leftLines hmem), fun c hc => Text.dropEnd_last hc⟩

/-- The lines without the empty ones at the ends. -/
def trimLines (ls : List (List Char)) : List (List Char) :=
  (ls.dropWhile List.isEmpty).rdropWhile List.isEmpty

theorem exists_trimLines_append (ls : List (List Char)) :
    ∃ front back, ls = front ++ trimLines ls ++ back ∧
      (∀ line ∈ front, line = []) ∧ ∀ line ∈ back, line = [] := by
  refine ⟨ls.takeWhile List.isEmpty, (ls.dropWhile List.isEmpty).rtakeWhile List.isEmpty,
    ?_, ?_, ?_⟩
  · unfold trimLines
    rw [List.append_assoc, List.rdropWhile_append_rtakeWhile, List.takeWhile_append_dropWhile]
  · exact fun line hline => List.isEmpty_iff.1 (List.all_eq_true.1 List.all_takeWhile line hline)
  · exact fun line hline => List.isEmpty_iff.1 (List.mem_rtakeWhile_imp hline)

theorem dropWhile_append_cons {α : Type} {p : α → Bool} {a : α} (ha : p a = false)
    (front back : List α) :
    (front ++ a :: back).dropWhile p = front.dropWhile p ++ a :: back := by
  rw [List.dropWhile_append]
  split
  · next hnil =>
    rw [List.isEmpty_iff.1 hnil, List.dropWhile_cons_of_neg (by rw [ha]; exact Bool.false_ne_true)]
    rfl
  · rfl

theorem rdropWhile_append_cons {α : Type} {p : α → Bool} {a : α} (ha : p a = false)
    (front back : List α) :
    (front ++ a :: back).rdropWhile p = front ++ a :: back.rdropWhile p := by
  unfold List.rdropWhile
  rw [List.reverse_append, List.reverse_cons, List.append_assoc, List.singleton_append,
    dropWhile_append_cons ha]
  simp

/-- Lines up to one that is not empty are trimmed at their start only. -/
theorem trimLines_append {first last : List Char} (hfirst : first ≠ []) (hlast : last ≠ [])
    (front inner back : List (List Char)) :
    trimLines (front ++ first :: (inner ++ last :: back)) =
      front.dropWhile List.isEmpty ++ first :: (inner ++ last :: back.rdropWhile List.isEmpty) := by
  have hvisible : ∀ line : List Char, line ≠ [] → line.isEmpty = false := fun line hline =>
    Bool.eq_false_iff.2 (mt List.isEmpty_iff.1 hline)
  unfold trimLines
  rw [dropWhile_append_cons (hvisible first hfirst), ← List.cons_append, ← List.append_assoc,
    rdropWhile_append_cons (hvisible last hlast), List.append_assoc, List.cons_append]

theorem head?_trimLines_ne (ls : List (List Char)) : (trimLines ls).head? ≠ some [] := by
  intro hhead
  have hprefix : trimLines ls <+: ls.dropWhile List.isEmpty := List.rdropWhile_prefix _ _
  obtain ⟨rest, hrest⟩ := hprefix
  have hnot := List.head?_dropWhile_not List.isEmpty ls
  rw [← hrest, List.head?_append, hhead] at hnot
  cases hnot

theorem getLast?_trimLines_ne (ls : List (List Char)) : (trimLines ls).getLast? ≠ some [] := by
  intro hlast
  have hne : trimLines ls ≠ [] := by
    intro hnil
    rw [hnil] at hlast
    cases hlast
  refine List.rdropWhile_last_not List.isEmpty _ hne ?_
  rw [List.getLast?_eq_some_getLast hne] at hlast
  exact List.isEmpty_iff.2 (Option.some.inj hlast)

/-- The lines that the passes leave, without the empty ones at the ends and the blanks before the
first one. -/
def bodyLines (s : List Char) : List (List Char) :=
  (trimLines (tidyLines (leftLines s))).modifyHead Text.trimStart

/-- A minified body is made of its lines, which are tidy and start with a visible one. -/
theorem body_eq_unlines (s : List Char) :
    body s = Text.unlines (bodyLines s) ∧ Tidy (bodyLines s) ∧
      (bodyLines s).head? ≠ some [] := by
  obtain ⟨front, back, hls, hfront, hback⟩ := exists_trimLines_append (tidyLines (leftLines s))
  have hall : ∀ line ∈ trimLines (tidyLines (leftLines s)),
      '\n' ∉ line ∧ ∀ c, line.getLast? = some c → isBlank c = false := by
    intro line hline
    refine all_tidyLines (s := s) ?_
    rw [hls]
    exact List.mem_append_left _ (List.mem_append_right _ hline)
  have hhead := head?_trimLines_ne (tidyLines (leftLines s))
  have hlast := getLast?_trimLines_ne (tidyLines (leftLines s))
  have htrim : body s = Text.trim (Text.unlines (trimLines (tidyLines (leftLines s)))) := by
    rw [body_eq]
    conv => lhs; rw [hls, trim_unlines_append _ hback, trim_append_unlines _ hfront]
  unfold bodyLines
  rw [htrim]
  generalize trimLines (tidyLines (leftLines s)) = ls at hall hhead hlast ⊢
  cases ls with
  | nil => exact ⟨rfl, ⟨nofun, nofun, nofun⟩, nofun⟩
  | cons first ls =>
    have htidy : Tidy (first :: ls) :=
      ⟨fun line hline => (hall line hline).1, fun line hline => (hall line hline).2, hlast⟩
    have hfirst : first ≠ [] := fun hnil => hhead (congrArg some hnil)
    obtain ⟨hvisible, htrimmed⟩ := htidy.trimStart hfirst
    exact ⟨htidy.trim_unlines hfirst, htrimmed, fun hnil => hvisible (Option.some.inj hnil)⟩

theorem lines_body (s : List Char) : Text.lines (body s) = bodyLines s := by
  obtain ⟨hbody, htidy, -⟩ := body_eq_unlines s
  rw [hbody, htidy.lines_unlines]

/-! ## What becomes of a line -/

/-- Lines that are no fences may stand around a text. -/
theorem thinned_append {front back : List (List Char)} (ls : List (List Char))
    (hfront : ∀ line ∈ front, isFence line = false) (hback : ∀ line ∈ back, isFence line = false) :
    Thinned ls (front ++ ls ++ back) := by
  induction front with
  | cons line front ih =>
    obtain ⟨hline, hfront⟩ := List.forall_mem_cons.1 hfront
    exact .drop hline (ih hfront)
  | nil =>
    rw [List.nil_append]
    induction ls with
    | cons line ls ih => exact .keep List.infix_rfl rfl ih
    | nil =>
      rw [List.nil_append]
      induction back with
      | nil => exact .nil
      | cons line back ih =>
        obtain ⟨hline, hback⟩ := List.forall_mem_cons.1 hback
        exact .drop hline (ih hback)

theorem thinned_modifyHead_trimStart (ls : List (List Char)) :
    Thinned (ls.modifyHead Text.trimStart) ls := by
  cases ls with
  | nil => exact .nil
  | cons line ls =>
    exact .keep (List.dropWhile_suffix isBlank).isInfix (isFence_trimStart line) (.refl ls)

/-- The lines of a minified body are trimmed lines outside asides, and no fence of these is
missing. -/
theorem thinned_body (s : List Char) : Thinned (Text.lines (body s)) (leftLines s) := by
  have hends : ∀ ls : List (List Char), Thinned (trimLines ls) ls := by
    intro ls
    obtain ⟨front, back, hls, hfront, hback⟩ := exists_trimLines_append ls
    conv => rhs; rw [hls]
    refine thinned_append _ (fun line hline => ?_) fun line hline => ?_
    · exact hfront line hline ▸ isFence_nil
    · exact hback line hline ▸ isFence_nil
  rw [lines_body, bodyLines]
  refine .trans ?_ (thinned_modifyHead_trimStart _)
  refine .trans ?_ (hends _)
  refine .trans ?_ (thinned_collapseFrom false false _)
  refine .map (fun line => ?_) isFence_trimEnd _
  obtain ⟨w, hline, -⟩ := Text.exists_dropEnd_append isBlank line
  exact ⟨[], w, hline.symm⟩

end

end DocCorpus.Minify
