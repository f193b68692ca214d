/-
  The pieces of a text: its lines with their ends. A text that ends with a line feed is cut apart
  from what follows it (`pieces_append`), and pieces put together again are cut as they were, also
  if some are left out (`pieces_flatten`). Lines that are joined are found again, up to empty lines
  at the end (`exists_splitOn_unlines`, `exists_splitOn_eq_lines`).
-/
import DocCorpus.Proofs.Text.Lines
import DocCorpus.Proofs.Text.Trimming

namespace DocCorpus.Text

/-! ## Pieces -/

/-- A text that ends with the end of a line, if it is not empty. -/
def WholeLines (s : List Char) : Prop := ∀ c, s.getLast? = some c → c = '\n'

/-- A line with its line feed, or a last line without one. -/
inductive IsPiece : List Char → Prop
  | ended {line : List Char} (one : '\n' ∉ line) : IsPiece (line ++ ['\n'])
  | last {line : List Char} (one : '\n' ∉ line) (visible : line ≠ []) : IsPiece line

/-- Pieces of a text: only the last one may lack its line feed. -/
structure Cut (ps : List (List Char)) : Prop where
  pieces : ∀ p ∈ ps, IsPiece p
  ended : ps.Pairwise fun p _ => WholeLines p

theorem wholeLines_nil : WholeLines [] := nofun

theorem wholeLines_concat (s : List Char) : WholeLines (s ++ ['\n']) := by
  intro c hc
  rw [List.getLast?_concat] at hc
  exact (Option.some.inj hc).symm

theorem wholeLines_append {s t : List Char} (hs : WholeLines s) (ht : WholeLines t) :
    WholeLines (s ++ t) := by
  intro c hc
  rw [List.getLast?_append] at hc
  cases hlast : t.getLast? with
  | none =>
    rw [hlast] at hc
    exact hs c hc
  | some d =>
    rw [hlast] at hc
    exact ht c (hlast.trans hc)

/-- What stands behind a line end in a text of whole lines ends with one too. -/
theorem WholeLines.suffix {s t : List Char} (h : WholeLines (s ++ t)) : WholeLines t := by
  intro c hc
  apply h c
  rw [List.getLast?_append, hc]
  rfl

theorem WholeLines.eq_nil {s : List Char} (h : WholeLines s) (hone : '\n' ∉ s) : s = [] := by
  by_contra hne
  have hlast := List.getLast?_eq_some_getLast hne
  exact hone (h _ hlast ▸ List.getLast_mem hne)

theorem pieces_line {s : List Char} (h : '\n' ∉ s) : pieces s = if s = [] then [] else [s] := by
  unfold pieces
  rw [cutLines_of_line h]
  rfl

theorem pieces_cons {s : List Char} (h : '\n' ∉ s) (rest : List Char) :
    pieces (s ++ '\n' :: rest) = (s ++ ['\n']) :: pieces rest := by
  unfold pieces
  rw [cutLines_append h]
  rfl

/-- Whole lines are cut apart from what follows. -/
theorem pieces_append {s : List Char} (h : WholeLines s) (t : List Char) :
    pieces (s ++ t) = pieces s ++ pieces t := by
  induction s using lines_induction with
  | line s hone =>
    rw [h.eq_nil hone]
    rfl
  | step s rest hone ih =>
    have hrest : WholeLines rest := by
      rw [List.append_cons] at h
      exact h.suffix
    rw [List.append_assoc, List.cons_append, pieces_cons hone, pieces_cons hone, ih hrest]
    rfl

theorem cut_pieces (s : List Char) : Cut (pieces s) := by
  induction s using lines_induction with
  | line s hone =>
    rw [pieces_line hone]
    split
    · exact ⟨nofun, .nil⟩
    · next hvisible =>
      exact ⟨List.forall_mem_singleton.2 (.last hone hvisible), List.pairwise_singleton ..⟩
  | step s t hone ih =>
    rw [pieces_cons hone]
    exact ⟨List.forall_mem_cons.2 ⟨.ended hone, ih.pieces⟩,
      .cons (fun _ _ => wholeLines_concat s) ih.ended⟩

theorem Cut.sublist {ps qs : List (List Char)} (h : Cut ps) (hsub : qs.Sublist ps) : Cut qs :=
  ⟨fun p hp => h.pieces p (hsub.subset hp), h.ended.sublist hsub⟩

theorem IsPiece.pieces_eq {p : List Char} (h : IsPiece p) : pieces p = [p] := by
  cases h with
  | ended hone => exact pieces_cons hone []
  | last hone hvisible => rw [pieces_line hone, if_neg hvisible]

/-- Pieces that are put together are cut as they were. -/
theorem pieces_flatten {ps : List (List Char)} (h : Cut ps) : pieces ps.flatten = ps := by
  induction ps with
  | nil => rfl
  | cons p ps ih =>
    have hp : pieces p = [p] := (h.pieces p List.mem_cons_self).pieces_eq
    have hrest := h.sublist (List.sublist_cons_self p ps)
    rw [List.flatten_cons]
    cases ps with
    | nil => rw [List.flatten_nil, List.append_nil, hp]
    | cons q ps =>
      have hwhole : WholeLines p := (List.pairwise_cons.1 h.ended).1 q List.mem_cons_self
      rw [pieces_append hwhole, hp, ih hrest]
      rfl

/-- The pieces of whole lines are whole lines. -/
theorem wholeLines_of_mem_pieces {s p : List Char} (h : WholeLines s) (hp : p ∈ pieces s) :
    WholeLines p := by
  induction s using lines_induction with
  | line s hone =>
    rw [h.eq_nil hone] at hp
    cases hp
  | step s rest hone ih =>
    rw [List.append_cons] at h
    rw [pieces_cons hone] at hp
    rcases List.mem_cons.1 hp with rfl | hp
    · exact wholeLines_concat s
    · exact ih h.suffix hp

/-! ## The line of a piece -/

/-- A line is its piece without blanks at the end. -/
theorem exists_lineOf_append (p : List Char) :
    ∃ w, p = lineOf p ++ w ∧ ∀ c ∈ w, isBlank c = true := by
  have hreturn : ∀ c ∈ ['\r', '\n'], isBlank c = true :=
    List.forall_mem_cons.2 ⟨by decide, forall_blank_lineFeed⟩
  unfold lineOf
  split
  · next rest heq =>
    refine ⟨['\r', '\n'], ?_, hreturn⟩
    rw [← List.reverse_reverse p, heq]
    simp
  · next rest heq =>
    refine ⟨['\n'], ?_, forall_blank_lineFeed⟩
    rw [← List.reverse_reverse p, heq]
    simp
  · exact ⟨[], by rw [List.reverse_reverse, List.append_nil], nofun⟩

theorem trimEnd_lineOf (p : List Char) : trimEnd (lineOf p) = trimEnd p := by
  obtain ⟨w, hp, hw⟩ := exists_lineOf_append p
  conv => rhs; rw [hp]
  exact (dropEnd_append hw).symm

/-- The line of a piece stands in the text of the pieces. -/
theorem infix_flatten_of_mem_map {ps : List (List Char)} {line : List Char}
    (h : line ∈ ps.map lineOf) : line <:+: ps.flatten := by
  obtain ⟨p, hp, rfl⟩ := List.mem_map.1 h
  obtain ⟨w, heq, -⟩ := exists_lineOf_append p
  exact List.IsInfix.trans ⟨[], w, heq.symm⟩ (List.infix_of_mem_flatten hp)

theorem infix_of_mem_lines {s line : List Char} (h : line ∈ lines s) : line <:+: s := by
  have hinfix := infix_flatten_of_mem_map h
  rwa [flatten_pieces] at hinfix

theorem not_mem_of_mem_lines {s line : List Char} (h : line ∈ lines s) : '\n' ∉ line := by
  induction s using ended_induction with
  | line s hone =>
    rw [lines_of_line hone] at h
    split at h
    · cases h
    · exact List.mem_singleton.1 h ▸ hone
  | step e s t hends ih =>
    rw [lines_append hends] at h
    rcases List.mem_cons.1 h with rfl | h
    · exact hends.one
    · exact ih h

/-! ## Lines that are joined -/

/-- Lines that are joined are what a text falls into at its line feeds, but nothing is one empty
line. -/
theorem exists_splitOn_unlines {ls : List (List Char)} (h : ∀ line ∈ ls, '\n' ∉ line) :
    ∃ w, (∀ line ∈ w, line = []) ∧ (unlines ls).splitOn '\n' = ls ++ w := by
  unfold unlines
  by_cases hls : ls = []
  · subst hls
    exact ⟨[[]], List.forall_mem_singleton.2 rfl, rfl⟩
  · exact ⟨[], nofun, by rw [List.splitOn_intercalate '\n' h hls, List.append_nil]⟩

/-- The lines of a text are what it falls into at its line feeds, without an empty end, if no
carriage return stands before a line feed. -/
theorem exists_splitOn_eq_lines {s : List Char}
    (h : ∀ line ∈ s.splitOn '\n', line.getLast? ≠ some '\r') :
    ∃ w, (∀ line ∈ w, line = []) ∧ s.splitOn '\n' = lines s ++ w := by
  induction s using lines_induction with
  | line s hone =>
    rw [List.splitOn_eq_singleton hone, lines_of_line hone]
    split
    · next hnil => exact ⟨[[]], List.forall_mem_singleton.2 rfl, by rw [hnil]; rfl⟩
    · exact ⟨[], nofun, rfl⟩
  | step s t hone ih =>
    rw [List.splitOn_append_cons_self_of_not_mem hone] at h ⊢
    obtain ⟨hs, ht⟩ := List.forall_mem_cons.1 h
    obtain ⟨w, hw, heq⟩ := ih ht
    have hlines : lines (s ++ '\n' :: t) = s :: lines t :=
      lines_append (e := .lineFeed) ⟨hone, fun _ => hs⟩ t
    exact ⟨w, hw, by rw [hlines, heq]; rfl⟩

/-- Without the blanks at their ends the lines of a text are what it falls into at its line feeds,
without an empty end. -/
theorem exists_splitOn_eq_trimmed (s : List Char) :
    ∃ w, (∀ line ∈ w, line = []) ∧
      (s.splitOn '\n').map trimEnd = (lines s).map trimEnd ++ w := by
  induction s using ended_induction with
  | line s hone =>
    rw [List.splitOn_eq_singleton hone, lines_of_line hone]
    split
    · next hnil => exact ⟨[[]], List.forall_mem_singleton.2 rfl, by rw [hnil]; rfl⟩
    · exact ⟨[], nofun, rfl⟩
  | step e s t hends ih =>
    have hfront : trimEnd (s ++ e.front) = trimEnd s := by
      refine dropEnd_append ?_
      cases e with
      | lineFeed => exact fun c hc => nomatch hc
      | returnAndLineFeed => exact List.forall_mem_singleton.2 (by decide)
    obtain ⟨w, hw, heq⟩ := ih
    refine ⟨w, hw, ?_⟩
    rw [lines_append hends, LineEnd.text_append, ← List.append_assoc,
      List.splitOn_append_cons_self_of_not_mem hends.not_mem, List.map_cons, heq, hfront]
    rfl

/-- More lines are joined behind a line feed. -/
theorem unlines_append {ls ls' : List (List Char)} (h : ls ≠ []) (h' : ls' ≠ []) :
    unlines (ls ++ ls') = unlines ls ++ '\n' :: unlines ls' := by
  obtain ⟨first, rest, rfl⟩ := List.exists_cons_of_ne_nil h
  obtain ⟨next, more, rfl⟩ := List.exists_cons_of_ne_nil h'
  clear h h'
  unfold unlines
  induction rest generalizing first with
  | nil =>
    rw [List.singleton_append, List.intercalate_cons_cons, List.intercalate_singleton,
      List.append_assoc]
    rfl
  | cons second rest ih =>
    rw [List.cons_append, List.cons_append, List.intercalate_cons_cons, ← List.cons_append,
      ih second, List.intercalate_cons_cons]
    simp

end DocCorpus.Text
