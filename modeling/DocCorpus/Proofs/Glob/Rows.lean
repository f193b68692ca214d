/-
  What the rows of a compiled pattern say. A piece stands for certain texts, and a sequence of
  pieces matches a text that is made of such texts in order. The row of a sequence of pieces holds
  the right answer for every place of the text (`rows_answer`); it is computed from the end, one
  piece at a time, and every piece keeps the row right.
-/
import DocCorpus.Glob

namespace DocCorpus.Glob

variable {P Q : List Char → Prop} {p : Char → Bool} {text : List Char} {row other : List Bool}

/-! ## Pieces and texts -/

/-- The texts that a piece stands for. -/
def Piece.Takes : Piece → List Char → Prop
  | .char c, taken => taken = [c]
  | .anyChar, taken => ∃ c, inSegment c = true ∧ taken = [c]
  | .anyRun, taken => ∀ c ∈ taken, inSegment c = true
  | .anything, taken => ∀ c ∈ taken, inLine c = true
  | .above, taken => taken = [] ∨ ∃ line, taken = line ++ ['/'] ∧ ∀ c ∈ line, inLine c = true
  | .below, taken => taken = [] ∨ ∃ line, taken = '/' :: line ∧ ∀ c ∈ line, inLine c = true

/-- A text made of texts that the pieces stand for. -/
def Matches : List Piece → List Char → Prop
  | [], text => text = []
  | piece :: pieces, text =>
    ∃ taken rest, text = taken ++ rest ∧ piece.Takes taken ∧ Matches pieces rest

/-! ## Rows of answers -/

/-- A row that answers rightly, for every place of a text, whether the text from there on has a
property. -/
def Answers (P : List Char → Prop) : List Char → List Bool → Prop
  | [], row => ∃ here, row = [here] ∧ (here = true ↔ P [])
  | c :: text, row =>
    ∃ here later, row = here :: later ∧ (here = true ↔ P (c :: text)) ∧ Answers P text later

theorem Answers.head (h : Answers P text row) : row.headD false = true ↔ P text := by
  cases text with
  | nil =>
    obtain ⟨here, rfl, hhere⟩ := h
    exact hhere
  | cons c text =>
    obtain ⟨here, later, rfl, hhere, _⟩ := h
    exact hhere

theorem Answers.congr (hPQ : ∀ text, P text ↔ Q text) (h : Answers P text row) :
    Answers Q text row := by
  induction text generalizing row with
  | nil =>
    obtain ⟨here, rfl, hhere⟩ := h
    exact ⟨here, rfl, hhere.trans (hPQ [])⟩
  | cons c text ih =>
    obtain ⟨here, later, rfl, hhere, hlater⟩ := h
    exact ⟨here, later, rfl, hhere.trans (hPQ _), ih hlater⟩

theorem endRow_answers (text : List Char) : Answers (· = []) text (endRow text) := by
  induction text with
  | nil => exact ⟨true, rfl, by simp⟩
  | cons c text ih => exact ⟨false, endRow text, rfl, by simp, ih⟩

theorem Answers.single (h : Answers P text row) :
    Answers (fun s => ∃ c rest, s = c :: rest ∧ p c = true ∧ P rest) text
      (single p text row) := by
  induction text generalizing row with
  | nil =>
    obtain ⟨here, rfl, _⟩ := h
    exact ⟨false, rfl, by simp⟩
  | cons c text ih =>
    obtain ⟨here, later, rfl, _, hlater⟩ := h
    refine ⟨p c && later.headD false, Glob.single p text later, rfl, ?_, ih hlater⟩
    rw [Bool.and_eq_true, hlater.head]
    constructor
    · rintro ⟨hc, hrest⟩
      exact ⟨c, text, rfl, hc, hrest⟩
    · rintro ⟨c', rest, heq, hc, hrest⟩
      injection heq with hc' hrest'
      subst hc' hrest'
      exact ⟨hc, hrest⟩

theorem Answers.run (h : Answers P text row) :
    Answers (fun s => ∃ taken rest, s = taken ++ rest ∧ (∀ c ∈ taken, p c = true) ∧ P rest) text
      (run p text row) := by
  induction text generalizing row with
  | nil =>
    obtain ⟨here, rfl, hhere⟩ := h
    refine ⟨here, rfl, hhere.trans ⟨fun hP => ⟨[], [], rfl, by simp, hP⟩, ?_⟩⟩
    rintro ⟨taken, rest, heq, _, hP⟩
    obtain ⟨_, rfl⟩ := List.append_eq_nil_iff.1 heq.symm
    exact hP
  | cons c text ih =>
    obtain ⟨here, later, rfl, hhere, hlater⟩ := h
    have hrun := ih hlater
    refine ⟨here || (p c && (Glob.run p text later).headD false), _, rfl, ?_, hrun⟩
    rw [Bool.or_eq_true, Bool.and_eq_true, hrun.head, hhere]
    constructor
    · rintro (hP | ⟨hc, taken, rest, rfl, htaken, hP⟩)
      · exact ⟨[], c :: text, rfl, by simp, hP⟩
      · exact ⟨c :: taken, rest, rfl, List.forall_mem_cons.2 ⟨hc, htaken⟩, hP⟩
    · rintro ⟨taken, rest, heq, htaken, hP⟩
      cases taken with
      | nil =>
        rw [List.nil_append] at heq
        rw [heq]
        exact .inl hP
      | cons c' taken =>
        injection heq with hc' hrest
        subst hc'
        obtain ⟨hc, htaken⟩ := List.forall_mem_cons.1 htaken
        exact .inr ⟨hc, taken, rest, hrest, htaken, hP⟩

theorem Answers.either (h : Answers P text row) (h' : Answers Q text other) :
    Answers (fun s => P s ∨ Q s) text (either row other) := by
  induction text generalizing row other with
  | nil =>
    obtain ⟨here, rfl, hhere⟩ := h
    obtain ⟨here', rfl, hhere'⟩ := h'
    exact ⟨here || here', rfl, by rw [Bool.or_eq_true, hhere, hhere']⟩
  | cons c text ih =>
    obtain ⟨here, later, rfl, hhere, hlater⟩ := h
    obtain ⟨here', later', rfl, hhere', hlater'⟩ := h'
    exact ⟨here || here', Glob.either later later', rfl, by rw [Bool.or_eq_true, hhere, hhere'],
      ih hlater hlater'⟩

/-- Putting a piece in front keeps the answers right. -/
theorem Answers.piece (piece : Piece) (h : Answers P text row) :
    Answers (fun s => ∃ taken rest, s = taken ++ rest ∧ piece.Takes taken ∧ P rest) text
      (piece.row text row) := by
  cases piece with
  | char c =>
    refine h.single.congr fun s => ⟨?_, ?_⟩
    · rintro ⟨c', rest, rfl, hc, hP⟩
      rw [decide_eq_true_eq] at hc
      exact ⟨[c'], rest, rfl, by rw [hc]; rfl, hP⟩
    · rintro ⟨taken, rest, rfl, htaken, hP⟩
      rw [show taken = [c] from htaken]
      exact ⟨c, rest, rfl, decide_eq_true rfl, hP⟩
  | anyChar =>
    refine h.single.congr fun s => ⟨?_, ?_⟩
    · rintro ⟨c, rest, rfl, hc, hP⟩
      exact ⟨[c], rest, rfl, ⟨c, hc, rfl⟩, hP⟩
    · rintro ⟨taken, rest, rfl, ⟨c, hc, rfl⟩, hP⟩
      exact ⟨c, rest, rfl, hc, hP⟩
  | anyRun => exact h.run
  | anything => exact h.run
  | above =>
    refine (h.either h.single.run).congr fun s => ⟨?_, ?_⟩
    · rintro (hP | ⟨line, after, rfl, hline, c, rest, rfl, hc, hP⟩)
      · exact ⟨[], s, rfl, .inl rfl, hP⟩
      · rw [decide_eq_true_eq] at hc
        subst hc
        exact ⟨line ++ ['/'], rest, by rw [List.append_assoc]; rfl, .inr ⟨line, rfl, hline⟩, hP⟩
    · rintro ⟨taken, rest, rfl, rfl | ⟨line, rfl, hline⟩, hP⟩
      · exact .inl hP
      · exact .inr ⟨line, '/' :: rest, by rw [List.append_assoc]; rfl, hline, '/', rest, rfl,
          decide_eq_true rfl, hP⟩
  | below =>
    refine (h.either h.run.single).congr fun s => ⟨?_, ?_⟩
    · rintro (hP | ⟨c, after, rfl, hc, line, rest, rfl, hline, hP⟩)
      · exact ⟨[], s, rfl, .inl rfl, hP⟩
      · rw [decide_eq_true_eq] at hc
        subst hc
        exact ⟨'/' :: line, rest, rfl, .inr ⟨line, rfl, hline⟩, hP⟩
    · rintro ⟨taken, rest, rfl, rfl | ⟨line, rfl, hline⟩, hP⟩
      · exact .inl hP
      · exact .inr ⟨'/', line ++ rest, rfl, decide_eq_true rfl, line, rest, rfl, hline, hP⟩

/-- The row of a sequence of pieces answers, for every place, whether they match from there on. -/
theorem rows_answer (text : List Char) (pieces : List Piece) :
    Answers (Matches pieces) text (rows text pieces) := by
  induction pieces with
  | nil => exact endRow_answers text
  | cons piece pieces ih => exact ih.piece piece

theorem piecesMatch_iff {pieces : List Piece} : piecesMatch pieces text = true ↔ Matches pieces text :=
  (rows_answer text pieces).head

/-- A pattern that is more than blanks and slashes matches what its pieces match. -/
theorem isMatch_iff_matches {pattern : String} (hcore : core pattern ≠ []) {id : String} :
    (ofPattern pattern).isMatch id = true ↔
      Matches (ofSegments ((core pattern).splitOn '/')) (Identifier.normalizeChars id.toList) := by
  unfold ofPattern
  rw [if_neg hcore]
  exact piecesMatch_iff

theorem isMatch_of_core {pattern : String} (hcore : core pattern = []) (id : String) :
    (ofPattern pattern).isMatch id = false := by
  unfold ofPattern
  rw [if_pos hcore]
  rfl

end DocCorpus.Glob
