/-
  Lines and how they end. A line ends with a line feed, or with a carriage return and a line feed;
  a text is its first line, the end of that line and the text after it, and there is one way to
  take it apart so (`Ends.unique`). The lines of a text are found like that one by one
  (`lines_append`), and what is shown of every text line by line is shown of every text
  (`ended_induction`).
-/
import DocCorpus.Text.Lines
import Mathlib.Data.List.TakeWhile

namespace DocCorpus.Text

/-- What holds of every line, and of a text with one more line in front, holds of every text. -/
theorem lines_induction {motive : List Char → Prop} (line : ∀ s, '\n' ∉ s → motive s)
    (step : ∀ s t, '\n' ∉ s → motive t → motive (s ++ '\n' :: t)) (s : List Char) : motive s := by
  generalize hn : s.length = n
  induction n using Nat.strong_induction_on generalizing s with
  | _ n ih =>
    by_cases h : '\n' ∈ s
    · obtain ⟨first, rest, rfl, hfirst⟩ := List.eq_append_cons_of_mem h
      rw [List.length_append, List.length_cons] at hn
      exact step first rest hfirst (ih rest.length (by omega) rest rfl)
    · exact line s h

/-! ## Line ends -/

inductive LineEnd
  | lineFeed
  | returnAndLineFeed

def LineEnd.text : LineEnd → List Char
  | .lineFeed => ['\n']
  | .returnAndLineFeed => ['\r', '\n']

/-- A line that stands before a line end as a whole: a carriage return at its end would belong to
the line end if that were a line feed alone. -/
structure Ends (e : LineEnd) (line : List Char) : Prop where
  one : '\n' ∉ line
  whole : e = .lineFeed → line.getLast? ≠ some '\r'

theorem Ends.tail {e : LineEnd} {c : Char} {line : List Char} (h : Ends e (c :: line)) :
    Ends e line := by
  refine ⟨fun hmem => h.one (List.mem_cons_of_mem c hmem), fun he hlast => h.whole he ?_⟩
  rw [List.getLast?_cons, hlast]
  rfl

/-- What of a line end stands before its line feed. -/
def LineEnd.front : LineEnd → List Char
  | .lineFeed => []
  | .returnAndLineFeed => ['\r']

theorem LineEnd.text_append (e : LineEnd) (rest : List Char) :
    e.text ++ rest = e.front ++ '\n' :: rest := by
  cases e <;> rfl

theorem Ends.not_mem {e : LineEnd} {line : List Char} (h : Ends e line) :
    '\n' ∉ line ++ e.front := by
  rw [List.mem_append, not_or]
  refine ⟨h.one, ?_⟩
  cases e <;> decide

/-- There is one way to take a first line and its end from a text. -/
theorem Ends.unique {e e' : LineEnd} {line line' rest rest' : List Char} (h : Ends e line)
    (h' : Ends e' line') (heq : line ++ (e.text ++ rest) = line' ++ (e'.text ++ rest')) :
    line = line' ∧ e = e' ∧ rest = rest' := by
  rw [LineEnd.text_append, LineEnd.text_append, ← List.append_assoc, ← List.append_assoc] at heq
  have hline : line ++ e.front = line' ++ e'.front := by
    have hsplit := congrArg (List.splitOn '\n') heq
    rw [List.splitOn_append_cons_self_of_not_mem h.not_mem,
      List.splitOn_append_cons_self_of_not_mem h'.not_mem] at hsplit
    exact (List.cons.inj hsplit).1
  rw [hline] at heq
  have hrest : rest = rest' := (List.cons.inj (List.append_cancel_left heq)).2
  cases e <;> cases e' <;> simp only [LineEnd.front, List.append_nil] at hline
  · exact ⟨hline, rfl, hrest⟩
  · exact absurd (hline ▸ List.getLast?_concat) (h.whole rfl)
  · exact absurd (hline ▸ List.getLast?_concat) (h'.whole rfl)
  · exact ⟨List.append_cancel_right hline, rfl, hrest⟩

/-! ## Lines one by one -/

theorem cutLines_of_line {s : List Char} (h : '\n' ∉ s) (line : List Char) :
    cutLines line s = if line.reverse ++ s = [] then [] else [line.reverse ++ s] := by
  induction s generalizing line with
  | nil => simp [cutLines]
  | cons c s ih =>
    rw [List.mem_cons, not_or] at h
    rw [cutLines, if_neg (Ne.symm h.1), ih h.2]
    simp

theorem cutLines_append {s : List Char} (h : '\n' ∉ s) (line rest : List Char) :
    cutLines line (s ++ '\n' :: rest) = (line.reverse ++ s ++ ['\n']) :: cutLines [] rest := by
  induction s generalizing line with
  | nil => simp [cutLines]
  | cons c s ih =>
    rw [List.mem_cons, not_or] at h
    rw [List.cons_append, cutLines, if_neg (Ne.symm h.1), ih h.2]
    simp

theorem lineOf_of_line {line : List Char} (h : '\n' ∉ line) : lineOf line = line := by
  have hreverse : '\n' ∉ line.reverse := fun hmem => h (List.mem_reverse.1 hmem)
  unfold lineOf
  split
  · next heq => exact absurd (heq ▸ List.mem_cons_self) hreverse
  · next heq => exact absurd (heq ▸ List.mem_cons_self) hreverse
  · exact List.reverse_reverse line

theorem lineOf_append {e : LineEnd} {line : List Char} (h : Ends e line) :
    lineOf (line ++ e.text) = line := by
  cases e with
  | lineFeed =>
    have hreverse : (line ++ LineEnd.lineFeed.text).reverse = '\n' :: line.reverse :=
      List.reverse_append
    unfold lineOf
    rw [hreverse]
    split
    · next rest heq =>
      have hlast : line.getLast? = some '\r' := by
        rw [← List.head?_reverse, (List.cons.inj heq).2]
        rfl
      exact absurd hlast (h.whole rfl)
    · next rest _ heq => rw [← (List.cons.inj heq).2, List.reverse_reverse]
    · next hne => exact absurd rfl (hne _)
  | returnAndLineFeed =>
    have hreverse : (line ++ LineEnd.returnAndLineFeed.text).reverse =
        '\n' :: '\r' :: line.reverse :=
      List.reverse_append
    unfold lineOf
    rw [hreverse]
    exact List.reverse_reverse line

/-- A text without a line feed is one line, unless it is empty. -/
theorem lines_of_line {line : List Char} (h : '\n' ∉ line) :
    lines line = if line = [] then [] else [line] := by
  unfold lines pieces
  rw [cutLines_of_line h, List.reverse_nil, List.nil_append]
  split
  · rfl
  · rw [List.map_singleton, lineOf_of_line h]

/-- The lines of a text are its first line and those of the text after it. -/
theorem lines_append {e : LineEnd} {line : List Char} (h : Ends e line) (rest : List Char) :
    lines (line ++ (e.text ++ rest)) = line :: lines rest := by
  have hpiece : line ++ e.front ++ ['\n'] = line ++ e.text := by
    rw [List.append_assoc, ← LineEnd.text_append, List.append_nil]
  unfold lines pieces
  rw [LineEnd.text_append, ← List.append_assoc, cutLines_append h.not_mem, List.reverse_nil,
    List.nil_append, hpiece, List.map_cons, lineOf_append h]

/-- What holds of every line, and of a text with one more line and its end in front, holds of every
text. -/
theorem ended_induction {motive : List Char → Prop} (line : ∀ s, '\n' ∉ s → motive s)
    (step : ∀ (e : LineEnd) s t, Ends e s → motive t → motive (s ++ (e.text ++ t)))
    (s : List Char) : motive s := by
  induction s using lines_induction with
  | line s h => exact line s h
  | step s t h ih =>
    by_cases hreturn : s.getLast? = some '\r'
    · obtain ⟨front, rfl⟩ := List.getLast?_eq_some_iff.1 hreturn
      have hfront : '\n' ∉ front := fun hmem => h (List.mem_append_left _ hmem)
      rw [List.append_assoc]
      exact step .returnAndLineFeed front t ⟨hfront, nofun⟩ ih
    · exact step .lineFeed s t ⟨h, fun _ => hreturn⟩ ih

end DocCorpus.Text
