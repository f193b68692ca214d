/-
  Lines. A text is cut after every line feed, so that its pieces join to the text again
  (`flatten_pieces`); a line is a piece without its line feed and the carriage return before it.
-/

namespace DocCorpus.Text

/-- The text cut after each line feed, where `line` holds the current piece backwards. -/
def cutLines (line : List Char) : List Char → List (List Char)
  | [] => if line = [] then [] else [line.reverse]
  | c :: rest =>
    if c = '\n' then (c :: line).reverse :: cutLines [] rest else cutLines (c :: line) rest

/-- The pieces of a text that end after a line feed or at its end. No piece is empty. -/
def pieces (s : List Char) : List (List Char) := cutLines [] s

/-- The line that a piece holds. A carriage return belongs to the line end only before a line
feed. -/
def lineOf (piece : List Char) : List Char :=
  match piece.reverse with
  | '\n' :: '\r' :: rest => rest.reverse
  | '\n' :: rest => rest.reverse
  | rest => rest.reverse

def lines (s : List Char) : List (List Char) := (pieces s).map lineOf

/-- Lines put together again, with a line feed between each two. -/
def unlines (ls : List (List Char)) : List Char := List.intercalate ['\n'] ls

theorem flatten_cutLines (line s : List Char) :
    (cutLines line s).flatten = line.reverse ++ s := by
  induction s generalizing line with
  | nil => by_cases h : line = [] <;> simp [cutLines, h]
  | cons c s ih => by_cases h : c = '\n' <;> simp [cutLines, h, ih]

theorem flatten_pieces (s : List Char) : (pieces s).flatten = s := by
  simp [pieces, flatten_cutLines]

end DocCorpus.Text
