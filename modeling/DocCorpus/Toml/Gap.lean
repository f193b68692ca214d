/-
  What stands between the parts of TOML text: white space, line ends and comments.
-/

namespace DocCorpus.Toml

def isWhite (c : Char) : Bool := c == ' ' || c == '\t'

/-- A character that may stand in comments, and in strings where it does not end them. -/
def isPrintable (c : Char) : Bool := c == '\t' || (' ' ≤ c && c != '\x7f')

def dropWhite (s : List Char) : List Char := s.dropWhile isWhite

/-- What follows a line end. -/
def afterLineEnd? : List Char → Option (List Char)
  | '\n' :: rest => some rest
  | '\r' :: '\n' :: rest => some rest
  | _ => none

/-- The text after a comment, if one stands here. -/
def dropComment : List Char → List Char
  | '#' :: rest => rest.dropWhile isPrintable
  | s => s

/-- What follows a line whose parts are done: white space, perhaps a comment, and the line end or
the end of the text. -/
def afterLine? (s : List Char) : Option (List Char) :=
  match dropComment (dropWhite s) with
  | [] => some []
  | rest => afterLineEnd? rest

/-- The text after white space, line ends and comments. -/
def dropGap : List Char → List Char
  | [] => []
  | '\n' :: rest => dropGap rest
  | '\r' :: '\n' :: rest => dropGap rest
  | '#' :: rest => dropInComment rest
  | c :: rest => if isWhite c then dropGap rest else c :: rest
where
  /-- The same from inside a comment. -/
  dropInComment : List Char → List Char
    | [] => []
    | '\n' :: rest => dropGap rest
    | '\r' :: '\n' :: rest => dropGap rest
    | c :: rest => if isPrintable c then dropInComment rest else c :: rest

end DocCorpus.Toml
