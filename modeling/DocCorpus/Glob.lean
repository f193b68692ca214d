/-
  Path patterns for identifiers. In a pattern `*` stands for a run of characters inside a segment,
  `?` for one of them, and a whole segment `**` for any number of segments. A pattern is compiled
  into pieces; a piece takes a row of answers, one for each place where the rest of the pattern
  could start, to the row for the pattern that starts with the piece.
-/
import DocCorpus.Identifier

namespace DocCorpus

namespace Glob

/-- A part of a compiled pattern. -/
inductive Piece
  | char (c : Char)
  /-- One character inside a segment. -/
  | anyChar
  /-- Any run of characters inside a segment. -/
  | anyRun
  /-- Any text in one line. -/
  | anything
  /-- Nothing, or any text in one line up to and with a slash. -/
  | above
  /-- Nothing, or a slash and any text in one line. -/
  | below
  deriving DecidableEq

/-! ## Compiling -/

def globstar : List Char := ['*', '*']

def ofChar (c : Char) : Piece :=
  if c = '*' then .anyRun else if c = '?' then .anyChar else .char c

/-- The pieces of a segment other than the globstar. -/
def ofSegment (segment : List Char) : List Piece := segment.map ofChar

/-- The pieces of a segment that follows another one. -/
def ofLater (segment : List Char) : List Piece :=
  if segment = globstar then [.below] else .char '/' :: ofSegment segment

/-- The pieces of a whole pattern. The slash after a leading globstar belongs to the globstar. -/
def ofSegments : List (List Char) → List Piece
  | [] => []
  | [segment] => if segment = globstar then [.anything] else ofSegment segment
  | first :: second :: rest =>
    if first = globstar then
      .above :: ((if second = globstar then [.below] else ofSegment second) ++ rest.flatMap ofLater)
    else ofSegment first ++ (second :: rest).flatMap ofLater

/-! ## Matching -/

def inSegment (c : Char) : Bool := c ≠ '/'

def inLine (c : Char) : Bool := c ≠ '\n'

/-- The answers for one character that satisfies `p`, and then what `row` answers for. -/
def single (p : Char → Bool) : List Char → List Bool → List Bool
  | c :: text, _ :: row => (p c && row.headD false) :: single p text row
  | _, _ => [false]

/-- The answers for any run of characters that satisfy `p`, and then what `row` answers for. -/
def run (p : Char → Bool) : List Char → List Bool → List Bool
  | c :: text, here :: row =>
    let later := run p text row
    (here || (p c && later.headD false)) :: later
  | _, row => row

/-- The answers for either of two patterns. -/
def either (a b : List Bool) : List Bool := List.zipWith (· || ·) a b

def Piece.row (text : List Char) (rest : List Bool) : Piece → List Bool
  | .char c => single (· = c) text rest
  | .anyChar => single inSegment text rest
  | .anyRun => run inSegment text rest
  | .anything => run inLine text rest
  | .above => either rest (run inLine text (single (· = '/') text rest))
  | .below => either rest (single (· = '/') text (run inLine text rest))

/-- The answers for the empty pattern: it matches at the end of the text only. -/
def endRow (text : List Char) : List Bool := text.map (fun _ => false) ++ [true]

/-- For each place of the text, whether the pieces match the text from there to its end. -/
def rows (text : List Char) (pieces : List Piece) : List Bool :=
  pieces.foldr (fun piece rest => piece.row text rest) (endRow text)

def piecesMatch (pieces : List Piece) (text : List Char) : Bool := (rows text pieces).headD false

end Glob

/-- A compiled pattern. A pattern that is empty without its blanks and slashes has no pieces. -/
structure Glob where
  source : String
  pieces? : Option (List Glob.Piece)

namespace Glob

/-- What of a declared pattern is compiled: the text without blanks and then slashes at its ends. -/
def core (source : String) : List Char := Identifier.normalizeChars (Text.trim source.toList)

def ofPattern (source : String) : Glob :=
  ⟨source, if core source = [] then none else some (ofSegments ((core source).splitOn '/'))⟩

/-- Whether the pattern matches an identifier, whatever slashes stand at its ends. -/
def isMatch (g : Glob) (id : String) : Bool :=
  match g.pieces? with
  | none => false
  | some pieces => piecesMatch pieces (Identifier.normalizeChars id.toList)

end Glob

/-- An ordered list of patterns. -/
structure PatternSet where
  globs : List Glob

namespace PatternSet

def ofPatterns (patterns : List String) : PatternSet := ⟨patterns.map Glob.ofPattern⟩

def empty : PatternSet := ⟨[]⟩

def size (s : PatternSet) : Nat := s.globs.length

def isEmpty (s : PatternSet) : Bool := s.globs.isEmpty

def sources (s : PatternSet) : List String := s.globs.map Glob.source

/-- The position of the first pattern that matches. -/
def firstMatch? (s : PatternSet) (id : String) : Option Nat := s.globs.findIdx? (·.isMatch id)

def isMatch (s : PatternSet) (id : String) : Bool := (s.firstMatch? id).isSome

/-- The patterns of one set and then those of another. -/
def chain (s t : PatternSet) : PatternSet := ⟨s.globs ++ t.globs⟩

/-- The patterns of the first set go before those of the second. -/
theorem firstMatch?_chain (s t : PatternSet) (id : String) :
    (s.chain t).firstMatch? id = (s.firstMatch? id).or ((t.firstMatch? id).map (· + s.size)) := by
  simp [firstMatch?, chain, size, List.findIdx?_append]

end PatternSet
end DocCorpus
