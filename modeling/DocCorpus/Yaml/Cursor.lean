/-
  A place in YAML text: the text from there on, with the line and the column that indentation is
  measured by. Each step takes characters off the front (`skip_rest`, `takeBreak_shorter`).
-/

namespace DocCorpus.Yaml

/-! ## Classes of characters -/

/-- A space or a tab. -/
def isWhite (c : Char) : Bool := c == ' ' || c == '\t'

/-- A character that ends a line. -/
def isBreak (c : Char) : Bool :=
  c == '\n' || c == '\r' || c == '\u0085' || c == '\u2028' || c == '\u2029'

/-- A character of anchors, of tag handles and of directive names. -/
def isNameChar (c : Char) : Bool := c.isAlphanum || c == '_' || c == '-'

/-- A character that may stand in YAML text at all. -/
def isAllowed (c : Char) : Bool :=
  let n := c.toNat
  n == 0x9 || n == 0xa || n == 0xd || (0x20 ≤ n && n ≤ 0x7e) || n == 0x85 ||
    (0xa0 ≤ n && n ≤ 0xfffd && n != 0xfeff) || 0x10000 ≤ n

/-- Whether a text starts with a line break or is empty. -/
def atBreak : List Char → Bool
  | [] => true
  | c :: _ => isBreak c

/-- Whether a text starts with a space, a tab or a line break, or is empty. -/
def atGap : List Char → Bool
  | [] => true
  | c :: _ => isWhite c || isBreak c

/-! ## Cursors -/

structure Cursor where
  rest : List Char
  index : Nat
  line : Nat
  column : Nat

namespace Cursor

def ofText (s : List Char) : Cursor := ⟨s, 0, 0, 0⟩

/-- The place `n` characters further on the same line. -/
def advance (p : Cursor) (n : Nat) : Cursor :=
  ⟨p.rest.drop n, p.index + n, p.line, p.column + n⟩

def skip (p : Cursor) : Cursor := p.advance 1

/-- The start of the next line, after a line break of `n` characters. -/
def nextLine (p : Cursor) (n : Nat) : Cursor :=
  ⟨p.rest.drop n, p.index + n, p.line + 1, 0⟩

/-- The characters of one line up to the first outside a class. -/
def takeWhile (p : Cursor) (f : Char → Bool) : List Char × Cursor :=
  let taken := p.rest.takeWhile f
  (taken, p.advance taken.length)

/-- The line break at a place and the place after it. A scalar holds a line feed for every break
but the separators of lines and paragraphs, which it keeps. -/
def takeBreak (p : Cursor) : List Char × Cursor :=
  match p.rest with
  | '\r' :: '\n' :: _ => (['\n'], p.nextLine 2)
  | c :: _ =>
    if c = '\u2028' ∨ c = '\u2029' then ([c], p.nextLine 1)
    else if isBreak c then (['\n'], p.nextLine 1)
    else ([], p)
  | [] => ([], p)

/-- Whether `---` or `...` stands alone at the start of the line. -/
def atDocumentMark (p : Cursor) : Bool :=
  p.column == 0 &&
    match p.rest with
    | '-' :: '-' :: '-' :: rest => atGap rest
    | '.' :: '.' :: '.' :: rest => atGap rest
    | _ => false

theorem skip_rest (p : Cursor) : p.skip.rest = p.rest.tail := by
  simp [skip, advance]

theorem takeBreak_shorter {p : Cursor} {c : Char} {rest : List Char} (h : p.rest = c :: rest)
    (hc : isBreak c = true) : p.takeBreak.2.rest.length < p.rest.length := by
  unfold takeBreak
  split
  · rename_i after hr
    simp only [nextLine, hr, List.length_drop, List.length_cons]
    omega
  · split
    · simp_all [nextLine]
    · split
      · simp_all [nextLine]
      · simp_all
  · simp_all

end Cursor
end DocCorpus.Yaml
