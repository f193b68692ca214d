/-
  The lexemes of JSON text. Where the text stops being JSON the last lexeme is `broken`, so that
  what precedes the place can still be read.
-/
import DocCorpus.Json.Numeral
import DocCorpus.Number.Digit

namespace DocCorpus.Json

inductive Lexeme
  /-- A bracket, a comma or a colon. -/
  | mark (c : Char)
  | null
  | boolean (b : Bool)
  | number (n : Numeral)
  /-- A string; `none` where an escape names half of a surrogate pair. -/
  | string (content : Option String)
  | broken

namespace Lexeme

/-! ## Strings -/

/-- A part of a string: a character as it stands, or a 16-bit unit written as an escape. -/
inductive Piece
  | plain (c : Char)
  | unit (n : Nat)

/-- The number that four hexadecimal digits spell. -/
def unit? (a b c d : Char) : Option Nat := Digit.natural? 16 [a, b, c, d]

def shortEscape? (c : Char) : Option Char :=
  match c with
  | '"' => some '"'
  | '\\' => some '\\'
  | '/' => some '/'
  | 'b' => some '\x08'
  | 'f' => some '\x0c'
  | 'n' => some '\n'
  | 'r' => some '\r'
  | 't' => some '\t'
  | _ => none

/-- The pieces up to the closing quote, and the text after it. -/
def pieces? : List Char → Option (List Piece × List Char)
  | [] => none
  | '"' :: rest => some ([], rest)
  | '\\' :: 'u' :: a :: b :: c :: d :: rest =>
    match unit? a b c d with
    | none => none
    | some n => (pieces? rest).map fun (ps, rest) => (.unit n :: ps, rest)
  | '\\' :: c :: rest =>
    match shortEscape? c with
    | none => none
    | some e => (pieces? rest).map fun (ps, rest) => (.plain e :: ps, rest)
  | c :: rest =>
    if c.toNat < 0x20 ∨ c = '\\' then none
    else (pieces? rest).map fun (ps, rest) => (.plain c :: ps, rest)

def isHigh (n : Nat) : Bool := 0xd800 ≤ n && n < 0xdc00

def isLow (n : Nat) : Bool := 0xdc00 ≤ n && n < 0xe000

/-- The characters of the pieces; two units may spell one character. -/
def content? : List Piece → Option (List Char)
  | [] => some []
  | .plain c :: rest => (content? rest).map (c :: ·)
  | .unit n :: rest =>
    if isHigh n then
      match rest with
      | .unit m :: rest =>
        if isLow m then
          (content? rest).map (Char.ofNat (0x10000 + (n - 0xd800) * 0x400 + (m - 0xdc00)) :: ·)
        else none
      | _ => none
    else if isLow n then none
    else (content? rest).map (Char.ofNat n :: ·)

/-! ## Numbers -/

/-- The digits at the start of a text and the rest. -/
def digits (s : List Char) : List Char × List Char :=
  (s.takeWhile Char.isDigit, s.dropWhile Char.isDigit)

/-- The digits after a point, if there is a point. -/
def places? (s : List Char) : Option (Option (List Char) × List Char) :=
  match s with
  | '.' :: rest =>
    let (ds, rest) := digits rest
    if ds = [] then none else some (some ds, rest)
  | rest => some (none, rest)

/-- The power of ten, if there is one. -/
def power? (s : List Char) : Option (Option (Bool × List Char) × List Char) :=
  match s with
  | c :: rest =>
    if c = 'e' ∨ c = 'E' then
      let (negative, rest) := Decimal.sign rest
      let (ds, rest) := digits rest
      if ds = [] then none else some (some (negative, ds), rest)
    else some (none, s)
  | [] => some (none, [])

/-- A number without its sign. Digits before the point start with zero only if that is all. -/
def number? (negative : Bool) (s : List Char) : Option (Numeral × List Char) := do
  let (whole, rest) := digits s
  if whole = [] ∨ (whole.head? = some '0' ∧ whole.length > 1) then none
  else
    let (places, rest) ← places? rest
    let (power, rest) ← power? rest
    return (⟨negative, whole, places, power⟩, rest)

/-! ## Lexemes -/

def isSpace (c : Char) : Bool := c == ' ' || c == '\n' || c == '\t' || c == '\r'

/-- The first lexeme of a text that starts with no space, and what follows it. -/
def first? : List Char → Option (Lexeme × List Char)
  | 'n' :: 'u' :: 'l' :: 'l' :: rest => some (.null, rest)
  | 't' :: 'r' :: 'u' :: 'e' :: rest => some (.boolean true, rest)
  | 'f' :: 'a' :: 'l' :: 's' :: 'e' :: rest => some (.boolean false, rest)
  | '"' :: rest => (pieces? rest).map fun (ps, rest) =>
      (.string ((content? ps).map String.ofList), rest)
  | '-' :: rest => (number? true rest).map fun (n, rest) => (.number n, rest)
  | c :: rest =>
    if c = '[' ∨ c = ']' ∨ c = '{' ∨ c = '}' ∨ c = ',' ∨ c = ':' then some (.mark c, rest)
    else (number? false (c :: rest)).map fun (n, rest) => (.number n, rest)
  | [] => none

/-- The lexemes of a text of at most `fuel` characters. -/
def scan : Nat → List Char → List Lexeme
  | 0, _ => []
  | fuel + 1, s =>
    match s.dropWhile isSpace with
    | [] => []
    | s =>
      match first? s with
      | none => [.broken]
      | some (lexeme, rest) => lexeme :: scan fuel rest

def all (s : List Char) : List Lexeme := scan s.length s

end Lexeme
end DocCorpus.Json
