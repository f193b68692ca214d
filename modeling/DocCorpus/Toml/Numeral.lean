/-
  Numbers in TOML text. Underscores may stand between digits.
-/
import DocCorpus.Number.Decimal
import DocCorpus.Number.Digit
import DocCorpus.Tree

namespace DocCorpus.Toml.Numeral

/-- Digits without the underscores between them. -/
def digits? (base : Nat) (s : List Char) : Option (List Char) :=
  let groups := s.splitOn '_'
  if groups.all fun g => (Digit.natural? base g).isSome then some groups.flatten else none

/-- Decimal digits without needless zeros in front. -/
def whole? (s : List Char) : Option (List Char) :=
  (digits? 10 s).filter fun digits => digits.length = 1 || digits.head? != some '0'

/-- The minus sign of a number, if it has one, and the text after its sign. -/
def signed (s : List Char) : List Char × List Char :=
  match s with
  | '-' :: rest => (['-'], rest)
  | '+' :: rest => ([], rest)
  | rest => ([], rest)

/-! ## Integers -/

/-- The magnitude in a base other than ten. -/
def based? : List Char → Option Nat
  | '0' :: 'x' :: rest => (digits? 16 rest).bind (Digit.natural? 16)
  | '0' :: 'o' :: rest => (digits? 8 rest).bind (Digit.natural? 8)
  | '0' :: 'b' :: rest => (digits? 2 rest).bind (Digit.natural? 2)
  | _ => none

/-- An integer within 64 bits. Only decimal ones have a sign. -/
def integer? (s : List Char) : Option Int :=
  let (sign, body) := signed s
  let value : Option Int :=
    match based? s with
    | some n => some n
    | none => ((whole? body).bind (Digit.natural? 10)).map fun n => if sign = [] then n else -n
  value.filter fun n => -(Nat.pow 2 63) ≤ n ∧ n < Nat.pow 2 63

/-! ## Numbers with a point or a power -/

/-- The digits after a power mark, with their sign. -/
def power? (s : List Char) : Option (List Char) :=
  let (sign, body) := signed s
  (digits? 10 body).map (sign ++ ·)

/-- A decimal without underscores: an integer with places, a power or both. -/
def decimal? (s : List Char) : Option (List Char) := do
  let (sign, body) := signed s
  let isMark := fun c => c == 'e' || c == 'E'
  let mantissa := body.takeWhile fun c => !isMark c
  let whole ← whole? (mantissa.takeWhile (· ≠ '.'))
  let places ←
    match mantissa.dropWhile (· ≠ '.') with
    | [] => some []
    | _ :: places => (digits? 10 places).map ('.' :: ·)
  let power ←
    match body.dropWhile fun c => !isMark c with
    | [] => some []
    | _ :: power => (power? power).map ('e' :: ·)
  if places = [] ∧ power = [] then none else return sign ++ whole ++ places ++ power

/-- A number with a point or a power, an infinity or the number that is none. A decimal must not
be too great. -/
def float? (s : List Char) : Option Binary64 :=
  let (sign, body) := signed s
  if body = "inf".toList then some (.infinite (sign ≠ []))
  else if body = "nan".toList then some .nan
  else ((decimal? s).bind Decimal.read?).filter (· ≠ .infinite false)

/-- The number that a whole text is. -/
def read? (s : List Char) : Option Tree :=
  match float? s with
  | some x => some (.float x)
  | none => (integer? s).map .integer

end DocCorpus.Toml.Numeral
