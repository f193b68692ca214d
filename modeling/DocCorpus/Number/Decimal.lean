/-
  Decimal text of numbers, read. A decimal is an optional sign, digits with an optional point
  among or beside them, and an optional power of ten; at least one digit stands before the power.
-/
import DocCorpus.Number.Binary64

namespace DocCorpus.Decimal

def digitValue (c : Char) : Nat := c.toNat - '0'.toNat

/-- The number that a run of digits continues from `n`. -/
def natFrom (n : Nat) (digits : List Char) : Nat :=
  digits.foldl (fun n c => 10 * n + digitValue c) n

/-- A sign, if the text starts with one. -/
def sign : List Char → Bool × List Char
  | '-' :: rest => (true, rest)
  | '+' :: rest => (false, rest)
  | rest => (false, rest)

/-- The power of ten at the end of a decimal: `e` or `E`, an optional sign, digits. -/
def power? : List Char → Option Int
  | [] => some 0
  | c :: rest =>
    if c = 'e' ∨ c = 'E' then
      let (negative, digits) := sign rest
      if digits = [] ∨ !digits.all Char.isDigit then none
      else
        let n := natFrom 0 digits
        some (if negative then -n else n)
    else none

/-- The sign, the digits as one number and the power of ten that scales them. -/
def parts? (s : List Char) : Option (Bool × Nat × Int) :=
  let (negative, body) := sign s
  let whole := body.takeWhile Char.isDigit
  let (places, rest) :=
    match body.dropWhile Char.isDigit with
    | '.' :: rest => (rest.takeWhile Char.isDigit, rest.dropWhile Char.isDigit)
    | rest => ([], rest)
  if whole = [] ∧ places = [] then none
  else
    (power? rest).map fun p => (negative, natFrom (natFrom 0 whole) places, p - places.length)

/-- The double-precision number nearest to a decimal. -/
def read? (s : List Char) : Option Binary64 :=
  (parts? s).map fun (negative, digits, exponent) => Binary64.ofDecimal negative digits exponent

end DocCorpus.Decimal
