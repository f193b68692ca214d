/-
  Digits in a base up to sixteen, and the natural numbers that they write.
-/

namespace DocCorpus.Digit

/-- The value of a digit; letters of either case stand for ten and above. -/
def value? (base : Nat) (c : Char) : Option Nat :=
  let value :=
    if c.isDigit then c.toNat - '0'.toNat
    else if 'a' ≤ c ∧ c ≤ 'f' then c.toNat - 'a'.toNat + 10
    else if 'A' ≤ c ∧ c ≤ 'F' then c.toNat - 'A'.toNat + 10
    else base
  if value < base then some value else none

/-- The number that digits continue from `n`. -/
def naturalFrom? (base n : Nat) : List Char → Option Nat
  | [] => some n
  | c :: rest =>
    match value? base c with
    | some d => naturalFrom? base (base * n + d) rest
    | none => none

/-- The number that digits write; there has to be one. -/
def natural? (base : Nat) (digits : List Char) : Option Nat :=
  if digits = [] then none else naturalFrom? base 0 digits

end DocCorpus.Digit
