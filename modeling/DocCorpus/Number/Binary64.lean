/-
  Double-precision numbers as exact values: a finite number is a sign and m · 2^q with m below
  2^53, where m is at least 2^52 unless q is the least exponent, so each number is written in one
  way. `ofRatio` rounds a quotient to the nearest number, a tie to the one whose m is even.
-/

namespace DocCorpus

/-- A double-precision number. -/
inductive Binary64
  | nan
  | infinite (negative : Bool)
  | finite (negative : Bool) (m : Nat) (q : Int)
      (canonical : m < Nat.pow 2 53 ∧ -1074 ≤ q ∧ q ≤ 971 ∧ (Nat.pow 2 52 ≤ m ∨ q = -1074))
  deriving DecidableEq

namespace Binary64

def isFinite : Binary64 → Bool
  | .finite .. => true
  | _ => false

def negate : Binary64 → Binary64
  | .nan => .nan
  | .infinite s => .infinite !s
  | .finite s m q h => .finite (!s) m q h

/-- The number m · 2^q, or infinity where no finite number has that value in canonical form. -/
def ofParts (negative : Bool) (m : Nat) (q : Int) : Binary64 :=
  if h : m < Nat.pow 2 53 ∧ -1074 ≤ q ∧ q ≤ 971 ∧ (Nat.pow 2 52 ≤ m ∨ q = -1074) then
    .finite negative m q h
  else
    .infinite negative

def zero (negative : Bool) : Binary64 := ofParts negative 0 (-1074)

/-- The numerator and denominator of num / den divided by 2^q. -/
def scaleDown (num den : Nat) (q : Int) : Nat × Nat :=
  if 0 ≤ q then (num, den * Nat.pow 2 q.toNat) else (num * Nat.pow 2 (-q).toNat, den)

/-- The quotient rounded to the nearest natural number, a tie to the even one. -/
def divEven (num den : Nat) : Nat :=
  let m := num / den
  let twice := 2 * (num % den)
  if den < twice ∨ (twice = den ∧ m % 2 = 1) then m + 1 else m

/-- The exponent at which num / den has 53 binary digits before the point, or the least one. -/
def exponentOf (num den : Nat) : Int :=
  let q := max ((num.log2 : Int) - den.log2 - 53) (-1074)
  let (n, d) := scaleDown num den q
  if Nat.pow 2 53 ≤ n / d then q + 1 else q

/-- The number nearest to ± num / den. -/
def ofRatio (negative : Bool) (num den : Nat) : Binary64 :=
  if num = 0 then zero negative
  else
    let q := exponentOf num den
    let (n, d) := scaleDown num den q
    let m := divEven n d
    if m = Nat.pow 2 53 then ofParts negative (Nat.pow 2 52) (q + 1) else ofParts negative m q

def ofNat (n : Nat) : Binary64 := ofRatio false n 1

def ofInt (n : Int) : Binary64 := ofRatio (n < 0) n.natAbs 1

/-- The absolute value of m · 2^q as a fraction. -/
def fraction (m : Nat) (q : Int) : Nat × Nat :=
  if 0 ≤ q then (m * Nat.pow 2 q.toNat, 1) else (m, Nat.pow 2 (-q).toNat)

/-- The rounded product of two numbers that are not negative. -/
def mul : Binary64 → Binary64 → Binary64
  | .finite _ m q _, .finite _ n r _ =>
    let (a, b) := fraction m q
    let (c, d) := fraction n r
    ofRatio false (a * c) (b * d)
  | _, _ => .infinite false

/-- The rounded quotient of two numbers that are not negative, the second above zero. -/
def div : Binary64 → Binary64 → Binary64
  | .finite _ m q _, .finite _ n r _ =>
    let (a, b) := fraction m q
    let (c, d) := fraction n r
    ofRatio false (a * d) (b * c)
  | _, _ => .infinite false

/-- The number nearest to ± digits · 10^exponent. Exponents far outside the range are settled
without computing the power. -/
def ofDecimal (negative : Bool) (digits : Nat) (exponent : Int) : Binary64 :=
  if digits = 0 then zero negative
  else if exponent > 400 then .infinite negative
  else if exponent < -(400 + (Nat.log2 digits : Int)) then zero negative
  else if 0 ≤ exponent then ofRatio negative (digits * Nat.pow 10 exponent.toNat) 1
  else ofRatio negative digits (Nat.pow 10 (-exponent).toNat)

end Binary64
end DocCorpus
