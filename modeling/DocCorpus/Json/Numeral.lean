/-
  Numbers as JSON text spells them, and the values they stand for. A numeral without point and
  power is an integer if it fits 64 bits. Any other is read from its first digits, as many as fit
  64 bits, scaled by one rounded power of ten; a numeral beyond all doubles has no value.
-/
import DocCorpus.Number.Decimal

namespace DocCorpus.Json

/-- The parts of a number: digits before the point, digits after it, and the power of ten with
its sign. -/
structure Numeral where
  negative : Bool
  whole : List Char
  places : Option (List Char)
  power : Option (Bool × List Char)

/-- The value of a number. -/
inductive Number
  | integer (n : Int)
  | float (x : Binary64)

namespace Numeral

/-- The first number that does not fit 64 bits. -/
def wordBound : Nat := Nat.pow 2 64

/-- Digits read into a significand, and the power of ten that the digits read so far leave. -/
structure Reading where
  significand : Nat
  scale : Int

/-- Digits before the point: those that no longer fit count as zeros. -/
def readWhole (r : Reading) : List Char → Reading
  | [] => r
  | c :: rest =>
    let n := 10 * r.significand + Decimal.digitValue c
    if n < wordBound then readWhole ⟨n, r.scale⟩ rest else ⟨r.significand, r.scale + rest.length + 1⟩

/-- Digits after the point: the first that no longer fits and all after it are passed over. -/
def readPlaces (r : Reading) : List Char → Reading
  | [] => r
  | c :: rest =>
    let n := 10 * r.significand + Decimal.digitValue c
    if n < wordBound then readPlaces ⟨n, r.scale - 1⟩ rest else r

/-- The power of ten from 0 to 308 as a double. -/
def powerOfTen (n : Nat) : Binary64 := Binary64.ofNat (Nat.pow 10 n)

/-- A number scaled by a power of ten: one product, or quotients by at most 10^308 each. -/
def scaleBy : Nat → Binary64 → Int → Option Binary64
  | 0, x, _ => some x
  | fuel + 1, x, e =>
    if 308 < e then
      if x = .zero false then some x else none
    else if 0 ≤ e then
      let y := x.mul (powerOfTen e.toNat)
      if y.isFinite then some y else none
    else if -308 ≤ e then some (x.div (powerOfTen (-e).toNat))
    else if x = .zero false then some x
    else scaleBy fuel (x.div (powerOfTen 308)) (e + 308)

/-- Powers of ten beyond this are not told apart. -/
def powerBound : Nat := Nat.pow 2 31

/-- The reading scaled by the power of ten of the numeral. -/
def scaled (n : Numeral) (r : Reading) : Option Binary64 :=
  match n.power with
  | none => scaleBy 5 (.ofNat r.significand) r.scale
  | some (negative, digits) =>
    let p := Decimal.natFrom 0 digits
    if powerBound ≤ p then
      if r.significand ≠ 0 ∧ ¬negative then none else some (.zero false)
    else scaleBy 5 (.ofNat r.significand) (if negative then r.scale - p else r.scale + p)

/-- The value of a numeral. -/
def value? (n : Numeral) : Option Number :=
  let whole := readWhole ⟨0, 0⟩ n.whole
  let signed := fun (x : Binary64) => Number.float (if n.negative then x.negate else x)
  match n.places, n.power with
  | none, none =>
    if whole.scale ≠ 0 then (n.scaled whole).map signed
    else if ¬n.negative then some (.integer whole.significand)
    else if whole.significand = 0 ∨ Nat.pow 2 63 < whole.significand then
      some (signed (.ofNat whole.significand))
    else some (.integer (-whole.significand))
  | some places, _ => (n.scaled (readPlaces whole places)).map signed
  | none, some _ => (n.scaled whole).map signed

end Numeral
end DocCorpus.Json
