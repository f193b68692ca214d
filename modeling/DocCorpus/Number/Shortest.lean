/-
  Shortest decimal text of a double-precision number: the fewest digits that read back as the
  number, and of those the nearest to it. `DecimalStyle` says where the point stands.
-/
import DocCorpus.Number.Binary64

namespace DocCorpus.Shortest

/-- The reals that round to m · 2^q, as numerators over one denominator: the lower end, the value
and the upper end. -/
structure Interval where
  low : Nat
  value : Nat
  high : Nat
  den : Nat
  /-- Whether the ends belong to the interval. -/
  closed : Bool

/-- The neighbours of m · 2^q are half a unit away, and below a power of two a quarter. -/
def interval (m : Nat) (q : Int) : Interval :=
  let up := Nat.pow 2 q.toNat
  let below := if m = Nat.pow 2 52 ∧ -1074 < q then 1 else 2
  ⟨(4 * m - below) * up, 4 * m * up, (4 * m + 2) * up, 4 * Nat.pow 2 (-q).toNat, m % 2 = 0⟩

/-- Whether digits · 10^e lies in the interval. -/
def Interval.holds (i : Interval) (digits : Nat) (e : Int) : Bool :=
  let x := digits * Nat.pow 10 e.toNat * i.den
  let unit := Nat.pow 10 (-e).toNat
  if i.closed then i.low * unit ≤ x && x ≤ i.high * unit
  else i.low * unit < x && x < i.high * unit

/-- The distance of digits · 10^e from the value, over a denominator that depends on e only. -/
def Interval.distance (i : Interval) (digits : Nat) (e : Int) : Nat :=
  let x := digits * Nat.pow 10 e.toNat * i.den
  let v := i.value * Nat.pow 10 (-e).toNat
  (x - v) + (v - x)

/-- The least k with value < 10^k, searched upwards from `k` for `fuel` steps. -/
def magnitude (i : Interval) : Nat → Int → Int
  | 0, k => k
  | fuel + 1, k =>
    if i.value * Nat.pow 10 (-k).toNat < Nat.pow 10 k.toNat * i.den then k else magnitude i fuel (k + 1)

/-- The multiple of 10^e just below the value. -/
def Interval.floor (i : Interval) (e : Int) : Nat :=
  i.value * Nat.pow 10 (-e).toNat / (Nat.pow 10 e.toNat * i.den)

/-- The nearest multiple of 10^e in the interval, if one of the two neighbours of the value is. -/
def Interval.nearest? (i : Interval) (e : Int) : Option Nat :=
  let a := i.floor e
  match i.holds a e, i.holds (a + 1) e with
  | true, true =>
    let near := i.distance a e
    let far := i.distance (a + 1) e
    some (if far < near ∨ (far = near ∧ a % 2 = 1) then a + 1 else a)
  | true, false => some a
  | false, true => some (a + 1)
  | false, false => none

/-- The first grid of 1, 2, … digits with a point in the interval: that point and its scale. -/
def search (i : Interval) (k : Int) : Nat → Nat → Nat × Int
  | 0, n => (i.floor (k - n), k - n)
  | fuel + 1, n =>
    match i.nearest? (k - n) with
    | some digits => (digits, k - n)
    | none => search i k fuel (n + 1)

/-- The shortest digits of m · 2^q, m > 0, and the power of ten that scales them. -/
def digits (m : Nat) (q : Int) : Nat × Int :=
  let i := interval m q
  let start : Int := ((m.log2 : Int) + q) * 30103 / 100000 - 1
  search i (magnitude i 8 start) 17 1

end DocCorpus.Shortest

namespace DocCorpus

/-- Where the point of a decimal stands: positional text between two exponents of its first
digit (no bound where none is given), and a power of ten outside. -/
structure DecimalStyle where
  least : Option Int
  greatest : Option Int

namespace DecimalStyle

/-- Numbers in exported text: positional from 10^-5 up to below 10^16. -/
def exported : DecimalStyle := ⟨some (-5), some 15⟩

/-- Numbers in messages: always positional. -/
def message : DecimalStyle := ⟨none, none⟩

def positional (style : DecimalStyle) (e : Int) : Bool :=
  (style.least.all fun a => a ≤ e) && (style.greatest.all fun b => e ≤ b)

/-- Digits without the zeros at their end. -/
def significant (ds : List Char) : List Char :=
  match (ds.reverse.dropWhile (· = '0')).reverse with
  | [] => ['0']
  | kept => kept

/-- Positional text of the digits, the first of which counts 10^e. At least one digit stands on
each side of the point. -/
def positionalText (ds : List Char) (e : Int) : List Char :=
  if e < 0 then
    '0' :: '.' :: (List.replicate (-e - 1).toNat '0' ++ ds)
  else
    let width := e.toNat + 1
    let whole := ds.take width ++ List.replicate (width - ds.length) '0'
    let places := ds.drop width
    whole ++ '.' :: (if places = [] then ['0'] else places)

/-- Text with a power of ten: one digit before the point, and the sign of the power always. -/
def scientificText (ds : List Char) (e : Int) : List Char :=
  let exponent := (if e < 0 then '-' else '+') :: Nat.toDigits 10 e.natAbs
  match ds with
  | [] => []
  | [d] => d :: 'e' :: exponent
  | d :: places => d :: '.' :: places ++ 'e' :: exponent

/-- The text of a number that is not negative. -/
def magnitudeText (style : DecimalStyle) (m : Nat) (q : Int) : List Char :=
  if m = 0 then ['0', '.', '0']
  else
    let (n, scale) := Shortest.digits m q
    let all := Nat.toDigits 10 n
    let e := scale + (all.length : Int) - 1
    let ds := significant all
    if style.positional e then positionalText ds e else scientificText ds e

/-- The text of a number; a number that is not finite has a name. -/
def text (style : DecimalStyle) : Binary64 → List Char
  | .nan => ['N', 'a', 'N']
  | .infinite false => ['i', 'n', 'f']
  | .infinite true => ['-', 'i', 'n', 'f']
  | .finite false m q _ => style.magnitudeText m q
  | .finite true m q _ => '-' :: style.magnitudeText m q

end DecimalStyle
end DocCorpus
