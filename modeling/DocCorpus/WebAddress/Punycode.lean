/-
  Punycode: the ASCII form of a label. The ASCII characters stand first, before the last hyphen;
  digits after it say which other characters are inserted, and where.
-/

namespace DocCorpus.Punycode

def digit? (c : Char) : Option Nat :=
  if 'a' ≤ c ∧ c ≤ 'z' then some (c.toNat - 'a'.toNat)
  else if 'A' ≤ c ∧ c ≤ 'Z' then some (c.toNat - 'A'.toNat)
  else if c.isDigit then some (c.toNat - '0'.toNat + 26)
  else none

/-- The least digit that ends a number at a position, under a bias. -/
def threshold (bias position : Nat) : Nat := min (max (36 * position - bias) 1) 26

/-- A number in digits of growing weight, and the digits after it. -/
def number? (bias : Nat) : (position value weight : Nat) → List Char → Option (Nat × List Char)
  | _, _, _, [] => none
  | position, value, weight, c :: rest =>
    match digit? c with
    | none => none
    | some d =>
      let value := value + d * weight
      let t := threshold bias position
      if d < t then some (value, rest) else number? bias (position + 1) value (weight * (36 - t)) rest

/-- The steps in which a difference is brought below the bound, and what is left of it. -/
def reduce : Nat → Nat → Nat → Nat × Nat
  | 0, steps, delta => (steps, delta)
  | fuel + 1, steps, delta =>
    if 455 < delta then reduce fuel (steps + 1) (delta / 35) else (steps, delta)

/-- The bias for the next number, after `delta` was read as number `count` of insertions. -/
def adapt (first : Bool) (delta count : Nat) : Nat :=
  let delta := if first then delta / 700 else delta / 2
  let (steps, delta) := reduce 64 0 (delta + delta / count)
  36 * steps + 36 * delta / (delta + 38)

/-- The insertions that digits spell, where `i` is the position of the last one, put into `text`. -/
def insertAll : (fuel : Nat) → (code i bias : Nat) → List Char → List Char → Option (List Char)
  | _, _, _, _, text, [] => some text
  | 0, _, _, _, _, _ :: _ => none
  | fuel + 1, code, i, bias, text, digits =>
    match number? bias 1 i 1 digits with
    | none => none
    | some (next, rest) =>
      let count := text.length + 1
      let code := code + next / count
      let place := next % count
      if h : code.isValidChar then
        let text := text.take place ++ Char.ofNatAux code h :: text.drop place
        insertAll fuel code (place + 1) (adapt (i == 0) (next - i) count) text rest
      else none

/-- The characters of an encoded label. -/
def decode? (s : List Char) : Option (List Char) :=
  let (start, digits) :=
    match s.reverse.dropWhile (· ≠ '-') with
    | _ :: c :: front => ((c :: front).reverse, (s.reverse.takeWhile (· ≠ '-')).reverse)
    | _ => ([], s)
  insertAll digits.length 128 0 72 start digits

end DocCorpus.Punycode
