/-
  Hosts of web addresses: numeric addresses of four and of sixteen bytes, and names. A name that
  ends in a number has to be a numeric address.
-/
import DocCorpus.Number.Decimal
import DocCorpus.Number.Digit

namespace DocCorpus.Host

/-! ## Four bytes -/

/-- The number that a part of an address spells: hexadecimal after `0x`, octal after `0`, else
decimal. -/
def part? : List Char → Option Nat
  | [] => none
  | '0' :: 'x' :: digits | '0' :: 'X' :: digits =>
    Digit.naturalFrom? 16 0 digits
  | '0' :: d :: digits => Digit.naturalFrom? 8 0 (d :: digits)
  | digits => Digit.naturalFrom? 10 0 digits

/-- The parts between dots; a dot at the end adds none. -/
def parts (name : List Char) : List (List Char) :=
  let parts := name.splitOn '.'
  if parts.getLast? = some [] then parts.dropLast else parts

/-- Whether the last part of a name is a number. -/
def endsInNumber (name : List Char) : Bool :=
  match (parts name).getLast? with
  | none | some [] => false
  | some last => last.all Char.isDigit || (part? last).isSome

/-- Whether the parts are numbers of one byte each, but for the last, which fills the bytes that
are left. -/
def isFourBytes (name : List Char) : Bool :=
  match (parts name).mapM part? with
  | none => false
  | some numbers =>
    match numbers.reverse with
    | [] => false
    | last :: others =>
      others.length < 4 && others.all (· < 256) && last < Nat.pow 256 (4 - others.length)

/-! ## Sixteen bytes -/

/-- One decimal byte without a leading zero, and what follows it. -/
def byte? (s : List Char) : Option (List Char) :=
  let digits := s.takeWhile Char.isDigit
  if digits = [] ∨ (digits.head? = some '0' ∧ digits.length > 1) ∨ 256 ≤ Decimal.natFrom 0 digits then none
  else some (s.dropWhile Char.isDigit)

/-- Whether a text is `count` bytes with dots between them. -/
def isDotted : Nat → List Char → Bool
  | 0, _ => false
  | count + 1, s =>
    match byte? s with
    | none => false
    | some [] => count = 0
    | some ('.' :: rest) => isDotted count rest
    | some _ => false

/-- Whether the pieces from number `piece` on fill sixteen bytes, where `gap` tells whether a run
of zero pieces was left out. A piece has two bytes; two pieces at the end may be written as four
dotted bytes. -/
def piecesFrom (gap : Bool) (piece : Nat) (s : List Char) : Bool :=
  match s with
  | [] => gap || piece = 8
  | ':' :: rest => piece < 8 && !gap && piecesFrom true (piece + 1) rest
  | c :: rest =>
    let digits := (c :: rest).takeWhile fun c => (Digit.value? 16 c).isSome
    if 8 ≤ piece then false
    else
      match h : (c :: rest).drop (min digits.length 4) with
      | [] => (digits ≠ []) && (gap || piece = 7)
      | '.' :: _ => digits ≠ [] && piece ≤ 6 && isDotted 4 (c :: rest) && (gap || piece = 6)
      | ':' :: [] => false
      | ':' :: d :: more => piecesFrom gap (piece + 1) (d :: more)
      | _ => false
termination_by s.length
decreasing_by
  · simp
  · have := congrArg List.length h
    simp at this
    simp
    omega

/-- Whether a text between brackets is an address of sixteen bytes. -/
def isSixteenBytes (s : List Char) : Bool :=
  match s with
  | ':' :: ':' :: rest => piecesFrom true 1 rest
  | ':' :: _ => false
  | s => s.length ≥ 2 && piecesFrom false 0 s

end DocCorpus.Host
