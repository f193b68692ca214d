/-
  Block scalars: indented lines after `|`, which keeps them, or `>`, which folds them. The header
  says how many columns the lines are indented by and what becomes of the line breaks at the end.
-/
import DocCorpus.Yaml.Cursor

namespace DocCorpus.Yaml.Block

/-- What becomes of the line breaks at the end: none stays, the first stays, or all stay. -/
inductive Chomping
  | strip
  | clip
  | keep
  deriving DecidableEq

def chomping? (c : Char) : Option Chomping :=
  if c = '-' then some .strip else if c = '+' then some .keep else none

/-- The indentation that a digit gives; `none` inside for a character that is no digit. Zero is
refused. -/
def increment? (c : Option Char) : Option (Option Nat) :=
  match c with
  | some '0' => none
  | some c => if c.isDigit then some (some (c.toNat - '0'.toNat)) else some none
  | none => some none

/-- The chomping and the indentation that a header gives, in either order, with its length. -/
def header? (s : List Char) : Option (Chomping × Option Nat × Nat) := do
  match s.head?.bind chomping? with
  | some chomping =>
    let increment ← increment? s.tail.head?
    return (chomping, increment, if increment.isSome then 2 else 1)
  | none =>
    match ← increment? s.head? with
    | none => return (.clip, none, 0)
    | some n =>
      match s.tail.head?.bind chomping? with
      | some chomping => return (chomping, some n, 2)
      | none => return (.clip, some n, 1)

/-- The line breaks of the empty lines at a place, the widest indentation on the way, and the
place after them. Lines are indented by `indent` columns, or by any number where it is zero. -/
def emptyLines? (indent : Nat) : Nat → Nat → Cursor → Option (List Char × Nat × Cursor)
  | 0, widest, p => some ([], widest, p)
  | fuel + 1, widest, p =>
    let spaces := (p.rest.takeWhile (· == ' ')).length
    let q := p.advance (if indent = 0 then spaces else min spaces (indent - p.column))
    let widest := max widest q.column
    let short := indent = 0 ∨ q.column < indent
    match q.rest with
    | [] => some ([], widest, q)
    | c :: _ =>
      if short ∧ c = '\t' then none
      else if isBreak c then
        (emptyLines? indent fuel widest q.takeBreak.2).map fun (breaks, widest, r) =>
          (q.takeBreak.1 ++ breaks, widest, r)
      else some ([], widest, q)

/-- The line breaks between two lines of a scalar, as far as they are known before the second. -/
structure Joint where
  /-- The break that ends the first line. -/
  first : List Char
  /-- The breaks of the empty lines after it. -/
  rest : List Char
  /-- Whether the first line starts with white space. -/
  afterWhite : Bool

/-- What joins two lines. A folded scalar has one space for a line feed, or nothing if empty lines
follow; lines that start with white space are not folded. -/
def Joint.text (j : Joint) (literal beforeWhite : Bool) : List Char :=
  if !literal ∧ j.first = ['\n'] ∧ !j.afterWhite ∧ !beforeWhite then
    (if j.rest = [] then [' '] else []) ++ j.rest
  else j.first ++ j.rest

/-- The lines of a scalar, what follows the last of them, and the place after that. -/
def lines? (literal : Bool) (indent : Nat) :
    Nat → Joint → Cursor → Option (List Char × Joint × Cursor)
  | 0, joint, p => some ([], joint, p)
  | fuel + 1, joint, p =>
    match p.rest with
    | [] => some ([], joint, p)
    | c :: _ =>
      if p.column ≠ indent then some ([], joint, p)
      else
        let (line, q) := p.takeWhile fun c => !isBreak c
        let (first, r) := q.takeBreak
        match emptyLines? indent (r.rest.length + 1) 0 r with
        | none => none
        | some (rest, _, s) =>
          (lines? literal indent fuel ⟨first, rest, isWhite c⟩ s).map fun (text, last, t) =>
            (joint.text literal (isWhite c) ++ line ++ text, last, t)

/-- The scalar after its `|` or `>`, in a collection at the given column. -/
def read? (literal : Bool) (parent : Option Nat) (p : Cursor) : Option (List Char × Cursor) := do
  let (chomping, increment, n) ← header? p.rest
  let (_, p) := (p.advance n).takeWhile isWhite
  let p := if p.rest.head? = some '#' then (p.takeWhile fun c => !isBreak c).2 else p
  if !atBreak p.rest then none
  else
    let (_, p) := p.takeBreak
    let given := increment.elim 0 (parent.getD 0 + ·)
    let (breaks, widest, p) ← emptyLines? given (p.rest.length + 1) 0 p
    let indent := if given = 0 then max (max widest (parent.elim 0 (· + 1))) 1 else given
    let (text, last, p) ← lines? literal indent (p.rest.length + 1) ⟨[], breaks, false⟩ p
    let ending :=
      match chomping with
      | .strip => []
      | .clip => last.first
      | .keep => last.first ++ last.rest
    return (text ++ ending, p)

end DocCorpus.Yaml.Block
