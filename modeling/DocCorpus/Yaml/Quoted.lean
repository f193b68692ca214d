/-
  Quoted scalars. Between single quotes a doubled quote stands for one; between double quotes a
  backslash starts an escape, also of a line break.
-/
import DocCorpus.Number.Digit
import DocCorpus.Yaml.Gap

namespace DocCorpus.Yaml.Quoted

def shortEscape? (c : Char) : Option Char :=
  match c with
  | '0' => some '\x00'
  | 'a' => some '\x07'
  | 'b' => some '\x08'
  | 't' => some '\t'
  | '\t' => some '\t'
  | 'n' => some '\n'
  | 'v' => some '\x0b'
  | 'f' => some '\x0c'
  | 'r' => some '\r'
  | 'e' => some '\x1b'
  | ' ' => some ' '
  | '"' => some '"'
  | '/' => some '/'
  | '\\' => some '\\'
  | 'N' => some '\u0085'
  | '_' => some '\u00a0'
  | 'L' => some '\u2028'
  | 'P' => some '\u2029'
  | _ => none

/-- The number of hexadecimal digits that an escape takes. -/
def codeLength? (c : Char) : Option Nat :=
  match c with
  | 'x' => some 2
  | 'u' => some 4
  | 'U' => some 8
  | _ => none

/-- The character that hexadecimal digits name. -/
def character? (digits : List Char) : Option Char :=
  ((Digit.natural? 16 digits).filter Nat.isValidChar).map Char.ofNat

/-- The character that an escape stands for, and the number of characters after the backslash. -/
def escape? : List Char → Option (Char × Nat)
  | [] => none
  | c :: rest =>
    match codeLength? c with
    | some n =>
      if rest.length < n then none else (character? (rest.take n)).map fun e => (e, n + 1)
    | none => (shortEscape? c).map fun e => (e, 1)

/-- A stretch of a quoted scalar without white space. -/
structure Word where
  text : List Char
  /-- How many characters of the source it takes. -/
  length : Nat
  /-- Whether an escaped line break ends it. -/
  escapesBreak : Bool

/-- The word that starts with a character written with `n` characters. -/
def Word.cons (c : Char) (n : Nat) (w : Word) : Word := ⟨c :: w.text, w.length + n, w.escapesBreak⟩

/-- The word that a text starts with. -/
def word? (quote : Char) (s : List Char) : Option Word :=
  match s with
  | [] => some ⟨[], 0, false⟩
  | c :: rest =>
    if isWhite c || isBreak c then some ⟨[], 0, false⟩
    else if c = quote then
      if quote = '\'' ∧ rest.head? = some '\'' then
        (word? quote (rest.drop 1)).map (Word.cons '\'' 2)
      else some ⟨[], 0, false⟩
    else if c = '\\' ∧ quote = '"' then
      if rest ≠ [] ∧ atBreak rest then some ⟨[], 1, true⟩
      else
        match escape? rest with
        | none => none
        | some (e, n) => (word? quote (rest.drop n)).map (Word.cons e (n + 1))
    else (word? quote rest).map (Word.cons c 1)
termination_by s.length
decreasing_by all_goals simp +arith

/-- The text up to the closing quote and the place after it. -/
def words? (quote : Char) : Nat → Cursor → Option (List Char × Cursor)
  | 0, _ => none
  | fuel + 1, p =>
    if p.atDocumentMark then none
    else
      match word? quote p.rest with
      | none => none
      | some word =>
        let q := p.advance word.length
        let (escaped, q) := if word.escapesBreak then ([[]], q.takeBreak.2) else ([], q)
        if q.rest.head? = some quote then some (word.text, q.skip)
        else
          match Gap.read? 0 word.escapesBreak q with
          | none => none
          | some (gap, r) =>
            let gap := { gap with breaks := escaped ++ gap.breaks }
            (words? quote fuel r).map fun (text, s) => (word.text ++ gap.text ++ text, s)

/-- The scalar after the opening quote. -/
def read? (quote : Char) (p : Cursor) : Option (List Char × Cursor) :=
  words? quote (p.rest.length + 1) p

end DocCorpus.Yaml.Quoted
