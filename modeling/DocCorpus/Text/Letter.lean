/-
  Letters of any script: which characters are alphanumeric, and the lower-case and upper-case
  forms of characters and texts. A form may have several characters.
-/
import DocCorpus.Text.Alphanumeric
import DocCorpus.Text.CaseTable

namespace DocCorpus

def isAlphanumeric (c : Char) : Bool := alphanumericChars.has c

namespace CaseRun

def covers (r : CaseRun) (n : Nat) : Bool :=
  r.first ≤ n && n ≤ r.last && (n - r.first) % r.step == 0

/-- The code point to which the first run that covers `n` maps it. -/
def find? : List CaseRun → Nat → Option Nat
  | [], _ => none
  | r :: rest, n =>
    if n < r.first then none
    else if r.covers n then some (r.image + (n - r.first))
    else find? rest n

end CaseRun

namespace Letter

/-- The form of a character under a case table: its sequence if it has one, else its image under
the run that covers it, else the character itself. -/
def form (sequences : List (Nat × List Nat)) (table : List CaseRun) (c : Char) : List Char :=
  match sequences.lookup c.toNat with
  | some codes => codes.map Char.ofNat
  | none =>
    match CaseRun.find? table c.toNat with
    | some code => [Char.ofNat code]
    | none => [c]

def lower (c : Char) : List Char := form lowerSequences lowerRuns c

def upper (c : Char) : List Char := form upperSequences upperRuns c

/-- Whether the first character that is not case-ignorable has a case. -/
def meetsCased (s : List Char) : Bool :=
  match s.dropWhile caseIgnorableChars.has with
  | [] => false
  | c :: _ => casedChars.has c

/-- The lower-case form of a text, where `before` holds the characters already passed, backwards.
A capital sigma that ends a word becomes a final sigma. -/
def lowerFrom (before : List Char) : List Char → List Char
  | [] => []
  | c :: rest =>
    let image :=
      if c = 'Σ' then
        if meetsCased before && !meetsCased rest then ['ς'] else ['σ']
      else lower c
    image ++ lowerFrom (c :: before) rest

def lowerText (s : List Char) : List Char := lowerFrom [] s

end Letter
end DocCorpus
