/-
  Names of hosts in any script. A name is decoded, its characters are brought to one form, and its
  labels are checked; `canonical?` gives the name in that form.
-/
import DocCorpus.Text.Letter
import DocCorpus.Text.Percent
import DocCorpus.Text.Split
import DocCorpus.WebAddress.DirectionTable
import DocCorpus.WebAddress.HostTable
import DocCorpus.WebAddress.Punycode

namespace DocCorpus

/-! ## Directions -/

namespace Direction

inductive Class
  | leftToRight
  | rightToLeft
  | arabicDigit
  | digit
  | neutral
  | mark
  deriving DecidableEq

def ofChar (c : Char) : Class :=
  if rightToLeft.has c || arabicLetters.has c then .rightToLeft
  else if arabicDigits.has c then .arabicDigit
  else if digits.has c then .digit
  else if neutral.has c then .neutral
  else if marks.has c then .mark
  else .leftToRight

/-- Whether a character makes a name one of two directions. -/
def turns (c : Char) : Bool := ofChar c == .rightToLeft || ofChar c == .arabicDigit

/-- Whether a label keeps to one direction: its first character gives the direction, the others do
not go against it, and a letter or digit of it stands last but for marks. -/
def isSteady (label : List Char) : Bool :=
  let classes := label.map ofChar
  let last := (classes.reverse.dropWhile (· == .mark)).head?
  match classes.head? with
  | none => true
  | some .leftToRight =>
    classes.all (fun k => k != .rightToLeft && k != .arabicDigit) &&
      (last == some .leftToRight || last == some .digit)
  | some .rightToLeft =>
    classes.all (· != .leftToRight) &&
      (last == some .rightToLeft || last == some .digit || last == some .arabicDigit) &&
      !(classes.contains .digit && classes.contains .arabicDigit)
  | some _ => false

end Direction

/-! ## Joiners -/

namespace Joining

def nonJoiner : Char := '\u200c'

def joiner : Char := '\u200d'

/-- Whether the first character that joining does not pass over is in one of two sets. -/
def meets (a b : CharSet) (s : List Char) : Bool :=
  match s.dropWhile transparent.has with
  | [] => false
  | c :: _ => a.has c || b.has c

/-- Whether each joiner and non-joiner stands after a virama; a non-joiner may also stand between
two characters that would join. Here `before` holds the characters already passed, backwards. -/
def isProper (before : List Char) : List Char → Bool
  | [] => true
  | c :: rest =>
    let afterVirama := (before.head?.map viramas.has).getD false
    let allowed :=
      if c = joiner then afterVirama
      else if c = nonJoiner then
        afterVirama || (meets left both before && meets right both rest)
      else true
    allowed && isProper (c :: before) rest

end Joining

/-! ## Names -/

namespace HostName

/-- The form of a character, unless no name may hold it. -/
def form? (c : Char) : Option (List Char) :=
  if refusedChars.has c then none
  else if droppedChars.has c then some []
  else some (Letter.form asciiSequences asciiRuns c)

/-- Characters that end a name or mean something else in an address. -/
def isForbidden (c : Char) : Bool :=
  c.toNat ≤ 0x20 || c == '\x7f' || "%#/:<>?@[\\]^|".toList.contains c

/-- Whether a character is its own form. -/
def isStable (c : Char) : Bool := form? c == some [c]

/-- What follows the mark of an encoded label. -/
def encoded? (label : List Char) : Option (List Char) := Text.dropHead? "xn--".toList label

/-- The characters that a label shows: those of an encoded label have to be in their form, and one
of them not ASCII. -/
def shown? (label : List Char) : Option (List Char) :=
  match encoded? label with
  | none => some label
  | some code =>
    match Punycode.decode? code with
    | none => none
    | some text =>
      if text.all isStable && text.any (fun c => 0x80 ≤ c.toNat) && !text.any isForbidden then
        some text
      else none

/-- Whether the characters of a label may stand together. -/
def isLabel (label : List Char) : Bool :=
  !((label.head?.map combiningMarks.has).getD false) && Joining.isProper [] label

/-- The name with every character in its form. A name that cannot be decoded, or holds a character
or a label that no name may hold, has none. -/
def canonical? (name : List Char) : Option (List Char) := do
  let decoded ← Percent.decode? name
  let name := (← decoded.mapM form?).flatten
  if name.any isForbidden then none
  else
    let labels ← (name.splitOn '.').mapM shown?
    let turned := labels.any (·.any Direction.turns)
    if labels.all fun label => isLabel label && (!turned || Direction.isSteady label) then
      some name
    else none

end HostName
end DocCorpus
