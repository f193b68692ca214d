/-
  What a plain scalar stands for: null, a truth value, a number, or its own text.
-/
import DocCorpus.Metadata
import DocCorpus.Number.Decimal
import DocCorpus.Number.Digit

namespace DocCorpus.Yaml

inductive PlainValue
  | null
  | boolean (b : Bool)
  | integer (n : Int)
  | float (x : Binary64)
  | text

namespace Plain

def isNull (s : String) : Bool := ["null", "Null", "NULL", "~"].contains s

def boolean? (s : String) : Option Bool :=
  if ["true", "True", "TRUE"].contains s then some true
  else if ["false", "False", "FALSE"].contains s then some false
  else none

/-- The size of an integer without its sign. Bases other than ten are marked. -/
def magnitude? : List Char → Option Nat
  | '0' :: 'x' :: rest => Digit.natural? 16 rest
  | '0' :: 'o' :: rest => Digit.natural? 8 rest
  | '0' :: 'b' :: rest => Digit.natural? 2 rest
  | s => Digit.natural? 10 s

/-- Whether a text is digits with a needless zero in front, which is no number. -/
def hasLeadingZero (s : List Char) : Bool :=
  let (_, digits) := Decimal.sign s
  digits.length > 1 && digits.head? == some '0' && digits.all Char.isDigit

/-- An integer within 128 bits, with or without a sign. -/
def integer? (s : List Char) : Option Int :=
  if hasLeadingZero s then none
  else
    let (negative, body) := Decimal.sign s
    match magnitude? body with
    | none => none
    | some n =>
      if negative then (if n ≤ Nat.pow 2 127 then some (-n) else none)
      else if n < Nat.pow 2 128 then some n
      else none

/-- A finite decimal number, an infinity or the number that is none. -/
def float? (s : String) : Option Binary64 :=
  if [".inf", ".Inf", ".INF", "+.inf", "+.Inf", "+.INF"].contains s then some (.infinite false)
  else if ["-.inf", "-.Inf", "-.INF"].contains s then some (.infinite true)
  else if [".nan", ".NaN", ".NAN"].contains s then some .nan
  else
    match s.toList with
    | '+' :: '+' :: _ | '+' :: '-' :: _ => none
    | s => (Decimal.read? s).filter Binary64.isFinite

end Plain

namespace PlainValue

def ofText (s : String) : PlainValue :=
  if s = "" ∨ Plain.isNull s then .null
  else
    match Plain.boolean? s, Plain.integer? s.toList with
    | some b, _ => .boolean b
    | none, some n => .integer n
    | none, none =>
      if Plain.hasLeadingZero s.toList then .text
      else
        match Plain.float? s with
        | some x => .float x
        | none => .text

end PlainValue

/-! ## Values of scalars -/

namespace Scalar

def nullTag : String := "tag:yaml.org,2002:null"
def booleanTag : String := "tag:yaml.org,2002:bool"
def integerTag : String := "tag:yaml.org,2002:int"
def floatTag : String := "tag:yaml.org,2002:float"

/-- Whether a tag is of the text's own making rather than a known one. -/
def isLocal (tag : String) : Bool := tag.toList.head? == some '!'

/-- What a scalar stands for, if its tag admits that; otherwise what the tag calls for. -/
def value (tag : Option String) (plain : Bool) (s : String) : Except String PlainValue :=
  match tag with
  | none => .ok (if plain then .ofText s else .text)
  | some tag =>
    if tag = booleanTag then
      match Plain.boolean? s with
      | some b => .ok (.boolean b)
      | none => .error "a boolean"
    else if tag = integerTag then
      match Plain.integer? s.toList with
      | some n => .ok (.integer n)
      | none => .error "an integer"
    else if tag = floatTag then
      match Plain.float? s with
      | some x => .ok (.float x)
      | none => .error "a float"
    else if tag = nullTag then
      if Plain.isNull s then .ok .null else .error "null"
    else if plain && isLocal tag then .ok (.ofText s)
    else .ok .text

/-- What a scalar is, for a message about its place. -/
def found (s : String) : PlainValue → Found
  | .null => .null
  | .boolean b => .boolean b
  | .integer n =>
    if n < -(Nat.pow 2 63) then .wideInteger n "i128"
    else if n < Nat.pow 2 64 then .integer n
    else .wideInteger n "u128"
  | .float x => .float x
  | .text => .text s

end Scalar
end DocCorpus.Yaml
