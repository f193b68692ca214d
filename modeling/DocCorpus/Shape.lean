/-
  Shape faults: a value of a data format was well formed but not what its place calls for. A fault
  records what was found and what was expected; `ShapeFault.message` is its wording.
-/
import DocCorpus.Number.Shortest
import DocCorpus.Text.Quoted

namespace DocCorpus

/-- What stood in the place of an expected value. -/
inductive Found
  | null
  | boolean (b : Bool)
  | integer (n : Int)
  /-- An integer outside the 64-bit ranges, with the name of the range that holds it. -/
  | wideInteger (n : Int) (range : String)
  | float (x : Binary64)
  | text (s : String)
  | sequence
  | map
  | tagged

inductive ShapeFault
  | wrongType (found : Found) (expected : String)
  | wrongValue (found : Found) (expected : String)
  | wrongLength (length : Nat) (expected : String)
  | missingField (name : String)
  | repeatedField (name : String)
  | repeatedKey (key : String)
  | noVariant (type : String)

namespace Found

/-- The wording of what was found. Formats differ in how they write a number with a fraction. -/
def describe (style : DecimalStyle) : Found → String
  | .null => "null"
  | .boolean b => s!"boolean `{b}`"
  | .integer n => s!"integer `{n}`"
  | .wideInteger n range => s!"integer `{n}` as {range}"
  | .float x => "floating point `" ++ String.ofList (style.text x) ++ "`"
  | .text s => "string " ++ QuoteStyle.value.quote s
  | .sequence => "sequence"
  | .map => "map"
  | .tagged => "enum"

end Found

namespace ShapeFault

def message (style : DecimalStyle) : ShapeFault → String
  | .wrongType found expected => s!"invalid type: {found.describe style}, expected {expected}"
  | .wrongValue found expected => s!"invalid value: {found.describe style}, expected {expected}"
  | .wrongLength length expected => s!"invalid length {length}, expected {expected}"
  | .missingField name => s!"missing field `{name}`"
  | .repeatedField name => s!"duplicate field `{name}`"
  | .repeatedKey key => s!"duplicate key `{key}`"
  | .noVariant type => s!"data did not match any variant of untagged enum {type}"

end ShapeFault

/-- Why the text of a data format was refused: it is not well formed, or a value has the wrong
shape. -/
inductive FormatFault
  | malformed
  | shape (fault : ShapeFault)

namespace FormatFault

/-- The wording of the fault in the value, where there is one that names the value. -/
def detail? (style : DecimalStyle) : FormatFault → Option String
  | .malformed => none
  | .shape (.wrongLength ..) => none
  | .shape fault => some (fault.message style)

end FormatFault
end DocCorpus
