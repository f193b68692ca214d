/-
  Value trees: what the text of a JSON or TOML document stands for. A table keeps its members in
  the order of the text.
-/
import DocCorpus.Shape

namespace DocCorpus

inductive Tree
  | null
  | boolean (b : Bool)
  | integer (n : Int)
  | float (x : Binary64)
  | text (s : String)
  | list (items : List Tree)
  | table (members : List (String × Tree))
  deriving Inhabited

namespace Tree

/-- What a tree is, for a message about its place. -/
def found : Tree → Found
  | .null => .null
  | .boolean b => .boolean b
  | .integer n => .integer n
  | .float x => .float x
  | .text s => .text s
  | .list _ => .sequence
  | .table _ => .map

/-- A member that is left out when there is no text. -/
def optionalText (key : String) : Option String → List (String × Tree)
  | none => []
  | some s => [(key, .text s)]

end Tree
end DocCorpus
