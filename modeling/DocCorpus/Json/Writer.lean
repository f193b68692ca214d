/-
  JSON text of a value tree: compact, or laid out with one item a line and two spaces for each
  level. An empty list or table is written without a line break.
-/
import DocCorpus.Tree

namespace DocCorpus.Json

/-! ## Strings -/

/-- The spelling of a character inside a string: the quote, the backslash and the controls are
escaped, and nothing else. -/
def spell (c : Char) : List Char :=
  if c = '"' then ['\\', '"']
  else if c = '\\' then ['\\', '\\']
  else if c = '\x08' then ['\\', 'b']
  else if c = '\t' then ['\\', 't']
  else if c = '\n' then ['\\', 'n']
  else if c = '\x0c' then ['\\', 'f']
  else if c = '\r' then ['\\', 'r']
  else if c.toNat < 0x20 then
    ['\\', 'u', '0', '0', Nat.digitChar (c.toNat / 16), Nat.digitChar (c.toNat % 16)]
  else [c]

def string (s : String) : List Char := '"' :: (s.toList.flatMap spell ++ ['"'])

/-! ## Layout -/

def word (b : Bool) : List Char := if b then ['t', 'r', 'u', 'e'] else ['f', 'a', 'l', 's', 'e']

def integer (n : Int) : List Char :=
  if n < 0 then '-' :: Nat.toDigits 10 n.natAbs else Nat.toDigits 10 n.natAbs

/-- A line break and the indentation of a level. -/
def newline (level : Nat) : List Char := '\n' :: List.replicate (2 * level) ' '

/-- How the parts of a value are set apart. -/
structure Layout where
  /-- What stands before each item, by the level of the items. -/
  beforeItem : Nat → List Char
  /-- What stands before the closing bracket, by the level of the bracket. -/
  beforeClose : Nat → List Char
  afterColon : List Char

namespace Layout

def compact : Layout := ⟨fun _ => [], fun _ => [], []⟩

def pretty : Layout := ⟨newline, newline, [' ']⟩

end Layout

/-- Items between brackets. -/
def bracketed (layout : Layout) (level : Nat) (opening closing : Char) :
    List (List Char) → List Char
  | [] => [opening, closing]
  | item :: rest =>
    opening :: (layout.beforeItem (level + 1) ++ item ++
      rest.flatMap (fun item => ',' :: layout.beforeItem (level + 1) ++ item) ++
      layout.beforeClose level ++ [closing])

mutual

/-- The text of a tree at a level. -/
def write (layout : Layout) (level : Nat) : Tree → List Char
  | .null => ['n', 'u', 'l', 'l']
  | .boolean b => word b
  | .integer n => integer n
  | .float x => DecimalStyle.exported.text x
  | .text s => string s
  | .list items => bracketed layout level '[' ']' (writeItems layout (level + 1) items)
  | .table members => bracketed layout level '{' '}' (writeMembers layout (level + 1) members)

def writeItems (layout : Layout) (level : Nat) : List Tree → List (List Char)
  | [] => []
  | item :: rest => write layout level item :: writeItems layout level rest

def writeMembers (layout : Layout) (level : Nat) : List (String × Tree) → List (List Char)
  | [] => []
  | (key, value) :: rest =>
    (string key ++ ':' :: layout.afterColon ++ write layout level value) ::
      writeMembers layout level rest

end

def compact (v : Tree) : String := String.ofList (write .compact 0 v)

def pretty (v : Tree) : String := String.ofList (write .pretty 0 v)

end DocCorpus.Json
