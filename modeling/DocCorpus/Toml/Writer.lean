/-
  TOML text of a value tree, laid out for reading: a section for each table and for each table of
  a list of tables, with the plain members of a table before the tables in it. Strings are quoted
  in the way that needs the fewest escapes.
-/
import DocCorpus.Json.Writer
import DocCorpus.Toml.Value

namespace DocCorpus.Toml

/-! ## Strings -/

/-- A way to quote a string. -/
inductive Quoting
  | basic
  | literal
  | basicLines
  | literalLines
  deriving DecidableEq

/-- The greatest number of equal characters in a row, where `run` of them precede. -/
def longestRun (c : Char) (run : Nat) : List Char → Nat
  | [] => 0
  | d :: rest => if d = c then max (run + 1) (longestRun c (run + 1) rest) else longestRun c 0 rest

/-- Whether a character can only be written as an escape. A line feed can stand in strings that
run over lines. -/
def needsEscape (c : Char) : Bool := !(isPrintable c || c == '\n')

/-- The quoting of a string: one without escapes if there is any, on one line if that is one. -/
def quoting (s : List Char) : Quoting :=
  let doubles := longestRun '"' 0 s
  let singles := longestRun '\'' 0 s
  let escapes := s.any needsEscape
  let backslash := s.contains '\\'
  let lines := s.contains '\n'
  if !escapes ∧ !backslash ∧ doubles = 0 ∧ !lines then .basic
  else if !escapes ∧ singles = 0 ∧ !lines then .literal
  else if !escapes ∧ !backslash ∧ doubles ≤ 2 then .basicLines
  else if !escapes ∧ singles ≤ 2 then .literalLines
  else if lines then .basicLines
  else .basic

/-- The number of a character, as four hexadecimal digits. -/
def codeText (c : Char) : List Char :=
  let n := c.toNat
  [n / 4096, n / 256 % 16, n / 16 % 16, n % 16].map fun d => (Nat.digitChar d).toUpper

/-- The text of a basic string, where `run` double quotes precede and `most` may stand in a row. -/
def spell (lines : Bool) (most run : Nat) : List Char → List Char
  | [] => []
  | c :: rest =>
    if c = '"' then
      if run < most then '"' :: spell lines most (run + 1) rest
      else '\\' :: '"' :: spell lines most 0 rest
    else
      let spelled :=
        if c = '\x08' then ['\\', 'b']
        else if c = '\t' then ['\\', 't']
        else if c = '\n' ∧ !lines then ['\\', 'n']
        else if c = '\x0c' then ['\\', 'f']
        else if c = '\r' then ['\\', 'r']
        else if c = '\\' then ['\\', '\\']
        else if needsEscape c then '\\' :: 'u' :: codeText c
        else [c]
      spelled ++ spell lines most 0 rest

/-- A string that runs over lines starts on a line of its own. -/
def firstBreak (s : List Char) : List Char := if s.contains '\n' then ['\n'] else []

def quoted (q : Quoting) (s : List Char) : List Char :=
  match q with
  | .basic => '"' :: spell false 0 0 s ++ ['"']
  | .literal => '\'' :: s ++ ['\'']
  | .basicLines => "\"\"\"".toList ++ firstBreak s ++ spell true 2 0 s ++ "\"\"\"".toList
  | .literalLines => "'''".toList ++ firstBreak s ++ s ++ "'''".toList

def string (s : String) : List Char := quoted (quoting s.toList) s.toList

/-- A key: bare if it can be, else quoted on one line. -/
def keyText (key : String) : List Char :=
  let s := key.toList
  if s ≠ [] ∧ s.all isKeyChar then s
  else if s.contains '\n' ∨ s.any needsEscape then quoted .basic s
  else if s.contains '\\' ∨ s.contains '"' then
    quoted (if s.contains '\'' then .basic else .literal) s
  else quoted .basic s

/-! ## Values -/

/-- Items of an array: several of them stand on a line each. -/
def arrayText : List (List Char) → List Char
  | [] => "[]".toList
  | [item] => '[' :: item ++ [']']
  | items => '[' :: items.flatMap (fun item => "\n    ".toList ++ item ++ [',']) ++ "\n]".toList

mutual

/-- A value on the right of a key. -/
def valueText : Tree → List Char
  | .null => []
  | .boolean b => Json.word b
  | .integer n => Json.integer n
  | .float x => DecimalStyle.exported.text x
  | .text s => string s
  | .list items => arrayText (itemTexts items)
  | .table members => "\x7b ".toList ++ [',', ' '].intercalate (pairTexts members) ++ " \x7d".toList

def itemTexts : List Tree → List (List Char)
  | [] => []
  | item :: rest => valueText item :: itemTexts rest

def pairTexts : List (String × Tree) → List (List Char)
  | [] => []
  | (key, t) :: rest => (keyText key ++ " = ".toList ++ valueText t) :: pairTexts rest

end

/-! ## Sections -/

def isTable : Tree → Bool
  | .table _ => true
  | _ => false

/-- Whether a tree is written as sections rather than as a value. -/
def hasSections : Tree → Bool
  | .table _ => true
  | .list items => !items.isEmpty && items.all isTable
  | _ => false

/-- The lines of the plain members of a table. -/
def body (members : List (String × Tree)) : List Char :=
  (members.filter fun m => !hasSections m.2).flatMap fun (key, t) =>
    keyText key ++ " = ".toList ++ valueText t ++ ['\n']

/-- A table with its header. One that holds nothing but tables needs none. -/
def ownSection (path : List (List Char)) (members : List (String × Tree)) : List (List Char) :=
  if !members.isEmpty && members.all fun m => hasSections m.2 then []
  else ['[' :: ['.'].intercalate path ++ "]\n".toList ++ body members]

mutual

/-- The sections of what stands under a path. -/
def sections (path : List (List Char)) : Tree → List (List Char)
  | .table members => ownSection path members ++ memberSections path members
  | .list items => if items.all isTable then itemSections path items else []
  | _ => []

def memberSections (path : List (List Char)) : List (String × Tree) → List (List Char)
  | [] => []
  | (key, t) :: rest => sections (path ++ [keyText key]) t ++ memberSections path rest

/-- The sections of a list of tables, each under the header of the list. -/
def itemSections (path : List (List Char)) : List Tree → List (List Char)
  | [] => []
  | .table members :: rest =>
    ("[[".toList ++ ['.'].intercalate path ++ "]]\n".toList ++ body members) ::
      (memberSections path members ++ itemSections path rest)
  | _ :: rest => itemSections path rest

end

/-- The document whose members are those of a table, with an empty line between sections. -/
def write (members : List (String × Tree)) : String :=
  let lead := body members
  let all := (if lead = [] then [] else [lead]) ++ memberSections [] members
  String.ofList (['\n'].intercalate all)

end DocCorpus.Toml
