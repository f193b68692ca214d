/-
  Paths of files, as written. A path is a text; its steps are what the text means: separators may
  be repeated, and a single dot after the first step means nothing.
-/
import DocCorpus.Text.Split

namespace DocCorpus

/-- A path as written, with `/` between its steps. -/
structure Path where
  text : String
  deriving DecidableEq

/-- One step of a path. -/
inductive PathStep
  | root
  /-- A dot at the start of a relative path. -/
  | here
  | parent
  | name (s : String)
  deriving DecidableEq

namespace Path

def isAbsolute (p : Path) : Bool := p.text.toList.head? == some '/'

/-- The parts between separators, empty ones included. -/
def segments (p : Path) : List (List Char) := p.text.toList.splitOn '/'

/-- The step that a part stands for, other than a dot at the start. -/
def stepOf? (part : List Char) : Option PathStep :=
  if part = [] ∨ part = ['.'] then none
  else if part = ['.', '.'] then some .parent
  else some (.name (String.ofList part))

def steps (p : Path) : List PathStep :=
  let start :=
    if p.isAbsolute then [PathStep.root]
    else if p.segments.head? = some ['.'] then [PathStep.here]
    else []
  start ++ p.segments.filterMap stepOf?

/-- The names among the steps. -/
def names (p : Path) : List String :=
  p.steps.filterMap fun
    | .name s => some s
    | _ => none

def lastStep? (p : Path) : Option PathStep := p.steps.getLast?

def fileName? (p : Path) : Option String :=
  match p.lastStep? with
  | some (.name s) => some s
  | _ => none

/-- The name after the last dot of a file name that has something before that dot. -/
def extensionOf? (fileName : String) : Option String :=
  match Text.cutLast? '.' fileName.toList with
  | some (_ :: _, ext) => some (String.ofList ext)
  | _ => none

/-- A path below another; an absolute path stands alone. -/
def join (base p : Path) : Path :=
  if p.isAbsolute ∨ base.text = "" then p
  else if base.text.toList.getLast? = some '/' then ⟨base.text ++ p.text⟩
  else ⟨base.text ++ "/" ++ p.text⟩

/-- The reversed parts without those at the front of the list that mean nothing after the others. -/
def dropIdle : List (List Char) → List (List Char)
  | [] => []
  | [part] => [part]
  | part :: front => if part = [] ∨ part = ['.'] then dropIdle front else part :: front

/-- The text of the path without its last step, and without separators at its end. -/
def parent? (p : Path) : Option Path :=
  match p.lastStep? with
  | none | some .root => none
  | some _ =>
    let front := (dropIdle p.segments.reverse).tail
    let kept := (dropIdle front).reverse
    let text := ['/'].intercalate kept
    some ⟨if text = [] ∧ p.isAbsolute then "/" else String.ofList text⟩

end Path
end DocCorpus
