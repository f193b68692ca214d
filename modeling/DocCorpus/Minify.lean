/-
  Minified bodies: HTML comments outside fenced code and asides are removed, blanks at the ends of
  lines are dropped and runs of blank lines are reduced to one. A line that starts with three
  backticks, after blanks, opens or closes fenced code.
-/
import DocCorpus.Text.Blank
import DocCorpus.Text.Lines
import DocCorpus.Text.Split

namespace DocCorpus.Minify

def fenceMark : List Char := ['\x60', '\x60', '\x60']

def isFence (line : List Char) : Bool := Text.startsWith fenceMark (Text.trimStart line)

/-! ## Comments -/

def commentStart : List Char := "<!--".toList

def commentEnd : List Char := "-->".toList

/-- The texts before and after the first comment. -/
def firstComment? (s : List Char) : Option (List Char × List Char) := do
  let (front, opened) ← Text.cutAt? commentStart s
  let (_, back) ← Text.cutAt? commentEnd opened
  return (front, back)

theorem length_lt_of_firstComment? {s front back : List Char}
    (h : firstComment? s = some (front, back)) : back.length < s.length := by
  simp only [firstComment?, Option.bind_eq_bind, Option.bind_eq_some_iff, Option.pure_def,
    Option.some.injEq, Prod.mk.injEq] at h
  obtain ⟨⟨f, opened⟩, h₁, ⟨_, back⟩, h₂, rfl, rfl⟩ := h
  have e₁ := congrArg List.length (Text.cutAt?_eq_some h₁)
  have e₂ := congrArg List.length (Text.cutAt?_eq_some h₂)
  simp [commentStart, commentEnd] at e₁ e₂ ⊢
  omega

/-- The text without its comments. A comment that does not end is not one. -/
def dropComments (s : List Char) : List Char :=
  match _h : firstComment? s with
  | none => s
  | some (front, back) => front ++ dropComments back
termination_by s.length
decreasing_by exact length_lt_of_firstComment? _h

/-- The pieces of a text with `f` applied to each run of pieces outside fenced code, where
`pending` holds the current run. -/
def mapPieces (f : List Char → List Char) (inCode : Bool) (pending : List Char) :
    List (List Char) → List Char
  | [] => f pending
  | piece :: rest =>
    if inCode then piece ++ mapPieces f (!isFence piece) pending rest
    else if isFence piece then f pending ++ (piece ++ mapPieces f true [] rest)
    else mapPieces f false (pending ++ piece) rest

/-- The text with `f` applied to each run of lines outside fenced code. -/
def mapOutsideCode (f : List Char → List Char) (s : List Char) : List Char :=
  mapPieces f false [] (Text.pieces s)

def stripComments (s : List Char) : List Char := mapOutsideCode dropComments s

/-! ## Asides -/

def asideMark : List Char := [':', ':', ':']

/-- Whether a line opens an aside: three colons and the letter that its kind starts with. -/
def opensAside (line : List Char) : Bool :=
  match Text.dropHead? asideMark (Text.trimStart line) with
  | none => false
  | some rest => ((Text.trimStart rest).head?.map Char.isAlpha).getD false

def closesAside (line : List Char) : Bool := Text.trim line = asideMark

/-- The lines outside asides, where `depth` counts the asides that are open. Fences are seen
outside asides only, and asides outside fenced code. -/
def outsideAsides (depth : Nat) (inCode : Bool) : List (List Char) → List (List Char)
  | [] => []
  | line :: rest =>
    let inCode := if depth = 0 ∧ isFence line then !inCode else inCode
    if inCode then line :: outsideAsides depth inCode rest
    else if opensAside line then outsideAsides (depth + 1) inCode rest
    else if depth = 0 then line :: outsideAsides depth inCode rest
    else if closesAside line then outsideAsides (depth - 1) inCode rest
    else outsideAsides depth inCode rest

def stripAsides (s : List Char) : List Char :=
  Text.unlines (outsideAsides 0 false (Text.lines s))

/-! ## Blanks -/

def trimLineEnds (s : List Char) : List Char := Text.unlines ((Text.lines s).map Text.trimEnd)

/-- The lines without each empty one that follows another outside fenced code, where `afterEmpty`
tells whether the last line kept is empty. -/
def collapseFrom (inCode afterEmpty : Bool) : List (List Char) → List (List Char)
  | [] => []
  | line :: rest =>
    let inCode := if isFence line then !inCode else inCode
    if !inCode && line.isEmpty && afterEmpty then collapseFrom inCode afterEmpty rest
    else line :: collapseFrom inCode line.isEmpty rest

def collapseBlankLines (s : List Char) : List Char :=
  Text.unlines (collapseFrom false false (Text.lines s))

/-! ## Bodies -/

def body (s : List Char) : List Char :=
  Text.trim (collapseBlankLines (trimLineEnds (stripAsides (stripComments s))))

end DocCorpus.Minify

namespace DocCorpus

/-- The minified form of a body. -/
def minify (body : String) : String := String.ofList (Minify.body body.toList)

end DocCorpus
