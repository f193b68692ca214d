/-
  Gaps: the white space and line breaks between two words of a scalar, and the text that they fold
  to.
-/
import DocCorpus.Yaml.Cursor

namespace DocCorpus.Yaml

/-- White space before the first line break, and the line breaks. -/
structure Gap where
  white : List Char
  breaks : List (List Char)

namespace Gap

def empty : Gap := ⟨[], []⟩

def isBroken (g : Gap) : Bool := !g.breaks.isEmpty

/-- White space within a line stays. One line feed folds to a space, and of several the first is
dropped; a break of another kind stays with all that follow it. -/
def text (g : Gap) : List Char :=
  match g.breaks with
  | [] => g.white
  | [['\n']] => [' ']
  | ['\n'] :: breaks => breaks.flatten
  | breaks => breaks.flatten

/-- The gap at a place and the place after it. `broken` says whether a line break precedes; a tab
after one must not stand to the left of column `indent`. -/
def read? (indent : Nat) (broken : Bool) (p : Cursor) : Option (Gap × Cursor) :=
  match _h : p.rest with
  | [] => some (empty, p)
  | c :: _ =>
    if isWhite c then
      if broken && p.column < indent && c == '\t' then none
      else
        (read? indent broken p.skip).map fun (g, q) =>
          (if broken then g else { g with white := c :: g.white }, q)
    else if _hc : isBreak c then
      (read? indent true p.takeBreak.2).map fun (g, q) => (⟨[], p.takeBreak.1 :: g.breaks⟩, q)
    else some (empty, p)
termination_by p.rest.length
decreasing_by
  · simp [Cursor.skip_rest, _h]
  · exact Cursor.takeBreak_shorter _h _hc

end Gap
end DocCorpus.Yaml
