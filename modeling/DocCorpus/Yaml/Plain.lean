/-
  Plain scalars: words without quotes, joined across gaps. In a flow collection its brackets and
  commas end a word.
-/
import DocCorpus.Yaml.Gap

namespace DocCorpus.Yaml.Plain

/-- A bracket or comma of a flow collection. -/
def isFlowMark (c : Char) : Bool :=
  c == ',' || c == '[' || c == ']' || c == '\x7b' || c == '\x7d'

/-- Whether a text starts with what must not follow a colon in a flow collection. -/
def atFlowMark : List Char → Bool
  | [] => false
  | c :: _ => isFlowMark c || c == '?'

/-- The word that a text starts with, if its colons are admitted. -/
def word? (flow : Bool) : List Char → Option (List Char)
  | [] => some []
  | c :: rest =>
    if isWhite c || isBreak c then some []
    else if flow && c == ':' && atFlowMark rest then none
    else if (c == ':' && atGap rest) || (flow && isFlowMark c) then some []
    else (word? flow rest).map (c :: ·)

/-- The words from a place on, after a gap. A block scalar ends before a line that starts to the
left of column `indent`. The answer holds the text, whether a line break follows the last word,
and the place after that. -/
def words? (flow : Bool) (indent : Nat) :
    Nat → Gap → Cursor → Option (List Char × Bool × Cursor)
  | 0, gap, p => some ([], gap.isBroken, p)
  | fuel + 1, gap, p =>
    if p.atDocumentMark || p.rest.head? == some '#' then some ([], gap.isBroken, p)
    else
      match word? flow p.rest with
      | none => none
      | some [] => some ([], gap.isBroken, p)
      | some word =>
        let q := p.advance word.length
        match Gap.read? indent false q with
        | none => none
        | some (next, r) =>
          if q.rest.length = r.rest.length ∨ (!flow ∧ r.column < indent) then
            some (gap.text ++ word, next.isBroken, r)
          else
            (words? flow indent fuel next r).map fun (text, broken, s) =>
              (gap.text ++ word ++ text, broken, s)

/-- The scalar at a place. -/
def read? (flow : Bool) (indent : Nat) (p : Cursor) : Option (List Char × Bool × Cursor) :=
  words? flow indent p.rest.length .empty p

end DocCorpus.Yaml.Plain
