/-
  TOML documents read into value trees: lines of keys and values below headers. The members of a
  table come in the order of the text, a declared table where its header stands.
-/
import DocCorpus.Toml.Value

namespace DocCorpus.Toml

/-- How far a document is read: its tables, and the table that keys go to. -/
structure Progress where
  members : Members
  here : List String

/-- Enters a key with its value. -/
def Progress.insert? (p : Progress) (path : List String) (key : String) (t : Tree) :
    Option Progress :=
  (Members.edit? .implied (Members.insert? path key t) p.here .declared p.members).map
    fun members => { p with members }

/-- The header after an opening bracket: the progress below it and what follows its line. -/
def header? (p : Progress) (s : List Char) : Option (Progress × List Char) := do
  match s with
  | '[' :: s =>
    let (path, key, rest) ← key? s
    let ']' :: ']' :: rest := rest | none
    return (⟨← p.members.extend? path key, path ++ [key]⟩, ← afterLine? rest)
  | s =>
    let (path, key, rest) ← key? s
    let ']' :: rest := rest | none
    return (⟨← p.members.declare? path key, path ++ [key]⟩, ← afterLine? rest)

/-- A key with its value: the progress with it and what follows its line. -/
def pair? (p : Progress) (s : List Char) : Option (Progress × List Char) := do
  let (path, key, rest) ← key? s
  let '=' :: rest := rest | none
  let (t, rest) ← value? (2 * rest.length + 2) 0 (dropWhite rest)
  return (← p.insert? path key t, ← afterLine? rest)

/-- The members of a document of at most `fuel` lines. -/
def document? : Nat → Progress → List Char → Option Members
  | 0, _, _ => none
  | fuel + 1, p, s =>
    match dropGap s with
    | [] => some p.members
    | '[' :: rest => do
      let (p, rest) ← header? p rest
      document? fuel p rest
    | rest => do
      let (p, rest) ← pair? p rest
      document? fuel p rest

/-- The tree of a text, which may start with a byte-order mark. -/
def read? (text : String) : Option Tree :=
  let s := text.toList
  let s := if s.head? = some '\ufeff' then s.tail else s
  (document? (s.length + 1) ⟨[], []⟩ s).map fun members => .table (membersToTrees members)

end DocCorpus.Toml
