/-
  An index read back, line by line: its title, its summary and the links of its sections. Lines
  that are none of these are passed over. `unresolved` finds the links to pages of the site that
  no document has.
-/
import DocCorpus.LlmsText.Writer
import DocCorpus.LinkTarget

namespace DocCorpus.LlmsText

/-- A link of a section and what is said about it. -/
structure Entry where
  name : String
  url : String
  notes : Option String

structure Section where
  title : String
  entries : List Entry

/-- An index as read. -/
structure Listing where
  title : String
  summary : Option String
  sections : List Section

/-! ## Lines -/

def trimmed (s : List Char) : String := String.ofList (Text.trim s)

/-- The text after blanks at the start, if there is at least one and something follows. -/
def afterBlanks? : List Char → Option (List Char)
  | [] => none
  | c :: rest =>
    if isBlank c then
      match Text.trimStart rest with
      | [] => none
      | text => some text
    else none

/-- The heading after a mark. -/
def heading? (mark line : List Char) : Option String :=
  ((Text.dropHead? mark line).bind afterBlanks?).map trimmed

def titleMark : List Char := ['#']

def sectionMark : List Char := ['#', '#']

/-- The text of a quoted line. -/
def quotation? : List Char → Option String
  | '>' :: c :: rest => some (trimmed (c :: rest))
  | _ => none

/-- A text of at least one character up to `close`, and what follows `close`. -/
def enclosed? (close : Char) (s : List Char) : Option (List Char × List Char) :=
  match Text.cutFirst? close s with
  | some (c :: text, rest) => some (c :: text, rest)
  | _ => none

/-- What is said about a link after a colon; nothing may stand in its place. -/
def notes? : List Char → Option (Option String)
  | [] => some none
  | ':' :: c :: rest => some (some (trimmed (c :: rest)))
  | _ => none

/-- The entry that a line with a link holds. -/
def linkOf? : List Char → Option Entry
  | mark :: line =>
    if mark = '-' ∨ mark = '*' then
      match afterBlanks? line with
      | some ('[' :: rest) =>
        match enclosed? ']' rest with
        | some (name, '(' :: rest) =>
          match enclosed? ')' rest with
          | some (url, rest) => (notes? rest).map fun notes => ⟨trimmed name, trimmed url, notes⟩
          | none => none
        | _ => none
      | _ => none
    else none
  | [] => none

/-! ## Texts -/

/-- The summary that the quoted lines at the start make, and the other lines. -/
def summary : List (List Char) → List String × List (List Char)
  | [] => ([], [])
  | line :: rest =>
    match quotation? line with
    | some text => (text :: (summary rest).1, (summary rest).2)
    | none => ([], line :: rest)

/-- The sections of the lines, where `current` is the section that is open. -/
def sectionsFrom (current : Option Section) : List (List Char) → List Section
  | [] => current.toList
  | line :: rest =>
    match heading? sectionMark line with
    | some title => current.toList ++ sectionsFrom (some ⟨title, []⟩) rest
    | none =>
      match linkOf? line, current with
      | some entry, some s => sectionsFrom (some { s with entries := s.entries ++ [entry] }) rest
      | _, _ => sectionsFrom current rest

/-- The lines of a text without blanks at their ends; empty ones are left out. -/
def contentLines (s : List Char) : List (List Char) :=
  ((Text.lines s).map Text.trim).filter (· ≠ [])

def read (text : String) : Except Failure Listing :=
  match contentLines text.toList with
  | [] => .error (.parse .manifestEmpty)
  | first :: rest =>
    match heading? titleMark first with
    | none => .error (.parse .manifestWithoutHeading)
    | some title =>
      let (quoted, rest) := summary rest
      .ok {
        title
        summary := if quoted.isEmpty then none else some (String.intercalate " " quoted)
        sections := sectionsFrom none rest }

/-! ## Links of the site -/

/-- A link to a page that no document has. -/
structure Unresolved where
  heading : String
  name : String
  url : String

/-- The path of an address on the site at `base`: what follows the base, or an address that starts
with a slash. -/
def localPath? (base url : List Char) : Option (List Char) :=
  let rooted := if url.head? = some '/' then some url else none
  if base = [] then rooted
  else
    match Text.dropHead? base url with
    | some rest => if rest = [] ∨ rest.head? = some '/' then some rest else none
    | none => rooted

/-- Whether an address is on the site at `base`, is not that of a text file, and names no known
document. -/
def isUnresolved (base : List Char) (known : List String) (url : String) : Bool :=
  match localPath? base url.toList with
  | none => false
  | some path =>
    let path := path.dropWhile (· = '/')
    !Text.endsWith ".txt".toList path &&
      !known.contains (LinkTarget.normalize (String.ofList path))

/-- The entries of a listing that lead to no known document, in their order. -/
def unresolved (listing : Listing) (baseUrl : String) (known : List String) : List Unresolved :=
  let base := (Project.dropSlashes baseUrl).toList
  listing.sections.flatMap fun s =>
    (s.entries.filter fun e => isUnresolved base known e.url).map fun e => ⟨s.title, e.name, e.url⟩

end DocCorpus.LlmsText
