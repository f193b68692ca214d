/-
  Document identifiers: texts like `guides/adding-steps`, without slashes at either end. An
  identifier is given by the frontmatter, or derived from the path of the file.
-/
import DocCorpus.Metadata
import DocCorpus.Path
import DocCorpus.Text.Blank
import DocCorpus.Text.Letter

namespace DocCorpus.Identifier

/-- The text without slashes at its ends. -/
def normalizeChars (s : List Char) : List Char := Text.strip (· = '/') s

def normalize (id : String) : String := String.ofList (normalizeChars id.toList)

theorem normalizeChars_normalizeChars (s : List Char) :
    normalizeChars (normalizeChars s) = normalizeChars s :=
  Text.strip_strip _ s

theorem normalize_normalize (id : String) : normalize (normalize id) = normalize id := by
  simp [normalize, normalizeChars_normalizeChars]

/-! ## Titles -/

/-- The word with its first letter in upper case. -/
def capitalize : List Char → List Char
  | [] => []
  | c :: rest => Letter.upper c ++ rest

/-- A readable title made from the last part of an identifier. -/
def titleChars (id : List Char) : List Char :=
  let part := (id.splitOn '/').getLastD []
  if part = "index".toList ∨ part = [] then "Overview".toList
  else
    let spaced := part.map fun c => if c = '-' ∨ c = '_' then ' ' else c
    [' '].intercalate ((Text.words spaced).map capitalize)

def title (id : String) : String := String.ofList (titleChars id.toList)

/-! ## Identifiers of files -/

/-- A path name in lower case, with hyphens for spaces and underscores, and nothing but
alphanumeric characters, hyphens and dots. -/
def slugOfName (name : List Char) : List Char :=
  ((Letter.lowerText name).map fun c => if c = ' ' ∨ c = '_' then '-' else c).filter
    fun c => isAlphanumeric c || c == '-' || c == '.'

/-- The names with the extension of the last one removed. -/
def dropExtension : List (List Char) → List (List Char)
  | [] => []
  | [name] => [match Text.cutLast? '.' name with
      | some (stem, _) => stem
      | none => name]
  | name :: rest => name :: dropExtension rest

/-- The identifier of a file from the names in its relative path. The index of a directory stands
for the directory. -/
def ofNames (names : List (List Char)) : List Char :=
  let parts := ((dropExtension names).map slugOfName).filter (· ≠ [])
  let slug := ['/'].intercalate parts
  match Text.dropTail? "/index".toList slug with
  | some parent => parent
  | none => if slug = [] then "index".toList else slug

def ofPath (relative : Path) : String :=
  String.ofList (ofNames (relative.names.map String.toList))

/-- The identifier of a document: its `slug`, if that is a text with more than slashes, else the
identifier of its path. -/
def resolve (relative : Path) (data : Metadata) : String :=
  match (data.getText? "slug").map normalize with
  | some slug => if slug = "" then ofPath relative else slug
  | none => ofPath relative

end DocCorpus.Identifier

namespace DocCorpus.Label

/-- The characters of a slug, made from lower-case characters, where `started` tells whether a
character is out already and `pending` whether a hyphen is due before the next one. -/
def slugFrom (started pending : Bool) : List Char → List Char
  | [] => []
  | c :: rest =>
    if isAlphanumeric c then
      if pending then '-' :: c :: slugFrom true false rest else c :: slugFrom true false rest
    else slugFrom started started rest

/-- The file name form of a label: its alphanumeric characters in lower case, with one hyphen for
every run of other characters between them. -/
def slug (label : String) : String :=
  String.ofList (slugFrom false false (label.toList.flatMap Letter.lower))

end DocCorpus.Label
