/-
  The texts written for language models: the index `llms.txt`, one file for each set, and the whole
  collection in full and abridged.
-/
import DocCorpus.Manifest
import DocCorpus.Minify

namespace DocCorpus.LlmsText

/-! ## Names and addresses -/

def indexName : String := "llms.txt"

def fullName : String := "llms-full.txt"

def smallName : String := "llms-small.txt"

/-- The directory of the set files. -/
def setDirectory : String := "_llms-txt"

/-- The path of a set's file. -/
def setPath (slug : String) : String := setDirectory ++ "/" ++ slug ++ ".txt"

/-- The address of a document's page. -/
def documentUrl (base id : String) : String :=
  if id = "index" then base ++ "/" else base ++ "/" ++ id ++ "/"

/-! ## Parts -/

def trimText (s : String) : String := String.ofList (Text.trim s.toList)

def trimTextEnd (s : String) : String := String.ofList (Text.trimEnd s.toList)

/-- The text without blanks at its ends, if anything is left. -/
def visible? (s : String) : Option String :=
  let s := trimText s
  if s = "" then none else some s

/-- A line with a link and, after a colon, what is said about it. -/
def linkLine (label url : String) (description : Option String) : String :=
  match description.bind visible? with
  | some description => "- [" ++ label ++ "](" ++ url ++ "): " ++ description ++ "\n"
  | none => "- [" ++ label ++ "](" ++ url ++ ")\n"

/-! ## Index -/

def overview (m : Manifest) : String :=
  let base := m.project.baseUrl
  let name := m.project.name
  "## Documentation Sets\n\n" ++
    ("- [Abridged documentation](" ++ base ++ "/" ++ smallName ++
      "): a compact version of the documentation for " ++ name ++
      ", with non-essential content removed\n") ++
    ("- [Complete documentation](" ++ base ++ "/" ++ fullName ++
      "): the full documentation for " ++ name ++ "\n") ++
    String.join (m.sets.map fun s =>
      linkLine s.label (base ++ "/" ++ setPath s.slug) (some s.description))

def setBlock (base : String) (s : ManifestSet) : String :=
  let intro :=
    match visible? s.description with
    | some description => description ++ "\n\n"
    | none => ""
  "## " ++ s.label ++ "\n\n" ++ intro ++
    String.join (s.members.map fun e => linkLine e.title (documentUrl base e.id) e.description)

def linksBlock (links : List ExternalLink) : String :=
  "## Optional\n\n" ++ String.join (links.map fun l => linkLine l.label l.url (some l.description))

/-- The parts of the index in their order. -/
def blocks (m : Manifest) : List String :=
  ["# " ++ m.project.name] ++
    ((m.project.description.bind visible?).map ("> " ++ ·)).toList ++
    (m.project.details.bind visible?).toList ++
    [overview m] ++
    m.sets.map (setBlock m.project.baseUrl) ++
    (if m.links.isEmpty then [] else [linksBlock m.links])

/-- The index: its parts without blanks at their ends, with an empty line between each two. -/
def index (m : Manifest) : String :=
  String.intercalate "\n\n" ((blocks m).map trimTextEnd) ++ "\n"

/-! ## Documents -/

/-- A document under its title, its body in the form that `form` gives it. -/
def document (form : String → String) (d : Document) : String :=
  let description :=
    match d.description?.bind visible? with
    | some description => "\n> " ++ description ++ "\n"
    | none => ""
  let body := form d.body
  "\n# " ++ d.displayTitle ++ "\n" ++ description ++ (if body = "" then "" else "\n" ++ body ++ "\n")

def bundle (heading : String) (form : String → String) (documents : List Document) : String :=
  "<SYSTEM>" ++ heading ++ "</SYSTEM>\n" ++ String.join (documents.map (document form))

/-- The last document with an identifier. -/
def find? (documents : List Document) (id : String) : Option Document :=
  documents.reverse.find? (·.id = id)

/-- The file of a set; a member that is not among the documents is left out. -/
def setFile (p : Project) (s : ManifestSet) (documents : List Document) : String :=
  bundle ("This is the developer documentation for " ++ s.label ++ " in " ++ p.name ++ ".") trimText
    (s.members.filterMap fun e => find? documents e.id)

def full (p : Project) (documents : List Document) : String :=
  bundle ("This is the full developer documentation for " ++ p.name ++ ".") trimText documents

def small (p : Project) (documents : List Document) : String :=
  bundle ("This is the abridged developer documentation for " ++ p.name ++ ".") minify documents

end DocCorpus.LlmsText
