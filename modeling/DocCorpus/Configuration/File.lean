/-
  Configuration files: read as TOML, and written as such.
-/
import DocCorpus.Configuration.Reading
import DocCorpus.FileTree
import DocCorpus.Toml.Reader
import DocCorpus.Toml.Writer

namespace DocCorpus.Configuration

/-- The configuration that a TOML text declares. -/
def parse (text : String) : Except FormatFault Configuration :=
  match Toml.read? text with
  | none => .error .malformed
  | some t => (ofTree .ignored t).mapError .shape

/-- The TOML text of a configuration. -/
def toText (c : Configuration) : String :=
  match c.toTree with
  | .table members => Toml.write members
  | _ => ""

/-- The configuration in a file, which has to be there. -/
def loadExisting (t : FileTree) (file : Path) : Except Failure Configuration :=
  match t.readText file with
  | .error fault => .error (.file file.text fault)
  | .ok text => (parse text).mapError fun fault => .config (.unparsable file.text fault)

/-- The configuration in a file; without the file, what holds by default. -/
def load (t : FileTree) (file : Path) : Except Failure Configuration :=
  if t.exists? file then loadExisting t file else .ok default

/-- Writes the default configuration to a file that is not there yet. -/
def create (file : Path) : Disk Unit := do
  if (← get).exists? file then throw (.config (.alreadyExists file.text))
  else
    match file.parent? with
    | some parent =>
      if parent.text ≠ "" then Disk.makeAllDirectories parent
    | none => pure ()
    Disk.change file (·.writeFile file default.toText.toUTF8)

end DocCorpus.Configuration
