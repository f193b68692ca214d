/-
  Failures of the library: one constructor per cause, and one function for their wording.
-/
import DocCorpus.Shape

namespace DocCorpus

/-- Why a file system operation was refused. -/
inductive FileFault
  | notFound
  | exists
  | notDirectory
  | isDirectory
  | busy
  | nameTooLong
  | nullInPath
  /-- The content is not UTF-8 text. -/
  | notText
  deriving DecidableEq

def FileFault.message : FileFault → String
  | .notFound => "No such file or directory (os error 2)"
  | .exists => "File exists (os error 17)"
  | .notDirectory => "Not a directory (os error 20)"
  | .isDirectory => "Is a directory (os error 21)"
  | .busy => "Device or resource busy (os error 16)"
  | .nameTooLong => "File name too long (os error 36)"
  | .nullInPath => "file name contained an unexpected NUL byte"
  | .notText => "stream did not contain valid UTF-8"

/-- Why a content source cannot be read. -/
inductive SourceFault
  | noDirectory
  | unreadable (fault : FileFault)
  | unreadableFile (path : String) (fault : FileFault)

def SourceFault.message : SourceFault → String
  | .noDirectory => "content directory does not exist"
  | .unreadable fault => fault.message
  | .unreadableFile path fault => s!"{path}: {fault.message}"

inductive ConfigFault
  | unparsable (path : String) (fault : FormatFault)
  | secretMissing (name : String)
  | alreadyExists (path : String)

def ConfigFault.message : ConfigFault → String
  | .unparsable path _ => s!"failed to parse {path}"
  | .secretMissing name => s!"export.require_secret is set but {name} is empty or unset"
  | .alreadyExists path => s!"{path} already exists"

inductive ParseFault
  | frontmatter (fault : FormatFault)
  | frontmatterOf (path : String) (fault : FormatFault)
  | snapshot (path : String) (fault : FormatFault)
  | manifestWithoutHeading
  | manifestEmpty

def ParseFault.message : ParseFault → String
  | .frontmatter _ => "invalid frontmatter"
  | .frontmatterOf path _ => s!"{path}: invalid frontmatter"
  | .snapshot path _ => s!"invalid snapshot {path}"
  | .manifestWithoutHeading => "llms.txt must start with an H1 heading (# Title)"
  | .manifestEmpty => "llms.txt is empty"

inductive ValidationFault
  | repeatedMetadataKey (key : String)
  | repeatedSetLabel (label : String)
  | collidingSetLabel (label slug : String)
  | linkWithChildren (label : String)
  | unknownNode (node : Nat)
  | unknownGroup (name : String)
  | escapingArtifact (path : String)

def ValidationFault.message : ValidationFault → String
  | .repeatedMetadataKey key => s!"duplicate metadata key '{key}'"
  | .repeatedSetLabel label => s!"set label '{label}' is declared more than once"
  | .collidingSetLabel label slug => s!"set label '{label}' collides with another set as '{slug}'"
  | .linkWithChildren label => s!"navigation link '{label}' cannot contain children"
  | .unknownNode node => s!"navigation node #{node} does not exist"
  | .unknownGroup name => s!"sidebar references unknown group '{name}'"
  | .escapingArtifact path =>
    s!"artifact path '{path}' must be relative and stay inside the output directory"

/-- Why a document has no JSON form. -/
inductive ExportFault
  /-- The value at a dotted key path is not a finite number. -/
  | notFinite (keyPath : String)
  | writer (number : Binary64)

def ExportFault.message : ExportFault → String
  | .notFinite keyPath => s!"metadata '{keyPath}' is not a finite number"
  | .writer number =>
    "non-finite number " ++ String.ofList (DecimalStyle.message.text number) ++
      " is not representable"

/-- Why an operation on a collection, a configuration or a site failed. -/
inductive Failure
  | sourceUnavailable (source : String) (fault : SourceFault)
  | duplicateIdentifier (id : String)
  | notSerializable (id : String) (fault : ExportFault)
  | unknownSet (label : String)
  | cyclicGroup (label : String)
  | danglingLink (label target : String)
  | config (fault : ConfigFault)
  | parse (fault : ParseFault)
  | file (path : String) (fault : FileFault)
  | validation (fault : ValidationFault)

namespace Failure

def message : Failure → String
  | .sourceUnavailable source fault => s!"content source '{source}' unavailable: {fault.message}"
  | .duplicateIdentifier id => s!"duplicate document identifier '{id}'"
  | .notSerializable id fault => s!"cannot serialize document '{id}': {fault.message}"
  | .unknownSet label => s!"unknown set '{label}'"
  | .cyclicGroup label => s!"navigation group '{label}' contains itself"
  | .danglingLink label target => s!"navigation link '{label}' points to unknown target '{target}'"
  | .config fault => s!"config error: {fault.message}"
  | .parse fault => s!"parse error: {fault.message}"
  | .file path fault => s!"I/O error at {QuoteStyle.path.quote path}: {fault.message}"
  | .validation fault => s!"validation error: {fault.message}"

/-- Whether the failure comes from the configuration rather than from the content. -/
def isConfiguration : Failure → Bool
  | .unknownSet .. | .cyclicGroup .. | .danglingLink .. | .config .. => true
  | _ => false

/-- What was wrong with a value of a data format, where the failure is about one. -/
def detail? : Failure → Option String
  | .config (.unparsable _ fault) => fault.detail? .message
  | .parse (.frontmatter fault) => fault.detail? .message
  | .parse (.frontmatterOf _ fault) => fault.detail? .message
  | .parse (.snapshot _ fault) => fault.detail? .exported
  | _ => none

end Failure
end DocCorpus
