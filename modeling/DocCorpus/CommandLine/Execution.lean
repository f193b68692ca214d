/-
  What commands do: to the files, and to what is printed. What a command has printed stays when it
  fails. The environment and the time are given.
-/
import DocCorpus.Collection
import DocCorpus.CommandLine.Arguments
import DocCorpus.Configuration.File
import DocCorpus.Endpoint
import DocCorpus.LlmsText.Reader

namespace DocCorpus.CommandLine

/-! ## Sessions -/

/-- What a command depends on besides its files. -/
structure Surroundings where
  environment : List (String × String)
  time : String

/-- A piece of what is printed. -/
inductive Output
  | text (s : String)
  /-- The line that tells how long the command took. -/
  | elapsed

inductive CommandFault
  | failure (failure : Failure)
  | unreadable (file : Path) (fault : FileFault)
  | unwritable (file : Path) (fault : FileFault)
  /-- The configured address to serve at is none. -/
  | noAddress (text : String)
  /-- A listing leads to pages that are not there. -/
  | unresolvedLinks (count : Nat) (file : Path)

namespace CommandFault

def message : CommandFault → String
  | .failure f => f.message
  | .unreadable file fault => s!"cannot read {file.text}: {fault.message}"
  | .unwritable file fault => s!"cannot write {file.text}: {fault.message}"
  | .noAddress text => s!"invalid server.bind '{text}': invalid socket address syntax"
  | .unresolvedLinks count file => s!"{count} link(s) in {file.text} do not resolve to a document"

/-- What may help, where the configuration is at fault. -/
def suggestion? (config : Path) : CommandFault → Option String
  | .failure f =>
    if f.isConfiguration then some s!"fix the declarations in {config.text}" else none
  | _ => none

end CommandFault

/-- The files and what has been printed. -/
structure Console where
  files : FileTree
  printed : List Output

abbrev Session := ExceptT CommandFault (StateM Console)

namespace Session

def print (s : String) : Session Unit :=
  modify fun c => { c with printed := c.printed ++ [.text s] }

def printLine (s : String) : Session Unit := print (s ++ "\n")

def printElapsed : Session Unit :=
  modify fun c => { c with printed := c.printed ++ [.elapsed] }

def check {α : Type} (result : Except Failure α) : Session α :=
  match result with
  | .ok a => return a
  | .error failure => throw (.failure failure)

def files : Session FileTree := return (← get).files

/-- Runs a program on the files, and keeps what it changed. -/
def run {α : Type} (program : Disk α) : Session α := do
  let (result, files) := Disk.runOn (← files) program
  modify fun c => { c with files }
  check result

end Session

/-! ## Commands -/

/-- A site that waits for requests. -/
structure Service where
  address : SocketAddress
  site : Site
  /-- The directory of the collection. -/
  content : Path

/-- The collection that a service reads for a request. -/
def Service.collection (s : Service) (files : FileTree) : Except Failure (List Document) :=
  Collection.ofDirectory files s.content s.site.config.content.extensions

inductive Ending
  | done
  | serving (service : Service)

namespace Invocation

open Session

def configuration (i : Invocation) : Session Configuration := do
  check (Configuration.load (← files) i.config)

def contentDir (i : Invocation) (c : Configuration) : Path := i.content.getD (c.contentDir i.config)

/-- The collection of the content directory. -/
def collection (i : Invocation) (c : Configuration) : Session (Except Failure (List Document)) := do
  return Collection.ofDirectory (← files) (i.contentDir c) c.content.extensions

/-- The site of a command that answers no requests, which anyone may run. -/
def site (i : Invocation) : Session Site := do
  check (Site.ofConfiguration (← i.configuration) .anyone)

/-- The site with its documents. -/
def siteWithDocuments (i : Invocation) : Session (Site × List Document) := do
  let site ← i.site
  let documents ← check (← i.collection site.config)
  return (site, documents)

def «export» (i : Invocation) (out fromJson : Option Path) : Session Unit := do
  let collection ←
    match fromJson with
    | some file => pure (Collection.ofSnapshot (← files) file)
    | none => i.collection (← i.configuration)
  let text ← check (collection >>= Export.serialize)
  match out with
  | none => print text
  | some file =>
    match (← files).writeFile file text.toUTF8 with
    | .ok files => modify fun c => { c with files }
    | .error fault => throw (.unwritable file fault)

def build (i : Invocation) (s : Surroundings) (out : Path) : Session Unit := do
  let site ← i.site
  let collection ← i.collection site.config
  let summary ← run (site.build collection out s.time)
  printLine ""
  printLine "  Build complete!"
  printLine s!"  Documents: {summary.documents}"
  printLine s!"  Sets:      {summary.sets}"
  printLine s!"  Artifacts: {summary.report.artifacts.length}"
  printLine s!"  Path:      {out.text}"
  printElapsed
  printLine ""

/-- A text with blanks after it, so that it takes up at least `width` characters. -/
def padded (width : Nat) (s : String) : String :=
  s ++ String.ofList (List.replicate (width - s.length) ' ')

def setLines (set : ManifestSet) : List String :=
  s!"{set.label} ({set.members.length} documents) -> {LlmsText.setPath set.slug}" ::
    set.members.map fun m => s!"  {padded 40 m.id} {m.title}"

def sets (i : Invocation) (label : Option String) (json : Bool) : Session Unit := do
  let (site, documents) ← i.siteWithDocuments
  let manifest := site.manifest documents
  let sets ←
    match label with
    | some label => pure [← check (manifest.set label)]
    | none => pure manifest.sets
  if json then printLine (Json.pretty (.list (sets.map ManifestSet.toTree)))
  else (sets.flatMap setLines).forM printLine

def nav (i : Invocation) (json : Bool) : Session Unit := do
  let (site, documents) ← i.siteWithDocuments
  let navigation ← check (site.navigation documents)
  if json then printLine (Json.pretty navigation.toTree) else print navigation.outline

/-- Checks that the links of a listing that are on the site lead to documents. -/
def checkListing (site : Site) (documents : List Document) (file : Path) : Session Unit := do
  match (← files).readText file with
  | .error fault => throw (.unreadable file fault)
  | .ok text =>
    let listing ← check (LlmsText.read text)
    let unresolved :=
      LlmsText.unresolved listing site.organizer.project.baseUrl (Site.identifiers documents)
    if unresolved.isEmpty then printLine s!"  {file.text}: all links resolve"
    else
      unresolved.forM fun u => printLine s!"  [{u.heading}] {u.name} -> {u.url}"
      throw (.unresolvedLinks unresolved.length file)

def check (i : Invocation) (llms : Option Path) : Session Unit := do
  let (site, documents) ← i.siteWithDocuments
  let navigation ← Session.check (site.navigation documents)
  printLine s!"  Documents:  {documents.length}"
  printLine s!"  Sets:       {(site.manifest documents).sets.length}"
  printLine s!"  Nav links:  {navigation.documentIds.length}"
  match llms with
  | none => printLine "  OK"
  | some file => checkListing site documents file

def serve (i : Invocation) (s : Surroundings) (address : Option SocketAddress) :
    Session Service := do
  let c ← i.configuration
  let address ←
    match address.or (SocketAddress.ofText? c.server.bind) with
    | some address => pure address
    | none => throw (.noAddress c.server.bind)
  let site ← Session.check (Site.inEnvironment c s.environment)
  let service : Service := ⟨address, site, i.contentDir c⟩
  let _ ← Session.check (Endpoint.preflight site (service.collection (← files)))
  return service

def initConfig (i : Invocation) : Session Unit := do
  run (Configuration.create i.config)
  printLine s!"Config initialized at: {i.config.text}"

def showConfig (i : Invocation) : Session Unit := do
  let c ← i.configuration
  printLine c.toText

def session (i : Invocation) (s : Surroundings) : Session Ending := do
  match i.command with
  | .export out fromJson => i.export out fromJson
  | .build out => i.build s out
  | .sets label json => i.sets label json
  | .nav json => i.nav json
  | .check llms => i.check llms
  | .serve address => return .serving (← i.serve s address)
  | .initConfig => i.initConfig
  | .showConfig => i.showConfig
  return .done

/-- The paths besides the configuration file that a command reads or writes, once that file is among
the files. -/
def places (i : Invocation) (files : FileTree) : List Path :=
  let content :=
    match Configuration.load files i.config with
    | .ok c => [i.contentDir c]
    | .error _ => []
  match i.command with
  | .export out fromJson => out.toList ++ (fromJson.map fun file => [file]).getD content
  | .build out => out :: content
  | .check llms => llms.toList ++ content
  | .sets .. | .nav _ | .serve _ => content
  | .initConfig | .showConfig => []

/-- Runs a command on files: how it ends, the files then, and what it prints. -/
def execute (i : Invocation) (s : Surroundings) (files : FileTree) :
    Except CommandFault Ending × Console :=
  (ExceptT.run (i.session s)).run ⟨files, []⟩

end Invocation
end DocCorpus.CommandLine
