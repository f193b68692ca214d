/-
  The program: it reads the files that a command line names into a tree, runs the command on it,
  carries out what the command changed, and prints what it printed.
-/
import DocCorpus.CommandLine.Execution
import DocCorpus.FileTree.Change
import Std.Http.Server
import Std.Time

namespace DocCorpus.Program

open CommandLine

/-! ## Files -/

def pathText (names : List String) : String := "/" ++ "/".intercalate names

/-- What stands at a place, with the names below it. -/
def lookAt (names : List String) : IO (Option (FileEntry × List String)) := do
  let place := (← IO.currentDir) / pathText names
  if ← place.isDir then
    return some (.directory, (← place.readDir).toList.map IO.FS.DirEntry.fileName)
  else if ← place.pathExists then
    return some (.file (← IO.FS.readBinFile place), [])
  else return none

/-- Adds what stands at a place to a tree. -/
def loadEntry (t : FileTree) (names : List String) : IO FileTree := do
  match ← lookAt names with
  | some (entry, _) => return if names = [] then t else t.put names entry
  | none => return t

/-- Adds what stands at a place and below it to a tree. -/
partial def loadBelow (t : FileTree) (names : List String) : IO FileTree := do
  match ← lookAt names with
  | some (entry, below) =>
    let t := if names = [] then t else t.put names entry
    below.foldlM (fun t name => loadBelow t (names ++ [name])) t
  | none => return t

/-- The place that a name leads to from another, whatever stands there. -/
def step (place : List String) (name : String) : List String :=
  if name = "." then place
  else if name = ".." then place.dropLast
  else place ++ [name]

/-- Adds what is on the way of a path, at its end and below that to a tree. -/
def loadPath (t : FileTree) (p : Path) : IO FileTree := do
  let (t, place) ← (FileTree.namesIn p).foldlM (fun (t, place) name => do
    let place := step place name
    return (← loadEntry t place, place)) (t, t.start p)
  loadBelow t place

/-- The tree with nothing but the way to the working directory. -/
def currentTree : IO FileTree := do
  let here := FileTree.namesIn ⟨(← IO.currentDir).toString⟩
  (List.range here.length).foldlM (fun t n => loadEntry t (here.take (n + 1))) ⟨here, []⟩

def carryOut : FileChange → IO Unit
  | .makeDirectory names => IO.FS.createDirAll (pathText names)
  | .write names content => IO.FS.writeBinFile (pathText names) content
  | .remove names => IO.FS.removeFile (pathText names)

/-! ## Surroundings -/

/-- The environment variable of the export secret, and the time of day. -/
def surroundings (i : Invocation) (t : FileTree) : IO Surroundings := do
  let names :=
    match Configuration.load t i.config with
    | .ok c => [c.access.secretEnv]
    | .error _ => []
  let environment ← names.filterMapM fun name => do
    return (← IO.getEnv name).map fun value => (name, value)
  let now ← Std.Time.Timestamp.now
  let time := (Std.Time.DateTime.ofTimestamp now .UTC).format "uuuu-MM-dd'T'HH:mm:ss.SSSSSSSSS"
  return ⟨environment, time ++ "+00:00"⟩

/-! ## Serving -/

def networkAddress (a : SocketAddress) : Std.Net.SocketAddress :=
  match a.host with
  | .fourBytes bytes =>
    let byte := fun n => (bytes[n]?.getD 0).toUInt8
    .v4 ⟨.ofParts (byte 0) (byte 1) (byte 2) (byte 3), a.port.toUInt16⟩
  | .sixteenBytes groups _ =>
    let group := fun n => (groups[n]?.getD 0).toUInt16
    .v6 ⟨.ofParts (group 0) (group 1) (group 2) (group 3) (group 4) (group 5) (group 6) (group 7),
      a.port.toUInt16⟩

/-- The headers of a response. -/
def headersOf (r : Response) : List (String × String) :=
  (r.contentType.map fun value => ("Content-Type", value)).toList ++
    (r.allow.map fun value => ("Allow", value)).toList

instance : Std.Http.Server.Handler Service where
  ResponseBody := Std.Http.Body.Full
  onRequest service request := do
    let files ← loadPath (← currentTree) service.content
    let head := request.line
    let authorization := (head.headers.get? (.mk "authorization")).map (·.value.toUTF8)
    let asked : Request := ⟨toString head.uri, toString head.method, authorization⟩
    let response := Endpoint.respond service.site (service.collection files) asked
    let status := (Std.Http.Status.ofCode none response.status.toUInt16).getD .internalServerError
    let builder := (headersOf response).foldl (fun b (name, value) => b.header! name value)
      (Std.Http.Response.withStatus status)
    return builder.body (← Std.Http.Body.Full.ofString response.body)

def serve (s : Service) : IO Unit := Std.Async.Async.block do
  let server ← Std.Http.Server.serve (networkAddress s.address) s
  server.waitShutdown

/-! ## The command line -/

/-- A number of milliseconds in seconds, with one place. -/
def seconds (milliseconds : Nat) : String :=
  let tenths := (milliseconds + 50) / 100
  s!"{tenths / 10}.{tenths % 10}"

def printAll (elapsed : Nat) (out : List Output) : IO Unit :=
  out.forM fun
    | .text s => IO.print s
    | .elapsed => IO.println s!"  Time:      {seconds elapsed}s"

def usageText : UsageFault → String
  | .helpAsked | .versionAsked =>
    "usage: docsets export | build | sets | nav | check | serve | config init | config show"
  | .nothingGiven | .commandMissing => "a command is missing"
  | .unknownCommand => "there is no such command"
  | .unknownArgument => "there is no such argument here"
  | .valueNotAllowed => "an option lacks its value, or has one that it does not allow"
  | .valueUnreadable => "an option has a value that cannot be read"
  | .repeated => "an option was given twice"
  | .valueForSwitch => "a switch takes no value"

def printFault (config : Path) (f : CommandFault) : IO Unit := do
  IO.eprintln s!"Error: {f.message}"
  match f.suggestion? config with
  | some suggestion => IO.eprintln s!"Suggestion: {suggestion}"
  | none => return ()

def runInvocation (i : Invocation) : IO UInt32 := do
  let start ← IO.monoMsNow
  let t ← loadPath (← currentTree) i.config
  let files ← (i.places t).foldlM loadPath t
  let (ending, console) := i.execute (← surroundings i t) files
  (FileTree.changes files console.files).forM carryOut
  printAll ((← IO.monoMsNow) - start) console.printed
  match ending with
  | .ok .done => return 0
  | .ok (.serving service) =>
    serve service
    return 0
  | .error fault =>
    printFault i.config fault
    return 1

end DocCorpus.Program

def main (arguments : List String) : IO UInt32 := do
  match DocCorpus.CommandLine.Invocation.ofArguments arguments with
  | .ok invocation => DocCorpus.Program.runInvocation invocation
  | .error .helpAsked | .error .versionAsked =>
    IO.println (DocCorpus.Program.usageText .helpAsked)
    return 0
  | .error fault =>
    IO.eprintln s!"error: {DocCorpus.Program.usageText fault}"
    return 2
