/-
  The output of a build on disk. Every artifact is written beside its place and moved into it; a
  report lists what was written, and what an earlier report lists and no artifact replaces is
  removed, as are set files of earlier builds.
-/
import DocCorpus.FileTree
import DocCorpus.Json.Reader
import DocCorpus.Json.Writer
import DocCorpus.LlmsText.Writer
import DocCorpus.Sha256

namespace DocCorpus

/-- A rendered file and its path in the output directory. -/
structure Artifact where
  path : String
  content : ByteArray

/-- A text as an artifact. -/
def Artifact.ofText (path text : String) : Artifact := ⟨path, text.toUTF8⟩

/-- What the report says about an artifact. -/
structure ArtifactRecord where
  fileName : String
  sha256 : String
  size : Nat

def ArtifactRecord.ofArtifact (a : Artifact) : ArtifactRecord :=
  ⟨a.path, Sha256.hex a.content, a.content.size⟩

structure ArtifactReport where
  generatedAt : String
  artifacts : List ArtifactRecord

/-! ## Reports -/

namespace ArtifactRecord

def toTree (r : ArtifactRecord) : Tree :=
  .table [("filename", .text r.fileName), ("sha256", .text r.sha256), ("size_bytes", .integer r.size)]

end ArtifactRecord

namespace ArtifactReport

def fileName : String := "artifacts.json"

def toTree (r : ArtifactReport) : Tree :=
  .table [("generated_at", .text r.generatedAt),
    ("artifacts", .list (r.artifacts.map ArtifactRecord.toTree))]

def render (r : ArtifactReport) : String := Json.pretty r.toTree ++ "\n"

end ArtifactReport

namespace Json.Source

/-- The members with a name. -/
def membersNamed (name : String) (members : List (Option String × Source)) : List Source :=
  members.filterMap fun (key, value) => if key = some name then some value else none

/-- The values of a record's fields, written as an object or as an array; every field has to be
there once. -/
def fields? (names : List String) : Source → Option (List Source)
  | .array items => if items.length = names.length then some items else none
  | .object members =>
    if members.all fun (key, value) => key.isSome && value.intact then
      names.mapM fun name =>
        match membersNamed name members with
        | [value] => some value
        | _ => none
    else none
  | _ => none

def text? : Source → Option String
  | .string s => s
  | _ => none

def size? : Source → Option Nat
  | .number n =>
    match n.value? with
    | some (.integer n) => if 0 ≤ n then some n.toNat else none
    | _ => none
  | _ => none

def list? : Source → Option (List Source)
  | .array items => some items
  | _ => none

end Json.Source

open Json (Source)

def ArtifactRecord.ofSource? (s : Source) : Option ArtifactRecord :=
  match s.fields? ["filename", "sha256", "size_bytes"] with
  | some [name, sum, size] => do
    let fileName ← name.text?
    let sha256 ← sum.text?
    let size ← size.size?
    return ⟨fileName, sha256, size⟩
  | _ => none

namespace ArtifactReport

def ofSource? (s : Source) : Option ArtifactReport :=
  match s.fields? ["generated_at", "artifacts"] with
  | some [time, artifacts] => do
    let generatedAt ← time.text?
    let artifacts ← (← artifacts.list?).mapM ArtifactRecord.ofSource?
    return ⟨generatedAt, artifacts⟩
  | _ => none

/-- The report that a text holds. -/
def parse? (text : String) : Option ArtifactReport :=
  match Source.ofText text with
  | (source, true) => ofSource? source
  | (_, false) => none

end ArtifactReport

/-! ## Writing -/

namespace Artifacts

/-- Whether a path has a step, and none but names. -/
def staysInside (path : String) : Bool :=
  path ≠ "" && (Path.mk path).steps.all fun
    | .name _ => true
    | _ => false

/-- Where an artifact goes in the output directory. -/
def destination (out : Path) (path : String) : Except Failure Path :=
  if staysInside path then .ok (out.join ⟨path⟩)
  else .error (.validation (.escapingArtifact path))

/-- The file that is written first and then moved to its place. -/
def temporary (directory destination : Path) : Path :=
  directory.join ⟨"." ++ destination.fileName?.getD "artifact" ++ ".tmp"⟩

/-- Writes a file so that its place never holds a part of it. -/
def writeWhole (destination : Path) (content : ByteArray) : Disk Unit := do
  let directory := destination.parent?.getD ⟨"."⟩
  Disk.makeAllDirectories directory
  let temp := temporary directory destination
  Disk.change temp (·.writeFile temp content)
  Disk.change destination (·.renameFile temp destination)

/-- Writes artifacts in their order, and tells what was written. -/
def writeEach (out : Path) : List Artifact → Disk (List ArtifactRecord)
  | [] => return []
  | a :: rest => do
    let place ← destination out a.path
    writeWhole place a.content
    let records ← writeEach out rest
    return .ofArtifact a :: records

/-- The paths that the report of an earlier build lists. -/
def earlierPaths (t : FileTree) (out : Path) : List String :=
  match t.readText (out.join ⟨ArtifactReport.fileName⟩) with
  | .error _ => []
  | .ok text =>
    match ArtifactReport.parse? text with
    | some report => report.artifacts.map ArtifactRecord.fileName
    | none => []

/-- The set files in the output directory. -/
def setFiles (t : FileTree) (out : Path) : Except Failure (List String) :=
  let directory := out.join ⟨LlmsText.setDirectory⟩
  match t.readDirectory directory with
  | .ok children =>
    .ok (children.filterMap fun (name, entry) =>
      match entry with
      | .file _ => some (LlmsText.setDirectory ++ "/" ++ name)
      | .directory => none)
  | .error .notFound => .ok []
  | .error fault => .error (.file directory.text fault)

/-- Removes the files at paths that are not among the current ones; a file that is not there is
passed over, and so is a path that leads out of the output directory. -/
def removeEach (out : Path) (current : List String) : List String → Disk Unit
  | [] => return ()
  | path :: rest => do
    if !current.contains path then
      match destination out path with
      | .error _ => pure ()
      | .ok place =>
        match (← get).removeFile place with
        | .ok t => set t
        | .error .notFound => pure ()
        | .error fault => throw (.file place.text fault)
    removeEach out current rest

def removeStale (out : Path) (artifacts : List Artifact) : Disk Unit := do
  let t ← get
  let sets ← setFiles t out
  removeEach out (artifacts.map Artifact.path) (earlierPaths t out ++ sets)

/-- Writes the artifacts of a build made at `time`, removes what it no longer makes, and writes the
report. -/
def write (out : Path) (time : String) (artifacts : List Artifact) : Disk ArtifactReport := do
  Disk.makeAllDirectories out
  let records ← writeEach out artifacts
  removeStale out artifacts
  let report : ArtifactReport := ⟨time, records⟩
  writeWhole (out.join ⟨ArtifactReport.fileName⟩) report.render.toUTF8
  return report

end Artifacts
end DocCorpus
