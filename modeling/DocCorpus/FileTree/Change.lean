/-
  What has to be done to turn one file tree into another.
-/
import DocCorpus.FileTree

namespace DocCorpus

inductive FileChange
  | makeDirectory (names : List String)
  | write (names : List String) (content : ByteArray)
  | remove (names : List String)

namespace FileTree

/-- The directories of a tree that another lacks, those above before those below. -/
def newDirectories (old new : FileTree) : List FileChange :=
  let made := new.entries.filterMap fun (names, entry) =>
    match entry, old.lookup? names with
    | .directory, none => some names
    | _, _ => none
  (made.mergeSort fun a b => a.length ≤ b.length).map .makeDirectory

/-- The files of a tree that another has with other content, or lacks. -/
def newFiles (old new : FileTree) : List FileChange :=
  new.entries.filterMap fun (names, entry) =>
    match entry, old.lookup? names with
    | .file content, some (.file before) =>
      if content == before then none else some (.write names content)
    | .file content, _ => some (.write names content)
    | .directory, _ => none

/-- The files of a tree that another has no more. -/
def lostFiles (old new : FileTree) : List FileChange :=
  old.entries.filterMap fun (names, entry) =>
    match entry, new.lookup? names with
    | .file _, none => some (.remove names)
    | _, _ => none

def changes (old new : FileTree) : List FileChange :=
  newDirectories old new ++ newFiles old new ++ lostFiles old new

end FileTree
end DocCorpus
