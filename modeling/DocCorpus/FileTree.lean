/-
  File trees: the files and directories below a root, each under its full list of names, and a
  working directory. Paths are followed name by name; an operation gives the changed tree or the
  fault that stopped it.
-/
import DocCorpus.Failure
import DocCorpus.Path

namespace DocCorpus

inductive FileEntry
  | file (content : ByteArray)
  | directory

structure FileTree where
  workingDirectory : List String
  /-- Everything below the root, under the names that lead to it. -/
  entries : List (List String × FileEntry)

namespace FileTree

/-! ## Entries -/

/-- What stands under a list of names; the root is a directory. -/
def lookup? (t : FileTree) (names : List String) : Option FileEntry :=
  if names = [] then some .directory else t.entries.lookup names

def erase (t : FileTree) (names : List String) : FileTree :=
  { t with entries := t.entries.filter fun e => e.1 ≠ names }

def put (t : FileTree) (names : List String) (entry : FileEntry) : FileTree :=
  { t with entries := (names, entry) :: (t.erase names).entries }

theorem lookup_filter_ne {names other : List String} {l : List (List String × FileEntry)}
    (h : other ≠ names) :
    (l.filter fun e => e.1 ≠ names).lookup other = l.lookup other := by
  induction l with
  | nil => rfl
  | cons e l ih =>
    obtain ⟨k, v⟩ := e
    by_cases hk : k = names
    · have hne : (other == k) = false := by simpa [hk] using h
      simpa [hk, List.lookup_cons, hk ▸ hne] using ih
    · by_cases ho : other = k
      · simp [hk, ho]
      · have hne : (other == k) = false := by simpa using ho
        simpa [hk, List.lookup_cons, hne] using ih

theorem lookup?_put_self {t : FileTree} {names : List String} {entry : FileEntry}
    (h : names ≠ []) : (t.put names entry).lookup? names = some entry := by
  simp [lookup?, put, h]

theorem lookup?_put_of_ne {t : FileTree} {names other : List String} {entry : FileEntry}
    (h : other ≠ names) : (t.put names entry).lookup? other = t.lookup? other := by
  have hne : (other == names) = false := by simpa using h
  simp only [lookup?, put, erase, List.lookup_cons, hne]
  split
  · rfl
  · exact lookup_filter_ne h

theorem lookup?_erase_of_ne {t : FileTree} {names other : List String} (h : other ≠ names) :
    (t.erase names).lookup? other = t.lookup? other := by
  simp only [lookup?, erase]
  split
  · rfl
  · exact lookup_filter_ne h

/-! ## Paths -/

/-- The longest name of a file, in bytes. -/
def longestName : Nat := 255

/-- One name followed from a place, which has to be a directory. -/
def enter (t : FileTree) (place : List String) (name : String) :
    Except FileFault (List String) :=
  match t.lookup? place with
  | none => .error .notFound
  | some (.file _) => .error .notDirectory
  | some .directory =>
    if name = "." then .ok place
    else if name = ".." then .ok place.dropLast
    else if longestName < name.utf8ByteSize then .error .nameTooLong
    else .ok (place ++ [name])

/-- Where paths that start at the path's first name are followed from. -/
def start (t : FileTree) (p : Path) : List String := if p.isAbsolute then [] else t.workingDirectory

/-- The names in a path, dots included. -/
def namesIn (p : Path) : List String := (p.segments.filter (· ≠ [])).map String.ofList

def endsInSlash (p : Path) : Bool := p.text.toList.getLast? == some '/'

/-- Whether a path can be followed at all. -/
def checkPath (p : Path) : Except FileFault Unit :=
  if p.text.toList.contains '\x00' then .error .nullInPath
  else if p.text = "" then .error .notFound
  else .ok ()

/-- The place that a path leads to, whether or not anything is there. -/
def follow (t : FileTree) (p : Path) : Except FileFault (List String) := do
  checkPath p
  (namesIn p).foldlM t.enter (t.start p)

/-- What a path leads to. A path that ends in a slash leads to directories only. -/
def find (t : FileTree) (p : Path) : Except FileFault (List String × FileEntry) := do
  let place ← t.follow p
  match t.lookup? place with
  | none => .error .notFound
  | some (.file content) =>
    if endsInSlash p then .error .notDirectory else .ok (place, .file content)
  | some .directory => .ok (place, .directory)

/-- The last name of a path. -/
inductive LastName
  /-- The path ends in a dot name, or has no name at all. -/
  | dots
  | name (s : String) (slash : Bool)

/-- The directory in which a path puts its last name, and that name. -/
def target (t : FileTree) (p : Path) : Except FileFault (List String × LastName) := do
  checkPath p
  let names := namesIn p
  match names.getLast? with
  | none => return (t.start p, .dots)
  | some last =>
    let directory ← names.dropLast.foldlM t.enter (t.start p)
    let place ← t.enter directory last
    if last = "." ∨ last = ".." then return (place, .dots)
    else return (directory, .name last (endsInSlash p))

/-! ## Reading -/

def exists? (t : FileTree) (p : Path) : Bool :=
  match t.find p with
  | .ok _ => true
  | .error _ => false

def isDirectory (t : FileTree) (p : Path) : Bool :=
  match t.find p with
  | .ok (_, .directory) => true
  | _ => false

def readBytes (t : FileTree) (p : Path) : Except FileFault ByteArray := do
  match ← t.find p with
  | (_, .file content) => return content
  | (_, .directory) => .error .isDirectory

def textOf (content : ByteArray) : Except FileFault String :=
  match String.fromUTF8? content with
  | some text => .ok text
  | none => .error .notText

def readText (t : FileTree) (p : Path) : Except FileFault String := do
  textOf (← t.readBytes p)

/-- The names in a directory, with what stands under them. -/
def children (t : FileTree) (place : List String) : List (String × FileEntry) :=
  t.entries.filterMap fun (names, entry) =>
    match names.getLast? with
    | some name => if names.dropLast = place then some (name, entry) else none
    | none => none

def readDirectory (t : FileTree) (p : Path) : Except FileFault (List (String × FileEntry)) := do
  match ← t.find p with
  | (place, .directory) => return t.children place
  | (_, .file _) => .error .notDirectory

/-! ## Changing -/

def makeDirectory (t : FileTree) (p : Path) : Except FileFault FileTree := do
  match ← t.target p with
  | (_, .dots) => .error .exists
  | (directory, .name last _) =>
    let place := directory ++ [last]
    match t.lookup? place with
    | some _ => .error .exists
    | none => return t.put place .directory

/-- What becomes of a directory that could not be made: there is no fault if it is there. -/
def keepDirectory (t : FileTree) (p : Path) (fault : FileFault) : Except FileFault Unit :=
  if t.isDirectory p then .ok () else .error fault

/-- Makes a directory and those above it that are missing, where `fuel` bounds their number. What
is made before a fault stays. -/
def makeDirectories (t : FileTree) (p : Path) : (fuel : Nat) → Except FileFault Unit × FileTree
  | 0 => (.error .notFound, t)
  | fuel + 1 =>
    if p.text = "" then (.ok (), t)
    else
      match t.makeDirectory p with
      | .ok t => (.ok (), t)
      | .error .notFound =>
        match p.parent? with
        | none => (.error .notFound, t)
        | some above =>
          match t.makeDirectories above fuel with
          | (.error fault, t) => (.error fault, t)
          | (.ok _, t) =>
            match t.makeDirectory p with
            | .ok t => (.ok (), t)
            | .error fault => (t.keepDirectory p fault, t)
      | .error fault => (t.keepDirectory p fault, t)

def makeAllDirectories (t : FileTree) (p : Path) : Except FileFault Unit × FileTree :=
  t.makeDirectories p (p.segments.length + 1)

def writeFile (t : FileTree) (p : Path) (content : ByteArray) : Except FileFault FileTree := do
  match ← t.target p with
  | (directory, .name last false) =>
    let place := directory ++ [last]
    match t.lookup? place with
    | some .directory => .error .isDirectory
    | _ => return t.put place (.file content)
  | _ => .error .isDirectory

/-- Moves a file to another path, in place of the file that is there. -/
def renameFile (t : FileTree) (source destination : Path) : Except FileFault FileTree := do
  let (place, entry) ← t.find source
  match ← t.target destination with
  | (_, .dots) => .error .busy
  | (_, .name _ true) => .error .notDirectory
  | (directory, .name last false) =>
    let newPlace := directory ++ [last]
    match t.lookup? newPlace with
    | some .directory => .error .isDirectory
    | _ => return (t.erase place).put newPlace entry

def removeFile (t : FileTree) (p : Path) : Except FileFault FileTree := do
  match ← t.target p with
  | (_, .dots) => .error .isDirectory
  | (directory, .name last slash) =>
    let place := directory ++ [last]
    match t.lookup? place with
    | none => .error .notFound
    | some .directory => .error .isDirectory
    | some (.file _) => if slash then .error .notDirectory else return t.erase place

/-! ## Listing -/

/-- What follows `place` in a list of names that starts with it. -/
def below? : List String → List String → Option (List String)
  | [], names => some names
  | _ :: _, [] => none
  | a :: place, b :: names => if a = b then below? place names else none

/-- Everything below a place, under the names that lead to it from there. -/
def below (t : FileTree) (place : List String) : List (List String × FileEntry) :=
  t.entries.filterMap fun (names, entry) =>
    match below? place names with
    | some (name :: names) => some (name :: names, entry)
    | _ => none

/-- The number of names that lead from a place to what lies deepest below it. -/
def depthBelow (t : FileTree) (place : List String) : Nat :=
  ((t.below place).map fun (names, _) => names.length).foldr max 0

/-- What stands in a directory, in the order of the names. -/
def sortedChildren (t : FileTree) (place : List String) : List (String × FileEntry) :=
  (t.children place).mergeSort fun a b => a.1 ≤ b.1

/-- The files below a place, at most `fuel` names away from it. The names in a directory are taken in
their order, each directory with all that lies in it; where a name is skipped, so is all below. -/
def walkFrom (t : FileTree) (skips : String → Bool) :
    (fuel : Nat) → (place : List String) → List (List String × ByteArray)
  | 0, _ => []
  | fuel + 1, place =>
    (t.sortedChildren place).flatMap fun (name, entry) =>
      if skips name then []
      else
        match entry with
        | .file content => [([name], content)]
        | .directory => (walkFrom t skips fuel (place ++ [name])).map fun (names, content) =>
          (name :: names, content)

/-- The files below a place, from directory to directory. -/
def walk (t : FileTree) (place : List String) (skips : String → Bool) :
    List (List String × ByteArray) :=
  walkFrom t skips (t.depthBelow place) place

end FileTree

/-! ## Programs over a file tree -/

/-- A computation that changes a file tree; what it changed stays when it fails. -/
abbrev Disk := ExceptT Failure (StateM FileTree)

namespace Disk

/-- Runs an operation on the tree; its fault is one of the path. -/
def change (p : Path) (operation : FileTree → Except FileFault FileTree) : Disk Unit := do
  match operation (← get) with
  | .ok t => set t
  | .error fault => throw (.file p.text fault)

/-- Makes a directory and those above it that are missing; the fault is one of the path. -/
def makeAllDirectories (p : Path) : Disk Unit := do
  let (result, t) := (← get).makeAllDirectories p
  set t
  match result with
  | .ok _ => return ()
  | .error fault => throw (.file p.text fault)

/-- Runs a computation on a tree. -/
def runOn {α : Type} (t : FileTree) (program : Disk α) : Except Failure α × FileTree :=
  program.run.run t

end Disk
end DocCorpus
