/-
  Collections of documents and where they are read from: memory, a snapshot, a directory. No two
  documents of a collection share an identifier.
-/
import DocCorpus.FileTree
import DocCorpus.Frontmatter
import DocCorpus.Snapshot

namespace DocCorpus.Collection

/-- The first identifier, normalized, that repeats one before it or one of `seen`. -/
def firstRepeated? (seen : List String) : List Document → Option String
  | [] => none
  | d :: rest =>
    let id := Identifier.normalize d.id
    if seen.contains id then some id else firstRepeated? (id :: seen) rest

/-- Fails on the first identifier that repeats after normalization. -/
def ensureUnique (documents : List Document) : Except Failure Unit :=
  match firstRepeated? [] documents with
  | some id => .error (.duplicateIdentifier id)
  | none => .ok ()

theorem firstRepeated?_eq_none_iff {seen : List String} {documents : List Document} :
    firstRepeated? seen documents = none ↔
      (documents.map fun d => Identifier.normalize d.id).Nodup ∧
        ∀ d ∈ documents, Identifier.normalize d.id ∉ seen := by
  induction documents generalizing seen with
  | nil => simp [firstRepeated?]
  | cons d documents ih =>
    simp only [firstRepeated?, List.map_cons, List.nodup_cons, List.mem_map, List.mem_cons,
      forall_eq_or_imp]
    split
    · simp_all
    · grind

theorem ensureUnique_eq_ok_iff {documents : List Document} :
    ensureUnique documents = .ok () ↔
      (documents.map fun d => Identifier.normalize d.id).Nodup := by
  have h := @firstRepeated?_eq_none_iff [] documents
  unfold ensureUnique
  split <;> simp_all

/-! ## Memory -/

/-- A collection given in memory, in its order. -/
def ofMemory (documents : List Document) : Except Failure (List Document) := do
  ensureUnique documents
  return documents.map fun d => { d with id := Identifier.normalize d.id }

/-- How a collection in memory is called in messages. -/
def memoryName (documents : List Document) : String := s!"memory ({documents.length} documents)"

/-! ## Snapshots -/

/-- The collection of a snapshot file, in its order. -/
def ofSnapshot (t : FileTree) (file : Path) : Except Failure (List Document) := do
  match t.readText file with
  | .error fault => .error (.sourceUnavailable file.text (.unreadable fault))
  | .ok text =>
    match Snapshot.parse text with
    | .error fault => .error (.parse (.snapshot file.text fault))
    | .ok documents =>
      ensureUnique documents
      return documents

/-! ## Directories -/

/-- Whether files and directories of this name are passed over. -/
def isHidden (name : String) : Bool :=
  name.toList.head? == some '.' || name.toList.head? == some '_'

/-- The document of a file below `root`, from the names that lead to it. -/
def readDocument (root : Path) (names : List String) (content : ByteArray) :
    Except Failure Document := do
  match FileTree.textOf content with
  | .error fault =>
    let path := names.foldl (fun p name => p.join ⟨name⟩) root
    .error (.sourceUnavailable root.text (.unreadableFile path.text fault))
  | .ok text =>
    let relative : Path := ⟨"/".intercalate names⟩
    match Frontmatter.split text with
    | .error (.parse (.frontmatter fault)) =>
      .error (.parse (.frontmatterOf relative.text fault))
    | .error failure => .error failure
    | .ok (data, body) => return .make (Identifier.resolve relative data) data body

/-- Whether a file holds a document, by the extension of its name. -/
def accepts (extensions names : List String) : Bool :=
  (names.getLast?.bind Path.extensionOf?).any extensions.contains

/-- The collection of the files below a directory that have one of the extensions, in the order of
their paths. What lies in hidden directories is not read. -/
def ofDirectory (t : FileTree) (root : Path) (extensions : List String) :
    Except Failure (List Document) := do
  match t.find root with
  | .ok (place, .directory) =>
    let files := (t.walk place isHidden).filter fun (names, _) => accepts extensions names
    let documents ← files.mapM fun (names, content) => readDocument root names content
    ensureUnique documents
    return documents
  | _ => .error (.sourceUnavailable root.text .noDirectory)

end DocCorpus.Collection
