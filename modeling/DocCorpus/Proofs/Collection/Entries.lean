/-
  Collections and the entries they are read from. Memory, a snapshot and a directory each hold one
  entry for every document; what is read from an entry has the data and the body that stand there,
  and its identifier as it stands there (`Entry.Reads`). The documents of the collection are these
  under their normalized identifiers, in the order of the entries, and reading fails at the first
  one whose normalized identifier has come before (`Origin.read_outcome`).
-/
import DocCorpus.Proofs.Snapshot.Canonical
import DocCorpus.Proofs.Snapshot.Written
import Mathlib.Data.List.Forall2

namespace DocCorpus

open Json (Source)
open Outcome

theorem Document.slashes_normalized (d : Document) :
    d.normalized.id.toList.head? ≠ some '/' ∧ d.normalized.id.toList.getLast? ≠ some '/' := by
  have hid : d.normalized.id.toList = Text.strip (· = '/') d.id.toList := String.toList_ofList
  rw [hid]
  refine ⟨fun h => ?_, fun h => ?_⟩
  · exact of_decide_eq_false (Text.head_strip h) rfl
  · exact of_decide_eq_false (Text.last_strip h) rfl

namespace Collection

/-! ## Repeated identifiers -/

/-- The documents under their normalized identifiers repeat what the documents repeat. -/
theorem firstRepeated?_normalized (seen : List String) (documents : List Document) :
    firstRepeated? seen (documents.map Document.normalized) = firstRepeated? seen documents := by
  induction documents generalizing seen with
  | nil => rfl
  | cons d documents ih =>
    rw [List.map_cons, firstRepeated?, firstRepeated?]
    have hid : Identifier.normalize d.normalized.id = Identifier.normalize d.id :=
      Identifier.normalize_normalize d.id
    simp only [hid, ih]

theorem ensureUnique_normalized (documents : List Document) :
    ensureUnique (documents.map Document.normalized) = ensureUnique documents := by
  unfold ensureUnique
  rw [firstRepeated?_normalized]

/-- The first repeated identifier is that of a document before which none is repeated. -/
theorem exists_of_firstRepeated? {seen : List String} {documents : List Document} {id : String}
    (h : firstRepeated? seen documents = some id) :
    ∃ front d back, documents = front ++ d :: back ∧ id = Identifier.normalize d.id ∧
      (front.map fun d => Identifier.normalize d.id).Nodup ∧
      (∀ d ∈ front, Identifier.normalize d.id ∉ seen) ∧
      (id ∈ seen ∨ id ∈ front.map fun d => Identifier.normalize d.id) := by
  induction documents generalizing seen with
  | nil => cases h
  | cons d documents ih =>
    rw [firstRepeated?] at h
    split at h
    · next hseen =>
      obtain rfl := Option.some.inj h
      exact ⟨[], d, documents, rfl, rfl, .nil, fun _ hd => absurd hd List.not_mem_nil,
        .inl (List.contains_iff_mem.1 hseen)⟩
    · next hnew =>
      -- what repeats later repeats the first document or one between them, or is in `seen`
      rw [List.contains_iff_mem] at hnew
      obtain ⟨front, e, back, rfl, rfl, hnodup, hfront, hrepeated⟩ := ih h
      refine ⟨d :: front, e, back, rfl, rfl, ?_, ?_, ?_⟩
      · rw [List.map_cons, List.nodup_cons]
        refine ⟨fun hmem => ?_, hnodup⟩
        obtain ⟨other, hother, heq⟩ := List.mem_map.1 hmem
        exact hfront other hother (heq ▸ List.mem_cons_self)
      · refine List.forall_mem_cons.2 ⟨hnew, fun other hother hmem => ?_⟩
        exact hfront other hother (List.mem_cons_of_mem _ hmem)
      · rw [List.map_cons, List.mem_cons]
        rcases hrepeated with hrepeated | hrepeated
        · rcases List.mem_cons.1 hrepeated with heq | hseen
          · exact .inr (.inl heq)
          · exact .inl hseen
        · exact .inr (.inr hrepeated)

/-- Whether documents may stand together: if not, the failure names the first that repeats. -/
theorem ensureUnique_eq_error {documents : List Document} {failure : Failure}
    (h : ensureUnique documents = .error failure) :
    ∃ front d back, documents = front ++ d :: back ∧
      (front.map fun d => Identifier.normalize d.id).Nodup ∧
      Identifier.normalize d.id ∈ front.map (fun d => Identifier.normalize d.id) ∧
      failure = .duplicateIdentifier (Identifier.normalize d.id) := by
  unfold ensureUnique at h
  split at h
  · next id hrepeated =>
    obtain ⟨front, d, back, hdocuments, rfl, hnodup, -, hmem⟩ := exists_of_firstRepeated? hrepeated
    exact ⟨front, d, back, hdocuments, hnodup, hmem.resolve_left List.not_mem_nil,
      (Except.error.inj h).symm⟩
  · cases h

/-! ## Entries -/

/-- Where a collection is read from. -/
inductive Origin
  | memory (documents : List Document)
  | snapshot (t : FileTree) (file : Path)
  | directory (t : FileTree) (root : Path) (extensions : List String)

/-- What an origin holds for one document. -/
inductive Entry
  | document (d : Document)
  | value (source : Source)
  | file (names : List String) (content : ByteArray)

/-- What is read from an entry: a document with the identifier as it stands there. -/
def Entry.Reads : Entry → Document → Prop
  | .document given, d => given = d
  | .value source, d =>
    Document.ofSource (snapshotLevels - 1) source = .ok d.normalized ∧
      Document.WrittenIn (snapshotLevels - 2) source d
  | .file names content, d =>
    ∃ text, FileTree.textOf content = .ok text ∧
      Frontmatter.split text = .ok (d.data, d.body) ∧
      d.id = Identifier.resolve ⟨"/".intercalate names⟩ d.data

/-- The files that a directory is read for, under the names that lead to them from there. -/
def listing (t : FileTree) (place extensions : List String) : List (List String × ByteArray) :=
  (t.walk place isHidden).filter fun file => accepts extensions file.1

/-- The entries of an origin, in its order. -/
def Origin.Lists : Origin → List Entry → Prop
  | .memory documents, entries => entries = documents.map .document
  | .snapshot t file, entries => ∃ text sources, t.readText file = .ok text ∧
      Source.ofText text = (.array sources, true) ∧ entries = sources.map .value
  | .directory t root extensions, entries => ∃ place, t.find root = .ok (place, .directory) ∧
      entries = (listing t place extensions).map fun file => .file file.1 file.2

/-- The collection of an origin. -/
def Origin.read : Origin → Except Failure (List Document)
  | .memory documents => ofMemory documents
  | .snapshot t file => ofSnapshot t file
  | .directory t root extensions => ofDirectory t root extensions

theorem ofDirectory_eq {t : FileTree} {root : Path} {place extensions : List String}
    (hroot : t.find root = .ok (place, .directory)) :
    ofDirectory t root extensions = (do
      let documents ← (listing t place extensions).mapM fun file =>
        readDocument root file.1 file.2
      ensureUnique documents
      return documents) := by
  unfold ofDirectory
  rw [hroot]
  rfl

/-- A file is read as its frontmatter and its body, under the identifier of the one or of its
path. -/
theorem readDocument_eq_ok_iff {root : Path} {names : List String} {content : ByteArray}
    {d : Document} :
    readDocument root names content = .ok d ↔
      ∃ given, (Entry.file names content).Reads given ∧ d = given.normalized := by
  unfold readDocument
  constructor
  · intro h
    split at h
    · cases h
    · next text htext =>
      dsimp only at h
      split at h
      · cases h
      · cases h
      · next data body hsplit =>
        obtain rfl := Except.ok.inj h
        exact ⟨⟨_, data, body⟩, ⟨text, htext, hsplit, rfl⟩, rfl⟩
  · rintro ⟨⟨id, data, body⟩, ⟨text, htext, hsplit, hid⟩, rfl⟩
    dsimp only at hsplit hid
    subst hid
    rw [htext]
    dsimp only
    rw [hsplit]
    rfl

/-- What is read for each of a list, under its normalized identifier. -/
theorem forall₂_normalized_iff {α : Type} {reads : α → Document → Prop} {entries : List α}
    {documents : List Document} :
    List.Forall₂ (fun entry d => ∃ given, reads entry given ∧ d = given.normalized)
        entries documents ↔
      ∃ given, List.Forall₂ reads entries given ∧ documents = given.map Document.normalized := by
  induction entries generalizing documents with
  | nil =>
    simp only [List.forall₂_nil_left_iff, exists_eq_left, List.map_nil]
  | cons entry entries ih =>
    simp only [List.forall₂_cons_left_iff]
    constructor
    · rintro ⟨_, rest, ⟨d, hd, rfl⟩, hrest, rfl⟩
      obtain ⟨given, hgiven, rfl⟩ := ih.1 hrest
      exact ⟨d :: given, ⟨d, given, hd, hgiven, rfl⟩, rfl⟩
    · rintro ⟨_, ⟨d, given, hd, hgiven, rfl⟩, rfl⟩
      exact ⟨d.normalized, given.map Document.normalized, ⟨d, hd, rfl⟩, ih.2 ⟨given, hgiven, rfl⟩,
        rfl⟩

namespace Origin

variable {origin : Origin} {entries : List Entry} {given documents : List Document}

/-- Once all entries are read, only a repeated identifier is in the way. -/
theorem read_eq (hentries : origin.Lists entries)
    (hgiven : List.Forall₂ Entry.Reads entries given) :
    origin.read = (ensureUnique given).map fun _ => given.map Document.normalized := by
  cases origin with
  | memory documents =>
    obtain rfl := hentries
    rw [List.forall₂_map_left_iff] at hgiven
    have hsame : List.Forall₂ Eq documents given := hgiven
    rw [List.forall₂_eq_eq_eq] at hsame
    exact hsame ▸ rfl
  | snapshot t file =>
    obtain ⟨text, sources, htext, hsource, rfl⟩ := hentries
    rw [List.forall₂_map_left_iff] at hgiven
    have hparse : Snapshot.parse text = .ok (given.map Document.normalized) := by
      refine Snapshot.parse_eq_ok_iff.2 ⟨sources, hsource, ?_⟩
      rw [List.forall₂_map_right_iff]
      exact hgiven.imp fun _ _ h => h.1
    show ofSnapshot t file = _
    unfold ofSnapshot
    rw [htext]
    dsimp only
    rw [hparse]
    dsimp only
    rw [ensureUnique_normalized]
    rfl
  | directory t root extensions =>
    obtain ⟨place, hplace, rfl⟩ := hentries
    rw [List.forall₂_map_left_iff] at hgiven
    have hread : (listing t place extensions).mapM (fun file => readDocument root file.1 file.2) =
        .ok (given.map Document.normalized) := by
      rw [mapM_eq_ok_iff, List.forall₂_map_right_iff]
      exact hgiven.imp fun _ d h => readDocument_eq_ok_iff.2 ⟨d, h, rfl⟩
    show ofDirectory t root extensions = _
    rw [ofDirectory_eq hplace, hread, ok_bind, ensureUnique_normalized]
    rfl

/-- A collection that is read comes from entries that are read. -/
theorem exists_of_read (h : origin.read = .ok documents) :
    ∃ entries given, origin.Lists entries ∧ List.Forall₂ Entry.Reads entries given ∧
      documents = given.map Document.normalized := by
  cases origin with
  | memory given =>
    obtain ⟨_, -, h⟩ := bind_eq_ok_iff.1 h
    refine ⟨_, given, rfl, ?_, (Except.ok.inj h).symm⟩
    rw [List.forall₂_map_left_iff]
    exact List.forall₂_same.2 fun _ _ => rfl
  | snapshot t file =>
    obtain ⟨text, htext, hparse, -⟩ := ofSnapshot_eq_ok_iff.1 h
    obtain ⟨sources, hsource, hsources⟩ := Snapshot.parse_eq_ok_iff.1 hparse
    have hdocuments : List.Forall₂ (fun source d =>
        ∃ given, (Entry.value source).Reads given ∧ d = given.normalized) sources documents := by
      refine hsources.imp fun source d hd => ?_
      obtain ⟨given, hwritten, rfl⟩ := Document.exists_writtenIn hd
      exact ⟨given, ⟨hd, hwritten⟩, rfl⟩
    obtain ⟨given, hgiven, rfl⟩ := forall₂_normalized_iff.1 hdocuments
    refine ⟨_, given, ⟨text, sources, htext, hsource, rfl⟩, ?_, rfl⟩
    rw [List.forall₂_map_left_iff]
    exact hgiven
  | directory t root extensions =>
    have h : ofDirectory t root extensions = .ok documents := h
    unfold ofDirectory at h
    split at h
    · next place hplace =>
      obtain ⟨read, hread, h⟩ := bind_eq_ok_iff.1 h
      obtain ⟨_, -, h⟩ := bind_eq_ok_iff.1 h
      obtain rfl := Except.ok.inj h
      have hfiles : List.Forall₂ (fun file d => readDocument root file.1 file.2 = .ok d)
          (listing t place extensions) read := mapM_eq_ok_iff.1 hread
      have hdocuments := hfiles.imp fun _ _ => readDocument_eq_ok_iff.1
      obtain ⟨given, hgiven, rfl⟩ := forall₂_normalized_iff.1 hdocuments
      refine ⟨_, given, ⟨place, hplace, rfl⟩, ?_, rfl⟩
      rw [List.forall₂_map_left_iff]
      exact hgiven
    · cases h

/-- What reading a collection comes to. A collection has one document for every entry, in the order
of the entries, with the data and the body that stand there, and its identifiers are distinct and
have no slash at an end. If all entries are read, it fails just when two of their identifiers are
one after normalization, and the failure has that of the first entry that repeats one before it. -/
theorem read_outcome (origin : Origin) :
    (∀ documents, origin.read = .ok documents →
      (∃ entries given, origin.Lists entries ∧ List.Forall₂ Entry.Reads entries given ∧
        documents = given.map Document.normalized) ∧
      (∀ d ∈ documents, d.id.toList.head? ≠ some '/' ∧ d.id.toList.getLast? ≠ some '/') ∧
      (documents.map Document.id).Nodup) ∧
    ∀ entries given, origin.Lists entries → List.Forall₂ Entry.Reads entries given →
      ((∃ failure, origin.read = .error failure) ↔
        ¬ (given.map fun d => Identifier.normalize d.id).Nodup) ∧
      ∀ failure, origin.read = .error failure →
        ∃ front d back, given = front ++ d :: back ∧
          (front.map fun d => Identifier.normalize d.id).Nodup ∧
          Identifier.normalize d.id ∈ front.map (fun d => Identifier.normalize d.id) ∧
          failure = .duplicateIdentifier (Identifier.normalize d.id) := by
  constructor
  · intro documents hread
    obtain ⟨entries, given, hentries, hgiven, rfl⟩ := exists_of_read hread
    refine ⟨⟨entries, given, hentries, hgiven, rfl⟩, fun d hd => ?_, ?_⟩
    · obtain ⟨d, -, rfl⟩ := List.mem_map.1 hd
      exact d.slashes_normalized
    · rw [read_eq hentries hgiven] at hread
      obtain ⟨_, hunique, -⟩ := map_eq_ok_iff.1 hread
      rw [List.map_map]
      exact ensureUnique_eq_ok_iff.1 hunique
  · intro entries given hentries hgiven
    rw [read_eq hentries hgiven, ← ensureUnique_eq_ok_iff]
    cases hunique : ensureUnique given with
    | ok _ =>
      refine ⟨⟨fun ⟨_, hfailure⟩ => ?_, fun h => absurd rfl h⟩, fun _ hfailure => ?_⟩
      · cases hfailure
      · cases hfailure
    | error failure =>
      refine ⟨⟨fun _ => nofun, fun _ => ⟨failure, rfl⟩⟩, fun other hother => ?_⟩
      obtain rfl := Except.error.inj hother
      exact ensureUnique_eq_error hunique

/-- A snapshot with an identifier twice, once with slashes around it. -/
def repeatedText : String := "[[\"/guides/x/\"],\x7b\"id\":\"guides/x\"\x7d]"

theorem ofText_repeatedText : Source.ofText repeatedText =
    (.array [.array [.string (some "/guides/x/")], .object [(some "id", .string (some "guides/x"))]],
      true) := by
  have hlexemes : Json.Lexeme.all repeatedText.toList =
      [.mark '[', .mark '[', .string (some "/guides/x/"), .mark ']', .mark ',', .mark '{',
        .string (some "id"), .mark ':', .string (some "guides/x"), .mark '}', .mark ']'] := by
    rfl
  unfold Source.ofText
  rw [hlexemes]
  rfl

/-- Two documents in memory, of which the collection keeps both, and two in a snapshot, of which the
second repeats the first. -/
theorem read_outcome_slashes :
    (∃ documents, read (.memory [⟨"/b/", .empty, "x"⟩, ⟨"a//", .empty, ""⟩]) = .ok documents ∧
      (documents.map Document.id).Nodup) ∧
    ∃ failure, read (.snapshot (snapshotTree repeatedText) ⟨"docs.json"⟩) = .error failure ∧
      ∃ id, failure = .duplicateIdentifier (Identifier.normalize id) := by
  have hentries : Origin.Lists (.snapshot (snapshotTree repeatedText) ⟨"docs.json"⟩)
      [.value (.array [.string (some "/guides/x/")]),
        .value (.object [(some "id", .string (some "guides/x"))])] :=
    ⟨repeatedText, _, readText_snapshotTree repeatedText, ofText_repeatedText, rfl⟩
  have hgiven : List.Forall₂ Entry.Reads
      [.value (.array [.string (some "/guides/x/")]),
        .value (.object [(some "id", .string (some "guides/x"))])]
      [⟨"/guides/x/", .empty, ""⟩, ⟨"guides/x", .empty, ""⟩] :=
    .cons ⟨rfl, rfl, rfl, rfl⟩ (.cons ⟨rfl, rfl, rfl, rfl⟩ .nil)
  obtain ⟨hfails, hnames⟩ := (read_outcome _).2 _ _ hentries hgiven
  obtain ⟨failure, hfailure⟩ := hfails.2 (by decide)
  obtain ⟨_, d, _, -, -, -, hd⟩ := hnames failure hfailure
  have hmemory : Origin.read (.memory [⟨"/b/", .empty, "x"⟩, ⟨"a//", .empty, ""⟩]) =
      .ok [⟨"b", .empty, "x"⟩, ⟨"a", .empty, ""⟩] := by
    rfl
  exact ⟨⟨_, hmemory, ((read_outcome _).1 _ hmemory).2.2⟩, failure, hfailure, d.id, hd⟩

end Origin
end Collection
end DocCorpus
