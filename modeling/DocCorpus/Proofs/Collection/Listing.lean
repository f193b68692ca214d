/-
  The collection of a directory. A directory is read for the files below it with one of the
  extensions that are not hidden and not in a hidden directory (`Listed`). They come in the order of
  the names that lead to them, compared byte by byte, name before name, and nothing else in the tree
  bears on the outcome (`ofDirectory_listed`).
-/
import DocCorpus.Proofs.Collection.Entries
import DocCorpus.Proofs.FileTree.Walk
import DocCorpus.Proofs.Text.ByteOrder
import DocCorpus.Proofs.Text.Splitting

namespace DocCorpus

/-- The extension of a file name is what follows its last dot, if something precedes that dot. -/
theorem Path.extensionOf?_eq_some_iff {fileName extension : String} :
    extensionOf? fileName = some extension ↔
      ∃ stem, fileName = stem ++ "." ++ extension ∧ stem ≠ "" ∧ '.' ∉ extension.toList := by
  unfold extensionOf?
  constructor
  · intro h
    split at h
    · next c stem back hcut =>
      obtain rfl := Option.some.inj h
      obtain ⟨hname, hback⟩ := Text.cutLast?_eq_some_iff.1 hcut
      refine ⟨String.ofList (c :: stem), String.toList_inj.1 ?_, fun hempty => ?_, ?_⟩
      · rw [hname]
        simp
      · cases String.ofList_eq_empty_iff.1 hempty
      · rwa [String.toList_ofList]
    · cases h
  · rintro ⟨stem, rfl, hstem, hextension⟩
    obtain ⟨c, rest, hcons⟩ :=
      List.exists_cons_of_ne_nil fun hnil => hstem (String.toList_eq_nil_iff.1 hnil)
    have hcut : Text.cutLast? '.' (stem ++ "." ++ extension).toList =
        some (c :: rest, extension.toList) :=
      Text.cutLast?_eq_some_iff.2 ⟨by simp [hcons], hextension⟩
    rw [hcut]
    exact congrArg some String.ofList_toList

namespace Collection

variable {t : FileTree} {place names : List String} {content : ByteArray}
  {extensions : List String} {root : Path}

/-! ## Files that are read -/

/-- A file below a directory, under the names that lead to it from there, that is read for the
collection of the directory. -/
structure Listed (t : FileTree) (place extensions names : List String) (content : ByteArray) :
    Prop where
  file : t.lookup? (place ++ names) = some (.file content)
  visible : ∀ name ∈ names, name.toList.head? ≠ some '.' ∧ name.toList.head? ≠ some '_'
  extension : ∃ directory stem extension, names = directory ++ [stem ++ "." ++ extension] ∧
    stem ≠ "" ∧ '.' ∉ extension.toList ∧ extension ∈ extensions

theorem isHidden_eq_false_iff {name : String} :
    isHidden name = false ↔ name.toList.head? ≠ some '.' ∧ name.toList.head? ≠ some '_' := by
  unfold isHidden
  rw [Bool.or_eq_false_iff, beq_eq_false_iff_ne, beq_eq_false_iff_ne]

theorem accepts_iff : accepts extensions names = true ↔
    ∃ directory stem extension, names = directory ++ [stem ++ "." ++ extension] ∧
      stem ≠ "" ∧ '.' ∉ extension.toList ∧ extension ∈ extensions := by
  unfold accepts
  rw [Option.any_eq_true]
  constructor
  · rintro ⟨extension, hlast, hmem⟩
    obtain ⟨name, hname, hextension⟩ := Option.bind_eq_some_iff.1 hlast
    obtain ⟨directory, rfl⟩ := List.getLast?_eq_some_iff.1 hname
    obtain ⟨stem, rfl, hstem, hdots⟩ := Path.extensionOf?_eq_some_iff.1 hextension
    exact ⟨directory, stem, extension, rfl, hstem, hdots, List.contains_iff_mem.1 hmem⟩
  · rintro ⟨directory, stem, extension, rfl, hstem, hdots, hmem⟩
    refine ⟨extension, ?_, List.contains_iff_mem.2 hmem⟩
    rw [List.getLast?_concat]
    exact Path.extensionOf?_eq_some_iff.2 ⟨stem, rfl, hstem, hdots⟩

theorem mem_listing_iff (ht : t.WellFormed) :
    (names, content) ∈ listing t place extensions ↔ Listed t place extensions names content := by
  unfold listing
  rw [List.mem_filter, ht.mem_walk_iff, accepts_iff]
  simp only [isHidden_eq_false_iff]
  constructor
  · rintro ⟨⟨-, hvisible, hfile⟩, hextension⟩
    exact ⟨hfile, hvisible, hextension⟩
  · rintro ⟨hfile, hvisible, hextension⟩
    refine ⟨⟨?_, hvisible, hfile⟩, hextension⟩
    obtain ⟨directory, stem, extension, rfl, -⟩ := hextension
    exact List.append_ne_nil_of_right_ne_nil _ (List.cons_ne_nil _ _)

theorem pairwise_listing (ht : t.WellFormed) :
    (listing t place extensions).Pairwise fun a b => a.1 < b.1 :=
  (FileTree.pairwise_walk ht.distinct place isHidden).filter _

/-- The files are all there is to a listing: which they are tells their order too. -/
theorem listing_congr {t' : FileTree} {place' : List String} (ht : t.WellFormed)
    (ht' : t'.WellFormed)
    (h : ∀ names content,
      Listed t' place' extensions names content ↔ Listed t place extensions names content) :
    listing t' place' extensions = listing t place extensions := by
  refine Table.eq_of_ascending (fun _ _ => List.lt_asymm) (pairwise_listing ht')
    (pairwise_listing ht) fun file => ?_
  rw [mem_listing_iff ht', mem_listing_iff ht]
  exact h file.1 file.2

/-! ## The collection -/

/-- A file with a text is read if its frontmatter is well formed. -/
theorem exists_readDocument {text body : String} {data : Metadata}
    (htext : FileTree.textOf content = .ok text) (hsplit : Frontmatter.split text = .ok (data, body)) :
    ∃ d, readDocument root names content = .ok d :=
  ⟨_, readDocument_eq_ok_iff.2 ⟨⟨Identifier.resolve ⟨"/".intercalate names⟩ data, data, body⟩,
    ⟨text, htext, hsplit, rfl⟩, rfl⟩⟩

/-- A document that is read has a normalized identifier. -/
theorem normalize_of_readDocument {d : Document} (h : readDocument root names content = .ok d) :
    Identifier.normalize d.id = d.id := by
  obtain ⟨given, -, rfl⟩ := readDocument_eq_ok_iff.1 h
  exact Identifier.normalize_normalize given.id

/-- Documents of different files have different identifiers if the files are told apart by them. -/
theorem ensureUnique_listing (ht : t.WellFormed) {document : List String × ByteArray → Document}
    (hdocument : ∀ file ∈ listing t place extensions,
      readDocument root file.1 file.2 = .ok (document file))
    (hids : ∀ file ∈ listing t place extensions, ∀ file' ∈ listing t place extensions,
      (document file).id = (document file').id → file.1 = file'.1) :
    ensureUnique ((listing t place extensions).map document) = .ok () := by
  rw [ensureUnique_eq_ok_iff, List.map_map, List.Nodup, List.pairwise_map]
  refine (pairwise_listing ht).imp_of_mem fun {file file'} hfile hfile' hlt heq => ?_
  have hsame : (document file).id = (document file').id := by
    rw [← normalize_of_readDocument (hdocument file hfile),
      ← normalize_of_readDocument (hdocument file' hfile')]
    exact heq
  exact List.lt_irrefl _ (hids file hfile file' hfile' hsame ▸ hlt)

/-- The outcome of reading a directory depends on the files that are listed and on nothing else in
the tree, not on the order of its entries and not on what lies in hidden directories. If they all
have well-formed frontmatter and their identifiers are distinct, the collection has one document for
each of them, in the strict order of the names that lead to them. -/
theorem ofDirectory_listed (ht : t.WellFormed) (hroot : t.find root = .ok (place, .directory)) :
    (∀ (t' : FileTree) (place' : List String), t'.WellFormed →
      t'.find root = .ok (place', .directory) →
      (∀ names content,
        Listed t' place' extensions names content ↔ Listed t place extensions names content) →
      ofDirectory t' root extensions = ofDirectory t root extensions) ∧
    ((∀ names content, Listed t place extensions names content →
        ∃ text data body, FileTree.textOf content = .ok text ∧
          Frontmatter.split text = .ok (data, body)) →
      (∀ names content names' content' d d', Listed t place extensions names content →
        Listed t place extensions names' content' →
        readDocument root names content = .ok d → readDocument root names' content' = .ok d' →
        d.id = d'.id → names = names') →
      ∃ files documents,
        (∀ names content,
          (names, content) ∈ files ↔ Listed t place extensions names content) ∧
        (files.map fun file => file.1.map fun name => name.toUTF8.toList).Pairwise (· < ·) ∧
        List.Forall₂ (fun file d => readDocument root file.1 file.2 = .ok d) files documents ∧
        ofDirectory t root extensions = .ok documents) := by
  constructor
  · intro t' place' ht' hroot' hsame
    rw [ofDirectory_eq hroot, ofDirectory_eq hroot', listing_congr ht ht' hsame]
  · intro hreads hids
    have hlisted : ∀ file ∈ listing t place extensions, Listed t place extensions file.1 file.2 :=
      fun _ hfile => (mem_listing_iff ht).1 hfile
    have hread : ∀ file ∈ listing t place extensions,
        ∃ d, readDocument root file.1 file.2 = .ok d := by
      intro file hfile
      obtain ⟨text, data, body, htext, hsplit⟩ := hreads _ _ (hlisted file hfile)
      exact exists_readDocument htext hsplit
    have hinhabited : Nonempty Document := ⟨⟨"", .empty, ""⟩⟩
    choose! document hdocument using hread
    have hall : List.Forall₂ (fun file d => readDocument root file.1 file.2 = .ok d)
        (listing t place extensions) ((listing t place extensions).map document) := by
      rw [List.forall₂_map_right_iff, List.forall₂_same]
      exact hdocument
    have hunique : ensureUnique ((listing t place extensions).map document) = .ok () := by
      refine ensureUnique_listing ht hdocument fun file hfile file' hfile' => ?_
      exact hids _ _ _ _ _ _ (hlisted file hfile) (hlisted file' hfile') (hdocument file hfile)
        (hdocument file' hfile')
    refine ⟨listing t place extensions, _, fun names content => mem_listing_iff ht, ?_, hall, ?_⟩
    · exact List.pairwise_map.2 ((pairwise_listing ht).imp Text.map_toUTF8_lt)
    · rw [ofDirectory_eq hroot, Outcome.mapM_eq_ok_iff.2 hall, Outcome.ok_bind, hunique]
      rfl

/-- A directory in which the byte order of the paths is not the order of the listing, with a file
that is no text in a hidden directory. -/
def guidesTree : FileTree where
  workingDirectory := []
  entries := [(["docs"], .directory), (["docs", "guides.md"], .file "a".toUTF8),
    (["docs", "_drafts"], .directory), (["docs", "_drafts", "x.md"], .file ⟨#[255]⟩),
    (["docs", "guides"], .directory), (["docs", "guides", "b.md"], .file "b".toUTF8),
    (["docs", "notes.txt"], .file ⟨#[255]⟩)]

/-- The same files in another order, without the hidden ones. -/
def reorderedTree : FileTree where
  workingDirectory := []
  entries := [(["docs", "guides", "b.md"], .file "b".toUTF8), (["docs", "guides"], .directory),
    (["docs", "guides.md"], .file "a".toUTF8), (["docs"], .directory)]

theorem wellFormed_guidesTree : guidesTree.WellFormed where
  distinct := by unfold FileTree.Distinct; decide
  housed := by
    unfold guidesTree
    simp only [List.forall_mem_cons]
    exact ⟨⟨[], "docs", rfl, rfl⟩, ⟨["docs"], "guides.md", rfl, rfl⟩, ⟨["docs"], "_drafts", rfl, rfl⟩,
      ⟨["docs", "_drafts"], "x.md", rfl, rfl⟩, ⟨["docs"], "guides", rfl, rfl⟩,
      ⟨["docs", "guides"], "b.md", rfl, rfl⟩, ⟨["docs"], "notes.txt", rfl, rfl⟩, nofun⟩

theorem wellFormed_reorderedTree : reorderedTree.WellFormed where
  distinct := by unfold FileTree.Distinct; decide
  housed := by
    unfold reorderedTree
    simp only [List.forall_mem_cons]
    exact ⟨⟨["docs", "guides"], "b.md", rfl, rfl⟩, ⟨["docs"], "guides", rfl, rfl⟩,
      ⟨["docs"], "guides.md", rfl, rfl⟩, ⟨[], "docs", rfl, rfl⟩, nofun⟩

/-- What is listed of a tree stands in it, is not hidden and has the extension. -/
theorem Listed.mem_entries (h : Listed t place extensions names content) :
    (place ++ names, .file content) ∈ t.entries ∧ names.all (fun name => !isHidden name) = true ∧
      accepts extensions names = true := by
  have haccepts := accepts_iff.2 h.extension
  refine ⟨FileTree.mem_entries_of_lookup? h.file ?_, ?_, haccepts⟩
  · rintro hnil
    rw [(List.append_eq_nil_iff.1 hnil).2] at haccepts
    cases haccepts
  · rw [List.all_eq_true]
    intro name hname
    rw [isHidden_eq_false_iff.2 (h.visible name hname)]
    rfl

theorem listed_guidesTree : Listed guidesTree ["docs"] ["md"] names content ↔
    names = ["guides.md"] ∧ content = "a".toUTF8 ∨
      names = ["guides", "b.md"] ∧ content = "b".toUTF8 := by
  constructor
  · intro h
    obtain ⟨hmem, hvisible, haccepts⟩ := h.mem_entries
    simp only [guidesTree, List.mem_cons, Prod.mk.injEq, List.cons_append, List.nil_append,
      List.cons.injEq, true_and, reduceCtorEq, and_false, FileEntry.file.injEq, false_or,
      List.not_mem_nil, or_false] at hmem
    rcases hmem with h | ⟨rfl, -⟩ | h | ⟨rfl, -⟩
    · exact .inl h
    · exact absurd hvisible (by decide)
    · exact .inr h
    · exact absurd haccepts (by decide)
  · rintro (⟨rfl, rfl⟩ | ⟨rfl, rfl⟩)
    · exact ⟨rfl, by decide, accepts_iff.1 (by decide)⟩
    · exact ⟨rfl, by decide, accepts_iff.1 (by decide)⟩

theorem listed_reorderedTree : Listed reorderedTree ["docs"] ["md"] names content ↔
    names = ["guides.md"] ∧ content = "a".toUTF8 ∨
      names = ["guides", "b.md"] ∧ content = "b".toUTF8 := by
  constructor
  · intro h
    obtain ⟨hmem, -⟩ := h.mem_entries
    simp only [reorderedTree, List.mem_cons, Prod.mk.injEq, List.cons_append, List.nil_append,
      List.cons.injEq, true_and, reduceCtorEq, and_false, FileEntry.file.injEq, false_or,
      List.not_mem_nil, or_false] at hmem
    exact hmem.symm
  · rintro (⟨rfl, rfl⟩ | ⟨rfl, rfl⟩)
    · exact ⟨rfl, by decide, accepts_iff.1 (by decide)⟩
    · exact ⟨rfl, by decide, accepts_iff.1 (by decide)⟩

/-- The outcome for both trees is one, and has a document for either of the files that are
listed. -/
theorem ofDirectory_listed_guides :
    ofDirectory reorderedTree ⟨"docs"⟩ ["md"] = ofDirectory guidesTree ⟨"docs"⟩ ["md"] ∧
      ∃ files documents,
        (∀ names content, (names, content) ∈ files ↔
          Listed guidesTree ["docs"] ["md"] names content) ∧
        (files.map fun file => file.1.map fun name => name.toUTF8.toList).Pairwise (· < ·) ∧
        List.Forall₂ (fun file d => readDocument ⟨"docs"⟩ file.1 file.2 = .ok d) files documents ∧
        ofDirectory guidesTree ⟨"docs"⟩ ["md"] = .ok documents := by
  have hroot : guidesTree.find ⟨"docs"⟩ = .ok (["docs"], .directory) := rfl
  obtain ⟨hsame, hreads⟩ :=
    @ofDirectory_listed guidesTree ["docs"] ["md"] ⟨"docs"⟩ wellFormed_guidesTree hroot
  refine ⟨hsame reorderedTree ["docs"] wellFormed_reorderedTree rfl fun names content => ?_,
    hreads (fun names content h => ?_) ?_⟩
  · rw [listed_reorderedTree, listed_guidesTree]
  · rcases listed_guidesTree.1 h with ⟨-, rfl⟩ | ⟨-, rfl⟩
    · exact ⟨"a", _, _, Text.textOf_toUTF8 "a", rfl⟩
    · exact ⟨"b", _, _, Text.textOf_toUTF8 "b", rfl⟩
  · have ha : readDocument ⟨"docs"⟩ ["guides.md"] "a".toUTF8 = .ok ⟨"guides", .empty, "a"⟩ := by
      rfl
    have hb : readDocument ⟨"docs"⟩ ["guides", "b.md"] "b".toUTF8 =
        .ok ⟨"guides/b", .empty, "b"⟩ := by
      rfl
    intro names content names' content' d d' h h' hd hd' hid
    rcases listed_guidesTree.1 h with ⟨rfl, rfl⟩ | ⟨rfl, rfl⟩ <;>
      rcases listed_guidesTree.1 h' with ⟨rfl, rfl⟩ | ⟨rfl, rfl⟩
    · rfl
    · obtain rfl := Except.ok.inj (ha.symm.trans hd)
      obtain rfl := Except.ok.inj (hb.symm.trans hd')
      exact absurd hid (by decide)
    · obtain rfl := Except.ok.inj (hb.symm.trans hd)
      obtain rfl := Except.ok.inj (ha.symm.trans hd')
      exact absurd hid (by decide)
    · rfl

end Collection
end DocCorpus
