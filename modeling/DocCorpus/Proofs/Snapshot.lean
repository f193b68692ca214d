/-
  Exports read back as snapshots. A metadata value without repeated keys is read again from any
  source of its tree, as long as it is nested no deeper than the reader goes
  (`MetaValue.ofSource_of_toTree`); so is a document under a normalized identifier, and from there
  the whole collection, in its order (`Snapshot.parse_of_serialize`).
-/
import DocCorpus.Collection
import DocCorpus.Proofs.Export
import DocCorpus.Proofs.Json.RoundTrip

namespace DocCorpus

open Json (Source)
open Outcome

namespace MetaValue

/-! ## Values -/

/-- A signed 64-bit integer stays that integer. -/
theorem ofNumber_integer (n : Int64) : ofNumber (.integer n.toInt) = .integer n := by
  have hlow : Int64.minValue.toInt ≤ n.toInt := by
    have := Int64.le_toInt n
    simpa using this
  have hhigh : n.toInt ≤ Int64.maxValue.toInt := by
    have := Int64.toInt_lt n
    have hmax : Int64.maxValue.toInt = 2 ^ 63 - 1 := by decide
    omega
  simp only [ofNumber, if_pos (And.intro hlow hhigh), Int64.ofInt_toInt]

mutual

/-- The tree of a value can be written if the floats in the value read back. -/
theorem legible_of_toTree : ∀ (v : MetaValue) (t : Tree), v.toTree = .ok t →
    (∀ x ∈ v.floats, Json.ReadsBack x) → Json.Legible t
  | .null, _, ht, _ | .boolean _, _, ht, _ | .text _, _, ht, _ => by
    obtain rfl := Except.ok.inj ht
    exact trivial
  | .integer n, _, ht, _ => by
    obtain rfl := Except.ok.inj ht
    have := Int64.le_toInt n
    have := Int64.toInt_lt n
    simp only [Json.Legible, Json.Numeral.wordBound, Nat.pow_eq]
    omega
  | .float x, t, ht, h => by
    simp only [toTree] at ht
    split at ht
    · obtain rfl := Except.ok.inj ht
      exact h x (by simp [floats])
    · exact nomatch ht
  | .list items, t, ht, h => by
    obtain ⟨ts, hts, rfl⟩ := map_eq_ok_iff.1 ht
    exact legible_of_itemsToTree items ts hts h
  | .map entries, t, ht, h => by
    obtain ⟨ts, hts, rfl⟩ := map_eq_ok_iff.1 ht
    exact legible_of_entriesToTree entries ts hts h

theorem legible_of_itemsToTree : ∀ (items : List MetaValue) (ts : List Tree),
    itemsToTree items = .ok ts → (∀ x ∈ itemFloats items, Json.ReadsBack x) → Json.LegibleItems ts
  | [], _, hts, _ => by
    obtain rfl := Except.ok.inj hts
    exact trivial
  | item :: rest, _, hts, h => by
    obtain ⟨t, ht, hts⟩ := bind_eq_ok_iff.1 hts
    obtain ⟨ts, htail, hcons⟩ := bind_eq_ok_iff.1 hts
    obtain rfl := Except.ok.inj hcons
    simp only [itemFloats, List.mem_append, or_imp, forall_and] at h
    exact ⟨legible_of_toTree item t ht h.1, legible_of_itemsToTree rest ts htail h.2⟩

theorem legible_of_entriesToTree : ∀ (entries : List (String × MetaValue))
    (ts : List (String × Tree)), entriesToTree entries = .ok ts →
    (∀ x ∈ entryFloats entries, Json.ReadsBack x) → Json.LegibleMembers ts
  | [], _, hts, _ => by
    obtain rfl := Except.ok.inj hts
    exact trivial
  | (key, value) :: rest, _, hts, h => by
    obtain ⟨t, ht, hts⟩ := bind_eq_ok_iff.1 hts
    obtain ⟨ts, htail, hcons⟩ := bind_eq_ok_iff.1 hts
    obtain rfl := Except.ok.inj hcons
    simp only [entryFloats, List.mem_append, or_imp, forall_and] at h
    exact ⟨legible_of_toTree value t ht h.1, legible_of_entriesToTree rest ts htail h.2⟩

end

mutual

/-- A value is read from any source of its tree. -/
theorem ofSource_of_toTree : ∀ (v : MetaValue) (limit : Nat) (t : Tree) (source : Source),
    v.UniqueKeys → v.levels ≤ limit → v.toTree = .ok t → source.tree? = some t →
      ofSource limit source = .ok v
  | .null, _, _, source, _, _, ht, hs | .boolean _, _, _, source, _, _, ht, hs
  | .text _, _, _, source, _, _, ht, hs => by
    obtain rfl := Except.ok.inj ht
    have hsource := Json.source_of_tree? hs
    rw [show source = _ from hsource]
    rfl
  | .integer n, _, _, _, _, _, ht, hs => by
    obtain rfl := Except.ok.inj ht
    obtain ⟨m, rfl, hm⟩ := Json.source_of_tree? hs
    simp [ofSource, hm, ofNumber_integer]
  | .float x, _, _, _, _, _, ht, hs => by
    simp only [toTree] at ht
    split at ht
    · obtain rfl := Except.ok.inj ht
      obtain ⟨m, rfl, hm⟩ := Json.source_of_tree? hs
      simp [ofSource, hm, ofNumber]
    · exact nomatch ht
  | .list items, limit, _, _, hkeys, hlevels, ht, hs => by
    obtain ⟨ts, hts, rfl⟩ := map_eq_ok_iff.1 ht
    obtain ⟨sources, rfl, hsources⟩ := Json.source_of_tree? hs
    simp only [levels] at hlevels
    obtain ⟨inner, hinner⟩ := Nat.exists_eq_add_one_of_ne_zero (n := limit) (by omega)
    have hitems := itemsOfSources_of_toTree items inner ts sources hkeys (by omega) hts hsources
    simp [hinner, ofSource, hitems, Except.map]
  | .map entries, limit, _, _, hkeys, hlevels, ht, hs => by
    obtain ⟨ts, hts, rfl⟩ := map_eq_ok_iff.1 ht
    obtain ⟨sources, rfl, hsources⟩ := Json.source_of_tree? hs
    simp only [levels] at hlevels
    obtain ⟨inner, hinner⟩ := Nat.exists_eq_add_one_of_ne_zero (n := limit) (by omega)
    have hentries := entriesOfMembers_of_toTree entries inner [] ts sources hkeys (by simp)
      (by omega) hts hsources
    simp [hinner, ofSource, hentries, Except.map]

theorem itemsOfSources_of_toTree : ∀ (items : List MetaValue) (limit : Nat) (ts : List Tree)
    (sources : List Source), UniqueKeysItems items → itemLevels items ≤ limit →
    itemsToTree items = .ok ts → Source.itemTrees? sources = some ts →
      itemsOfSources limit sources = .ok items
  | [], _, _, sources, _, _, hts, hs => by
    obtain rfl := Except.ok.inj hts
    obtain rfl : sources = [] := Json.sources_of_itemTrees? hs
    rfl
  | item :: rest, limit, _, sources, hkeys, hlevels, hts, hs => by
    obtain ⟨t, ht, hts⟩ := bind_eq_ok_iff.1 hts
    obtain ⟨ts, htail, hcons⟩ := bind_eq_ok_iff.1 hts
    obtain rfl := Except.ok.inj hcons
    obtain ⟨source, others, rfl, hsource, hothers⟩ := Json.sources_of_itemTrees? hs
    simp only [itemLevels] at hlevels
    rw [itemsOfSources, ofSource_of_toTree item limit t source hkeys.1 (by omega) ht hsource,
      itemsOfSources_of_toTree rest limit ts others hkeys.2 (by omega) htail hothers]
    rfl

theorem entriesOfMembers_of_toTree : ∀ (entries : List (String × MetaValue)) (limit : Nat)
    (seen : List String) (ts : List (String × Tree))
    (sources : List (Option String × Source)), UniqueKeysEntries entries →
    (∀ e ∈ entries, e.1 ∉ seen) → entryLevels entries ≤ limit →
    entriesToTree entries = .ok ts → Source.memberTrees? sources = some ts →
      entriesOfMembers limit seen sources = .ok entries
  | [], _, _, _, sources, _, _, _, hts, hs => by
    obtain rfl := Except.ok.inj hts
    obtain rfl : sources = [] := Json.sources_of_memberTrees? hs
    rfl
  | (key, value) :: rest, limit, seen, _, sources, hkeys, hseen, hlevels, hts, hs => by
    obtain ⟨t, ht, hts⟩ := bind_eq_ok_iff.1 hts
    obtain ⟨ts, htail, hcons⟩ := bind_eq_ok_iff.1 hts
    obtain rfl := Except.ok.inj hcons
    obtain ⟨source, others, rfl, hsource, hothers⟩ := Json.sources_of_memberTrees? hs
    obtain ⟨hkey, hvalue, hrest⟩ := hkeys
    simp only [entryLevels] at hlevels
    have hnew : seen.contains key = false := by
      simpa using hseen (key, value) List.mem_cons_self
    -- the keys before the rest are those seen and this one, and the rest repeats neither
    have hlater : ∀ e ∈ rest, e.1 ∉ key :: seen := by
      intro e he hmem
      rcases List.mem_cons.1 hmem with heq | hmem
      · exact hkey (heq ▸ List.mem_map_of_mem he)
      · exact hseen e (List.mem_cons_of_mem _ he) hmem
    rw [entriesOfMembers, ofSource_of_toTree value limit t source hvalue (by omega) ht hsource]
    simp only [hnew, Bool.false_eq_true, if_false]
    rw [entriesOfMembers_of_toTree rest limit (key :: seen) ts others hrest hlater (by omega) htail
      hothers]
    rfl

end

end MetaValue
/-! ## Documents -/

theorem Metadata.ofSource_of_toTree {m : Metadata} {limit : Nat} {members : List (String × Tree)}
    {source : Source} (hkeys : m.UniqueKeys) (hlevels : m.levels ≤ limit)
    (ht : MetaValue.entriesToTree m.entries = .ok members)
    (hs : source.tree? = some (.table members)) : Metadata.ofSource limit source = .ok m := by
  obtain ⟨sources, rfl, hsources⟩ := Json.source_of_tree? hs
  simp only [Metadata.levels] at hlevels
  obtain ⟨inner, rfl⟩ := Nat.exists_eq_add_one_of_ne_zero (n := limit) (by omega)
  have hentries := MetaValue.entriesOfMembers_of_toTree m.entries inner [] members sources hkeys
    (by simp) (by omega) ht hsources
  simp [Metadata.ofSource, hentries, Except.map]

theorem Json.text_of_tree? {source : Source} {s : String} (h : source.tree? = some (.text s)) :
    source.text = .ok s := by
  obtain rfl : source = .string (some s) := Json.source_of_tree? h
  rfl

namespace Document

/-- A document that an export holds in full: its identifier has no slashes at its ends, its
metadata repeats no key and has finite floats only, and its text is nested below 128 levels. -/
structure Exportable (d : Document) : Prop where
  normalized : Identifier.normalize d.id = d.id
  uniqueKeys : d.data.UniqueKeys
  finite : ∀ x ∈ d.data.floats, x.isFinite = true
  /-- The array of the documents and the object of the document are two levels more. -/
  levels : d.data.levels + 2 < 128

theorem Exportable.finite_data {d : Document} (h : d.Exportable) : d.data.Finite :=
  Metadata.finite_iff.2 h.finite

theorem ofSource_of_toTree {d : Document} {limit : Nat} {t : Tree} {source : Source}
    (hid : Identifier.normalize d.id = d.id) (hkeys : d.data.UniqueKeys)
    (hlevels : d.data.levels + 1 ≤ limit) (ht : d.toTree = .ok t) (hs : source.tree? = some t) :
    ofSource limit source = .ok d := by
  obtain ⟨data, hdata, hpure⟩ := bind_eq_ok_iff.1 ht
  obtain rfl := Except.ok.inj hpure
  obtain ⟨members, hmembers, rfl⟩ := map_eq_ok_iff.1 hdata
  obtain ⟨sources, rfl, hsources⟩ := Json.source_of_tree? hs
  obtain ⟨id, others, rfl, hidSource, hothers⟩ := Json.sources_of_memberTrees? hsources
  obtain ⟨data, others, rfl, hdataSource, hothers⟩ := Json.sources_of_memberTrees? hothers
  obtain ⟨body, others, rfl, hbodySource, hothers⟩ := Json.sources_of_memberTrees? hothers
  obtain rfl : others = [] := Json.sources_of_memberTrees? hothers
  obtain ⟨inner, rfl⟩ := Nat.exists_eq_add_one_of_ne_zero (n := limit) (by omega)
  have hinner : d.data.levels ≤ inner := by omega
  have hread := Metadata.ofSource_of_toTree hkeys hinner hmembers hdataSource
  simp only [ofSource, Source.foldMembers, Draft.take, Json.text_of_tree? hidSource, hread,
    Json.text_of_tree? hbodySource]
  simp [Except.map, bind, Except.bind, Draft.finish, make, hid]

theorem legible_of_toTree {d : Document} {t : Tree} (ht : d.toTree = .ok t)
    (hfloats : ∀ x ∈ d.data.floats, Json.ReadsBack x) : Json.Legible t := by
  obtain ⟨data, hdata, hpure⟩ := bind_eq_ok_iff.1 ht
  obtain rfl := Except.ok.inj hpure
  obtain ⟨members, hmembers, rfl⟩ := map_eq_ok_iff.1 hdata
  have hlegible := MetaValue.legible_of_entriesToTree d.data.entries members hmembers hfloats
  exact ⟨trivial, hlegible, trivial, trivial⟩

end Document

/-! ## Collections -/

namespace Export

theorem legible_of_mapM_toTree {documents : List Document} {ts : List Tree}
    (hts : documents.mapM Document.toTree = .ok ts)
    (hfloats : ∀ d ∈ documents, ∀ x ∈ d.data.floats, Json.ReadsBack x) :
    Json.LegibleItems ts := by
  induction documents generalizing ts with
  | nil =>
    obtain rfl := Except.ok.inj hts
    exact trivial
  | cons d documents ih =>
    rw [List.mapM_cons] at hts
    obtain ⟨t, ht, hts⟩ := bind_eq_ok_iff.1 hts
    obtain ⟨ts, htail, hcons⟩ := bind_eq_ok_iff.1 hts
    obtain rfl := Except.ok.inj hcons
    exact ⟨Document.legible_of_toTree ht (hfloats d List.mem_cons_self),
      ih htail fun d' hd => hfloats d' (List.mem_cons_of_mem _ hd)⟩

end Export

namespace Snapshot

theorem mapM_ofSource_of_toTree {documents : List Document} {ts : List Tree}
    {sources : List Source} (h : ∀ d ∈ documents, d.Exportable)
    (hts : documents.mapM Document.toTree = .ok ts) (hs : Source.itemTrees? sources = some ts) :
    sources.mapM (Document.ofSource (snapshotLevels - 1)) = .ok documents := by
  induction documents generalizing ts sources with
  | nil =>
    obtain rfl := Except.ok.inj hts
    obtain rfl : sources = [] := Json.sources_of_itemTrees? hs
    rfl
  | cons d documents ih =>
    rw [List.mapM_cons] at hts
    obtain ⟨t, ht, hts⟩ := bind_eq_ok_iff.1 hts
    obtain ⟨ts, htail, hcons⟩ := bind_eq_ok_iff.1 hts
    obtain rfl := Except.ok.inj hcons
    obtain ⟨source, others, rfl, hsource, hothers⟩ := Json.sources_of_itemTrees? hs
    have hd := h d List.mem_cons_self
    have hlevels : d.data.levels + 1 ≤ snapshotLevels - 1 := by
      have := hd.levels
      simp only [snapshotLevels]
      omega
    rw [List.mapM_cons, Document.ofSource_of_toTree hd.normalized hd.uniqueKeys hlevels ht hsource,
      ih (fun d' hd' => h d' (List.mem_cons_of_mem _ hd')) htail hothers]
    rfl

/-- The text of the export is read as the documents that it was made from. -/
theorem parse_of_serialize {documents : List Document} {text : String}
    (h : ∀ d ∈ documents, d.Exportable)
    (hfloats : ∀ d ∈ documents, ∀ x ∈ d.data.floats, Json.ReadsBack x)
    (htext : Export.serialize documents = .ok text) : parse text = .ok documents := by
  have hfinite : ∀ d ∈ documents, d.data.Finite := fun d hd => (h d hd).finite_data
  obtain ⟨ts, hts⟩ := Export.exists_mapM_toTree hfinite
  obtain rfl := Except.ok.inj ((Export.serialize_eq_ok hfinite hts).symm.trans htext)
  have hlegible : Json.Legible (.list ts) := Export.legible_of_mapM_toTree hts hfloats
  obtain ⟨source, hsource, htree⟩ := Json.ofText_pretty hlegible
  obtain ⟨sources, rfl, hsources⟩ := Json.source_of_tree? htree
  have hread : Snapshot.documents (.array sources) = .ok documents :=
    mapM_ofSource_of_toTree h hts hsources
  simp only [parse, hsource, hread]
  rfl

end Snapshot

/-- A file with the export of a collection is read as that collection. -/
theorem Collection.ofSnapshot_of_readText {documents : List Document} {text : String}
    (hexportable : ∀ d ∈ documents, d.Exportable) (hids : (documents.map Document.id).Nodup)
    (hfloats : ∀ d ∈ documents, ∀ x ∈ d.data.floats, Json.ReadsBack x)
    (htext : Export.serialize documents = .ok text) {t : FileTree} {file : Path}
    (hread : t.readText file = .ok text) : Collection.ofSnapshot t file = .ok documents := by
  have hparse := Snapshot.parse_of_serialize hexportable hfloats htext
  have hunique : ensureUnique documents = .ok () := by
    rw [ensureUnique_eq_ok_iff]
    rwa [List.map_congr_left fun d hd => (hexportable d hd).normalized]
  simp only [ofSnapshot, hread, hparse, hunique]
  rfl

/-- Writing a collection and reading it as a snapshot gives the same collection: the export never
fails, and every file with its text is read as the documents that were written, in their order. -/
theorem Collection.ofSnapshot_serialize {documents : List Document}
    (hexportable : ∀ d ∈ documents, d.Exportable) (hids : (documents.map Document.id).Nodup)
    (hfloats : ∀ d ∈ documents, ∀ x ∈ d.data.floats, Json.ReadsBack x) :
    ∃ text, Export.serialize documents = .ok text ∧ Snapshot.parse text = .ok documents ∧
      ∀ (t : FileTree) (file : Path), t.readText file = .ok text →
        Collection.ofSnapshot t file = .ok documents := by
  obtain ⟨text, htext⟩ := Export.exists_serialize_iff.2 fun d hd => (hexportable d hd).finite_data
  have hparse := Snapshot.parse_of_serialize hexportable hfloats htext
  refine ⟨text, htext, hparse, fun t file hread => ?_⟩
  exact ofSnapshot_of_readText hexportable hids hfloats htext hread

namespace Snapshot

/-- -1.5 -/
def minusThreeHalves : Binary64 := .ofParts true (3 * Nat.pow 2 51) (-52)

/-- Values of every kind, with empty and nested ones, the least integer, and text to escape. -/
def nestedMetadata : Metadata := ⟨[
  ("title", .text "a \"quoted\"\n\x01title"),
  ("", .integer (-9223372036854775808)),
  ("nested", .list [
    .map [("x", .null), ("y", .float minusThreeHalves), ("z", .list [])],
    .boolean true,
    .map []])]⟩

def twoDocuments : List Document :=
  [⟨"guides/x", nestedMetadata, "# x\r\n"⟩, ⟨"", .empty, ""⟩]

end Snapshot

theorem Collection.ofSnapshot_serialize_nested :
    (∀ d ∈ Snapshot.twoDocuments, d.Exportable) ∧
      (Snapshot.twoDocuments.map Document.id).Nodup ∧
      (∀ d ∈ Snapshot.twoDocuments, ∀ x ∈ d.data.floats, Json.ReadsBack x) ∧
      ∃ text, Export.serialize Snapshot.twoDocuments = .ok text ∧
        Snapshot.parse text = .ok Snapshot.twoDocuments ∧
        ∀ (t : FileTree) (file : Path), t.readText file = .ok text →
          Collection.ofSnapshot t file = .ok Snapshot.twoDocuments := by
  have hexportable : ∀ d ∈ Snapshot.twoDocuments, d.Exportable := by
    intro d hd
    rcases List.mem_cons.1 hd with rfl | hd
    · exact ⟨by decide, by simp [Metadata.UniqueKeys, Snapshot.nestedMetadata,
        MetaValue.UniqueKeysEntries, MetaValue.UniqueKeys, MetaValue.UniqueKeysItems], by decide,
        by decide⟩
    · obtain rfl := List.mem_singleton.1 hd
      exact ⟨by decide, trivial, by decide, by decide⟩
  have hids : (Snapshot.twoDocuments.map Document.id).Nodup := by decide
  have hfloats : ∀ d ∈ Snapshot.twoDocuments, ∀ x ∈ d.data.floats, Json.ReadsBack x := by
    intro d hd x hx
    rcases List.mem_cons.1 hd with rfl | hd
    · obtain rfl : x = Snapshot.minusThreeHalves := List.mem_singleton.1 hx
      exact show Json.read? _ = _ from rfl
    · obtain rfl := List.mem_singleton.1 hd
      exact nomatch hx
  exact ⟨hexportable, hids, hfloats, ofSnapshot_serialize hexportable hids hfloats⟩

end DocCorpus
