/-
  What a snapshot holds, however it is spelled. A metadata value that is read is nested no deeper
  than the reader goes, repeats no key and has finite floats only (`MetaValue.sound_of_ofSource`);
  a document that is read, as an object or as an array, can therefore be exported again
  (`Snapshot.exportable_of_parse`). So the export of a snapshot is a fixed point of reading and
  exporting (`Collection.serialize_of_ofSnapshot`).
-/
import DocCorpus.Proofs.Json.Numeral
import DocCorpus.Proofs.Snapshot
import DocCorpus.Proofs.Snapshot.Written
import DocCorpus.Proofs.Text.Encoding

namespace DocCorpus

open Json (Source)
open Outcome

/-! ## Values -/

namespace MetaValue

/-- A value that a reader of `limit` levels can give. -/
structure Sound (limit : Nat) (v : MetaValue) : Prop where
  levels : v.levels ≤ limit
  uniqueKeys : v.UniqueKeys
  finite : ∀ x ∈ v.floats, x.isFinite = true

variable {limit : Nat}

/-- A number in range has its place in metadata, as an integer or as a finite float. -/
theorem sound_ofNumber {number : Json.Number} (h : number.InRange) (limit : Nat) :
    (ofNumber number).Sound limit := by
  cases number with
  | integer n =>
    unfold ofNumber
    dsimp only
    split
    · exact ⟨Nat.zero_le limit, trivial, fun x hx => absurd hx List.not_mem_nil⟩
    · refine ⟨Nat.zero_le limit, trivial, fun x hx => ?_⟩
      rw [List.mem_singleton.1 hx]
      exact Json.Numeral.isFinite_ofInt_of_lt h
  | float x =>
    refine ⟨Nat.zero_le limit, trivial, fun y hy => ?_⟩
    rw [List.mem_singleton.1 hy]
    exact h

theorem sound_nil_items (limit : Nat) : (list []).Sound (limit + 1) :=
  ⟨Nat.succ_le_succ (Nat.zero_le limit), trivial, fun _ hx => absurd hx List.not_mem_nil⟩

theorem sound_nil_entries (limit : Nat) : (map []).Sound (limit + 1) :=
  ⟨Nat.succ_le_succ (Nat.zero_le limit), trivial, fun _ hx => absurd hx List.not_mem_nil⟩

theorem Sound.cons_item {item : MetaValue} {items : List MetaValue} (hitem : item.Sound limit)
    (hitems : (list items).Sound (limit + 1)) : (list (item :: items)).Sound (limit + 1) where
  levels := Nat.succ_le_succ (Nat.max_le.2 ⟨hitem.levels, Nat.le_of_succ_le_succ hitems.levels⟩)
  uniqueKeys := ⟨hitem.uniqueKeys, hitems.uniqueKeys⟩
  finite := List.forall_mem_append.2 ⟨hitem.finite, hitems.finite⟩

theorem Sound.cons_entry {key : String} {value : MetaValue} {entries : List (String × MetaValue)}
    (hvalue : value.Sound limit) (hentries : (map entries).Sound (limit + 1))
    (hkey : key ∉ entries.map Prod.fst) : (map ((key, value) :: entries)).Sound (limit + 1) where
  levels := Nat.succ_le_succ (Nat.max_le.2 ⟨hvalue.levels, Nat.le_of_succ_le_succ hentries.levels⟩)
  uniqueKeys := ⟨hkey, hvalue.uniqueKeys, hentries.uniqueKeys⟩
  finite := List.forall_mem_append.2 ⟨hvalue.finite, hentries.finite⟩

mutual

/-- What is read from a JSON value is sound, however the value is written. -/
theorem sound_of_ofSource : ∀ (source : Source) (limit : Nat) (v : MetaValue),
    ofSource limit source = .ok v → v.Sound limit
  | .null, limit, v, h | .boolean _, limit, v, h | .string (some _), limit, v, h => by
    obtain rfl := Except.ok.inj h
    exact ⟨Nat.zero_le limit, trivial, fun x hx => absurd hx List.not_mem_nil⟩
  | .number n, limit, v, h => by
    rw [ofSource] at h
    split at h
    · next number hnumber =>
      obtain rfl := Except.ok.inj h
      exact sound_ofNumber (Json.Numeral.inRange_of_value? hnumber) limit
    · cases h
  | .array items, 0, v, h => nomatch h
  | .array items, limit + 1, v, h => by
    obtain ⟨values, hvalues, rfl⟩ := map_eq_ok_iff.1 h
    exact sound_of_itemsOfSources items limit values hvalues
  | .object members, 0, v, h => nomatch h
  | .object members, limit + 1, v, h => by
    obtain ⟨entries, hentries, rfl⟩ := map_eq_ok_iff.1 h
    exact (sound_of_entriesOfMembers members limit [] entries hentries).1
  | .string none, _, _, h | .broken, _, _, h => nomatch h

theorem sound_of_itemsOfSources : ∀ (sources : List Source) (limit : Nat)
    (items : List MetaValue), itemsOfSources limit sources = .ok items →
      (list items).Sound (limit + 1)
  | [], limit, items, h => by
    obtain rfl := Except.ok.inj h
    exact sound_nil_items limit
  | source :: rest, limit, items, h => by
    obtain ⟨head, hhead, h⟩ := bind_eq_ok_iff.1 h
    obtain ⟨tail, htail, h⟩ := bind_eq_ok_iff.1 h
    obtain rfl := Except.ok.inj h
    exact (sound_of_ofSource source limit head hhead).cons_item
      (sound_of_itemsOfSources rest limit tail htail)

/-- The keys of the entries are none of those seen before, so that none is repeated. -/
theorem sound_of_entriesOfMembers : ∀ (members : List (Option String × Source)) (limit : Nat)
    (seen : List String) (entries : List (String × MetaValue)),
    entriesOfMembers limit seen members = .ok entries →
      (map entries).Sound (limit + 1) ∧ ∀ key ∈ entries.map Prod.fst, key ∉ seen
  | [], limit, seen, entries, h => by
    obtain rfl := Except.ok.inj h
    exact ⟨sound_nil_entries limit, fun key hkey => absurd hkey List.not_mem_nil⟩
  | (none, _) :: _, _, _, _, h => nomatch h
  | (some key, value) :: rest, limit, seen, entries, h => by
    obtain ⟨head, hhead, h⟩ := bind_eq_ok_iff.1 h
    split at h
    · cases h
    · next hnew =>
      obtain ⟨tail, htail, h⟩ := bind_eq_ok_iff.1 h
      obtain rfl := Except.ok.inj h
      obtain ⟨hsound, hkeys⟩ := sound_of_entriesOfMembers rest limit (key :: seen) tail htail
      have hkey : key ∉ tail.map Prod.fst := fun hmem => hkeys key hmem List.mem_cons_self
      refine ⟨(sound_of_ofSource value limit head hhead).cons_entry hsound hkey, ?_⟩
      refine List.forall_mem_cons.2 ⟨?_, fun other hother => ?_⟩
      · rwa [List.contains_iff_mem] at hnew
      · exact fun hseen => hkeys other hother (List.mem_cons_of_mem key hseen)

end

end MetaValue

namespace Metadata

/-- Metadata that a reader of `limit` levels can give. -/
def Sound (limit : Nat) (m : Metadata) : Prop := (MetaValue.map m.entries).Sound limit

theorem sound_empty (limit : Nat) : empty.Sound (limit + 1) := MetaValue.sound_nil_entries limit

theorem sound_of_ofSource {limit : Nat} {source : Source} {m : Metadata}
    (h : ofSource limit source = .ok m) : m.Sound limit := by
  unfold ofSource at h
  split at h
  · cases h
  · next members limit =>
    obtain ⟨entries, hentries, rfl⟩ := map_eq_ok_iff.1 h
    exact (MetaValue.sound_of_entriesOfMembers members limit [] entries hentries).1
  · cases h

end Metadata

/-! ## Documents -/

namespace Json.Source

/-- What every step keeps holds of the record that is made of all members. -/
theorem foldMembers_induction {σ : Type} {step : σ → String → Source → Except FormatFault σ}
    {P : σ → Prop} (hstep : ∀ record key value record', P record →
      step record key value = .ok record' → P record')
    {members : List (Option String × Source)} {record result : σ} (hrecord : P record)
    (h : foldMembers step record members = .ok result) : P result := by
  induction members generalizing record with
  | nil =>
    obtain rfl := Except.ok.inj h
    exact hrecord
  | cons member rest ih =>
    match member with
    | (none, _) => exact nomatch h
    | (some key, value) =>
      obtain ⟨next, hnext, h⟩ := bind_eq_ok_iff.1 h
      exact ih (hstep record key value next hrecord hnext) h

end Json.Source

namespace Document

variable {limit : Nat}

/-- The metadata of a draft is sound, if there is any yet. -/
def Draft.Sound (limit : Nat) (d : Draft) : Prop := ∀ data, d.data = some data → data.Sound limit

theorem Draft.sound_take {d d' : Draft} {key : String} {value : Source} (hd : d.Sound limit)
    (h : d.take limit key value = .ok d') : d'.Sound limit := by
  unfold Draft.take at h
  split at h
  · split at h
    · cases h
    · obtain ⟨id, -, rfl⟩ := map_eq_ok_iff.1 h
      exact hd
  · split at h
    · cases h
    · obtain ⟨data, hdata, rfl⟩ := map_eq_ok_iff.1 h
      rintro _ ⟨⟩
      exact Metadata.sound_of_ofSource hdata
  · split at h
    · cases h
    · obtain ⟨body, -, rfl⟩ := map_eq_ok_iff.1 h
      exact hd
  · obtain ⟨-, -, rfl⟩ := map_eq_ok_iff.1 h
    exact hd

/-- A document that a reader of `limit` levels can give. -/
structure Sound (limit : Nat) (d : Document) : Prop where
  normalized : Identifier.normalize d.id = d.id
  data : d.data.Sound limit

theorem sound_make {id body : String} {data : Metadata} (h : data.Sound limit) :
    (make id data body).Sound limit :=
  ⟨Identifier.normalize_normalize id, h⟩

theorem Draft.Sound.finish {draft : Draft} {d : Document} (hdraft : draft.Sound (limit + 1))
    (h : draft.finish = .ok d) : d.Sound (limit + 1) := by
  unfold Draft.finish at h
  split at h
  · cases h
  · obtain rfl := Except.ok.inj h
    refine sound_make ?_
    cases hdata : draft.data with
    | none => exact Metadata.sound_empty limit
    | some data => exact hdraft data hdata

theorem sound_of_ofFields {fields : List Source} {d : Document}
    (h : ofFields (limit + 1) fields = .ok d) : d.Sound (limit + 1) := by
  unfold ofFields at h
  split at h
  · cases h
  · obtain ⟨id, -, h⟩ := bind_eq_ok_iff.1 h
    obtain rfl := Except.ok.inj h
    exact sound_make (Metadata.sound_empty limit)
  · obtain ⟨id, -, h⟩ := bind_eq_ok_iff.1 h
    obtain ⟨data, hdata, h⟩ := bind_eq_ok_iff.1 h
    obtain rfl := Except.ok.inj h
    exact sound_make (Metadata.sound_of_ofSource hdata)
  · obtain ⟨id, -, h⟩ := bind_eq_ok_iff.1 h
    obtain ⟨data, hdata, h⟩ := bind_eq_ok_iff.1 h
    obtain ⟨body, -, h⟩ := bind_eq_ok_iff.1 h
    split at h
    · obtain rfl := Except.ok.inj h
      exact sound_make (Metadata.sound_of_ofSource hdata)
    · cases h

/-- The document itself takes one level of those that its reader may go. -/
theorem sound_of_ofSource {source : Source} {d : Document}
    (h : ofSource (limit + 2) source = .ok d) : d.Sound (limit + 1) := by
  cases source with
  | array items => exact sound_of_ofFields h
  | object members =>
    obtain ⟨draft, hdraft, h⟩ := bind_eq_ok_iff.1 h
    have hstart : Draft.Sound (limit + 1) ⟨none, none, none⟩ := fun _ hdata => nomatch hdata
    have htaken : draft.Sound (limit + 1) :=
      Source.foldMembers_induction (fun _ _ _ _ => Draft.sound_take) hstart hdraft
    exact htaken.finish h
  | null => cases h
  | boolean b => cases h
  | number n => cases h
  | string content => cases h
  | broken => cases h

theorem Sound.exportable {d : Document} (h : d.Sound (snapshotLevels - 2)) : d.Exportable where
  normalized := h.normalized
  uniqueKeys := h.data.uniqueKeys
  finite := h.data.finite
  levels := Nat.lt_succ_of_le (Nat.add_le_add_right h.data.levels 2)

end Document

/-! ## Collections -/

namespace Snapshot

/-- The documents of every snapshot that is read can be exported. -/
theorem exportable_of_parse {text : String} {documents : List Document}
    (h : parse text = .ok documents) : ∀ d ∈ documents, d.Exportable := by
  obtain ⟨sources, -, hdocuments⟩ := parse_eq_ok_iff.1 h
  clear h
  induction hdocuments with
  | nil => exact fun d hd => absurd hd List.not_mem_nil
  | cons hd _ ih =>
    have hsound := Document.sound_of_ofSource hd
    exact List.forall_mem_cons.2 ⟨hsound.exportable, ih⟩

end Snapshot

namespace Collection

/-- A collection that is read from a file is that of its text. -/
theorem ofSnapshot_eq_ok_iff {t : FileTree} {file : Path} {documents : List Document} :
    ofSnapshot t file = .ok documents ↔
      ∃ text, t.readText file = .ok text ∧ Snapshot.parse text = .ok documents ∧
        ensureUnique documents = .ok () := by
  unfold ofSnapshot
  constructor
  · intro h
    split at h
    · cases h
    · next text htext =>
      split at h
      · cases h
      · next hparse =>
        obtain ⟨_, hunique, h⟩ := bind_eq_ok_iff.1 h
        obtain rfl := Except.ok.inj h
        exact ⟨text, htext, hparse, hunique⟩
  · rintro ⟨text, htext, hparse, hunique⟩
    simp only [htext, hparse]
    rw [hunique]
    rfl

/-- A collection that is read from a snapshot has documents that can be exported, none of which
shares its identifier with another. -/
theorem exportable_of_ofSnapshot {t : FileTree} {file : Path} {documents : List Document}
    (h : ofSnapshot t file = .ok documents) :
    (∀ d ∈ documents, d.Exportable) ∧ (documents.map Document.id).Nodup := by
  obtain ⟨text, -, hparse, hunique⟩ := ofSnapshot_eq_ok_iff.1 h
  have hexportable := Snapshot.exportable_of_parse hparse
  rw [ensureUnique_eq_ok_iff,
    List.map_congr_left fun d hd => (hexportable d hd).normalized] at hunique
  exact ⟨hexportable, hunique⟩

/-- Exporting a snapshot is idempotent. The documents that were read from any text can always be
exported; and if the floats among them are printed so that they read back, every file with that
export is read as the same documents, which are exported to the same text again. -/
theorem serialize_of_ofSnapshot {t : FileTree} {file : Path} {documents : List Document}
    (h : ofSnapshot t file = .ok documents) :
    ∃ text, Export.serialize documents = .ok text ∧
      ((∀ d ∈ documents, ∀ x ∈ d.data.floats, x.isFinite = true → Json.ReadsBack x) →
        ∀ (t' : FileTree) (file' : Path), t'.readText file' = .ok text →
          ofSnapshot t' file' = .ok documents ∧
            (ofSnapshot t' file' >>= Export.serialize) = .ok text) := by
  obtain ⟨hexportable, hids⟩ := exportable_of_ofSnapshot h
  obtain ⟨text, htext⟩ := Export.exists_serialize_iff.2 fun d hd => (hexportable d hd).finite_data
  refine ⟨text, htext, fun hprinted t' file' hread => ?_⟩
  have hfloats : ∀ d ∈ documents, ∀ x ∈ d.data.floats, Json.ReadsBack x :=
    fun d hd x hx => hprinted d hd x hx ((hexportable d hd).finite x hx)
  have hagain := ofSnapshot_of_readText hexportable hids hfloats htext hread
  rw [hagain]
  exact ⟨rfl, htext⟩

/-- A tree that holds one snapshot. -/
def snapshotTree (text : String) : FileTree := ⟨[], [(["docs.json"], .file text.toUTF8)]⟩

theorem readText_snapshotTree (text : String) :
    (snapshotTree text).readText ⟨"docs.json"⟩ = .ok text :=
  Text.textOf_toUTF8 text

/-- Two documents as no export writes them: an array with slashes around the identifier, integers
beyond 63 and 64 bits and a negative zero, and an object with an unknown member and no metadata. -/
def looseText : String :=
  "[[\"/guides/x/\",\x7b\"big\":18446744073709551616,\"word\":9223372036854775808," ++
    "\"zero\":-0\x7d],\x7b\"extra\":[true],\"body\":\"b\",\"id\":\"a\"\x7d]"

def looseDocuments : List Document :=
  [⟨"guides/x", ⟨[
      ("big", .float (.ofParts false (Nat.pow 2 52) 12)),
      ("word", .float (.ofParts false (Nat.pow 2 52) 11)),
      ("zero", .float (.zero true))]⟩, ""⟩,
    ⟨"a", .empty, "b"⟩]

set_option maxRecDepth 4000 in
theorem parse_looseText : Snapshot.parse looseText = .ok looseDocuments := by
  have hlexemes : Json.Lexeme.all looseText.toList =
      [.mark '[', .mark '[', .string (some "/guides/x/"), .mark ',', .mark '{',
        .string (some "big"), .mark ':',
        .number ⟨false, "18446744073709551616".toList, none, none⟩, .mark ',',
        .string (some "word"), .mark ':',
        .number ⟨false, "9223372036854775808".toList, none, none⟩, .mark ',',
        .string (some "zero"), .mark ':', .number ⟨true, ['0'], none, none⟩, .mark '}', .mark ']',
        .mark ',', .mark '{',
        .string (some "extra"), .mark ':', .mark '[', .boolean true, .mark ']', .mark ',',
        .string (some "body"), .mark ':', .string (some "b"), .mark ',',
        .string (some "id"), .mark ':', .string (some "a"), .mark '}', .mark ']'] := by
    rfl
  unfold Snapshot.parse Source.ofText
  rw [hlexemes]
  rfl

theorem serialize_of_ofSnapshot_loose :
    ofSnapshot (snapshotTree looseText) ⟨"docs.json"⟩ = .ok looseDocuments ∧
      (∀ d ∈ looseDocuments, ∀ x ∈ d.data.floats, x.isFinite = true → Json.ReadsBack x) ∧
      ∃ text, Export.serialize looseDocuments = .ok text ∧
        ∀ (t' : FileTree) (file' : Path), t'.readText file' = .ok text →
          ofSnapshot t' file' = .ok looseDocuments ∧
            (ofSnapshot t' file' >>= Export.serialize) = .ok text := by
  have hload : ofSnapshot (snapshotTree looseText) ⟨"docs.json"⟩ = .ok looseDocuments := by
    unfold ofSnapshot
    rw [readText_snapshotTree]
    dsimp only
    rw [parse_looseText]
    rfl
  have hfloats : ∀ d ∈ looseDocuments, ∀ x ∈ d.data.floats,
      x.isFinite = true → Json.ReadsBack x := by
    decide +kernel
  obtain ⟨text, htext, hagain⟩ := serialize_of_ofSnapshot hload
  exact ⟨hload, hfloats, text, htext, hagain hfloats⟩

end Collection
end DocCorpus
