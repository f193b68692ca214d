/-
  Metadata made by inserts. An insert succeeds exactly if its key is new, so a sequence of inserts
  leaves the first value of each key, in the order of the first inserts (`keys_ofInserts`,
  `get?_ofInserts`). Whatever is made of inserts and of reading has distinct keys at every depth
  (`Metadata.keys_distinct`).
-/
import DocCorpus.Proofs.Metadata.Path
import DocCorpus.Proofs.Metadata.Reading
import DocCorpus.Proofs.Snapshot.Canonical
import Mathlib.Data.List.Induction

namespace DocCorpus

/-! ## Sequences of inserts -/

namespace Metadata

variable {m m' : Metadata} {key : String} {value : MetaValue} {calls : List (String × MetaValue)}

/-- The mapping after several inserts, of which those that fail change nothing. -/
def insertEach (m : Metadata) : List (String × MetaValue) → Metadata
  | [] => m
  | (key, value) :: rest =>
    match m.insert key value with
    | .ok m => m.insertEach rest
    | .error _ => m.insertEach rest

/-- The mapping that a sequence of inserts leaves. -/
def ofInserts (calls : List (String × MetaValue)) : Metadata := empty.insertEach calls

theorem contains_iff : m.contains key = true ↔ key ∈ m.keys := by
  unfold contains get? keys
  rw [List.lookup_isSome_iff, List.mem_map]
  simp only [beq_iff_eq, eq_comm (a := key)]

/-- An insert succeeds exactly if its key is new. -/
theorem insert_eq_ok_iff :
    m.insert key value = .ok m' ↔ key ∉ m.keys ∧ m' = ⟨m.entries ++ [(key, value)]⟩ := by
  unfold insert
  rw [← contains_iff]
  split
  · next h => simp [h]
  · next h => simp [h, eq_comm]

theorem insertEach_append (m : Metadata) (calls later : List (String × MetaValue)) :
    m.insertEach (calls ++ later) = (m.insertEach calls).insertEach later := by
  induction calls generalizing m with
  | nil => rfl
  | cons c rest ih =>
    rw [List.cons_append, insertEach, insertEach]
    cases m.insert c.1 c.2 <;> exact ih _

/-- One more insert adds its entry at the end, or changes nothing. -/
theorem ofInserts_concat (calls : List (String × MetaValue)) (key : String) (value : MetaValue) :
    ofInserts (calls ++ [(key, value)]) =
      if key ∈ (ofInserts calls).keys then ofInserts calls
      else ⟨(ofInserts calls).entries ++ [(key, value)]⟩ := by
  unfold ofInserts
  rw [insertEach_append, insertEach]
  by_cases h : key ∈ (empty.insertEach calls).keys
  · rw [if_pos h, insert_eq_error value (contains_iff.2 h)]
    rfl
  · rw [if_neg h, insert_eq_ok_iff.2 ⟨h, rfl⟩]
    rfl

/-- The keys stand in the order in which they were inserted first. -/
theorem keys_ofInserts (calls : List (String × MetaValue)) :
    (ofInserts calls).keys = (calls.map Prod.fst).eraseDups := by
  induction calls using List.reverseRecOn with
  | nil => rfl
  | append_singleton calls c ih =>
    rw [ofInserts_concat, List.map_append, List.eraseDups_append, ← ih, List.map_singleton]
    have hkey : c.1 ∈ (ofInserts calls).keys ↔ c.1 ∈ calls.map Prod.fst := by
      rw [ih, List.mem_eraseDups]
    split
    · next h => simp [List.removeAll, hkey.1 h]
    · next h => simp [keys, List.removeAll, mt hkey.2 h, List.eraseDups_cons]

/-- Each key has the value that was inserted first. -/
theorem get?_ofInserts (calls : List (String × MetaValue)) (key : String) :
    (ofInserts calls).get? key = calls.lookup key := by
  induction calls using List.reverseRecOn with
  | nil => rfl
  | append_singleton calls c ih =>
    rw [ofInserts_concat, List.lookup_append, ← ih]
    split
    · next h =>
      by_cases hkey : key = c.1
      · subst hkey
        have hsome : ((ofInserts calls).get? c.1).isSome = true := contains_iff.2 h
        rw [Option.or_of_isSome hsome]
      · have hnone : [c].lookup key = none := List.lookup_eq_none_iff.2 (by simp [hkey])
        rw [hnone, Option.or_none]
    · next h => rw [get?, List.lookup_append]; rfl

end Metadata

/-! ## Values that can be made -/

mutual

/-- A value that is made of scalars, lists and mappings, or is read from JSON. -/
inductive MetaValue.Made : MetaValue → Prop
  | null : MetaValue.Made .null
  | boolean (b : Bool) : MetaValue.Made (.boolean b)
  | integer (n : Int64) : MetaValue.Made (.integer n)
  | float (x : Binary64) : MetaValue.Made (.float x)
  | text (s : String) : MetaValue.Made (.text s)
  | list {items : List MetaValue} (hitems : ∀ item ∈ items, item.Made) :
      MetaValue.Made (.list items)
  | map {m : Metadata} (hm : m.Made) : MetaValue.Made (.map m.entries)
  | read {levels : Nat} {source : Json.Source} {v : MetaValue}
      (hread : MetaValue.ofSource levels source = .ok v) : MetaValue.Made v

/-- A mapping that is empty, is made by inserting a value into a mapping, or is read from JSON. -/
inductive Metadata.Made : Metadata → Prop
  | empty : Metadata.Made .empty
  | insert {m m' : Metadata} {key : String} {value : MetaValue} (hm : m.Made) (hvalue : value.Made)
      (hinsert : m.insert key value = .ok m') : Metadata.Made m'
  | read {levels : Nat} {source : Json.Source} {m : Metadata}
      (hread : Metadata.ofSource levels source = .ok m) : Metadata.Made m

end

/-- An insert adds an entry with a new key, and whatever keys its value has. -/
theorem Metadata.uniqueKeys_of_insert {m m' : Metadata} {key : String} {value : MetaValue}
    (hm : m.UniqueKeys) (hvalue : value.UniqueKeys) (hinsert : m.insert key value = .ok m') :
    m'.UniqueKeys := by
  obtain ⟨hkey, rfl⟩ := insert_eq_ok_iff.1 hinsert
  obtain ⟨hnodup, hvalues⟩ := MetaValue.uniqueKeysEntries_iff.1 hm
  refine MetaValue.uniqueKeysEntries_iff.2 ⟨?_, ?_⟩
  · rw [List.map_append, List.map_singleton, ← List.concat_eq_append]
    exact hnodup.concat hkey
  · rw [List.forall_mem_append]
    exact ⟨hvalues, List.forall_mem_singleton.2 hvalue⟩

mutual

theorem MetaValue.Made.uniqueKeys : ∀ {v : MetaValue}, v.Made → v.UniqueKeys
  | _, .null | _, .boolean _ | _, .integer _ | _, .float _ | _, .text _ => trivial
  | _, .list hitems =>
    MetaValue.uniqueKeysItems_iff.2 fun item hitem => (hitems item hitem).uniqueKeys
  | _, .map hm => hm.uniqueKeys
  | v, .read hread => (MetaValue.sound_of_ofSource _ _ v hread).uniqueKeys

theorem Metadata.Made.uniqueKeys : ∀ {m : Metadata}, m.Made → m.UniqueKeys
  | _, .empty => trivial
  | _, .insert hm hvalue hinsert =>
    Metadata.uniqueKeys_of_insert hm.uniqueKeys hvalue.uniqueKeys hinsert
  | _, .read hread => (Metadata.sound_of_ofSource hread).uniqueKeys

end

namespace Metadata

theorem Made.insertEach {m : Metadata} (hm : m.Made) {calls : List (String × MetaValue)}
    (hvalues : ∀ c ∈ calls, c.2.Made) : (m.insertEach calls).Made := by
  induction calls generalizing m with
  | nil => exact hm
  | cons c rest ih =>
    obtain ⟨hvalue, hrest⟩ := List.forall_mem_cons.1 hvalues
    rw [Metadata.insertEach]
    cases hinsert : m.insert c.1 c.2 with
    | error failure => exact ih hm hrest
    | ok m' => exact ih (.insert hm hvalue hinsert) hrest

open Json.Source (Readable RepeatsKey)

/-- What inserts and reading make has distinct keys at every depth. A sequence of inserts leaves the
first value of each key, in the order of the first inserts; an insert of a key that was inserted
before fails and changes nothing. A JSON value that is readable, as a value or as a mapping, is
refused exactly if an object in it repeats a key. -/
theorem keys_distinct :
    (∀ m : Metadata, m.Made → ∀ path entries, m.Leads path (.map entries) →
      (entries.map Prod.fst).Nodup) ∧
    (∀ calls : List (String × MetaValue), (∀ c ∈ calls, c.2.Made) → (ofInserts calls).Made) ∧
    (∀ calls : List (String × MetaValue),
      (ofInserts calls).keys = (calls.map Prod.fst).eraseDups ∧
      ∀ key, (ofInserts calls).get? key = calls.lookup key) ∧
    (∀ (calls : List (String × MetaValue)) (key : String) (value : MetaValue),
      (key ∈ calls.map Prod.fst →
        (ofInserts calls).insert key value = .error (.validation (.repeatedMetadataKey key)) ∧
        ofInserts (calls ++ [(key, value)]) = ofInserts calls) ∧
      (key ∉ calls.map Prod.fst →
        (ofInserts calls).insert key value = .ok (ofInserts (calls ++ [(key, value)])))) ∧
    ∀ (levels : Nat) (source : Json.Source), Readable levels source →
      ((∃ fault, MetaValue.ofSource levels source = .error fault) ↔
        ∃ key, source.RepeatsKey key) ∧
      ∀ members, source = .object members →
        ((∃ fault, ofSource levels source = .error fault) ↔ ∃ key, source.RepeatsKey key) := by
  refine ⟨?_, ?_, ?_, ?_, ?_⟩
  · intro m hm
    exact MetaValue.uniqueKeys_iff.1 hm.uniqueKeys
  · intro calls hvalues
    exact Made.empty.insertEach hvalues
  · intro calls
    exact ⟨keys_ofInserts calls, get?_ofInserts calls⟩
  · intro calls key value
    have hkey : key ∈ (ofInserts calls).keys ↔ key ∈ calls.map Prod.fst := by
      rw [keys_ofInserts, List.mem_eraseDups]
    rw [ofInserts_concat, ← hkey]
    constructor
    · intro h
      exact ⟨insert_eq_error value (contains_iff.2 h), if_pos h⟩
    · intro h
      exact insert_eq_ok_iff.2 ⟨h, if_neg h⟩
  · intro levels source hreadable
    refine ⟨MetaValue.exists_ofSource_eq_error_iff hreadable, ?_⟩
    rintro members rfl
    simp only [ofSource_eq_error_iff]
    exact MetaValue.exists_ofSource_eq_error_iff hreadable

/-- Inserts of a nested value, and of one key twice. -/
def repeatedInserts : List (String × MetaValue) :=
  [("title", .text "first"), ("tags", .list [.map [("x", .null), ("y", .float .nan)]]),
    ("title", .text "second")]

/-- An object in an array repeats a key. -/
def repeatedSource : Json.Source :=
  .object [(some "x", .null),
    (some "y", .array [.boolean true, .object [(some "x", .null), (some "x", .string (some "z"))]])]

theorem keys_distinct_nested :
    (∀ c ∈ repeatedInserts, c.2.Made) ∧
      (∀ path entries, (ofInserts repeatedInserts).Leads path (.map entries) →
        (entries.map Prod.fst).Nodup) ∧
      "title" ∈ repeatedInserts.map Prod.fst ∧
      ofInserts (repeatedInserts ++ [("title", .null)]) = ofInserts repeatedInserts ∧
      Readable 3 repeatedSource ∧ repeatedSource.RepeatsKey "x" ∧
      ∃ fault, ofSource 3 repeatedSource = .error fault := by
  obtain ⟨hdistinct, hmade, -, hstep, hread⟩ := keys_distinct
  have hxy : (ofInserts [("x", .null), ("y", .float .nan)]).Made := by
    apply hmade
    simp [MetaValue.Made.null, MetaValue.Made.float]
  have hvalues : ∀ c ∈ repeatedInserts, c.2.Made :=
    List.forall_mem_cons.2 ⟨.text _, List.forall_mem_cons.2
      ⟨.list (List.forall_mem_singleton.2 (.map hxy)), List.forall_mem_singleton.2 (.text _)⟩⟩
  have htitle : "title" ∈ repeatedInserts.map Prod.fst := List.mem_cons_self
  have hinner : Readable 1 (.object [(some "x", .null), (some "x", .string (some "z"))]) :=
    .object (by decide)
      (List.forall_mem_cons.2 ⟨.null 0, List.forall_mem_singleton.2 (.string 0 _)⟩)
  have hreadable : Readable 3 repeatedSource :=
    .object (by decide) (List.forall_mem_cons.2 ⟨.null 2, List.forall_mem_singleton.2
      (.array (List.forall_mem_cons.2 ⟨.boolean 1 true, List.forall_mem_singleton.2 hinner⟩))⟩)
  have hrepeats : repeatedSource.RepeatsKey "x" :=
    .member (List.mem_of_getElem? (i := 1) rfl) (.item (List.mem_of_getElem? (i := 1) rfl)
      (.here List.mem_cons_self.duplicate_cons_self))
  exact ⟨hvalues, hdistinct _ (hmade _ hvalues), htitle, ((hstep _ _ _).1 htitle).2, hreadable,
    hrepeats, ((hread 3 _ hreadable).2 _ rfl).2 ⟨"x", hrepeats⟩⟩

end Metadata
end DocCorpus
