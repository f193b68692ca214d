/-
  Documents as a snapshot spells them. A document that is read from a JSON value has the metadata
  and the body that the value gives as an item or as a member, and the identifier that it gives,
  normalized (`Document.exists_writtenIn`). A snapshot is an array of such values
  (`Snapshot.parse_eq_ok_iff`).
-/
import DocCorpus.Proofs.Outcome
import DocCorpus.Snapshot

namespace DocCorpus

open Json (Source)
open Outcome

namespace Document

/-- The document under its normalized identifier. -/
def normalized (d : Document) : Document := .make d.id d.data d.body

/-- The value of a field in a JSON value: of an array the item at a position, of an object the
member with a name. -/
def fieldOf? (position : Nat) (name : String) : Source → Option Source
  | .array items => items[position]?
  | .object members => members.lookup (some name)
  | _ => none

/-- The document that a JSON value holds, its identifier as written there. Metadata and body may be
left out. -/
structure WrittenIn (limit : Nat) (s : Source) (d : Document) : Prop where
  id : (fieldOf? 0 "id" s).map Source.text = some (.ok d.id)
  data : (fieldOf? 1 "data" s).elim (.ok .empty) (Metadata.ofSource limit) = .ok d.data
  body : (fieldOf? 2 "body" s).elim (.ok "") Source.text = .ok d.body

/-- What members leave in a field of a draft: what was there if none of them is the field, else the
value of the one that is, before which the field was empty. -/
def Draft.Filled {β : Type} (read : Source → Except FormatFault β) (old : Option β) :
    Option Source → Option β → Prop
  | none, new => new = old
  | some value, new => old = none ∧ ∃ b, read value = .ok b ∧ new = some b

variable {limit : Nat}

theorem Draft.take_filled {d d' : Draft} {key : String} {value : Source}
    (h : d.take limit key value = .ok d') :
    Filled Source.text d.id (if key = "id" then some value else none) d'.id ∧
      Filled (Metadata.ofSource limit) d.data (if key = "data" then some value else none) d'.data ∧
      Filled Source.text d.body (if key = "body" then some value else none) d'.body := by
  unfold Draft.take at h
  split at h
  · split at h
    · cases h
    · next hempty =>
      obtain ⟨id, hid, rfl⟩ := map_eq_ok_iff.1 h
      exact ⟨⟨hempty, id, hid, rfl⟩, rfl, rfl⟩
  · split at h
    · cases h
    · next hempty =>
      obtain ⟨data, hdata, rfl⟩ := map_eq_ok_iff.1 h
      exact ⟨rfl, ⟨hempty, data, hdata, rfl⟩, rfl⟩
  · split at h
    · cases h
    · next hempty =>
      obtain ⟨body, hbody, rfl⟩ := map_eq_ok_iff.1 h
      exact ⟨rfl, rfl, ⟨hempty, body, hbody, rfl⟩⟩
  · next hid hdata hbody =>
    obtain ⟨-, -, rfl⟩ := map_eq_ok_iff.1 h
    rw [if_neg hid, if_neg hdata, if_neg hbody]
    exact ⟨rfl, rfl, rfl⟩

/-- A field that a member has filled is not filled again. -/
theorem Draft.Filled.cons {β : Type} {read : Source → Except FormatFault β} {name key : String}
    {value : Source} {members : List (Option String × Source)} {old between new : Option β}
    (h : Filled read old (if key = name then some value else none) between)
    (hrest : Filled read between (members.lookup (some name)) new) :
    Filled read old (((some key, value) :: members).lookup (some name)) new := by
  by_cases hkey : key = name
  · subst hkey
    rw [if_pos rfl] at h
    obtain ⟨hempty, b, hread, rfl⟩ := h
    rw [List.lookup_cons_self]
    refine ⟨hempty, b, hread, ?_⟩
    cases hlookup : members.lookup (some key) with
    | none =>
      rw [hlookup] at hrest
      exact hrest
    | some other =>
      rw [hlookup] at hrest
      cases hrest.1
  · rw [if_neg hkey] at h
    have hne : (some name == some key) = false := by simpa using Ne.symm hkey
    rw [List.lookup_cons, hne]
    exact h ▸ hrest

theorem Draft.foldMembers_filled {members : List (Option String × Source)} {d d' : Draft}
    (h : Source.foldMembers (Draft.take limit) d members = .ok d') :
    Filled Source.text d.id (members.lookup (some "id")) d'.id ∧
      Filled (Metadata.ofSource limit) d.data (members.lookup (some "data")) d'.data ∧
      Filled Source.text d.body (members.lookup (some "body")) d'.body := by
  induction members generalizing d with
  | nil =>
    obtain rfl := Except.ok.inj h
    exact ⟨rfl, rfl, rfl⟩
  | cons member members ih =>
    match member with
    | (none, _) => exact nomatch h
    | (some key, value) =>
      obtain ⟨between, htake, h⟩ := bind_eq_ok_iff.1 h
      obtain ⟨hid, hdata, hbody⟩ := take_filled htake
      obtain ⟨hids, hdatas, hbodies⟩ := ih h
      exact ⟨hid.cons hids, hdata.cons hdatas, hbody.cons hbodies⟩

/-- What a field gives in the end is its value, or what holds without one. -/
theorem Draft.Filled.getD {β : Type} {read : Source → Except FormatFault β} {value? : Option Source}
    {new : Option β} (h : Filled read none value? new) (default : β) :
    value?.elim (.ok default) read = .ok (new.getD default) := by
  cases value? with
  | none => exact h ▸ rfl
  | some value =>
    obtain ⟨-, b, hread, rfl⟩ := h
    exact hread

/-- A document that is read is the one written, under its normalized identifier. -/
theorem exists_writtenIn {s : Source} {d : Document} (h : ofSource (limit + 1) s = .ok d) :
    ∃ written, WrittenIn limit s written ∧ d = written.normalized := by
  cases s with
  | array items =>
    have h : ofFields limit items = .ok d := h
    unfold ofFields at h
    split at h
    · cases h
    · obtain ⟨id, hid, h⟩ := bind_eq_ok_iff.1 h
      obtain rfl := Except.ok.inj h
      exact ⟨⟨id, .empty, ""⟩, ⟨congrArg some hid, rfl, rfl⟩, rfl⟩
    · obtain ⟨id, hid, h⟩ := bind_eq_ok_iff.1 h
      obtain ⟨data, hdata, h⟩ := bind_eq_ok_iff.1 h
      obtain rfl := Except.ok.inj h
      exact ⟨⟨id, data, ""⟩, ⟨congrArg some hid, hdata, rfl⟩, rfl⟩
    · obtain ⟨id, hid, h⟩ := bind_eq_ok_iff.1 h
      obtain ⟨data, hdata, h⟩ := bind_eq_ok_iff.1 h
      obtain ⟨body, hbody, h⟩ := bind_eq_ok_iff.1 h
      split at h
      · obtain rfl := Except.ok.inj h
        exact ⟨⟨id, data, body⟩, ⟨congrArg some hid, hdata, hbody⟩, rfl⟩
      · cases h
  | object members =>
    obtain ⟨draft, hdraft, h⟩ := bind_eq_ok_iff.1 h
    obtain ⟨hid, hdata, hbody⟩ := Draft.foldMembers_filled hdraft
    unfold Draft.finish at h
    split at h
    · cases h
    · next id hdraftId =>
      obtain rfl := Except.ok.inj h
      refine ⟨⟨id, draft.data.getD .empty, draft.body.getD ""⟩,
        ⟨?_, hdata.getD .empty, hbody.getD ""⟩, rfl⟩
      show (members.lookup (some "id")).map Source.text = some (.ok id)
      cases hlookup : members.lookup (some "id") with
      | none =>
        rw [hlookup, hdraftId] at hid
        cases hid
      | some value =>
        rw [hlookup, hdraftId] at hid
        obtain ⟨-, b, htext, hb⟩ := hid
        obtain rfl := Option.some.inj hb
        exact congrArg some htext
  | null => cases h
  | boolean b => cases h
  | number n => cases h
  | string content => cases h
  | broken => cases h

end Document

/-- A snapshot that is read is one array, of documents that are read. -/
theorem Snapshot.parse_eq_ok_iff {text : String} {documents : List Document} :
    parse text = .ok documents ↔
      ∃ sources, Source.ofText text = (.array sources, true) ∧
        List.Forall₂ (fun source d => Document.ofSource (snapshotLevels - 1) source = .ok d)
          sources documents := by
  unfold parse
  constructor
  · intro h
    generalize Source.ofText text = result at h ⊢
    obtain ⟨source, ended⟩ := result
    obtain ⟨found, hfound, h⟩ := bind_eq_ok_iff.1 h
    split at h
    · next hended =>
      obtain rfl := Except.ok.inj h
      unfold Snapshot.documents at hfound
      split at hfound
      · next sources => exact ⟨sources, by rw [hended], mapM_eq_ok_iff.1 hfound⟩
      · cases hfound
    · cases h
  · rintro ⟨sources, hsource, hdocuments⟩
    rw [hsource]
    exact bind_eq_ok_iff.2 ⟨documents, mapM_eq_ok_iff.2 hdocuments, rfl⟩

end DocCorpus
