/-
  Metadata read from JSON. A value whose texts and numbers are well formed, and which is nested no
  deeper than the reader goes, is refused for a repeated key and for nothing else: the fault names
  a key that an object in it repeats (`MetaValue.blames_of_readable`), so that reading fails exactly
  if there is one at some depth (`MetaValue.exists_ofSource_eq_error_iff`).
-/
import DocCorpus.Proofs.Outcome
import DocCorpus.Snapshot
import Mathlib.Data.List.Duplicate

namespace DocCorpus

open Json (Source)
open Outcome

/-! ## JSON values -/

namespace Json.Source

/-- A JSON value that is nested at most `levels` deep, of texts and numbers that have a value. -/
inductive Readable : Nat → Source → Prop
  | null (levels : Nat) : Readable levels .null
  | boolean (levels : Nat) (b : Bool) : Readable levels (.boolean b)
  | number (levels : Nat) {n : Numeral} {value : Number} (hvalue : n.value? = some value) :
      Readable levels (.number n)
  | string (levels : Nat) (s : String) : Readable levels (.string (some s))
  | array {levels : Nat} {items : List Source} (hitems : ∀ item ∈ items, Readable levels item) :
      Readable (levels + 1) (.array items)
  | object {levels : Nat} {members : List (Option String × Source)}
      (hkeys : ∀ m ∈ members, m.1 ≠ none) (hvalues : ∀ m ∈ members, Readable levels m.2) :
      Readable (levels + 1) (.object members)

/-- An object in the value, at any depth inside arrays and objects, has two members with the key. -/
inductive RepeatsKey (key : String) : Source → Prop
  | here {members : List (Option String × Source)}
      (hkey : List.Duplicate (some key) (members.map Prod.fst)) : RepeatsKey key (.object members)
  | item {items : List Source} {item : Source} (hitem : item ∈ items)
      (hrepeats : RepeatsKey key item) : RepeatsKey key (.array items)
  | member {members : List (Option String × Source)} {m : Option String × Source}
      (hmember : m ∈ members) (hrepeats : RepeatsKey key m.2) : RepeatsKey key (.object members)

end Json.Source

open Json.Source (Readable RepeatsKey)

namespace MetaValue

variable {levels : Nat}

/-! ## What is read repeats no key -/

theorem exists_of_mem_itemsOfSources {sources : List Source} {items : List MetaValue}
    (h : itemsOfSources levels sources = .ok items) :
    ∀ source ∈ sources, ∃ v, ofSource levels source = .ok v := by
  induction sources generalizing items with
  | nil => exact nofun
  | cons source rest ih =>
    obtain ⟨head, hhead, h⟩ := bind_eq_ok_iff.1 h
    obtain ⟨tail, htail, -⟩ := bind_eq_ok_iff.1 h
    exact List.forall_mem_cons.2 ⟨⟨head, hhead⟩, ih htail⟩

/-- The members of an object that is read are read, and no key among them, or one seen before, is
repeated. -/
theorem exists_of_mem_entriesOfMembers {seen : List String}
    {members : List (Option String × Source)} {entries : List (String × MetaValue)}
    (h : entriesOfMembers levels seen members = .ok entries) :
    (∀ m ∈ members, ∃ v, ofSource levels m.2 = .ok v) ∧ (members.map Prod.fst).Nodup ∧
      ∀ key ∈ seen, some key ∉ members.map Prod.fst := by
  induction members generalizing seen entries with
  | nil => exact ⟨nofun, List.nodup_nil, fun _ _ => List.not_mem_nil⟩
  | cons m rest ih =>
    match m with
    | (none, _) => exact nomatch h
    | (some key, value) =>
      obtain ⟨head, hhead, h⟩ := bind_eq_ok_iff.1 h
      split at h
      · cases h
      · next hnew =>
        obtain ⟨tail, htail, -⟩ := bind_eq_ok_iff.1 h
        obtain ⟨hvalues, hnodup, hfresh⟩ := ih htail
        have hkey : some key ∉ rest.map Prod.fst := hfresh key List.mem_cons_self
        refine ⟨List.forall_mem_cons.2 ⟨⟨head, hhead⟩, hvalues⟩, hnodup.cons hkey, ?_⟩
        intro other hother hmem
        rcases List.mem_cons.1 hmem with heq | hmem
        · obtain rfl := Option.some.inj heq
          exact hnew (List.contains_iff_mem.2 hother)
        · exact hfresh other (List.mem_cons_of_mem key hother) hmem

theorem not_repeatsKey {source : Source} {v : MetaValue} (h : ofSource levels source = .ok v)
    (key : String) : ¬source.RepeatsKey key := by
  intro hrepeats
  induction hrepeats generalizing levels v with
  | @here members hkey =>
    cases levels with
    | zero => cases h
    | succ levels =>
      obtain ⟨entries, hentries, -⟩ := map_eq_ok_iff.1 h
      obtain ⟨-, hnodup, -⟩ := exists_of_mem_entriesOfMembers hentries
      exact hkey.not_nodup hnodup
  | item hitem _ ih =>
    cases levels with
    | zero => cases h
    | succ levels =>
      obtain ⟨items, hitems, -⟩ := map_eq_ok_iff.1 h
      obtain ⟨v, hv⟩ := exists_of_mem_itemsOfSources hitems _ hitem
      exact ih hv
  | member hmember _ ih =>
    cases levels with
    | zero => cases h
    | succ levels =>
      obtain ⟨entries, hentries, -⟩ := map_eq_ok_iff.1 h
      obtain ⟨v, hv⟩ := (exists_of_mem_entriesOfMembers hentries).1 _ hmember
      exact ih hv

/-! ## What is refused repeats a key -/

/-- The fault names a key that the value repeats. -/
def Blames (source : Source) (fault : FormatFault) : Prop :=
  ∃ key, fault = .shape (.repeatedKey key) ∧ source.RepeatsKey key

variable {fault : FormatFault}

theorem blames_of_items {items : List Source} (h : itemsOfSources levels items = .error fault)
    (hitems : ∀ item ∈ items, ∀ fault, ofSource levels item = .error fault → Blames item fault) :
    Blames (.array items) fault := by
  induction items with
  | nil => cases h
  | cons item rest ih =>
    obtain ⟨hitem, hrest⟩ := List.forall_mem_cons.1 hitems
    rcases bind_eq_error_iff.1 h with hhead | ⟨head, -, h⟩
    · obtain ⟨key, rfl, hkey⟩ := hitem fault hhead
      exact ⟨key, rfl, .item List.mem_cons_self hkey⟩
    rcases bind_eq_error_iff.1 h with htail | ⟨tail, -, h⟩
    · obtain ⟨key, rfl, hkey⟩ := ih htail hrest
      cases hkey with
      | item hmem hkey => exact ⟨key, rfl, .item (List.mem_cons_of_mem _ hmem) hkey⟩
    · cases h

/-- The fault names a key that the object repeats, or one of its keys that was seen before. -/
theorem blames_of_members {seen : List String} {members : List (Option String × Source)}
    (h : entriesOfMembers levels seen members = .error fault) (hkeys : ∀ m ∈ members, m.1 ≠ none)
    (hvalues : ∀ m ∈ members, ∀ fault, ofSource levels m.2 = .error fault → Blames m.2 fault) :
    Blames (.object members) fault ∨
      ∃ key ∈ seen, fault = .shape (.repeatedKey key) ∧ some key ∈ members.map Prod.fst := by
  induction members generalizing seen with
  | nil => cases h
  | cons m rest ih =>
    obtain ⟨hkey, hrestKeys⟩ := List.forall_mem_cons.1 hkeys
    obtain ⟨hvalue, hrest⟩ := List.forall_mem_cons.1 hvalues
    match m with
    | (none, _) => exact absurd rfl hkey
    | (some key, value) =>
      rcases bind_eq_error_iff.1 h with hhead | ⟨head, -, h⟩
      · obtain ⟨repeated, rfl, hrepeated⟩ := hvalue fault hhead
        exact .inl ⟨repeated, rfl, .member List.mem_cons_self hrepeated⟩
      split at h
      · next hseen =>
        obtain rfl := Except.error.inj h
        exact .inr ⟨key, List.contains_iff_mem.1 hseen, rfl, List.mem_cons_self⟩
      rcases bind_eq_error_iff.1 h with htail | ⟨tail, -, h⟩
      · rcases ih htail hrestKeys hrest with ⟨repeated, rfl, hrepeated⟩ | ⟨other, hother, rfl, hmem⟩
        · refine .inl ⟨repeated, rfl, ?_⟩
          cases hrepeated with
          | here hdup => exact .here (hdup.duplicate_cons _)
          | member hmem hinner => exact .member (List.mem_cons_of_mem _ hmem) hinner
        · rcases List.mem_cons.1 hother with rfl | hother
          · exact .inl ⟨other, rfl, .here hmem.duplicate_cons_self⟩
          · exact .inr ⟨other, hother, rfl, List.mem_cons_of_mem _ hmem⟩
      · cases h

/-- A readable value is refused for a key that it repeats. -/
theorem blames_of_readable {source : Source} (hreadable : Readable levels source)
    (h : ofSource levels source = .error fault) : Blames source fault := by
  induction hreadable generalizing fault with
  | null | boolean | string => cases h
  | number levels hvalue =>
    rw [ofSource, hvalue] at h
    cases h
  | array _ ih =>
    have hitems := map_eq_error_iff.1 h
    exact blames_of_items hitems fun item hitem _ => ih item hitem
  | object hkeys _ ih =>
    have hmembers := map_eq_error_iff.1 h
    rcases blames_of_members hmembers hkeys fun m hm _ => ih m hm with hblames | ⟨_, hseen, -⟩
    · exact hblames
    · exact nomatch hseen

/-- Reading a readable value fails exactly if an object in it repeats a key. -/
theorem exists_ofSource_eq_error_iff {source : Source} (hreadable : Readable levels source) :
    (∃ fault, ofSource levels source = .error fault) ↔ ∃ key, source.RepeatsKey key := by
  constructor
  · rintro ⟨fault, h⟩
    obtain ⟨key, -, hkey⟩ := blames_of_readable hreadable h
    exact ⟨key, hkey⟩
  · rintro ⟨key, hkey⟩
    cases h : ofSource levels source with
    | error fault => exact ⟨fault, rfl⟩
    | ok v => exact absurd hkey (not_repeatsKey h key)

end MetaValue

namespace Metadata

variable {levels : Nat} {members : List (Option String × Source)}

/-- An object is read as metadata exactly if it is read as a value. -/
theorem ofSource_eq_error_iff {fault : FormatFault} :
    ofSource levels (.object members) = .error fault ↔
      MetaValue.ofSource levels (.object members) = .error fault := by
  cases levels with
  | zero => simp only [ofSource, MetaValue.ofSource, Except.error.injEq]
  | succ levels => rw [ofSource, MetaValue.ofSource, map_eq_error_iff, map_eq_error_iff]

end Metadata
end DocCorpus
