/-
  Metadata values at every depth: how deep they are nested, whether a map repeats a key, and which
  floats they hold. A value has a first number that is not finite unless all its floats are finite
  (`firstNonFinite?_eq_none_iff`), and then it has a tree (`exists_toTree`).
-/
import DocCorpus.Export

namespace DocCorpus

namespace MetaValue

mutual

/-- How deep lists and maps are nested in a value. -/
def levels : MetaValue → Nat
  | .list items => itemLevels items + 1
  | .map entries => entryLevels entries + 1
  | .null | .boolean _ | .integer _ | .float _ | .text _ => 0

def itemLevels : List MetaValue → Nat
  | [] => 0
  | item :: rest => max item.levels (itemLevels rest)

def entryLevels : List (String × MetaValue) → Nat
  | [] => 0
  | (_, value) :: rest => max value.levels (entryLevels rest)

end

mutual

/-- No map in the value repeats a key. -/
def UniqueKeys : MetaValue → Prop
  | .list items => UniqueKeysItems items
  | .map entries => UniqueKeysEntries entries
  | .null | .boolean _ | .integer _ | .float _ | .text _ => True

def UniqueKeysItems : List MetaValue → Prop
  | [] => True
  | item :: rest => item.UniqueKeys ∧ UniqueKeysItems rest

def UniqueKeysEntries : List (String × MetaValue) → Prop
  | [] => True
  | (key, value) :: rest =>
    key ∉ rest.map Prod.fst ∧ value.UniqueKeys ∧ UniqueKeysEntries rest

end

mutual

/-- The floats in a value, in depth-first order. -/
def floats : MetaValue → List Binary64
  | .float x => [x]
  | .list items => itemFloats items
  | .map entries => entryFloats entries
  | .null | .boolean _ | .integer _ | .text _ => []

def itemFloats : List MetaValue → List Binary64
  | [] => []
  | item :: rest => item.floats ++ itemFloats rest

def entryFloats : List (String × MetaValue) → List Binary64
  | [] => []
  | (_, value) :: rest => value.floats ++ entryFloats rest

end

/-! ## Finite values -/

mutual

theorem firstNonFinite?_eq_none_iff : ∀ v : MetaValue,
    v.firstNonFinite? = none ↔ ∀ x ∈ v.floats, x.isFinite = true
  | .null | .boolean _ | .integer _ | .text _ => by simp [firstNonFinite?, floats]
  | .float x => by simp [firstNonFinite?, floats]
  | .list items => by
    simpa [firstNonFinite?, floats] using firstInItems?_eq_none_iff 0 items
  | .map entries => by
    simpa [firstNonFinite?, floats] using firstInEntries?_eq_none_iff entries

theorem firstInItems?_eq_none_iff (index : Nat) : ∀ items : List MetaValue,
    firstInItems? index items = none ↔ ∀ x ∈ itemFloats items, x.isFinite = true
  | [] => by simp [firstInItems?, itemFloats]
  | item :: rest => by
    have hitem := firstNonFinite?_eq_none_iff item
    have hrest := firstInItems?_eq_none_iff (index + 1) rest
    simp only [firstInItems?, itemFloats, List.mem_append, or_imp, forall_and, ← hitem, ← hrest]
    split <;> simp_all

theorem firstInEntries?_eq_none_iff : ∀ entries : List (String × MetaValue),
    firstInEntries? entries = none ↔ ∀ x ∈ entryFloats entries, x.isFinite = true
  | [] => by simp [firstInEntries?, entryFloats]
  | (key, value) :: rest => by
    have hvalue := firstNonFinite?_eq_none_iff value
    have hrest := firstInEntries?_eq_none_iff rest
    simp only [firstInEntries?, entryFloats, List.mem_append, or_imp, forall_and, ← hvalue,
      ← hrest]
    split <;> simp_all

end

mutual

theorem exists_toTree : ∀ v : MetaValue, (∀ x ∈ v.floats, x.isFinite = true) →
    ∃ t, v.toTree = .ok t
  | .null, _ | .boolean _, _ | .integer _, _ | .text _, _ => ⟨_, rfl⟩
  | .float x, h => ⟨.float x, by simp [toTree, h x (by simp [floats])]⟩
  | .list items, h => by
    obtain ⟨ts, hts⟩ := exists_itemsToTree items h
    exact ⟨.list ts, by simp [toTree, hts, Except.map]⟩
  | .map entries, h => by
    obtain ⟨ts, hts⟩ := exists_entriesToTree entries h
    exact ⟨.table ts, by simp [toTree, hts, Except.map]⟩

theorem exists_itemsToTree : ∀ items : List MetaValue,
    (∀ x ∈ itemFloats items, x.isFinite = true) → ∃ ts, itemsToTree items = .ok ts
  | [], _ => ⟨[], rfl⟩
  | item :: rest, h => by
    simp only [itemFloats, List.mem_append, or_imp, forall_and] at h
    obtain ⟨t, ht⟩ := exists_toTree item h.1
    obtain ⟨ts, hts⟩ := exists_itemsToTree rest h.2
    exact ⟨t :: ts, by rw [itemsToTree, ht, hts]; rfl⟩

theorem exists_entriesToTree : ∀ entries : List (String × MetaValue),
    (∀ x ∈ entryFloats entries, x.isFinite = true) → ∃ ts, entriesToTree entries = .ok ts
  | [], _ => ⟨[], rfl⟩
  | (key, value) :: rest, h => by
    simp only [entryFloats, List.mem_append, or_imp, forall_and] at h
    obtain ⟨t, ht⟩ := exists_toTree value h.1
    obtain ⟨ts, hts⟩ := exists_entriesToTree rest h.2
    exact ⟨(key, t) :: ts, by rw [entriesToTree, ht, hts]; rfl⟩

end

end MetaValue

namespace Metadata

/-- How deep a mapping is nested, itself included. -/
def levels (m : Metadata) : Nat := MetaValue.entryLevels m.entries + 1

/-- No key is repeated, at any depth. -/
def UniqueKeys (m : Metadata) : Prop := MetaValue.UniqueKeysEntries m.entries

def floats (m : Metadata) : List Binary64 := MetaValue.entryFloats m.entries

theorem unrepresentable?_eq_none_iff (m : Metadata) :
    m.unrepresentable? = none ↔ ∀ x ∈ m.floats, x.isFinite = true := by
  rw [unrepresentable?, Option.map_eq_none_iff]
  exact MetaValue.firstInEntries?_eq_none_iff m.entries

theorem exists_toTree {m : Metadata} (h : ∀ x ∈ m.floats, x.isFinite = true) :
    ∃ members, MetaValue.entriesToTree m.entries = .ok members ∧ m.toTree = .ok (.table members) := by
  obtain ⟨ts, hts⟩ := MetaValue.exists_entriesToTree m.entries h
  exact ⟨ts, hts, by simp [toTree, hts, Except.map]⟩

end Metadata
end DocCorpus
