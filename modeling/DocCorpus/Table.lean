/-
  Tables: mappings from texts, kept in ascending order of their keys. Inserting a key that is
  present replaces its value (`get?_insert`).
-/

namespace DocCorpus

/-- A mapping whose keys ascend. -/
structure Table (α : Type) where
  entries : List (String × α)
  ascending : entries.Pairwise fun a b => a.1 < b.1

namespace Table

variable {α : Type}

def empty : Table α := ⟨[], .nil⟩

def keys (t : Table α) : List String := t.entries.map Prod.fst

def get? (t : Table α) (key : String) : Option α := t.entries.lookup key

def isEmpty (t : Table α) : Bool := t.entries.isEmpty

/-- Entries with one more, in place of the one with its key if there is one. -/
def insertInto (key : String) (value : α) : List (String × α) → List (String × α)
  | [] => [(key, value)]
  | (k, v) :: rest =>
    if key < k then (key, value) :: (k, v) :: rest
    else if key = k then (key, value) :: rest
    else (k, v) :: insertInto key value rest

theorem mem_insertInto {key : String} {value : α} {l : List (String × α)} {e : String × α}
    (h : e ∈ insertInto key value l) : e = (key, value) ∨ e ∈ l := by
  induction l with
  | nil => simpa [insertInto] using h
  | cons e' l ih =>
    obtain ⟨k, v⟩ := e'
    simp only [insertInto] at h
    split at h
    · simpa using h
    · split at h
      · rcases List.mem_cons.1 h with h | h
        · exact .inl h
        · exact .inr (List.mem_cons_of_mem _ h)
      · rcases List.mem_cons.1 h with h | h
        · exact .inr (h ▸ List.mem_cons_self)
        · rcases ih h with h | h
          · exact .inl h
          · exact .inr (List.mem_cons_of_mem _ h)

theorem insertInto_ascending {key : String} {value : α} {l : List (String × α)}
    (h : l.Pairwise fun a b => a.1 < b.1) :
    (insertInto key value l).Pairwise fun a b => a.1 < b.1 := by
  induction l with
  | nil => simp [insertInto]
  | cons e l ih =>
    obtain ⟨k, v⟩ := e
    rw [List.pairwise_cons] at h
    simp only [insertInto]
    split
    · rename_i hlt
      refine List.pairwise_cons.2 ⟨fun e he => ?_, List.pairwise_cons.2 h⟩
      rcases List.mem_cons.1 he with rfl | he
      · exact hlt
      · exact String.lt_trans hlt (h.1 e he)
    · split
      · rename_i heq
        exact List.pairwise_cons.2 ⟨fun e he => heq ▸ h.1 e he, h.2⟩
      · rename_i hge hne
        refine List.pairwise_cons.2 ⟨fun e he => ?_, ih h.2⟩
        rcases mem_insertInto he with rfl | he
        · exact String.not_le.1 fun hle => hne (String.le_antisymm hle hge)
        · exact h.1 e he

def insert (t : Table α) (key : String) (value : α) : Table α :=
  ⟨insertInto key value t.entries, insertInto_ascending t.ascending⟩

theorem lookup_insertInto {key other : String} {value : α} {l : List (String × α)} :
    (insertInto key value l).lookup other = if other = key then some value else l.lookup other := by
  induction l with
  | nil =>
    simp only [insertInto, List.lookup_cons, List.lookup_nil]
    grind
  | cons e l ih =>
    obtain ⟨k, v⟩ := e
    simp only [insertInto]
    split
    · simp only [List.lookup_cons]
      grind
    · split
      · simp only [List.lookup_cons]
        grind
      · simp only [List.lookup_cons, ih]
        grind

theorem get?_insert (t : Table α) (key other : String) (value : α) :
    (t.insert key value).get? other = if other = key then some value else t.get? other :=
  lookup_insertInto

/-- The table of a list of entries; of two with one key the later counts. -/
def ofList (entries : List (String × α)) : Table α :=
  entries.foldl (fun t (key, value) => t.insert key value) empty

end Table
end DocCorpus
