/-
  Paths into metadata. A path leads from a value to a value inside it by keys and positions; where
  no map repeats a key, it leads to one value only (`Leads.unique`). The floats of a value stand in
  depth-first order with the paths that lead to them (`mem_spots_iff`), and the first of these that
  is not finite is the one that is looked for (`firstNonFinite?_eq_find?`). The text of a path can
  be taken apart again if its keys are not empty and have neither dots nor opening brackets
  (`marks_inj`).
-/
import DocCorpus.Proofs.Metadata
import Mathlib.Data.List.Nodup

namespace DocCorpus

namespace MetaValue

/-! ## Values inside a value -/

/-- Following a path from a value ends at a value inside it. -/
inductive Leads : MetaValue → List MetaStep → MetaValue → Prop
  | here (v : MetaValue) : Leads v [] v
  | position {items : List MetaValue} {index : Nat} {item w : MetaValue} {path : List MetaStep}
      (hitem : items[index]? = some item) (hpath : Leads item path w) :
      Leads (.list items) (.position index :: path) w
  | key {entries : List (String × MetaValue)} {name : String} {value w : MetaValue}
      {path : List MetaStep} (hvalue : (name, value) ∈ entries) (hpath : Leads value path w) :
      Leads (.map entries) (.key name :: path) w

mutual

/-- The keys of all maps in a value. -/
def allKeys : MetaValue → List String
  | .list items => itemKeys items
  | .map entries => entryKeys entries
  | .null | .boolean _ | .integer _ | .float _ | .text _ => []

def itemKeys : List MetaValue → List String
  | [] => []
  | item :: rest => item.allKeys ++ itemKeys rest

def entryKeys : List (String × MetaValue) → List String
  | [] => []
  | (name, value) :: rest => name :: value.allKeys ++ entryKeys rest

end

theorem mem_itemKeys_iff {items : List MetaValue} {name : String} :
    name ∈ itemKeys items ↔ ∃ item ∈ items, name ∈ item.allKeys := by
  induction items with
  | nil => simp [itemKeys]
  | cons item rest ih => simp [itemKeys, ih]

theorem mem_entryKeys_iff {entries : List (String × MetaValue)} {name : String} :
    name ∈ entryKeys entries ↔ ∃ e ∈ entries, name = e.1 ∨ name ∈ e.2.allKeys := by
  induction entries with
  | nil => simp [entryKeys]
  | cons e rest ih =>
    rw [List.exists_mem_cons_iff, ← ih, entryKeys, List.cons_append, List.mem_cons,
      List.mem_append, or_assoc]

theorem uniqueKeysItems_iff {items : List MetaValue} :
    UniqueKeysItems items ↔ ∀ item ∈ items, item.UniqueKeys := by
  induction items with
  | nil => exact ⟨fun _ => nofun, fun _ => trivial⟩
  | cons item rest ih =>
    rw [List.forall_mem_cons, ← ih]
    rfl

theorem uniqueKeysEntries_iff {entries : List (String × MetaValue)} :
    UniqueKeysEntries entries ↔
      (entries.map Prod.fst).Nodup ∧ ∀ e ∈ entries, e.2.UniqueKeys := by
  induction entries with
  | nil => exact ⟨fun _ => ⟨List.nodup_nil, nofun⟩, fun _ => trivial⟩
  | cons e rest ih =>
    have hcons : UniqueKeysEntries (e :: rest) ↔
        e.1 ∉ rest.map Prod.fst ∧ e.2.UniqueKeys ∧ UniqueKeysEntries rest := Iff.rfl
    rw [hcons, ih, List.map_cons, List.nodup_cons, List.forall_mem_cons, and_assoc,
      and_left_comm (a := e.2.UniqueKeys)]

namespace Leads

variable {v w w' : MetaValue} {path : List MetaStep}

theorem uniqueKeys (h : v.Leads path w) (hkeys : v.UniqueKeys) : w.UniqueKeys := by
  induction h with
  | here => exact hkeys
  | position hitem _ ih =>
    apply ih
    exact uniqueKeysItems_iff.1 hkeys _ (List.mem_of_getElem? hitem)
  | key hvalue _ ih =>
    apply ih
    exact (uniqueKeysEntries_iff.1 hkeys).2 _ hvalue

/-- Where no key repeats, a path leads to one value. -/
theorem unique (h : v.Leads path w) (hkeys : v.UniqueKeys) (h' : v.Leads path w') : w = w' := by
  induction h with
  | here =>
    cases h'
    rfl
  | position hitem _ ih =>
    cases h' with
    | position hitem' hpath' =>
      obtain rfl := Option.some.inj (hitem.symm.trans hitem')
      exact ih (uniqueKeysItems_iff.1 hkeys _ (List.mem_of_getElem? hitem)) hpath'
  | key hvalue _ ih =>
    cases h' with
    | key hvalue' hpath' =>
      obtain ⟨hnodup, hvalues⟩ := uniqueKeysEntries_iff.1 hkeys
      have hsame := List.inj_on_of_nodup_map hnodup hvalue hvalue' rfl
      obtain rfl := (Prod.mk.inj hsame).2
      exact ih (hvalues _ hvalue) hpath'

theorem mem_allKeys (h : v.Leads path w) {name : String} (hname : .key name ∈ path) :
    name ∈ v.allKeys := by
  induction h with
  | here => exact nomatch hname
  | position hitem _ ih =>
    have hrest := List.mem_of_ne_of_mem MetaStep.noConfusion hname
    exact mem_itemKeys_iff.2 ⟨_, List.mem_of_getElem? hitem, ih hrest⟩
  | key hvalue _ ih =>
    rcases List.mem_cons.1 hname with heq | hrest
    · exact mem_entryKeys_iff.2 ⟨_, hvalue, .inl (MetaStep.key.inj heq)⟩
    · exact mem_entryKeys_iff.2 ⟨_, hvalue, .inr (ih hrest)⟩

end Leads

mutual

theorem uniqueKeys_of_leads : ∀ v : MetaValue,
    (∀ path entries, v.Leads path (.map entries) → (entries.map Prod.fst).Nodup) → v.UniqueKeys
  | .null, _ | .boolean _, _ | .integer _, _ | .float _, _ | .text _, _ => trivial
  | .list items, h => uniqueKeysItems_of_leads items fun item hmem path entries hpath => by
    obtain ⟨index, hitem⟩ := List.getElem?_of_mem hmem
    exact h _ entries (.position hitem hpath)
  | .map entries, h => by
    have hvalues := uniqueKeysValues_of_leads entries fun (key, value) hmem path inner hpath =>
      h (.key key :: path) inner (.key hmem hpath)
    exact uniqueKeysEntries_iff.2 ⟨h [] entries (.here _), hvalues⟩

theorem uniqueKeysItems_of_leads : ∀ items : List MetaValue,
    (∀ item ∈ items, ∀ path entries, item.Leads path (.map entries) →
      (entries.map Prod.fst).Nodup) → UniqueKeysItems items
  | [], _ => trivial
  | item :: rest, h =>
    ⟨uniqueKeys_of_leads item (h item List.mem_cons_self),
      uniqueKeysItems_of_leads rest fun item hitem => h item (List.mem_cons_of_mem _ hitem)⟩

theorem uniqueKeysValues_of_leads : ∀ entries : List (String × MetaValue),
    (∀ e ∈ entries, ∀ path inner, e.2.Leads path (.map inner) →
      (inner.map Prod.fst).Nodup) → ∀ e ∈ entries, e.2.UniqueKeys
  | [], _ => fun _ he => nomatch he
  | (key, value) :: rest, h => List.forall_mem_cons.2
    ⟨uniqueKeys_of_leads value (h (key, value) List.mem_cons_self),
      uniqueKeysValues_of_leads rest fun e he => h e (List.mem_cons_of_mem _ he)⟩

end

/-- No key is repeated exactly if no map inside the value repeats one. -/
theorem uniqueKeys_iff {v : MetaValue} :
    v.UniqueKeys ↔
      ∀ path entries, v.Leads path (.map entries) → (entries.map Prod.fst).Nodup := by
  constructor
  · intro hkeys path entries hpath
    exact (uniqueKeysEntries_iff.1 (hpath.uniqueKeys hkeys)).1
  · exact uniqueKeys_of_leads v

/-! ## Floats and their paths -/

mutual

/-- The floats in a value with the paths that lead to them, in depth-first order. -/
def spots : MetaValue → List (List MetaStep × Binary64)
  | .float x => [([], x)]
  | .list items => itemSpots 0 items
  | .map entries => entrySpots entries
  | .null | .boolean _ | .integer _ | .text _ => []

def itemSpots (index : Nat) : List MetaValue → List (List MetaStep × Binary64)
  | [] => []
  | item :: rest =>
    item.spots.map (fun s => (.position index :: s.1, s.2)) ++ itemSpots (index + 1) rest

def entrySpots : List (String × MetaValue) → List (List MetaStep × Binary64)
  | [] => []
  | (name, value) :: rest =>
    value.spots.map (fun s => (.key name :: s.1, s.2)) ++ entrySpots rest

end

mutual

theorem mem_spots_iff {x : Binary64} : ∀ {v : MetaValue} {path : List MetaStep},
    (path, x) ∈ v.spots ↔ v.Leads path (.float x)
  | .null, path | .boolean _, path | .integer _, path | .text _, path => by
    constructor
    · exact nofun
    · exact nofun
  | .float y, path => by
    simp only [spots, List.mem_singleton, Prod.mk.injEq]
    constructor
    · rintro ⟨rfl, rfl⟩
      exact .here _
    · intro h
      cases h
      exact ⟨rfl, rfl⟩
  | .list items, path => by
    rw [spots, mem_itemSpots_iff]
    constructor
    · rintro ⟨index, item, inner, hitem, rfl, hinner⟩
      rw [Nat.zero_add]
      exact .position hitem hinner
    · intro h
      cases h with
      | position hitem hinner => exact ⟨_, _, _, hitem, by rw [Nat.zero_add], hinner⟩
  | .map entries, path => by
    rw [spots, mem_entrySpots_iff]
    constructor
    · rintro ⟨name, value, inner, hvalue, rfl, hinner⟩
      exact .key hvalue hinner
    · intro h
      cases h with
      | key hvalue hinner => exact ⟨_, _, _, hvalue, rfl, hinner⟩

theorem mem_itemSpots_iff {x : Binary64} : ∀ {items : List MetaValue} {start : Nat}
    {path : List MetaStep}, (path, x) ∈ itemSpots start items ↔
      ∃ index item inner, items[index]? = some item ∧ path = .position (start + index) :: inner ∧
        item.Leads inner (.float x)
  | [], start, path => by simp [itemSpots]
  | item :: rest, start, path => by
    simp only [itemSpots, List.mem_append, List.mem_map, Prod.mk.injEq, Prod.exists]
    rw [mem_itemSpots_iff]
    constructor
    · rintro (⟨inner, y, hmem, rfl, rfl⟩ | ⟨index, item', inner, hitem, rfl, hinner⟩)
      · exact ⟨0, item, inner, rfl, rfl, mem_spots_iff.1 hmem⟩
      · exact ⟨index + 1, item', inner, hitem, by rw [Nat.add_right_comm, Nat.add_assoc], hinner⟩
    · rintro ⟨index, item', inner, hitem, rfl, hinner⟩
      cases index with
      | zero =>
        obtain rfl := Option.some.inj hitem
        exact .inl ⟨inner, x, mem_spots_iff.2 hinner, rfl, rfl⟩
      | succ index =>
        exact .inr ⟨index, item', inner, hitem, by rw [Nat.add_right_comm, Nat.add_assoc], hinner⟩

theorem mem_entrySpots_iff {x : Binary64} : ∀ {entries : List (String × MetaValue)}
    {path : List MetaStep}, (path, x) ∈ entrySpots entries ↔
      ∃ name value inner, (name, value) ∈ entries ∧ path = .key name :: inner ∧
        value.Leads inner (.float x)
  | [], path => by simp [entrySpots]
  | (name, value) :: rest, path => by
    simp only [entrySpots, List.mem_append, List.mem_map, Prod.mk.injEq, Prod.exists]
    rw [mem_entrySpots_iff]
    constructor
    · rintro (⟨inner, y, hmem, rfl, rfl⟩ | ⟨name', value', inner, hvalue, rfl, hinner⟩)
      · exact ⟨name, value, inner, List.mem_cons_self, rfl, mem_spots_iff.1 hmem⟩
      · exact ⟨name', value', inner, List.mem_cons_of_mem _ hvalue, rfl, hinner⟩
    · rintro ⟨name', value', inner, hvalue, rfl, hinner⟩
      rcases List.mem_cons.1 hvalue with heq | hrest
      · obtain ⟨rfl, rfl⟩ := Prod.mk.inj heq
        exact .inl ⟨inner, x, mem_spots_iff.2 hinner, rfl, rfl⟩
      · exact .inr ⟨name', value', inner, hrest, rfl, hinner⟩

end

mutual

/-- The first number that is not finite is the first of these among all floats. -/
theorem firstNonFinite?_eq_find? : ∀ v : MetaValue,
    v.firstNonFinite? = v.spots.find? fun s => !s.2.isFinite
  | .null | .boolean _ | .integer _ | .text _ => rfl
  | .float x => by
    rw [firstNonFinite?, spots, List.find?_singleton]
    cases x.isFinite <;> rfl
  | .list items => by
    rw [firstNonFinite?, spots, firstInItems?_eq_find?]
  | .map entries => by
    rw [firstNonFinite?, spots, firstInEntries?_eq_find?]

theorem firstInItems?_eq_find? : ∀ (items : List MetaValue) (index : Nat),
    firstInItems? index items = (itemSpots index items).find? fun s => !s.2.isFinite
  | [], _ => rfl
  | item :: rest, index => by
    rw [firstInItems?, itemSpots, List.find?_append, List.find?_map, firstNonFinite?_eq_find? item,
      firstInItems?_eq_find? rest]
    change _ = ((item.spots.find? fun s => !s.2.isFinite).map _).or _
    cases item.spots.find? fun s => !s.2.isFinite <;> rfl

theorem firstInEntries?_eq_find? : ∀ entries : List (String × MetaValue),
    firstInEntries? entries = (entrySpots entries).find? fun s => !s.2.isFinite
  | [] => rfl
  | (name, value) :: rest => by
    rw [firstInEntries?, entrySpots, List.find?_append, List.find?_map,
      firstNonFinite?_eq_find? value, firstInEntries?_eq_find? rest]
    change _ = ((value.spots.find? fun s => !s.2.isFinite).map _).or _
    cases value.spots.find? fun s => !s.2.isFinite <;> rfl

end

end MetaValue

/-! ## Texts of paths -/

/-- A key that can be told from what stands around it in the text of a path. -/
structure PlainKey (name : String) : Prop where
  notEmpty : name ≠ ""
  noDot : '.' ∉ name.toList
  noBracket : '[' ∉ name.toList

instance (name : String) : Decidable (PlainKey name) :=
  decidable_of_iff (name ≠ "" ∧ '.' ∉ name.toList ∧ '[' ∉ name.toList)
    ⟨fun ⟨hne, hdot, hbracket⟩ => ⟨hne, hdot, hbracket⟩,
      fun ⟨hne, hdot, hbracket⟩ => ⟨hne, hdot, hbracket⟩⟩

theorem PlainKey.not_joined {name : String} (h : PlainKey name) (s : String) :
    ¬(name ++ s = "" ∨ (name ++ s).toList.head? = some '[') := by
  obtain ⟨hne, -, hbracket⟩ := h
  obtain ⟨c, rest, hname⟩ := List.exists_cons_of_ne_nil (mt String.toList_eq_nil_iff.1 hne)
  have hc : c ≠ '[' := by
    rintro rfl
    exact hbracket (hname ▸ List.mem_cons_self)
  simp [hne, hname, hc]

namespace MetaStep

/-- A step as it stands in a text, a key with the dot before it. -/
def mark : MetaStep → String
  | .key name => "." ++ name
  | .position index => "[" ++ index.repr ++ "]"

def marks (path : List MetaStep) : String := String.join (path.map mark)

def PlainPath (path : List MetaStep) : Prop := ∀ name, .key name ∈ path → PlainKey name

variable {step step' : MetaStep} {path path' : List MetaStep}

theorem marks_cons (step : MetaStep) (path : List MetaStep) :
    marks (step :: path) = step.mark ++ marks path := by
  unfold marks
  rw [List.map_cons, String.join_cons]

theorem PlainPath.tail (h : PlainPath (step :: path)) : PlainPath path :=
  fun name hname => h name (List.mem_cons_of_mem _ hname)

/-- The marks of a path are its text, after a dot if the text starts with a key. -/
theorem marks_eq (h : PlainPath path) :
    marks path =
      if pathText path = "" ∨ (pathText path).toList.head? = some '[' then pathText path
      else "." ++ pathText path := by
  induction path with
  | nil => rfl
  | cons step path ih =>
    have htext : pathText (step :: path) =
        (match step with
          | .key name => name
          | .position index => "[" ++ index.repr ++ "]") ++ marks path := by
      rw [ih h.tail]
      cases step <;> rfl
    rw [htext, marks_cons]
    cases step with
    | key name =>
      rw [if_neg ((h name List.mem_cons_self).not_joined _), mark, String.append_assoc]
    | position index =>
      rw [if_pos, mark]
      right
      rw [String.toList_append, String.toList_append, String.toList_append]
      rfl

/-! ### Marks told apart -/

/-- What a mark starts with. -/
def isOpening (c : Char) : Bool := c = '.' || c = '['

/-- A mark goes on to the next opening. -/
theorem exists_mark (h : PlainPath (step :: path)) :
    ∃ c body, step.mark.toList = c :: body ∧ isOpening c = true ∧
      ∀ d ∈ body, (!isOpening d) = true := by
  cases step with
  | key name =>
    obtain ⟨-, hdot, hbracket⟩ := h name List.mem_cons_self
    refine ⟨'.', name.toList, String.toList_append, rfl, fun d hd => ?_⟩
    have hne : d ≠ '.' := ne_of_mem_of_not_mem hd hdot
    have hne' : d ≠ '[' := ne_of_mem_of_not_mem hd hbracket
    simp [isOpening, hne, hne']
  | position index =>
    refine ⟨'[', index.repr.toList ++ [']'], ?_, rfl, fun d hd => ?_⟩
    · rw [mark, String.toList_append, String.toList_append, List.append_assoc]
      rfl
    · rcases List.mem_append.1 hd with hdigit | hclosing
      · rw [Nat.repr_eq_ofList_toDigits, String.toList_ofList] at hdigit
        have hd' := Nat.isDigit_of_mem_toDigits (by decide) (by decide) hdigit
        have hne : d ≠ '.' := by
          rintro rfl
          exact absurd hd' (by decide)
        have hne' : d ≠ '[' := by
          rintro rfl
          exact absurd hd' (by decide)
        simp [isOpening, hne, hne']
      · obtain rfl := List.mem_singleton.1 hclosing
        rfl

theorem takeWhile_marks (h : PlainPath path) :
    (marks path).toList.takeWhile (!isOpening ·) = [] := by
  cases path with
  | nil => rfl
  | cons step path =>
    obtain ⟨c, body, hmark, hc, -⟩ := exists_mark h
    rw [marks_cons, String.toList_append, hmark, List.cons_append, List.takeWhile_cons_of_neg]
    simp [hc]

theorem mark_inj (h : step.mark = step'.mark) : step = step' := by
  cases step with
  | key name =>
    cases step' with
    | key name' => rw [(String.append_right_inj ".").1 h]
    | position index' =>
      have hhead := congrArg (fun s => s.toList.head?) h
      simp [mark] at hhead
  | position index =>
    cases step' with
    | key name' =>
      have hhead := congrArg (fun s => s.toList.head?) h
      simp [mark] at hhead
    | position index' =>
      have hrepr := (String.append_right_inj "[").1 ((String.append_left_inj "]").1 h)
      rw [Nat.repr_eq_ofList_toDigits, Nat.repr_eq_ofList_toDigits, String.ofList_inj] at hrepr
      have hindex := congrArg (Nat.ofDigitChars 10 · 0) hrepr
      simp only [Nat.ofDigitChars_ten_toDigits] at hindex
      rw [hindex]

theorem marks_inj (h : PlainPath path) (h' : PlainPath path') (heq : marks path = marks path') :
    path = path' := by
  induction path generalizing path' with
  | nil =>
    cases path' with
    | nil => rfl
    | cons step' path' =>
      obtain ⟨c, body, hmark, -⟩ := exists_mark h'
      have hlist := congrArg String.toList heq
      rw [marks_cons, String.toList_append, hmark] at hlist
      exact nomatch hlist
  | cons step path ih =>
    obtain ⟨c, body, hmark, -, hbody⟩ := exists_mark h
    have hlist := congrArg String.toList heq
    rw [marks_cons, String.toList_append, hmark, List.cons_append] at hlist
    cases path' with
    | nil => exact nomatch hlist
    | cons step' path' =>
      obtain ⟨c', body', hmark', -, hbody'⟩ := exists_mark h'
      rw [marks_cons, String.toList_append, hmark', List.cons_append] at hlist
      obtain ⟨rfl, hrest⟩ := List.cons.inj hlist
      -- both marks end where the next opening stands
      have hsame := congrArg (List.takeWhile (!isOpening ·)) hrest
      rw [List.takeWhile_append_of_pos hbody, List.takeWhile_append_of_pos hbody',
        takeWhile_marks h.tail, takeWhile_marks h'.tail, List.append_nil, List.append_nil] at hsame
      subst hsame
      have hstep : step = step' := mark_inj (String.toList_inj.1 (hmark.trans hmark'.symm))
      have hpath : path = path' :=
        ih h.tail h'.tail (String.toList_inj.1 (List.append_cancel_left hrest))
      rw [hstep, hpath]

/-- The text of a path that starts with a key is its marks without the dot at their start. -/
theorem dot_pathText {name : String} (h : PlainPath (.key name :: path)) :
    "." ++ pathText (.key name :: path) = marks (.key name :: path) := by
  rw [marks_eq h, if_neg]
  exact (h name List.mem_cons_self).not_joined _

end MetaStep

/-- Following a path from the mapping ends at a value inside it. -/
def Metadata.Leads (m : Metadata) (path : List MetaStep) (w : MetaValue) : Prop :=
  (MetaValue.map m.entries).Leads path w

end DocCorpus
