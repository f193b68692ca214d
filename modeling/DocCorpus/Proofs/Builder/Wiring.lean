/-
  The builder after any sequence of calls. A call that fails changes nothing; every other one adds a
  node, a child to a group or a root. So the nodes are those that the calls made, in their order,
  and a group holds what was attached to it, in the order of the calls (`madeBy_ofCalls`); no number
  leads out of the arena (`wired_ofCalls`).
-/
import DocCorpus.Navigation
import DocCorpus.Proofs.Outcome

namespace DocCorpus

/-- A call that changes a builder. -/
inductive NavCall
  | link (label target : String)
  | group (label : String)
  | attach (parent child : Nat)
  | root (node : Nat)

namespace NavCall

/-- The node that a call makes, as it is made. -/
def slot? : NavCall → Option NavSlot
  | .link label target => some (.link label target)
  | .group label => some (.group label [])
  | .attach _ _ | .root _ => none

/-- The node that a call puts into the group `outer`. -/
def childOf? (outer : Nat) : NavCall → Option Nat
  | .attach parent child => if parent = outer then some child else none
  | .link _ _ | .group _ | .root _ => none

/-- The node that a call puts at the top level. -/
def root? : NavCall → Option Nat
  | .root node => some node
  | .link _ _ | .group _ | .attach _ _ => none

end NavCall

/-- The node with the children `nodes`, if it is a group. -/
def NavSlot.fill (nodes : List Nat) : NavSlot → NavSlot
  | .link label target => .link label target
  | .group label _ => .group label nodes

theorem NavSlot.fill_eq_group_iff {nodes children : List Nat} {slot : NavSlot} {label : String} :
    slot.fill nodes = .group label children ↔
      (∃ old, slot = .group label old) ∧ nodes = children := by
  cases slot <;> simp [fill]

namespace NavBuilder

variable {b b' : NavBuilder} {done : List NavCall} {c : NavCall}

/-! ## Calls -/

/-- The builder after a call, if the call succeeds. -/
def call (b : NavBuilder) : NavCall → Except Failure NavBuilder
  | .link label target => .ok (b.link label target).2
  | .group label => .ok (b.group label).2
  | .attach parent child => b.attach parent child
  | .root node => b.root node

/-- The builder after several calls, of which those that fail change nothing. -/
def callEach (b : NavBuilder) : List NavCall → NavBuilder
  | [] => b
  | c :: rest =>
    match b.call c with
    | .ok b => b.callEach rest
    | .error _ => b.callEach rest

/-- Those of several calls that succeed. -/
def succeeding (b : NavBuilder) : List NavCall → List NavCall
  | [] => []
  | c :: rest =>
    match b.call c with
    | .ok b => c :: b.succeeding rest
    | .error _ => b.succeeding rest

/-- The builder that a sequence of calls leaves. -/
def ofCalls (calls : List NavCall) : NavBuilder := empty.callEach calls

theorem check_eq_ok_iff {node : Nat} : b.check node = .ok () ↔ node < b.slots.length := by
  unfold check
  split
  · next h => exact ⟨fun _ => h, fun _ => rfl⟩
  · next h => exact ⟨fun hok => (by cases hok), fun hlt => absurd hlt h⟩

/-- A node is attached exactly if it is one and its parent is a group, at whose end it then stands. -/
theorem attach_eq_ok_iff {parent child : Nat} :
    b.attach parent child = .ok b' ↔ child < b.slots.length ∧
      ∃ label children, b.slots[parent]? = some (.group label children) ∧
        b' = { b with slots := b.slots.set parent (.group label (children ++ [child])) } := by
  unfold attach
  rw [Outcome.bind_eq_ok_iff]
  constructor
  · rintro ⟨_, hchild, h⟩
    refine ⟨check_eq_ok_iff.1 hchild, ?_⟩
    split at h
    · next label children hslot =>
      injection h with h
      exact ⟨label, children, hslot, h.symm⟩
    · cases h
    · cases h
  · rintro ⟨hchild, label, children, hslot, rfl⟩
    refine ⟨(), check_eq_ok_iff.2 hchild, ?_⟩
    rw [hslot]

theorem root_eq_ok_iff {node : Nat} :
    b.root node = .ok b' ↔ node < b.slots.length ∧ b' = { b with roots := b.roots ++ [node] } := by
  unfold root
  rw [Outcome.bind_eq_ok_iff]
  constructor
  · rintro ⟨_, hnode, h⟩
    injection h with h
    exact ⟨check_eq_ok_iff.1 hnode, h.symm⟩
  · rintro ⟨hnode, rfl⟩
    exact ⟨(), check_eq_ok_iff.2 hnode, rfl⟩

/-- What a call that succeeds does: it makes a node, or puts one that exists into a group or at the
top level. -/
theorem call_cases (h : b.call c = .ok b') :
    (∃ slot, c.slot? = some slot ∧ slot.fill [] = slot ∧ c.root? = none ∧
      (∀ n, c.childOf? n = none) ∧ b' = { b with slots := b.slots ++ [slot] }) ∨
    (∃ parent child label children, c = .attach parent child ∧ child < b.slots.length ∧
      b.slots[parent]? = some (.group label children) ∧
      b' = { b with slots := b.slots.set parent (.group label (children ++ [child])) }) ∨
    ∃ node, c = .root node ∧ node < b.slots.length ∧ b' = { b with roots := b.roots ++ [node] } := by
  cases c with
  | link label target =>
    injection h with h
    exact .inl ⟨.link label target, rfl, rfl, rfl, fun _ => rfl, h.symm⟩
  | group label =>
    injection h with h
    exact .inl ⟨.group label [], rfl, rfl, rfl, fun _ => rfl, h.symm⟩
  | attach parent child =>
    obtain ⟨hchild, label, children, hslot, hb⟩ := attach_eq_ok_iff.1 h
    exact .inr (.inl ⟨parent, child, label, children, rfl, hchild, hslot, hb⟩)
  | root node =>
    obtain ⟨hnode, hb⟩ := root_eq_ok_iff.1 h
    exact .inr (.inr ⟨node, rfl, hnode, hb⟩)

/-! ## The arena of a sequence of calls -/

/-- A builder whose nodes, children and roots are those of the calls `done`, in their order. -/
structure MadeBy (done : List NavCall) (b : NavBuilder) : Prop where
  slots : ∀ n, b.slots[n]? =
    ((done.filterMap NavCall.slot?)[n]?).map (NavSlot.fill (done.filterMap (NavCall.childOf? n)))
  roots : b.roots = done.filterMap NavCall.root?
  unattached : ∀ n, b.slots.length ≤ n → done.filterMap (NavCall.childOf? n) = []

theorem MadeBy.empty : MadeBy [] empty where
  slots := fun _ => rfl
  roots := rfl
  unattached := fun _ _ => rfl

theorem MadeBy.length (h : MadeBy done b) :
    b.slots.length = (done.filterMap NavCall.slot?).length := by
  have key : ∀ n, b.slots.length ≤ n ↔ (done.filterMap NavCall.slot?).length ≤ n := by
    intro n
    rw [← List.getElem?_eq_none_iff, h.slots, Option.map_eq_none_iff, List.getElem?_eq_none_iff]
  exact Nat.le_antisymm ((key _).2 (Nat.le_refl _)) ((key _).1 (Nat.le_refl _))

theorem MadeBy.add (h : MadeBy done b) {slot : NavSlot} (hslot : c.slot? = some slot)
    (hfill : slot.fill [] = slot) (hroot : c.root? = none) (hchild : ∀ n, c.childOf? n = none) :
    MadeBy (done ++ [c]) { b with slots := b.slots ++ [slot] } := by
  have hsame : ∀ n, (done ++ [c]).filterMap (NavCall.childOf? n) =
      done.filterMap (NavCall.childOf? n) := by
    intro n
    simp [hchild]
  refine ⟨fun n => ?_, by simp [h.roots, hroot], fun n hn => ?_⟩
  · rw [hsame, List.filterMap_append, List.filterMap_cons_some hslot, List.filterMap_nil]
    rcases Nat.lt_trichotomy n b.slots.length with hlt | rfl | hgt
    · rw [List.getElem?_append_left hlt, List.getElem?_append_left (h.length ▸ hlt), h.slots]
    · rw [List.getElem?_concat_length, h.length, List.getElem?_concat_length, ← h.length,
        h.unattached _ (Nat.le_refl _)]
      exact congrArg some hfill.symm
    · rw [List.getElem?_eq_none (by rw [List.length_append]; exact hgt), List.getElem?_eq_none]
      · rfl
      · rw [List.length_append, ← h.length]
        exact hgt
  · rw [List.length_append] at hn
    rw [hsame]
    exact h.unattached n (by omega)

theorem MadeBy.attach (h : MadeBy done b) {parent child : Nat} {label : String}
    {children : List Nat} (hslot : b.slots[parent]? = some (.group label children)) :
    MadeBy (done ++ [.attach parent child])
      { b with slots := b.slots.set parent (.group label (children ++ [child])) } := by
  have hin := (List.getElem?_eq_some_iff.1 hslot).1
  have hmade : (done ++ [NavCall.attach parent child]).filterMap NavCall.slot? =
      done.filterMap NavCall.slot? := by
    simp [NavCall.slot?]
  have hother : ∀ n, n ≠ parent → (done ++ [NavCall.attach parent child]).filterMap
      (NavCall.childOf? n) = done.filterMap (NavCall.childOf? n) := by
    intro n hn
    simp [NavCall.childOf?, hn.symm]
  refine ⟨fun n => ?_, by simp [h.roots, NavCall.root?], fun n hn => ?_⟩
  · rw [hmade]
    by_cases hn : n = parent
    · subst hn
      rw [h.slots, Option.map_eq_some_iff] at hslot
      obtain ⟨slot, hmade', hfill⟩ := hslot
      obtain ⟨⟨old, rfl⟩, hkids⟩ := NavSlot.fill_eq_group_iff.1 hfill
      rw [List.getElem?_set_self hin, hmade', List.filterMap_append, hkids]
      simp [NavCall.childOf?, NavSlot.fill]
    · rw [List.getElem?_set_ne (Ne.symm hn), hother n hn, h.slots]
  · rw [List.length_set] at hn
    rw [hother n (by omega)]
    exact h.unattached n hn

theorem MadeBy.addRoot (h : MadeBy done b) (node : Nat) :
    MadeBy (done ++ [.root node]) { b with roots := b.roots ++ [node] } where
  slots := fun n => by
    rw [List.filterMap_append, List.filterMap_append]
    simpa [NavCall.slot?, NavCall.childOf?, List.filterMap_cons] using h.slots n
  roots := by simp [h.roots, NavCall.root?]
  unattached := fun n hn => by simpa [NavCall.childOf?] using h.unattached n hn

theorem MadeBy.call (h : MadeBy done b) (hc : b.call c = .ok b') : MadeBy (done ++ [c]) b' := by
  rcases call_cases hc with ⟨slot, hslot, hfill, hroot, hchild, rfl⟩ |
    ⟨parent, child, label, children, rfl, _, hslot, rfl⟩ | ⟨node, rfl, _, rfl⟩
  · exact h.add hslot hfill hroot hchild
  · exact h.attach hslot
  · exact h.addRoot node

theorem MadeBy.callEach (h : MadeBy done b) (calls : List NavCall) :
    MadeBy (done ++ b.succeeding calls) (b.callEach calls) := by
  induction calls generalizing b done with
  | nil =>
    rw [succeeding, List.append_nil]
    exact h
  | cons c rest ih =>
    rw [succeeding, NavBuilder.callEach]
    cases hc : b.call c with
    | error e => exact ih h
    | ok b' =>
      rw [List.append_cons]
      exact ih (h.call hc)

/-- The builder of a sequence of calls holds what the calls that succeeded made, in their order. -/
theorem madeBy_ofCalls (calls : List NavCall) :
    MadeBy (NavBuilder.empty.succeeding calls) (ofCalls calls) :=
  MadeBy.empty.callEach calls

/-! ## Numbers -/

/-- A builder in which every number is that of a node. -/
structure Wired (b : NavBuilder) : Prop where
  roots_lt : ∀ node ∈ b.roots, node < b.slots.length
  children_lt : ∀ (node : Nat) (label : String) (children : List Nat),
    b.slots[node]? = some (.group label children) → ∀ child ∈ children, child < b.slots.length

theorem Wired.empty : Wired empty where
  roots_lt := fun _ h => by cases h
  children_lt := fun _ _ _ h => by cases h

theorem Wired.add (h : Wired b) {slot : NavSlot} (hslot : slot.fill [] = slot) :
    Wired { b with slots := b.slots ++ [slot] } where
  roots_lt := fun node hnode => by
    have := h.roots_lt node hnode
    rw [List.length_append]
    omega
  children_lt := fun node label children hgroup child hchild => by
    rw [List.length_append]
    rcases Nat.lt_or_ge node b.slots.length with hlt | hge
    · rw [List.getElem?_append_left hlt] at hgroup
      have := h.children_lt node label children hgroup child hchild
      omega
    · rw [List.getElem?_append_right hge, List.getElem?_singleton] at hgroup
      split at hgroup
      · injection hgroup with hgroup
        subst hgroup
        injection hslot with _ hnone
        rw [← hnone] at hchild
        cases hchild
      · cases hgroup

theorem Wired.attach (h : Wired b) {parent child : Nat} {label : String} {children : List Nat}
    (hchild : child < b.slots.length) (hslot : b.slots[parent]? = some (.group label children)) :
    Wired { b with slots := b.slots.set parent (.group label (children ++ [child])) } where
  roots_lt := fun node hnode => by
    rw [List.length_set]
    exact h.roots_lt node hnode
  children_lt := fun node label' children' hgroup n hn => by
    rw [List.length_set]
    by_cases hnode : node = parent
    · subst hnode
      rw [List.getElem?_set_self (List.getElem?_eq_some_iff.1 hslot).1] at hgroup
      injection hgroup with hgroup
      injection hgroup with _ hchildren
      subst hchildren
      rcases List.mem_append.1 hn with hold | hnew
      · exact h.children_lt node label children hslot n hold
      · rw [List.mem_singleton.1 hnew]
        exact hchild
    · rw [List.getElem?_set_ne (Ne.symm hnode)] at hgroup
      exact h.children_lt node label' children' hgroup n hn

theorem Wired.addRoot (h : Wired b) {node : Nat} (hnode : node < b.slots.length) :
    Wired { b with roots := b.roots ++ [node] } where
  roots_lt := fun n hn => by
    rcases List.mem_append.1 hn with hold | hnew
    · exact h.roots_lt n hold
    · rw [List.mem_singleton.1 hnew]
      exact hnode
  children_lt := h.children_lt

theorem Wired.call (h : Wired b) (hc : b.call c = .ok b') : Wired b' := by
  rcases call_cases hc with ⟨slot, _, hfill, _, _, rfl⟩ |
    ⟨parent, child, label, children, _, hchild, hslot, rfl⟩ | ⟨node, _, hnode, rfl⟩
  · exact h.add hfill
  · exact h.attach hchild hslot
  · exact h.addRoot hnode

theorem Wired.callEach (h : Wired b) (calls : List NavCall) : Wired (b.callEach calls) := by
  induction calls generalizing b with
  | nil => exact h
  | cons c rest ih =>
    rw [NavBuilder.callEach]
    cases hc : b.call c with
    | error e => exact ih h
    | ok b' => exact ih (h.call hc)

theorem wired_ofCalls (calls : List NavCall) : Wired (ofCalls calls) :=
  Wired.empty.callEach calls

end NavBuilder
end DocCorpus
