/-
  What the nodes of a lowered sidebar stand for. While a sidebar is lowered every node has an
  origin, the item it was made for and the group that the item is written in, and a group that is
  not filled yet waits for the rest of its contents. Every step keeps the drawing true to its
  origins, however the references run; once no group waits, following the children of nodes is the
  same as looking inside their origins.
-/
import DocCorpus.Proofs.Sidebar.Substitution
import Mathlib.Logic.Function.Basic

namespace DocCorpus.Sidebar

/-- The node that an item is written in; the node of a reference belongs to no place. -/
def place (parent : Option Nat) : SidebarItem → Option Nat
  | .reference _ => none
  | .link _ _ | .group _ _ => parent

/-- A node that was made for an item written in the group `parent`. -/
def MadeFor (origins : List (SidebarItem × Option Nat)) (parent : Option Nat) (node : Nat)
    (item : SidebarItem) : Prop :=
  origins[node]? = some (item, place parent item)

variable {groups : Table SidebarGroup} {d d' : Draft} {origins : List (SidebarItem × Option Nat)}
  {awaited : Nat → List SidebarItem} {top : List SidebarItem}

/-! ## Drawings -/

/-- The slot of a node made for an item that still waits for the items `rest`. -/
inductive SlotOf (groups : Table SidebarGroup) (origins : List (SidebarItem × Option Nat))
    (node : Nat) (rest : List SidebarItem) : SidebarItem → NavSlot → Prop
  | link {label target : String} (h : rest = []) :
      SlotOf groups origins node rest (.link label target) (.link label target)
  | group {item : SidebarItem} {label : String} {children : List Nat} {filled : List SidebarItem}
      (hlabel : heading? groups item = some label)
      (hfilled : List.Forall₂ (MadeFor origins (some node)) children filled)
      (hrest : filled ++ rest = contents groups item) :
      SlotOf groups origins node rest item (.group label children)

/-- A draft whose nodes were made for the items `origins`, where the groups wait for the items
`awaited` and the top level holds the items `top`. -/
structure Drawn (groups : Table SidebarGroup) (d : Draft)
    (origins : List (SidebarItem × Option Nat)) (awaited : Nat → List SidebarItem)
    (top : List SidebarItem) : Prop where
  length : origins.length = d.builder.slots.length
  awaited_new : ∀ node, origins.length ≤ node → awaited node = []
  slot : ∀ node item parent, origins[node]? = some (item, parent) →
    ∃ slot, d.builder.slots[node]? = some slot ∧
      SlotOf groups origins node (awaited node) item slot
  named : ∀ name node, d.named.lookup name = some node →
    MadeFor origins none node (.reference name)
  roots : List.Forall₂ (MadeFor origins none) d.builder.roots top

theorem Drawn.start : Drawn groups ⟨.empty, []⟩ [] (fun _ => []) [] where
  length := rfl
  awaited_new := fun _ _ => rfl
  slot := fun _ _ _ h => by cases h
  named := fun _ _ h => by cases h
  roots := .nil

theorem MadeFor.mono {more : List (SidebarItem × Option Nat)} {parent : Option Nat}
    {node : Nat} {item : SidebarItem} (hp : origins <+: more)
    (h : MadeFor origins parent node item) : MadeFor more parent node item := by
  obtain ⟨rest, rfl⟩ := hp
  unfold MadeFor
  rw [List.getElem?_append_left (List.getElem?_eq_some_iff.1 h).1]
  exact h

theorem madeFor_concat (origins : List (SidebarItem × Option Nat)) (parent : Option Nat)
    (item : SidebarItem) :
    MadeFor (origins ++ [(item, place parent item)]) parent origins.length item := by
  unfold MadeFor
  rw [List.getElem?_concat_length]

theorem MadeFor.lt {parent : Option Nat} {node : Nat} {item : SidebarItem}
    (h : MadeFor origins parent node item) : node < origins.length :=
  (List.getElem?_eq_some_iff.1 h).1

theorem MadeFor.unique {parent owner : Option Nat} {node : Nat} {item other : SidebarItem}
    (h : MadeFor origins parent node item) (h' : origins[node]? = some (other, owner)) :
    item = other ∧ place parent item = owner := by
  unfold MadeFor at h
  rw [h] at h'
  injection h' with h'
  injection h' with hitem hplace
  exact ⟨hitem, hplace⟩

theorem SlotOf.mono {more : List (SidebarItem × Option Nat)} {node : Nat}
    {rest : List SidebarItem} {item : SidebarItem} {slot : NavSlot} (hp : origins <+: more)
    (h : SlotOf groups origins node rest item slot) : SlotOf groups more node rest item slot := by
  cases h with
  | link h => exact .link h
  | group hlabel hfilled hrest =>
    exact .group hlabel (hfilled.imp fun _ _ => MadeFor.mono hp) hrest

theorem Drawn.slotOf (hd : Drawn groups d origins awaited top) {node : Nat} {item : SidebarItem}
    {parent : Option Nat} {slot : NavSlot} (hnode : origins[node]? = some (item, parent))
    (hslot : d.builder.slots[node]? = some slot) :
    SlotOf groups origins node (awaited node) item slot := by
  obtain ⟨slot', hslot', hof⟩ := hd.slot node item parent hnode
  rw [hslot] at hslot'
  injection hslot' with hslot'
  rw [hslot']
  exact hof

/-! ## One step -/

/-- A new node keeps a drawing true when it is true to its own origin. -/
theorem Drawn.add (hd : Drawn groups d origins awaited top) {item : SidebarItem} {slot : NavSlot}
    {rest : List SidebarItem} {parent : Option Nat}
    (hslot : SlotOf groups (origins ++ [(item, place parent item)]) origins.length rest item slot) :
    Drawn groups { d with builder := (d.builder.add slot).2 }
      (origins ++ [(item, place parent item)]) (Function.update awaited origins.length rest)
      top where
  length := by
    show (origins ++ [_]).length = (d.builder.slots ++ [slot]).length
    rw [List.length_append, List.length_append, hd.length]
    rfl
  awaited_new := by
    intro node hnode
    rw [List.length_append] at hnode
    have hlt : origins.length < node := hnode
    rw [Function.update_of_ne (by omega)]
    exact hd.awaited_new node (by omega)
  slot := by
    intro node item' parent' h
    show ∃ slot', (d.builder.slots ++ [slot])[node]? = some slot' ∧ _
    rcases Nat.lt_trichotomy node origins.length with hlt | heq | hgt
    · rw [List.getElem?_append_left hlt] at h
      obtain ⟨slot', hget, hof⟩ := hd.slot node item' parent' h
      rw [List.getElem?_append_left (by rw [← hd.length]; exact hlt),
        Function.update_of_ne (by omega)]
      exact ⟨slot', hget, hof.mono (List.prefix_append ..)⟩
    · subst heq
      rw [List.getElem?_concat_length] at h
      injection h with h
      injection h with hitem hparent
      subst hitem
      rw [hd.length, List.getElem?_concat_length, ← hd.length, Function.update_self]
      exact ⟨slot, rfl, hslot⟩
    · rw [List.getElem?_eq_none (by rw [List.length_append]; exact hgt)] at h
      cases h
  named := fun name node h => (hd.named name node h).mono (List.prefix_append ..)
  roots := hd.roots.imp fun _ _ => MadeFor.mono (List.prefix_append ..)

theorem Drawn.update_new (hd : Drawn groups d origins awaited top) :
    Function.update awaited origins.length [] = awaited :=
  Function.update_eq_self_iff.2 (hd.awaited_new _ (Nat.le_refl _)).symm

theorem Drawn.link (hd : Drawn groups d origins awaited top) (parent : Option Nat)
    (label target : String) :
    Drawn groups { d with builder := (d.builder.link label target).2 }
      (origins ++ [(.link label target, parent)]) awaited top := by
  have hslot : SlotOf groups (origins ++ [(.link label target, place parent (.link label target))])
      origins.length [] (.link label target) (.link label target) := .link rfl
  have h := hd.add hslot
  rw [hd.update_new] at h
  exact h

/-- A new group waits for its contents. -/
theorem Drawn.group (hd : Drawn groups d origins awaited top) (parent : Option Nat)
    {item : SidebarItem} {label : String} (hlabel : heading? groups item = some label) :
    Drawn groups { d with builder := (d.builder.group label).2 }
      (origins ++ [(item, place parent item)])
      (Function.update awaited origins.length (contents groups item)) top :=
  hd.add (.group hlabel .nil rfl)

/-- The node for the next item that a group waits for can be put into the group. -/
theorem Drawn.attach (hd : Drawn groups d origins awaited top) {parent child : Nat}
    {item : SidebarItem} {rest : List SidebarItem} (hparent : awaited parent = item :: rest)
    (hchild : MadeFor origins (some parent) child item) :
    ∃ builder, d.builder.attach parent child = .ok builder ∧
      Drawn groups { d with builder } origins (Function.update awaited parent rest) top := by
  have hin : parent < origins.length := by
    rcases Nat.lt_or_ge parent origins.length with hlt | hge
    · exact hlt
    · rw [hd.awaited_new parent hge] at hparent
      cases hparent
  obtain ⟨⟨outer, owner⟩, houter⟩ : ∃ made, origins[parent]? = some made :=
    ⟨_, List.getElem?_eq_getElem hin⟩
  obtain ⟨slot, hslot, hof⟩ := hd.slot parent outer owner houter
  rw [hparent] at hof
  cases hof with
  | link h => cases h
  | @group _ label children filled hlabel hfilled hrest =>
    have hlt := hchild.lt
    rw [hd.length] at hlt
    refine ⟨{ d.builder with
      slots := d.builder.slots.set parent (.group label (children ++ [child])) }, ?_, ?_⟩
    · unfold NavBuilder.attach NavBuilder.check
      rw [if_pos hlt, hslot]
      rfl
    · refine ⟨?_, ?_, ?_, hd.named, hd.roots⟩
      · rw [List.length_set]
        exact hd.length
      · intro node hnode
        rw [Function.update_of_ne (by omega)]
        exact hd.awaited_new node hnode
      · intro node item' owner' h
        by_cases heq : node = parent
        · subst heq
          rw [Function.update_self, List.getElem?_set_self (by rw [← hd.length]; exact hin)]
          rw [houter] at h
          injection h with h
          injection h with hitem _
          subst hitem
          have hfilled' : List.Forall₂ (MadeFor origins (some node)) (children ++ [child])
              (filled ++ [item]) := List.rel_append hfilled (.cons hchild .nil)
          exact ⟨_, rfl, .group hlabel hfilled' (by rw [List.append_assoc]; exact hrest)⟩
        · rw [Function.update_of_ne heq, List.getElem?_set_ne (Ne.symm heq)]
          exact hd.slot node item' owner' h

/-- A group may be entered under its name as soon as its node is there. -/
theorem Drawn.name (hd : Drawn groups d origins awaited top) {name : String} {node : Nat}
    (h : MadeFor origins none node (.reference name)) :
    Drawn groups { d with named := (name, node) :: d.named } origins awaited top := by
  refine ⟨hd.length, hd.awaited_new, hd.slot, fun name' node' h' => ?_, hd.roots⟩
  rw [List.lookup_cons] at h'
  split at h'
  · next heq =>
    rw [beq_iff_eq] at heq
    injection h' with h'
    rw [heq, ← h']
    exact h
  · exact hd.named name' node' h'

theorem Drawn.root (hd : Drawn groups d origins awaited top) {node : Nat} {item : SidebarItem}
    (h : MadeFor origins none node item) :
    ∃ builder, d.builder.root node = .ok builder ∧
      Drawn groups { d with builder } origins awaited (top ++ [item]) := by
  have hlt := h.lt
  rw [hd.length] at hlt
  refine ⟨{ d.builder with roots := d.builder.roots ++ [node] }, ?_, hd.length, hd.awaited_new,
    hd.slot, hd.named, List.rel_append hd.roots (.cons h .nil)⟩
  unfold NavBuilder.root NavBuilder.check
  rw [if_pos hlt]
  rfl

/-! ## The groups that are left -/

theorem lookup_of_take?_eq_none {name : String} {left : List (String × SidebarGroup)}
    (h : take? name left = none) : left.lookup name = none := by
  induction left with
  | nil => rfl
  | cons entry left ih =>
    obtain ⟨n, group⟩ := entry
    unfold take? at h
    split at h
    · cases h
    · next hne =>
      rw [Option.map_eq_none_iff] at h
      rw [List.lookup_cons, beq_false_of_ne (Ne.symm hne)]
      exact ih h

theorem lookup_of_take?_eq_some {name : String} {left others : List (String × SidebarGroup)}
    {group : SidebarGroup} (h : take? name left = some (group, others)) :
    left.lookup name = some group ∧ ∀ n, n ≠ name → others.lookup n = left.lookup n := by
  induction left generalizing others with
  | nil => cases h
  | cons entry left ih =>
    obtain ⟨n, g⟩ := entry
    unfold take? at h
    split at h
    · next heq =>
      injection h with h
      injection h with hgroup hothers
      subst heq hgroup hothers
      refine ⟨List.lookup_cons_self, fun n' hne => ?_⟩
      rw [List.lookup_cons, beq_false_of_ne hne]
    · next hne =>
      rw [Option.map_eq_some_iff] at h
      obtain ⟨⟨found, rest⟩, htake, heq⟩ := h
      injection heq with hgroup hothers
      subst hgroup hothers
      obtain ⟨hfound, hrest⟩ := ih htake
      refine ⟨?_, fun n' hne' => ?_⟩
      · rw [List.lookup_cons, beq_false_of_ne (Ne.symm hne)]
        exact hfound
      · rw [List.lookup_cons, List.lookup_cons, hrest n' hne']

/-- A name that is not met yet has its group among those that are left. -/
def Left (groups : Table SidebarGroup) (left : List (String × SidebarGroup)) (d : Draft) : Prop :=
  ∀ name, d.named.lookup name = none → left.lookup name = groups.get? name

/-- Names that are met stay met. -/
def Grows (d d' : Draft) : Prop := ∀ name, d'.named.lookup name = none → d.named.lookup name = none

theorem Left.of_grows {left : List (String × SidebarGroup)} (h : Left groups left d)
    (hgrows : Grows d d') : Left groups left d' := fun name hname => h name (hgrows name hname)

theorem grows_name {name : String} {node : Nat} {builder : NavBuilder} :
    Grows d ⟨builder, (name, node) :: d.named⟩ := by
  intro other hother
  rw [List.lookup_cons] at hother
  split at hother
  · cases hother
  · exact hother

theorem Left.of_take? {left others : List (String × SidebarGroup)} {name : String} {node : Nat}
    {group : SidebarGroup} {builder : NavBuilder} (h : Left groups left d)
    (htake : take? name left = some (group, others)) :
    Left groups others ⟨builder, (name, node) :: d.named⟩ := by
  intro other hother
  have hne : other ≠ name := by
    rintro rfl
    rw [List.lookup_cons_self] at hother
    cases hother
  rw [(lookup_of_take?_eq_some htake).2 other hne]
  exact h other (grows_name other hother)

/-! ## Lowering an item -/

/-- The failure of an item that leads to a name without a group. -/
def Undeclared (groups : Table SidebarGroup) (item : SidebarItem) (e : Failure) : Prop :=
  ∃ name, Relation.ReflTransGen (Contains groups) item (.reference name) ∧
    groups.get? name = none ∧ e = .validation (.unknownGroup name)

theorem Undeclared.outside {outer inner : SidebarItem} {e : Failure} (hin : Contains groups outer inner)
    (h : Undeclared groups inner e) : Undeclared groups outer e := by
  obtain ⟨name, hpath, hname, he⟩ := h
  exact ⟨name, .head hin hpath, hname, he⟩

/-- What comes of drawing an item: its node, in a drawing that is as true as before. -/
def Draws (groups : Table SidebarGroup) (d : Draft) (origins : List (SidebarItem × Option Nat))
    (awaited : Nat → List SidebarItem) (top : List SidebarItem) (parent : Option Nat)
    (item : SidebarItem) : Except Failure (Nat × Draft) → Prop
  | .error e => Undeclared groups item e
  | .ok (node, d') => ∃ more, origins <+: more ∧ MadeFor more parent node item ∧
      Drawn groups d' more awaited top ∧ Grows d d'

/-- What comes of filling a group: it waits for nothing. -/
def Fills (groups : Table SidebarGroup) (d : Draft) (origins : List (SidebarItem × Option Nat))
    (awaited : Nat → List SidebarItem) (top : List SidebarItem) (parent : Nat)
    (items : List SidebarItem) : Except Failure Draft → Prop
  | .error e => ∃ item ∈ items, Undeclared groups item e
  | .ok d' => ∃ more, origins <+: more ∧
      Drawn groups d' more (Function.update awaited parent []) top ∧ Grows d d'

/-- A group is drawn once its node is filled with its contents. -/
theorem Fills.draws {d₁ : Draft} {parent : Option Nat} {outer : SidebarItem}
    {r : Except Failure Draft} (hd : Drawn groups d origins awaited top) (hgrows : Grows d d₁)
    (h : Fills groups d₁ (origins ++ [(outer, place parent outer)])
      (Function.update awaited origins.length (contents groups outer)) top origins.length
      (contents groups outer) r) :
    Draws groups d origins awaited top parent outer
      (r >>= fun d' => pure (origins.length, d')) := by
  cases r with
  | error e =>
    obtain ⟨item, hitem, hundeclared⟩ := h
    exact hundeclared.outside hitem
  | ok d' =>
    obtain ⟨more, hmore, hd', hgrows'⟩ := h
    rw [Function.update_idem, hd.update_new] at hd'
    exact ⟨more, (List.prefix_append ..).trans hmore,
      (madeFor_concat origins parent outer).mono hmore, hd',
      fun name hname => hgrows name (hgrows' name hname)⟩

mutual

/-- Lowering keeps a drawing true, and fails only for a name without a group. -/
theorem lower_draws (left : List (String × SidebarGroup)) (d : Draft) (item : SidebarItem)
    (origins : List (SidebarItem × Option Nat)) (awaited : Nat → List SidebarItem)
    (parent : Option Nat) (hd : Drawn groups d origins awaited top) (hleft : Left groups left d) :
    Draws groups d origins awaited top parent item (lower left d item) := by
  have hnode : d.builder.slots.length = origins.length := hd.length.symm
  match item with
  | .link label target =>
    rw [lower]
    have hmade : MadeFor (origins ++ [(.link label target, parent)]) parent
        d.builder.slots.length (.link label target) := by
      rw [hnode]
      exact madeFor_concat origins parent (.link label target)
    exact ⟨_, List.prefix_append .., hmade, hd.link parent label target, fun _ h => h⟩
  | .group label items =>
    rw [lower]
    have hlabel : heading? groups (.group label items) = some label := rfl
    have h := lowerItems_fills left _ origins.length items _ _ (hd.group parent hlabel) hleft
      (Function.update_self ..)
    show Draws groups d origins awaited top parent (.group label items)
      (lowerItems left ⟨(d.builder.group label).2, d.named⟩ d.builder.slots.length items >>= _)
    rw [hnode]
    exact h.draws hd fun _ h => h
  | .reference name =>
    rw [lower]
    cases hmet : d.named.lookup name with
    | some node =>
      exact ⟨origins, List.prefix_refl .., hd.named name node hmet, hd, fun _ h => h⟩
    | none =>
      have hget : groups.get? name = left.lookup name := (hleft name hmet).symm
      dsimp only
      split
      · next htake =>
        rw [lookup_of_take?_eq_none htake] at hget
        exact ⟨name, .refl, hget, rfl⟩
      · next group others htake =>
        rw [(lookup_of_take?_eq_some htake).1] at hget
        have hlt := length_of_take? htake
        have hcontents := contents_of_get? hget
        have hdrawn := (hd.group parent (heading?_of_get? hget)).name
          (madeFor_concat origins parent (.reference name))
        have h := lowerItems_fills others _ origins.length group.items _ _ hdrawn
          (hleft.of_take? htake) (by rw [Function.update_self, hcontents])
        rw [← hcontents] at h
        show Draws groups d origins awaited top parent (.reference name)
          (lowerItems others ⟨(d.builder.group group.label).2,
            (name, d.builder.slots.length) :: d.named⟩ d.builder.slots.length group.items >>=
              fun d' => pure (d.builder.slots.length, d'))
        rw [hnode, ← hcontents]
        exact h.draws hd grows_name
termination_by (left.length, sizeOf item)

theorem lowerItems_fills (left : List (String × SidebarGroup)) (d : Draft) (parent : Nat)
    (items : List SidebarItem) (origins : List (SidebarItem × Option Nat))
    (awaited : Nat → List SidebarItem) (hd : Drawn groups d origins awaited top)
    (hleft : Left groups left d) (hparent : awaited parent = items) :
    Fills groups d origins awaited top parent items (lowerItems left d parent items) := by
  match items with
  | [] =>
    rw [lowerItems]
    refine ⟨origins, List.prefix_refl .., ?_, fun _ h => h⟩
    rw [Function.update_eq_self_iff.2 hparent.symm]
    exact hd
  | item :: rest =>
    rw [lowerItems]
    have hitem := lower_draws left d item origins awaited (some parent) hd hleft
    cases hlower : lower left d item with
    | error e =>
      rw [hlower] at hitem
      exact ⟨item, List.mem_cons_self, hitem⟩
    | ok made =>
      obtain ⟨node, d₁⟩ := made
      rw [hlower] at hitem
      obtain ⟨more, hmore, hnode, hd₁, hgrows⟩ := hitem
      obtain ⟨builder, hattach, hd₂⟩ := hd₁.attach hparent hnode
      have h := lowerItems_fills left { d₁ with builder } parent rest more _ hd₂
        (hleft.of_grows hgrows) (Function.update_self ..)
      show Fills groups d origins awaited top parent (item :: rest)
        (d₁.builder.attach parent node >>= fun builder =>
          lowerItems left { d₁ with builder } parent rest)
      rw [hattach]
      show Fills groups d origins awaited top parent (item :: rest)
        (lowerItems left { d₁ with builder } parent rest)
      cases hrest : lowerItems left { d₁ with builder } parent rest with
      | error e =>
        rw [hrest] at h
        obtain ⟨inner, hinner, hundeclared⟩ := h
        exact ⟨inner, List.mem_cons_of_mem _ hinner, hundeclared⟩
      | ok d' =>
        rw [hrest] at h
        obtain ⟨last, hlast, hd', hgrows'⟩ := h
        rw [Function.update_idem] at hd'
        exact ⟨last, hmore.trans hlast, hd', fun name hname => hgrows name (hgrows' name hname)⟩
termination_by (left.length, sizeOf items)

end

/-! ## Lowering a sidebar -/

theorem lowerRoots_drawn {left : List (String × SidebarGroup)} (items : List SidebarItem)
    (hd : Drawn groups d origins (fun _ => []) top) (hleft : Left groups left d) :
    (∀ e, lowerRoots left d items = .error e → ∃ item ∈ items, Undeclared groups item e) ∧
      ∀ d', lowerRoots left d items = .ok d' →
        ∃ more, Drawn groups d' more (fun _ => []) (top ++ items) := by
  induction items generalizing d origins top with
  | nil =>
    refine ⟨fun e h => (by cases h), fun d' h => ⟨origins, ?_⟩⟩
    injection h with h
    subst h
    rw [List.append_nil]
    exact hd
  | cons item rest ih =>
    have hitem := lower_draws left d item origins (fun _ => []) none hd hleft
    unfold lowerRoots
    cases hlower : lower left d item with
    | error e =>
      rw [hlower] at hitem
      refine ⟨fun e' h => ?_, fun d' h => (by cases h)⟩
      injection h with h
      subst h
      exact ⟨item, List.mem_cons_self, hitem⟩
    | ok made =>
      obtain ⟨node, d₁⟩ := made
      rw [hlower] at hitem
      obtain ⟨more, hmore, hnode, hd₁, hgrows⟩ := hitem
      obtain ⟨builder, hroot, hd₂⟩ := hd₁.root hnode
      obtain ⟨herror, hok⟩ := ih hd₂ (hleft.of_grows hgrows)
      show (∀ e, (d₁.builder.root node >>= fun builder =>
          lowerRoots left { d₁ with builder } rest) = .error e → _) ∧
        ∀ d', (d₁.builder.root node >>= fun builder =>
          lowerRoots left { d₁ with builder } rest) = .ok d' → _
      rw [hroot]
      refine ⟨fun e h => ?_, fun d' h => ?_⟩
      · obtain ⟨inner, hinner, hundeclared⟩ := herror e h
        exact ⟨inner, List.mem_cons_of_mem _ hinner, hundeclared⟩
      · have := hok d' h
        rw [List.append_assoc] at this
        exact this

theorem left_entries (groups : Table SidebarGroup) : Left groups groups.entries ⟨.empty, []⟩ :=
  fun _ _ => rfl

/-! ## The finished drawing -/

theorem Drawn.children (hd : Drawn groups d origins (fun _ => []) top) {node : Nat}
    {item : SidebarItem} {parent : Option Nat} {label : String} {children : List Nat}
    (hnode : origins[node]? = some (item, parent))
    (hslot : d.builder.slots[node]? = some (.group label children)) :
    heading? groups item = some label ∧
      List.Forall₂ (MadeFor origins (some node)) children (contents groups item) := by
  cases hd.slotOf hnode hslot with
  | group hlabel hfilled hrest =>
    rw [List.append_nil] at hrest
    rw [← hrest]
    exact ⟨hlabel, hfilled⟩

/-- Everything that a sidebar leads to has a node. -/
theorem Drawn.exists_node (hd : Drawn groups d origins (fun _ => []) top) {item : SidebarItem}
    (h : Reachable groups top item) : ∃ parent node, MadeFor origins parent node item := by
  obtain ⟨first, hfirst, hpath⟩ := h
  induction hpath with
  | refl =>
    obtain ⟨node, _, hnode⟩ := forall₂_mem_right hd.roots hfirst
    exact ⟨none, node, hnode⟩
  | tail _ hlast ih =>
    obtain ⟨parent, outer, houter⟩ := ih
    obtain ⟨slot, hslot, hof⟩ := hd.slot outer _ _ houter
    cases hof with
    | link h => cases hlast
    | group _ _ _ =>
      obtain ⟨_, hchildren⟩ := hd.children houter hslot
      obtain ⟨node, _, hnode⟩ := forall₂_mem_right hchildren hlast
      exact ⟨some outer, node, hnode⟩

/-- A node can be made for a name only when the name has its group. -/
theorem Drawn.declared (hd : Drawn groups d origins awaited top) {parent : Option Nat} {node : Nat}
    {name : String} (h : MadeFor origins parent node (.reference name)) :
    groups.get? name ≠ none := by
  intro hnone
  obtain ⟨slot, _, hof⟩ := hd.slot node _ _ h
  cases hof with
  | group hlabel _ _ =>
    rw [heading?_reference, hnone] at hlabel
    cases hlabel

end DocCorpus.Sidebar
