/-
  Records read back from tables. The fields of a record may be entered in any order if they set
  different parts of it (`RecordField.Apart`), and then the order of the members of a table does not
  matter. A table with members for the fields in turn, some of them left out (`RecordType.Fills`),
  is read as the record that they make (`RecordType.readsAs_read`).
-/
import DocCorpus.Configuration.Reading
import DocCorpus.Proofs.Tree
import Mathlib.Data.List.Pairwise

namespace DocCorpus

open Outcome

variable {α β γ : Type}

/-! ## Fields -/

namespace RecordField

/-- Fields of different names, of which either may be entered first. -/
structure Apart (f g : RecordField α) : Prop where
  name : f.name ≠ g.name
  comm (t t' : Tree) (a b : α) :
    (f.read t a >>= g.read t') = .ok b ↔ (g.read t' a >>= f.read t) = .ok b

instance : Std.Symm (@Apart α) where
  symm _ _ h := ⟨h.name.symm, fun t t' a b => (h.comm t' t a b).symm⟩

/-- Fields that set different parts of a record are apart. -/
theorem apart_of_set {name name' : String} {optional optional' : Bool}
    {value : Tree → Except ShapeFault β} {value' : Tree → Except ShapeFault γ}
    {set : α → β → α} {set' : α → γ → α} (hname : name ≠ name')
    (hset : ∀ a b c, set' (set a b) c = set (set' a c) b) :
    Apart ⟨name, optional, fun t a => (value t).map (set a)⟩
      ⟨name', optional', fun t a => (value' t).map (set' a)⟩ := by
  refine ⟨hname, fun t t' a result => ?_⟩
  simp only [bind_eq_ok_iff, map_eq_ok_iff]
  constructor
  · rintro ⟨_, ⟨b, hb, rfl⟩, c, hc, rfl⟩
    exact ⟨_, ⟨c, hc, rfl⟩, b, hb, (hset a b c).symm⟩
  · rintro ⟨_, ⟨c, hc, rfl⟩, b, hb, rfl⟩
    exact ⟨_, ⟨b, hb, rfl⟩, c, hc, hset a b c⟩

end RecordField

open RecordField (Apart optionally)

namespace RecordType

/-- Members that hold values for the fields in turn, where optional fields may be left out, and the
record that they make of another. -/
inductive Fills : List (RecordField α) → List (String × Tree) → α → α → Prop
  | nil (a : α) : Fills [] [] a a
  | left {field fields members a b} (hoptional : field.optional = true)
    (h : Fills fields members a b) : Fills (field :: fields) members a b
  | given {field fields t members a between b}
    (hread : Tree.ReadsAs (fun t => field.read t a) t between)
    (h : Fills fields members between b) :
    Fills (field :: fields) ((field.name, t) :: members) a b

/-! ## The order of members -/

section

variable {r : RecordType α} {fields : List (RecordField α)} {field : RecordField α} {t : Tree}
  {members members' : List (String × Tree)} {a b : α}

theorem find?_name (h : fields.Pairwise Apart) (hfield : field ∈ fields) :
    fields.find? (·.name = field.name) = some field := by
  induction fields with
  | nil => cases hfield
  | cons first rest ih =>
    obtain ⟨hfirst, hrest⟩ := List.pairwise_cons.1 h
    rcases List.mem_cons.1 hfield with rfl | hfield
    · exact List.find?_cons_of_pos (decide_eq_true rfl)
    · rw [List.find?_cons, decide_eq_false (hfirst field hfield).name]
      exact ih hrest hfield

theorem enter_of_mem (h : r.fields.Pairwise Apart) (hfield : field ∈ r.fields) :
    r.enter a (field.name, t) = field.read t a := by
  unfold enter
  rw [find?_name h hfield]

/-- Of two members either may be entered first. -/
theorem enter_comm (h : r.fields.Pairwise Apart) {m m' : String × Tree} (hkeys : m.1 ≠ m'.1)
    (henter : (r.enter a m >>= fun a => r.enter a m') = .ok b) :
    (r.enter a m' >>= fun a => r.enter a m) = .ok b := by
  have hmem : ∀ {m : String × Tree} {field}, r.fields.find? (·.name = m.1) = some field →
      field ∈ r.fields ∧ field.name = m.1 := fun hfind =>
    ⟨List.mem_of_find?_eq_some hfind, by simpa using List.find?_some hfind⟩
  unfold enter at henter ⊢
  -- a member that is no field changes nothing; of two fields the one may go before the other
  cases hfield : r.fields.find? (·.name = m.1) with
  | none =>
    simp only [hfield, ok_bind] at henter ⊢
    exact bind_eq_ok_iff.2 ⟨b, henter, rfl⟩
  | some field =>
    cases hfield' : r.fields.find? (·.name = m'.1) with
    | none =>
      simp only [hfield, hfield', ok_bind] at henter ⊢
      obtain ⟨_, hread, hresult⟩ := bind_eq_ok_iff.1 henter
      exact Except.ok.inj hresult ▸ hread
    | some field' =>
      simp only [hfield, hfield'] at henter ⊢
      obtain ⟨hmem₁, hname₁⟩ := hmem hfield
      obtain ⟨hmem₂, hname₂⟩ := hmem hfield'
      have hne : field ≠ field' := by
        rintro rfl
        exact hkeys (hname₁.symm.trans hname₂)
      exact ((h.forall hmem₁ hmem₂ hne).comm m.2 m'.2 a b).1 henter

/-- Members with distinct keys make the same record in any order. -/
theorem foldlM_enter_perm (h : r.fields.Pairwise Apart) (hperm : members.Perm members')
    (hkeys : (members.map Prod.fst).Nodup) (hfold : members.foldlM r.enter a = .ok b) :
    members'.foldlM r.enter a = .ok b := by
  induction hperm generalizing a with
  | nil => exact hfold
  | cons m _ ih =>
    rw [List.foldlM_cons] at hfold ⊢
    obtain ⟨between, henter, hrest⟩ := bind_eq_ok_iff.1 hfold
    exact bind_eq_ok_iff.2 ⟨between, henter, ih (List.nodup_cons.1 hkeys).2 hrest⟩
  | swap m m' rest =>
    simp only [List.foldlM_cons, ← bind_assoc] at hfold ⊢
    obtain ⟨between, henter, hrest⟩ := bind_eq_ok_iff.1 hfold
    have hne : m'.1 ≠ m.1 := fun heq => (List.nodup_cons.1 hkeys).1 (heq ▸ List.mem_cons_self)
    exact bind_eq_ok_iff.2 ⟨between, enter_comm h hne henter, hrest⟩
  | trans hperm _ ih₁ ih₂ => exact ih₂ ((hperm.map Prod.fst).nodup_iff.1 hkeys) (ih₁ hkeys hfold)

/-! ## Records from tables -/

theorem Fills.keys_sublist (h : Fills fields members a b) :
    (members.map Prod.fst).Sublist (fields.map RecordField.name) := by
  induction h with
  | nil => exact .refl []
  | left _ _ ih => exact .cons _ ih
  | given _ _ ih => exact .cons_cons _ ih

theorem Fills.optional_or_mem (h : Fills fields members a b) (hfield : field ∈ fields) :
    field.optional = true ∨ field.name ∈ members.map Prod.fst := by
  induction h with
  | nil => cases hfield
  | left hoptional _ ih =>
    rcases List.mem_cons.1 hfield with rfl | hfield
    · exact .inl hoptional
    · exact ih hfield
  | given _ _ ih =>
    rcases List.mem_cons.1 hfield with rfl | hfield
    · exact .inr List.mem_cons_self
    · exact (ih hfield).imp_right (List.mem_cons_of_mem _)

theorem Fills.foldlM_enter (h : Fills fields members a b) (hapart : r.fields.Pairwise Apart)
    (hfields : fields ⊆ r.fields)
    (hmembers : List.Forall₂ Tree.SameMember members members') :
    members'.foldlM r.enter a = .ok b := by
  induction h generalizing members' with
  | nil =>
    obtain rfl := List.forall₂_nil_left_iff.1 hmembers
    rfl
  | left _ _ ih => exact ih (fun _ h => hfields (List.mem_cons_of_mem _ h)) hmembers
  | given hread _ ih =>
    obtain ⟨⟨name, t⟩, rest, ⟨rfl, ht⟩, hrest, rfl⟩ := List.forall₂_cons_left_iff.1 hmembers
    rw [List.foldlM_cons, enter_of_mem hapart (hfields List.mem_cons_self)]
    exact bind_eq_ok_iff.2
      ⟨_, hread t ht, ih (fun _ h => hfields (List.mem_cons_of_mem _ h)) hrest⟩

/-- A table with members for the fields in turn is read as the record that they make. -/
theorem readsAs_read (hapart : r.fields.Pairwise Apart) (h : Fills r.fields members r.blank b)
    (surplus : Surplus) : Tree.ReadsAs (r.read surplus) (.table members) b := by
  intro t ht
  obtain ⟨between, members', rfl, hsame, hbetween, hperm⟩ := ht.exists_table
  have hnames : (r.fields.map RecordField.name).Nodup :=
    List.pairwise_map.2 (hapart.imp fun h => h.name)
  have hkeys : (between.map Prod.fst).Nodup := hsame ▸ h.keys_sublist.nodup hnames
  have hrecord : members'.foldlM r.enter r.blank = .ok b :=
    foldlM_enter_perm hapart hperm hkeys (h.foldlM_enter hapart (fun _ h => h) hbetween)
  have hpresent : r.fields.find?
      (fun field => !field.optional && (members'.lookup field.name).isNone) = none := by
    rw [List.find?_eq_none]
    intro field hfield hmissing
    rw [Bool.and_eq_true, Bool.not_eq_true', Option.isNone_iff_eq_none] at hmissing
    rcases h.optional_or_mem hfield with hoptional | hmem
    · exact Bool.noConfusion (hmissing.1.symm.trans hoptional)
    · rw [← hsame] at hmem
      obtain ⟨m, hm, hname⟩ := List.mem_map.1 ((hperm.map Prod.fst).mem_iff.1 hmem)
      exact ne_of_beq_false (by simpa using List.lookup_eq_none_iff.1 hmissing.2 m hm) hname.symm
  show r.readTable members' = .ok b
  unfold readTable
  rw [hrecord, ok_bind, hpresent]

end

/-! ## Members as written -/

section

variable {name : String} {optional : Bool} {value : Tree → Except ShapeFault β} {set : α → β → α}
  {fields : List (RecordField α)} {members : List (String × Tree)} {t : Tree} {a c : α} {b : β}

/-- A member that is always written. -/
theorem Fills.member (hread : Tree.ReadsAs value t b) (h : Fills fields members (set a b) c) :
    Fills (⟨name, optional, fun t a => (value t).map (set a)⟩ :: fields) ((name, t) :: members)
      a c := by
  exact .given (fun t' ht' => map_eq_ok_iff.2 ⟨b, hread t' ht', rfl⟩) h

/-- A member that is left out when it is what the record has before. -/
theorem Fills.unless {empty : Bool} {before : β} (hempty : empty = true → b = before)
    (hbefore : set a before = a) (hread : Tree.ReadsAs value t b)
    (h : Fills fields members (set a b) c) :
    Fills (optionally name value set :: fields)
      ((if empty then [] else [(name, t)]) ++ members) a c := by
  cases empty with
  | true =>
    rw [hempty rfl, hbefore] at h
    exact .left rfl h
  | false => exact .member hread h

/-- A text that may be missing. -/
theorem Fills.optionalText {set : α → Option String → α} {s : Option String}
    (hnone : set a none = a) (h : Fills fields members (set a s) c) :
    Fills (optionally name Tree.readText? set :: fields) (Tree.optionalText name s ++ members)
      a c := by
  cases s with
  | none => exact .left rfl (hnone ▸ h)
  | some s => exact .member (Tree.readsAs_text? s) h

end

end RecordType
end DocCorpus
