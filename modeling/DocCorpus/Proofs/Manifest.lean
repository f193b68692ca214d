/-
  Sets, their labels and their slugs. Declarations are compiled exactly if no label and no slug
  repeats (`ofDeclarations_eq_ok_iff`), so that either finds the one set that has it.
-/
import DocCorpus.Manifest
import DocCorpus.Proofs.Identifier.Label
import DocCorpus.Proofs.Outcome
import Mathlib.Data.List.Nodup

namespace DocCorpus

/-! ## Compiled sets -/

namespace Organizer

/-- An organizer whose sets have different slugs. -/
structure Sound (o : Organizer) : Prop where
  nodup : (o.sets.map CompiledSet.slug).Nodup

/-- A declaration with its slug and its patterns, as an organizer keeps it. -/
def compiled (section_ : LlmsSection) (declaration : SetDeclaration) : CompiledSet where
  declaration
  slug := Label.slug declaration.label
  members := .ofPatterns declaration.patterns
  promote := (PatternSet.ofPatterns
    ((section_.setPromote.get? declaration.label).getD [])).chain (.ofPatterns section_.promote)
  slug_eq := rfl

/-- Declarations are compiled one by one, unless a label or a slug repeats. -/
theorem compileSets_eq_ok_iff {section_ : LlmsSection} {labels slugs : List String}
    {declarations : List SetDeclaration} {sets : List CompiledSet} :
    compileSets section_ labels slugs declarations = .ok sets ↔
      ((declarations.map SetDeclaration.label).Disjoint labels ∧
        (declarations.map SetDeclaration.label).Nodup) ∧
      ((declarations.map fun d => Label.slug d.label).Disjoint slugs ∧
        (declarations.map fun d => Label.slug d.label).Nodup) ∧
      sets = declarations.map (compiled section_) := by
  induction declarations generalizing labels slugs sets with
  | nil => simp [compileSets, eq_comm]
  | cons declaration rest ih =>
    unfold compileSets
    simp only [List.contains_iff_mem, List.map_cons, List.nodup_cons, List.disjoint_cons_left]
    by_cases hlabel : declaration.label ∈ labels
    · simp [hlabel]
    · by_cases hslug : Label.slug declaration.label ∈ slugs
      · simp [hlabel, hslug]
      · rw [if_neg hlabel, if_neg hslug, Outcome.bind_eq_ok_iff]
        simp only [ih, List.disjoint_cons_right]
        constructor
        · rintro ⟨others, ⟨⟨⟨hl, hl'⟩, hl''⟩, ⟨⟨hs, hs'⟩, hs''⟩, rfl⟩, h⟩
          injection h with h
          exact ⟨⟨⟨hlabel, hl'⟩, hl, hl''⟩, ⟨⟨hslug, hs'⟩, hs, hs''⟩, h.symm⟩
        · rintro ⟨⟨⟨-, hl'⟩, hl, hl''⟩, ⟨⟨-, hs'⟩, hs, hs''⟩, rfl⟩
          exact ⟨_, ⟨⟨⟨hl, hl'⟩, hl''⟩, ⟨⟨hs, hs'⟩, hs''⟩, rfl⟩, rfl⟩

/-- An organizer is made of declarations that repeat no label and no slug, and promote in no set
that is not declared. -/
theorem ofDeclarations_eq_ok_iff {project : Project} {section_ : LlmsSection} {o : Organizer} :
    ofDeclarations project section_ = .ok o ↔
      (section_.sets.map SetDeclaration.label).Nodup ∧
      (section_.sets.map fun d => Label.slug d.label).Nodup ∧
      strayPromotion? section_ = none ∧
      o = {
        project
        sets := section_.sets.map (compiled section_)
        rules := ⟨.ofPatterns section_.promote, .ofPatterns section_.demote⟩
        exclude := .ofPatterns section_.exclude
        links := section_.optionalLinks } := by
  unfold ofDeclarations
  rw [Outcome.bind_eq_ok_iff]
  simp only [compileSets_eq_ok_iff, List.disjoint_nil_right, true_and]
  constructor
  · rintro ⟨sets, ⟨hlabels, hslugs, rfl⟩, h⟩
    split at h
    · cases h
    · next hstray =>
      injection h with h
      exact ⟨hlabels, hslugs, hstray, h.symm⟩
  · rintro ⟨hlabels, hslugs, hstray, rfl⟩
    refine ⟨_, ⟨hlabels, hslugs, rfl⟩, ?_⟩
    rw [hstray]

theorem sound_of_ofDeclarations {project : Project} {section_ : LlmsSection} {o : Organizer}
    (h : ofDeclarations project section_ = .ok o) : o.Sound := by
  obtain ⟨-, hslugs, -, rfl⟩ := ofDeclarations_eq_ok_iff.1 h
  refine ⟨?_⟩
  rw [List.map_map]
  exact hslugs

theorem slugs_organize (o : Organizer) (documents : List Document) :
    (o.organize documents).sets.map ManifestSet.slug = o.sets.map CompiledSet.slug :=
  List.map_map ..

end Organizer

/-- Where no key repeats, a key finds the one item that has it. -/
theorem find?_key_eq_some_iff {α : Type} {key : α → String} {items : List α} {a : α} {k : String}
    (h : (items.map key).Nodup) : items.find? (key · = k) = some a ↔ a ∈ items ∧ key a = k := by
  constructor
  · intro hfind
    exact ⟨List.mem_of_find?_eq_some hfind, by simpa using List.find?_some hfind⟩
  · rintro ⟨ha, rfl⟩
    obtain ⟨found, hfound⟩ : ∃ found, items.find? (key · = key a) = some found := by
      rw [← Option.isSome_iff_exists, List.find?_isSome]
      exact ⟨a, ha, decide_eq_true rfl⟩
    have hkey : key found = key a := by simpa using List.find?_some hfound
    rw [hfound, List.inj_on_of_nodup_map h (List.mem_of_find?_eq_some hfound) ha hkey]

namespace Manifest

variable {m : Manifest} {s : ManifestSet}

theorem setBySlug?_eq_some_iff {slug : String} (h : (m.sets.map ManifestSet.slug).Nodup) :
    m.setBySlug? slug = some s ↔ s ∈ m.sets ∧ s.slug = slug :=
  find?_key_eq_some_iff h

theorem set_eq_ok_iff {label : String} (h : (m.sets.map ManifestSet.label).Nodup) :
    m.set label = .ok s ↔ s ∈ m.sets ∧ s.label = label := by
  rw [← find?_key_eq_some_iff h]
  unfold set
  cases m.sets.find? (·.label = label) <;> simp

end Manifest
end DocCorpus
