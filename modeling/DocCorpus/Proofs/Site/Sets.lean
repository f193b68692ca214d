/-
  Sets told apart. Declarations are accepted exactly if no two sets share a label or a slug and
  promotions are declared for declared sets only. Then a set is found by its label and by its slug,
  and has an artifact of its own (`sets_told_apart`).
-/
import DocCorpus.Proofs.Members
import DocCorpus.Proofs.Table

namespace DocCorpus

/-- A set as it is declared, under the slug of its label. -/
structure ManifestSet.StandsFor (s : ManifestSet) (declaration : SetDeclaration) : Prop where
  label : s.label = declaration.label
  slug : s.slug = Label.slug declaration.label
  description : s.description = declaration.description
  patterns : s.patterns = declaration.patterns

namespace Organizer

variable {project : Project} {section_ : LlmsSection} {o : Organizer}

/-! ## Accepted declarations -/

/-- The keys of promotions that are not for a declared set. -/
def strayKeys (section_ : LlmsSection) : Set String :=
  {key | key ∈ section_.setPromote.keys ∧ key ∉ section_.sets.map SetDeclaration.label}

theorem strayPromotion?_eq_some_iff {key : String} :
    strayPromotion? section_ = some key ↔ IsLeast (strayKeys section_) key := by
  have hstray : strayKeys section_ = {k | k ∈ section_.setPromote.keys ∧
      (!(section_.sets.map SetDeclaration.label).contains k) = true} := by
    ext k
    simp [strayKeys]
  rw [hstray]
  exact Table.find?_keys_eq_some_iff

theorem strayPromotion?_eq_none_iff :
    strayPromotion? section_ = none ↔
      ∀ key ∈ section_.setPromote.keys, key ∈ section_.sets.map SetDeclaration.label := by
  unfold strayPromotion?
  rw [List.find?_eq_none]
  simp

theorem exists_ofDeclarations_iff :
    (∃ o, ofDeclarations project section_ = .ok o) ↔
      (section_.sets.map SetDeclaration.label).Nodup ∧
      (section_.sets.map fun d => Label.slug d.label).Nodup ∧
      ∀ key ∈ section_.setPromote.keys, key ∈ section_.sets.map SetDeclaration.label := by
  rw [← strayPromotion?_eq_none_iff]
  constructor
  · rintro ⟨o, ho⟩
    obtain ⟨hlabels, hslugs, hstray, -⟩ := ofDeclarations_eq_ok_iff.1 ho
    exact ⟨hlabels, hslugs, hstray⟩
  · rintro ⟨hlabels, hslugs, hstray⟩
    exact ⟨_, ofDeclarations_eq_ok_iff.2 ⟨hlabels, hslugs, hstray, rfl⟩⟩

/-- Of several keys that no set has as its label, the least is told. -/
theorem ofDeclarations_eq_unknownSet {key : String}
    (hlabels : (section_.sets.map SetDeclaration.label).Nodup)
    (hslugs : (section_.sets.map fun d => Label.slug d.label).Nodup)
    (hstray : strayPromotion? section_ = some key) :
    ofDeclarations project section_ = .error (.unknownSet key) := by
  have hsets : compileSets section_ [] [] section_.sets =
      .ok (section_.sets.map (compiled section_)) :=
    compileSets_eq_ok_iff.2
      ⟨⟨List.disjoint_nil_right _, hlabels⟩, ⟨List.disjoint_nil_right _, hslugs⟩, rfl⟩
  unfold ofDeclarations
  rw [hsets, Outcome.ok_bind, hstray]

/-! ## Organized sets -/

theorem standsFor_of_organize (h : ofDeclarations project section_ = .ok o)
    (documents : List Document) :
    List.Forall₂ (fun declaration set => ManifestSet.StandsFor set declaration)
      section_.sets (o.organize documents).sets := by
  obtain ⟨-, -, -, rfl⟩ := ofDeclarations_eq_ok_iff.1 h
  unfold organize
  rw [List.map_map, List.forall₂_map_right_iff, List.forall₂_same]
  exact fun declaration _ => ⟨rfl, rfl, rfl, rfl⟩

theorem found_of_organize (h : ofDeclarations project section_ = .ok o)
    (documents : List Document) {set : ManifestSet} (hset : set ∈ (o.organize documents).sets) :
    (o.organize documents).set set.label = .ok set ∧
      (o.organize documents).setBySlug? set.slug = some set := by
  have hnodup : ((o.organize documents).sets.map ManifestSet.slug).Nodup := by
    rw [slugs_organize]
    exact (sound_of_ofDeclarations h).nodup
  refine ⟨?_, (Manifest.setBySlug?_eq_some_iff hnodup).2 ⟨hset, rfl⟩⟩
  obtain ⟨declaration, hdeclared, rfl⟩ := exists_declaration h hset
  exact set_organize h documents hdeclared

/-- Declarations are accepted exactly if labels and slugs do not repeat and promotions are for
declared sets only; where just the last fails, the least key that is no label is told. The accepted
sets are organized one for each declaration, in their order. Each is found by its label and by its
slug, and whenever the documents have an export, all artifacts of the site have different paths. -/
theorem sets_told_apart (project : Project) (section_ : LlmsSection) :
    ((∃ o, ofDeclarations project section_ = .ok o) ↔
      (section_.sets.map SetDeclaration.label).Nodup ∧
      (section_.sets.map fun d => Label.slug d.label).Nodup ∧
      ∀ key ∈ section_.setPromote.keys, key ∈ section_.sets.map SetDeclaration.label) ∧
    ((section_.sets.map SetDeclaration.label).Nodup →
      (section_.sets.map fun d => Label.slug d.label).Nodup →
      (strayKeys section_).Nonempty →
      ∃ key, IsLeast (strayKeys section_) key ∧
        ofDeclarations project section_ = .error (.unknownSet key)) ∧
    ∀ o, ofDeclarations project section_ = .ok o → ∀ documents : List Document,
      List.Forall₂ (fun declaration set => ManifestSet.StandsFor set declaration)
        section_.sets (o.organize documents).sets ∧
      (∀ set ∈ (o.organize documents).sets,
        (o.organize documents).set set.label = .ok set ∧
          (o.organize documents).setBySlug? set.slug = some set) ∧
      ∀ site : Site, site.organizer = o →
        ((∃ artifacts, site.artifacts documents = .ok artifacts) ↔
          ∃ exported, Export.serialize documents = .ok exported) ∧
        ∀ artifacts, site.artifacts documents = .ok artifacts →
          (artifacts.map Artifact.path).Nodup := by
  refine ⟨exists_ofDeclarations_iff, fun hlabels hslugs hstray => ?_,
    fun o h documents => ⟨standsFor_of_organize h documents,
      fun set hset => found_of_organize h documents hset, fun site hsite => ⟨?_, ?_⟩⟩⟩
  · obtain ⟨key, hkey, hnot⟩ := hstray
    have hsome : strayPromotion? section_ ≠ none :=
      fun hnone => hnot (strayPromotion?_eq_none_iff.1 hnone key hkey)
    obtain ⟨least, hleast⟩ := Option.ne_none_iff_exists'.1 hsome
    exact ⟨least, strayPromotion?_eq_some_iff.1 hleast,
      ofDeclarations_eq_unknownSet hlabels hslugs hleast⟩
  · exact Site.exists_artifacts_iff
  · intro artifacts hartifacts
    have hsound : site.organizer.Sound := hsite ▸ sound_of_ofDeclarations h
    exact (Site.regular_of_artifacts hsound hartifacts "").distinct

/-- Labels whose slugs are close to each other, one of them empty. -/
def closeLabels : LlmsSection :=
  { Configuration.default.llms with
    sets := [⟨"Build & Deploy", "", ["build/**"]⟩, ⟨"BUILD", "", ["b*"]⟩, ⟨"!", "", []⟩]
    setPromote := .ofList [("!", ["index"])] }

/-- Promotions for two sets that are not declared, one under a label in other letters. -/
def strayPromotions : LlmsSection :=
  { closeLabels with
    setPromote := .ofList [("Zeta", []), ("Build", ["build/a"]), ("!", ["index"])] }

theorem sets_told_apart_close :
    (∃ o, ofDeclarations ⟨"P", none, none, ""⟩ closeLabels = .ok o ∧
      List.Forall₂ (fun declaration set => ManifestSet.StandsFor set declaration)
        closeLabels.sets (o.organize [⟨"build", .empty, "x"⟩]).sets ∧
      (∀ set ∈ (o.organize [⟨"build", .empty, "x"⟩]).sets,
        (o.organize [⟨"build", .empty, "x"⟩]).set set.label = .ok set ∧
          (o.organize [⟨"build", .empty, "x"⟩]).setBySlug? set.slug = some set) ∧
      ∃ artifacts,
        Site.artifacts ⟨.default, o, .anyone⟩ [⟨"build", .empty, "x"⟩] = .ok artifacts ∧
        (artifacts.map Artifact.path).Nodup) ∧
    (strayKeys strayPromotions).Nonempty ∧
    ∃ key, IsLeast (strayKeys strayPromotions) key ∧
      ofDeclarations ⟨"P", none, none, ""⟩ strayPromotions = .error (.unknownSet key) := by
  constructor
  · obtain ⟨o, ho⟩ := (sets_told_apart ⟨"P", none, none, ""⟩ closeLabels).1.2
      ⟨by decide +kernel, by decide +kernel, by decide +kernel⟩
    obtain ⟨hsets, hfound, hsites⟩ :=
      (sets_told_apart ⟨"P", none, none, ""⟩ closeLabels).2.2 o ho [⟨"build", .empty, "x"⟩]
    obtain ⟨hexists, hpaths⟩ := hsites ⟨.default, o, .anyone⟩ rfl
    have hexported : (Export.serialize [⟨"build", .empty, "x"⟩]).isOk = true := by decide +kernel
    obtain ⟨artifacts, hartifacts⟩ := hexists.2 (Outcome.exists_of_isOk hexported)
    exact ⟨o, ho, hsets, hfound, artifacts, hartifacts, hpaths artifacts hartifacts⟩
  · have hstray : (strayKeys strayPromotions).Nonempty :=
      ⟨"Zeta", by unfold strayKeys; exact ⟨by decide, by decide⟩⟩
    exact ⟨hstray, (sets_told_apart ⟨"P", none, none, ""⟩ strayPromotions).2.1
      (by decide +kernel) (by decide +kernel) hstray⟩

end Organizer
end DocCorpus
