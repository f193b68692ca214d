/-
  The members of a set and the order of the collection. A set without promotions of its own lists
  its documents by the rules of the whole collection; as these commute with leaving out documents,
  the set and the collection agree on the order of what they share (`members_in_common_order`).
-/
import DocCorpus.Proofs.Manifest
import DocCorpus.Proofs.Precedence
import DocCorpus.Proofs.Site

namespace DocCorpus

/-! ## Organized sets -/

namespace Organizer

variable {o : Organizer} {section_ : LlmsSection} {declaration : SetDeclaration}

/-- Every declaration makes a set. -/
theorem mem_sets_organize {project : Project} (h : ofDeclarations project section_ = .ok o)
    (documents : List Document) (hdeclared : declaration ∈ section_.sets) :
    o.organizeSet documents (compiled section_ declaration) ∈ (o.organize documents).sets := by
  obtain ⟨-, -, -, ho⟩ := ofDeclarations_eq_ok_iff.1 h
  have hsets : o.sets = section_.sets.map (compiled section_) := by rw [ho]
  refine List.mem_map_of_mem ?_
  rw [hsets]
  exact List.mem_map_of_mem hdeclared

/-- The label of a declaration finds the set that was organized from it. -/
theorem set_organize {project : Project} (h : ofDeclarations project section_ = .ok o)
    (documents : List Document) (hdeclared : declaration ∈ section_.sets) :
    (o.organize documents).set declaration.label =
      .ok (o.organizeSet documents (compiled section_ declaration)) := by
  obtain ⟨hlabels, -, -, ho⟩ := ofDeclarations_eq_ok_iff.1 h
  have hsets : o.sets = section_.sets.map (compiled section_) := by rw [ho]
  have hnodup : ((o.organize documents).sets.map ManifestSet.label).Nodup := by
    unfold organize
    rw [hsets, List.map_map, List.map_map]
    exact hlabels
  exact (Manifest.set_eq_ok_iff hnodup).2 ⟨mem_sets_organize h documents hdeclared, rfl⟩

/-- A set of an organized collection is a declared one. -/
theorem exists_declaration {project : Project} (h : ofDeclarations project section_ = .ok o)
    {documents : List Document} {set : ManifestSet} (hset : set ∈ (o.organize documents).sets) :
    ∃ declaration ∈ section_.sets,
      set = o.organizeSet documents (compiled section_ declaration) := by
  obtain ⟨-, -, -, ho⟩ := ofDeclarations_eq_ok_iff.1 h
  have hsets : o.sets = section_.sets.map (compiled section_) := by rw [ho]
  obtain ⟨compiled, hcompiled, rfl⟩ := List.mem_map.1 hset
  rw [hsets] at hcompiled
  obtain ⟨declaration, hdeclared, rfl⟩ := List.mem_map.1 hcompiled
  exact ⟨declaration, hdeclared, rfl⟩

/-- The members of a set are the documents that its patterns match. -/
theorem mem_members_organizeSet {documents : List Document} {s : CompiledSet} {e : ManifestEntry} :
    e ∈ (o.organizeSet documents s).members ↔
      ∃ d ∈ documents, s.members.isMatch d.id = true ∧ e = .ofDocument d := by
  unfold organizeSet
  simp only [List.mem_map, (Precedence.arrange_perm _ Document.id _).mem_iff, List.mem_filter,
    and_assoc, eq_comm]

/-- The members of a set are documents of the collection. -/
theorem exists_document {documents : List Document} {set : ManifestSet} {e : ManifestEntry}
    (hset : set ∈ (o.organize documents).sets) (he : e ∈ set.members) :
    ∃ d ∈ documents, e = .ofDocument d := by
  obtain ⟨compiled, -, rfl⟩ := List.mem_map.1 hset
  obtain ⟨d, hd, -, rfl⟩ := mem_members_organizeSet.1 he
  exact ⟨d, hd, rfl⟩

/-- A document that the patterns of a declaration match is a member of a set. -/
theorem exists_member {project : Project} (h : ofDeclarations project section_ = .ok o)
    {documents : List Document} (hdeclared : declaration ∈ section_.sets) {d : Document}
    (hd : d ∈ documents)
    (hmatched : (PatternSet.ofPatterns declaration.patterns).isMatch d.id = true) :
    ∃ set ∈ (o.organize documents).sets, ManifestEntry.ofDocument d ∈ set.members :=
  ⟨_, mem_sets_organize h documents hdeclared, mem_members_organizeSet.2 ⟨d, hd, hmatched, rfl⟩⟩

theorem ids_of_entries (documents : List Document) :
    (documents.map ManifestEntry.ofDocument).map ManifestEntry.id = documents.map Document.id := by
  rw [List.map_map]
  rfl

/-- A set that promotes nothing of its own goes by the rules of the collection. -/
theorem promote_compiled (h : section_.setPromote.get? declaration.label = none) :
    (compiled section_ declaration).promote = .ofPatterns section_.promote := by
  unfold compiled
  rw [h]
  rfl

end Organizer

/-! ## Common order -/

namespace Site

/-- What a set without promotions of its own lists, without the excluded documents, is what the
whole collection lists of it, in the same order. -/
theorem members_in_common_order {config : Configuration} {policy : ExportPolicy} {site : Site}
    (hsite : ofConfiguration config policy = .ok site) (documents : List Document)
    {declaration : SetDeclaration} (hdeclared : declaration ∈ config.llms.sets)
    (hown : config.llms.setPromote.get? declaration.label = none) :
    ∃ set, (site.manifest documents).set declaration.label = .ok set ∧
      ((site.organizer.orderDocuments documents).filter fun d =>
          (PatternSet.ofPatterns declaration.patterns).isMatch d.id).map Document.id =
        (set.members.filter fun e =>
          !(PatternSet.ofPatterns config.llms.exclude).isMatch e.id).map ManifestEntry.id := by
  obtain ⟨horganizer, -⟩ := ofConfiguration_eq_ok_iff.1 hsite
  obtain ⟨-, -, -, ho⟩ := Organizer.ofDeclarations_eq_ok_iff.1 horganizer
  have hrules : site.organizer.rules =
      ⟨.ofPatterns config.llms.promote, .ofPatterns config.llms.demote⟩ := by
    rw [ho]
  have hexclude : site.organizer.exclude = .ofPatterns config.llms.exclude := by rw [ho]
  refine ⟨_, Organizer.set_organize horganizer documents hdeclared, ?_⟩
  unfold Organizer.organizeSet Organizer.orderDocuments
  dsimp only
  rw [Organizer.promote_compiled hown, hrules, hexclude, List.filter_map, Organizer.ids_of_entries]
  exact congrArg (List.map Document.id) (Precedence.filter_arrange_comm _ _ documents)

/-- One set with promotions of its own and one without, and some documents left out. -/
def mixedSets : Configuration :=
  { Configuration.default with
    llms := { Configuration.default.llms with
      promote := ["guides/start", "index"]
      demote := ["**/old"]
      exclude := ["**/draft"]
      sets := [⟨"Guides", "How to", ["guides/**"]⟩, ⟨"All", "", ["**"]⟩]
      setPromote := .ofList [("All", ["api/**"])] } }

def mixedDocuments : List Document :=
  ["guides/old", "guides/a", "api/x", "guides/draft", "guides/start", "index", "guides/b"].map
    fun id => ⟨id, .empty, ""⟩

theorem members_in_common_order_guides :
    ∃ site, ofConfiguration mixedSets .anyone = .ok site ∧
      SetDeclaration.mk "Guides" "How to" ["guides/**"] ∈ mixedSets.llms.sets ∧
      mixedSets.llms.setPromote.get? "Guides" = none ∧
      ∃ set, (site.manifest mixedDocuments).set "Guides" = .ok set ∧
        ((site.organizer.orderDocuments mixedDocuments).filter fun d =>
            (PatternSet.ofPatterns ["guides/**"]).isMatch d.id).map Document.id =
          (set.members.filter fun e =>
            !(PatternSet.ofPatterns ["**/draft"]).isMatch e.id).map ManifestEntry.id := by
  have hok : (ofConfiguration mixedSets .anyone).isOk = true := by decide +kernel
  obtain ⟨site, hsite⟩ := Outcome.exists_of_isOk hok
  have hdeclared : SetDeclaration.mk "Guides" "How to" ["guides/**"] ∈ mixedSets.llms.sets :=
    List.mem_cons_self
  have hown : mixedSets.llms.setPromote.get? "Guides" = none := by decide
  exact ⟨site, hsite, hdeclared, hown,
    members_in_common_order hsite mixedDocuments hdeclared hown⟩

end Site
end DocCorpus
