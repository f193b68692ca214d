/-
  The texts of a set. A set is listed by the identifiers of its documents, and its file is made by
  looking these up again. Where no identifier repeats, the look-up gives the documents back
  (`map_find?_eq`). So the listing of a set, its file and its section of the index are all about
  the documents that its patterns match, once each and in one order (`texts_of_set_agree`); what
  the file holds for a document and the section for a link is told in full.
-/
import DocCorpus.Proofs.LlmsText.Rendering
import DocCorpus.Proofs.Precedence.Blocks
import DocCorpus.Proofs.Site.Sets

namespace DocCorpus

theorem PatternSet.isMatch_ofPatterns (patterns : List String) (id : String) :
    (ofPatterns patterns).isMatch id = patterns.any fun p => (Glob.ofPattern p).isMatch id := by
  unfold isMatch firstMatch? ofPatterns
  rw [List.findIdx?_isSome, List.any_map]
  rfl

namespace LlmsText

variable {documents members : List Document} {d : Document}

/-! ## Look-up by identifier -/

/-- Where no identifier repeats, an identifier finds the one document that has it. -/
theorem find?_eq_some_iff (hids : (documents.map Document.id).Nodup) {id : String} :
    find? documents id = some d ↔ d ∈ documents ∧ d.id = id := by
  have hreverse : (documents.reverse.map Document.id).Nodup := by
    rw [List.map_reverse, List.nodup_reverse]
    exact hids
  unfold find?
  rw [find?_key_eq_some_iff hreverse, List.mem_reverse]

/-- Documents that are listed by their identifiers are all found again, each in its place. -/
theorem map_find?_eq (hids : (documents.map Document.id).Nodup) (hsub : members ⊆ documents) :
    (members.map ManifestEntry.ofDocument).map (fun e => find? documents e.id) =
      members.map some := by
  rw [List.map_map]
  apply List.map_congr_left
  intro d hd
  exact (find?_eq_some_iff hids).2 ⟨hsub hd, rfl⟩

theorem filterMap_find?_eq (hids : (documents.map Document.id).Nodup)
    (hsub : members ⊆ documents) :
    (members.map ManifestEntry.ofDocument).filterMap (fun e => find? documents e.id) = members := by
  have hfound := congrArg (List.filterMap id) (map_find?_eq hids hsub)
  rw [List.filterMap_map, List.filterMap_map (f := some)] at hfound
  exact hfound.trans List.filterMap_some

/-! ## The file and the section of a set -/

variable {declaration : SetDeclaration} {s : ManifestSet}

theorem setFileText_setFile (hids : (documents.map Document.id).Nodup) (hsub : members ⊆ documents)
    (hstands : s.StandsFor declaration) (hlisted : s.members = members.map .ofDocument)
    (project : Project) :
    SetFileText project.name declaration.label members (setFile project s documents) := by
  unfold setFile
  rw [hlisted, filterMap_find?_eq hids hsub, hstands.label]
  exact setFileText_bundle project.name declaration.label members

/-- Every set has its block among the parts of the index, without the blanks at its end. -/
theorem exists_part {m : Manifest} {s : ManifestSet} (hs : s ∈ m.sets) :
    ∃ front part back, Text.EndTrimmed (setBlock m.project.baseUrl s).toList part.toList ∧
      (blocks m).map trimTextEnd = front ++ part :: back ∧
      index m = String.intercalate "\n\n" (front ++ part :: back) ++ "\n" := by
  have hblock : setBlock m.project.baseUrl s ∈ blocks m := by
    have hmem : setBlock m.project.baseUrl s ∈ m.sets.map (setBlock m.project.baseUrl) :=
      List.mem_map_of_mem hs
    unfold blocks
    exact List.mem_append_left _ (List.mem_append_right _ hmem)
  have hpart : trimTextEnd (setBlock m.project.baseUrl s) ∈ (blocks m).map trimTextEnd :=
    List.mem_map_of_mem hblock
  obtain ⟨front, back, hparts⟩ := List.mem_iff_append.1 hpart
  refine ⟨front, trimTextEnd (setBlock m.project.baseUrl s), back,
    Text.endTrimmed_iff.2 String.toList_ofList, hparts, ?_⟩
  rw [← hparts]
  rfl

end LlmsText

/-! ## Sets of a site -/

/-- The set of a declaration lists documents that the patterns match, and lists all of these. -/
theorem Organizer.exists_set_of_matched {o : Organizer} {project : Project}
    {section_ : LlmsSection} {declaration : SetDeclaration}
    (h : ofDeclarations project section_ = .ok o) (documents : List Document)
    (hdeclared : declaration ∈ section_.sets) :
    ∃ set ∈ (o.organize documents).sets, set.StandsFor declaration ∧
      (o.organize documents).set declaration.label = .ok set ∧
      ∃ members : List Document, set.members = members.map .ofDocument ∧
        members.Perm (documents.filter fun d =>
          declaration.patterns.any fun pattern => (Glob.ofPattern pattern).isMatch d.id) := by
  refine ⟨_, mem_sets_organize h documents hdeclared, ⟨rfl, rfl, rfl, rfl⟩,
    set_organize h documents hdeclared, _, rfl, (Precedence.arrange_perm _ Document.id _).trans ?_⟩
  apply List.Perm.of_eq
  apply List.filter_congr
  intro d _
  exact PatternSet.isMatch_ofPatterns declaration.patterns d.id

namespace Site

/-- A declared set and its texts are about the documents `members`. -/
structure About (site : Site) (documents : List Document) (declaration : SetDeclaration)
    (members : List Document) : Prop where
  /-- They are the documents that the patterns match, and no others. -/
  matched : members.Perm (documents.filter fun d =>
    declaration.patterns.any fun pattern => (Glob.ofPattern pattern).isMatch d.id)
  once : (members.map Document.id).Nodup
  /-- The set lists them in this order, and each is found under the identifier that is listed. -/
  listed : ∃ set, (site.manifest documents).set declaration.label = .ok set ∧
    set.members = members.map .ofDocument ∧
    set.members.map (fun e => LlmsText.find? documents e.id) = members.map some
  /-- The file of the set holds them in this order, and an artifact is the same text. -/
  file : ∃ text, LlmsText.SetFileText site.config.projectName declaration.label members text ∧
    site.setText? documents (Label.slug declaration.label) = some text ∧
    ∀ artifacts, site.artifacts documents = .ok artifacts →
      .ofText (LlmsText.setPath (Label.slug declaration.label)) text ∈ artifacts
  /-- One of the parts that the index is made of is about them. -/
  indexed : ∃ front text part back,
    LlmsText.SectionText (site.manifest documents).project.baseUrl declaration members text ∧
    Text.EndTrimmed text.toList part.toList ∧
    (LlmsText.blocks (site.manifest documents)).map LlmsText.trimTextEnd = front ++ part :: back ∧
    site.indexText documents = String.intercalate "\n\n" (front ++ part :: back) ++ "\n"

/-- The listing of a declared set, its file and its section of the index agree: all are about the
documents that the patterns of the set match, each once, in the order of the listing. -/
theorem texts_of_set_agree {config : Configuration} {policy : ExportPolicy} {site : Site}
    (hsite : ofConfiguration config policy = .ok site) {documents : List Document}
    (hids : (documents.map Document.id).Nodup) {declaration : SetDeclaration}
    (hdeclared : declaration ∈ config.llms.sets) :
    ∃ members, site.About documents declaration members := by
  obtain ⟨horganizer, hconfig, -⟩ := ofConfiguration_eq_ok_iff.1 hsite
  obtain ⟨set, hset, hstands, hfound, members, hlisted, hperm⟩ :=
    Organizer.exists_set_of_matched horganizer documents hdeclared
  have hsub : members ⊆ documents := fun d hd => (List.mem_filter.1 (hperm.mem_iff.1 hd)).1
  have hproject : (site.manifest documents).project.name = site.config.projectName := by
    rw [project_of_ofConfiguration hsite, hconfig]
    rfl
  have hfile := LlmsText.setFileText_setFile hids hsub hstands hlisted
    (site.manifest documents).project
  rw [hproject] at hfile
  refine ⟨members, hperm, ?_, ⟨set, hfound, hlisted, ?_⟩, ⟨_, hfile, ?_, ?_⟩, ?_⟩
  · have hnodup : ((documents.filter fun d => declaration.patterns.any fun pattern =>
        (Glob.ofPattern pattern).isMatch d.id).map Document.id).Nodup :=
      hids.sublist (List.filter_sublist.map Document.id)
    exact ((hperm.map Document.id).nodup_iff).2 hnodup
  · rw [hlisted]
    exact LlmsText.map_find?_eq hids hsub
  · rw [← hstands.slug]
    exact setText?_of_mem (sound_of_ofConfiguration hsite) hset
  · intro artifacts hartifacts
    obtain ⟨exported, -, rfl⟩ := artifacts_eq_ok hartifacts
    rw [← hstands.slug]
    exact List.mem_append_right _ (List.mem_map_of_mem hset)
  · obtain ⟨front, part, back, htrimmed, hparts, hindex⟩ := LlmsText.exists_part hset
    exact ⟨front, _, part, back, LlmsText.sectionText_setBlock hstands.label hstands.description
      hlisted, htrimmed, hparts, hindex⟩

/-- Documents with and without a title, a description and a body, one of them promoted. -/
def shownDocuments : List Document :=
  [⟨"guides/old-ways", .empty, " \n"⟩,
    ⟨"guides/a", ⟨[("title", .text "First steps"), ("description", .text " All you need ")]⟩,
      "\n## Setup\n\nText\n"⟩,
    ⟨"index", .empty, "Home"⟩,
    ⟨"guides/start", ⟨[("description", .text "\t")]⟩, "Go"⟩]

theorem texts_of_set_agree_shown :
    ∃ site, ofConfiguration mixedSets .anyone = .ok site ∧
      (shownDocuments.map Document.id).Nodup ∧
      SetDeclaration.mk "Guides" "How to" ["guides/**"] ∈ mixedSets.llms.sets ∧
      (∃ members, site.About shownDocuments ⟨"Guides", "How to", ["guides/**"]⟩ members) ∧
      site.setText? shownDocuments "guides" = some
        ("<SYSTEM>This is the developer documentation for Guides in Documentation.</SYSTEM>\n" ++
          "\n# Start\n\nGo\n" ++ "\n# Old Ways\n" ++
          "\n# First steps\n\n> All you need\n\n## Setup\n\nText\n") := by
  have hok : (ofConfiguration mixedSets .anyone).isOk = true := by decide +kernel
  obtain ⟨site, hsite⟩ := Outcome.exists_of_isOk hok
  have hids : (shownDocuments.map Document.id).Nodup := by decide
  have hdeclared : SetDeclaration.mk "Guides" "How to" ["guides/**"] ∈ mixedSets.llms.sets :=
    List.mem_cons_self
  have htext : (ofConfiguration mixedSets .anyone).toOption.bind
      (fun s => s.setText? shownDocuments "guides") = some
        ("<SYSTEM>This is the developer documentation for Guides in Documentation.</SYSTEM>\n" ++
          "\n# Start\n\nGo\n" ++ "\n# Old Ways\n" ++
          "\n# First steps\n\n> All you need\n\n## Setup\n\nText\n") := by
    unfold setText? manifest Organizer.organize Organizer.organizeSet
    simp only [Precedence.arrange_eq_flatMap]
    decide +kernel
  rw [hsite] at htext
  exact ⟨site, hsite, hids, hdeclared, texts_of_set_agree hsite hids hdeclared, htext⟩

end Site
end DocCorpus
