/-
  What a site builds. Its artifacts stand under paths of their own, one file for each of its sets in
  the set directory (`regular_of_artifacts`); a build that succeeds has written them, and tells what
  it has written (`build_eq_ok_iff`).
-/
import DocCorpus.Proofs.Artifacts.Rebuilding
import DocCorpus.Proofs.Manifest
import DocCorpus.Site

namespace DocCorpus

/-! ## Paths of set files -/

namespace LlmsText

theorem setPath_eq (slug : String) : setPath slug = setDirectory ++ "/" ++ (slug ++ ".txt") := by
  unfold setPath
  rw [String.append_assoc]

theorem setPath_inj {slug slug' : String} : setPath slug = setPath slug' ↔ slug = slug' := by
  unfold setPath
  rw [String.append_left_inj, String.append_right_inj]

theorem segments_setPath {slug : String} (h : '/' ∉ slug.toList) :
    (Path.mk (setPath slug)).segments = [setDirectory.toList, (slug ++ ".txt").toList] := by
  rw [setPath_eq]
  exact Path.segments_pair (by decide) (by simp [h])

theorem lasting_setPath {slug : String} (h : '/' ∉ slug.toList) :
    Artifacts.Lasting (setPath slug) where
  canonical := by
    unfold Path.Canonical
    rw [segments_setPath h]
    have hlength : 4 ≤ (slug ++ ".txt").toList.length := by
      rw [String.toList_append, List.length_append]
      exact Nat.le_add_left 4 _
    refine List.forall_mem_cons.2 ⟨by decide, List.forall_mem_singleton.2 ?_⟩
    generalize (slug ++ ".txt").toList = name at hlength
    refine ⟨?_, ?_, ?_⟩ <;> rintro rfl <;> exact absurd hlength (by decide)
  notPassing := by
    unfold Path.parts
    rw [segments_setPath h, List.map_cons, List.map_singleton, String.ofList_toList,
      String.ofList_toList]
    refine Artifacts.not_passing (List.getLast?_concat (l := [setDirectory])) ?_
    rw [String.toList_append, List.getLast?_append]
    exact show some 't' ≠ some 'p' by decide

theorem head?_setPath (slug : String) : (setPath slug).toList.head? = some '_' := by
  rw [setPath_eq, String.append_assoc, String.toList_append]
  rfl

end LlmsText

namespace Site

variable {site : Site} {documents : List Document} {artifacts : List Artifact}

/-- A site is made of a configuration whose set declarations are accepted. -/
theorem ofConfiguration_eq_ok_iff {config : Configuration} {policy : ExportPolicy} :
    ofConfiguration config policy = .ok site ↔
      Organizer.ofConfiguration config = .ok site.organizer ∧
      site.config = config ∧ site.policy = policy := by
  unfold ofConfiguration
  rw [Outcome.bind_eq_ok_iff]
  constructor
  · rintro ⟨organizer, horganizer, h⟩
    injection h with h
    subst h
    exact ⟨horganizer, rfl, rfl⟩
  · rintro ⟨horganizer, rfl, rfl⟩
    exact ⟨_, horganizer, rfl⟩

theorem project_of_ofConfiguration {config : Configuration} {policy : ExportPolicy}
    (h : ofConfiguration config policy = .ok site) (documents : List Document) :
    (site.manifest documents).project = .ofConfiguration config := by
  obtain ⟨horganizer, -⟩ := ofConfiguration_eq_ok_iff.1 h
  obtain ⟨-, -, -, ho⟩ := Organizer.ofDeclarations_eq_ok_iff.1 horganizer
  show site.organizer.project = _
  rw [ho]

/-! ## Artifacts -/

/-- The artifacts that every site has, and then one for each set. -/
theorem artifacts_eq_ok (h : site.artifacts documents = .ok artifacts) :
    ∃ exported, Export.serialize documents = .ok exported ∧
      artifacts =
        [.ofText exportName exported, .ofText LlmsText.indexName (site.indexText documents),
          .ofText LlmsText.fullName (site.fullText documents),
          .ofText LlmsText.smallName (site.smallText documents)] ++
        (site.manifest documents).sets.map fun set =>
          .ofText (LlmsText.setPath set.slug)
            (LlmsText.setFile (site.manifest documents).project set documents) := by
  obtain ⟨exported, hexported, h⟩ := Outcome.bind_eq_ok_iff.1 h
  injection h with h
  exact ⟨exported, hexported, h.symm⟩

/-- A site has artifacts exactly if its documents have an export. -/
theorem exists_artifacts_iff :
    (∃ artifacts, site.artifacts documents = .ok artifacts) ↔
      ∃ exported, Export.serialize documents = .ok exported := by
  constructor
  · rintro ⟨artifacts, h⟩
    obtain ⟨exported, hexported, -⟩ := artifacts_eq_ok h
    exact ⟨exported, hexported⟩
  · rintro ⟨exported, hexported⟩
    exact ⟨_, Outcome.bind_eq_ok_iff.2 ⟨exported, hexported, rfl⟩⟩

theorem sound_of_ofConfiguration {config : Configuration} {policy : ExportPolicy}
    (h : ofConfiguration config policy = .ok site) : site.organizer.Sound :=
  Organizer.sound_of_ofDeclarations (ofConfiguration_eq_ok_iff.1 h).1

theorem nodup_slugs (h : site.organizer.Sound) (documents : List Document) :
    ((site.manifest documents).sets.map ManifestSet.slug).Nodup := by
  unfold manifest
  rw [Organizer.slugs_organize]
  exact h.nodup

/-! ## Set files -/

/-- The text of a set is found under the slug of the set. -/
theorem setText?_of_mem (hsound : site.organizer.Sound) {set : ManifestSet}
    (hset : set ∈ (site.manifest documents).sets) :
    site.setText? documents set.slug =
      some (LlmsText.setFile (site.manifest documents).project set documents) := by
  unfold setText?
  dsimp only
  rw [(Manifest.setBySlug?_eq_some_iff (nodup_slugs hsound documents)).2 ⟨hset, rfl⟩]
  rfl

theorem exists_mem_of_setText? (hsound : site.organizer.Sound) {slug text : String}
    (h : site.setText? documents slug = some text) :
    ∃ set ∈ (site.manifest documents).sets, set.slug = slug := by
  obtain ⟨set, hset, _⟩ := Option.map_eq_some_iff.1 h
  exact ⟨set, (Manifest.setBySlug?_eq_some_iff (nodup_slugs hsound documents)).1 hset⟩

/-! ## Paths of artifacts -/

/-- The paths that no set has. -/
def namedPaths : List String :=
  [exportName, LlmsText.indexName, LlmsText.fullName, LlmsText.smallName]

theorem lasting_of_mem_namedPaths : ∀ path ∈ namedPaths, Artifacts.Lasting path := by
  refine List.forall_mem_cons.2 ⟨?_, List.forall_mem_cons.2 ⟨?_, List.forall_mem_cons.2 ⟨?_,
    List.forall_mem_singleton.2 ?_⟩⟩⟩ <;>
  exact ⟨by decide, Artifacts.not_passing rfl (by decide)⟩

theorem setPath_not_mem {slug : String} :
    LlmsText.setPath slug ∉ ArtifactReport.fileName :: namedPaths := by
  intro h
  have key : ∀ path ∈ ArtifactReport.fileName :: namedPaths, path.toList.head? ≠ some '_' := by
    decide
  exact key _ h (LlmsText.head?_setPath slug)

theorem paths_of_artifacts (h : site.artifacts documents = .ok artifacts) :
    artifacts.map Artifact.path =
      namedPaths ++ ((site.manifest documents).sets.map ManifestSet.slug).map LlmsText.setPath := by
  obtain ⟨exported, _, rfl⟩ := artifacts_eq_ok h
  rw [List.map_append, List.map_map, List.map_map]
  rfl

/-- The artifacts of a site have different paths, none of them the report's. -/
theorem regular_of_artifacts (hsound : site.organizer.Sound)
    (h : site.artifacts documents = .ok artifacts) (time : String) :
    (Artifacts.Build.mk time artifacts).Regular := by
  have hpaths := paths_of_artifacts h
  have hall : ∀ path ∈ artifacts.map Artifact.path,
      Artifacts.Lasting path ∧ path ≠ ArtifactReport.fileName := by
    rw [hpaths]
    refine List.forall_mem_append.2 ⟨fun path hpath => ?_, fun path hpath => ?_⟩
    · have key : ∀ path ∈ namedPaths, path ≠ ArtifactReport.fileName := by decide
      exact ⟨lasting_of_mem_namedPaths path hpath, key path hpath⟩
    · obtain ⟨slug, hslug, rfl⟩ := List.mem_map.1 hpath
      obtain ⟨set, hset, rfl⟩ := List.mem_map.1 hslug
      refine ⟨?_, fun heq => setPath_not_mem (List.mem_cons.2 (.inl heq))⟩
      rw [set.slug_eq]
      exact LlmsText.lasting_setPath (Label.not_mem_slug (by decide) (by decide) set.label)
  refine ⟨fun a ha => (hall _ (List.mem_map_of_mem ha)).1,
    fun a ha => (hall _ (List.mem_map_of_mem ha)).2, ?_⟩
  change (artifacts.map Artifact.path).Nodup
  rw [hpaths, List.nodup_append']
  refine ⟨by decide, (nodup_slugs hsound documents).map fun _ _ => LlmsText.setPath_inj.1, ?_⟩
  intro path hnamed hset
  obtain ⟨slug, _, rfl⟩ := List.mem_map.1 hset
  exact setPath_not_mem (List.mem_cons_of_mem _ hnamed)

/-! ## Builds -/

/-- Without a sidebar there is nothing that may not hold. -/
theorem navigation_of_no_sidebar (h : site.config.sidebar = []) (documents : List Document) :
    site.navigation documents = .ok ⟨[]⟩ := by
  unfold navigation Navigation.ofDeclaration
  rw [h, Sidebar.lowerRoots, Outcome.ok_bind]
  unfold NavBuilder.build
  change (NavBuilder.unfoldAll [] _ [] []).map Navigation.mk = _
  rw [NavBuilder.unfoldAll]
  rfl

/-- A build gives a result exactly if the collection is read, the sidebar holds, everything renders
and is written. -/
theorem build_eq_ok_iff {collection : Except Failure (List Document)} {out : Path} {time : String}
    {t t' : FileTree} {summary : BuildSummary} :
    Disk.runOn t (site.build collection out time) = (.ok summary, t') ↔
      ∃ documents navigation artifacts report, collection = .ok documents ∧
        site.navigation documents = .ok navigation ∧ site.artifacts documents = .ok artifacts ∧
        Disk.runOn t (Artifacts.write out time artifacts) = (.ok report, t') ∧
        summary = ⟨documents.length, site.config.llms.sets.length, report⟩ := by
  constructor
  · intro h
    obtain ⟨documents, _, hcollection, h⟩ := Disk.runOn_bind_eq_ok_iff.1 h
    rw [Disk.runOn_lift] at hcollection
    obtain ⟨hdocuments, rfl⟩ := Prod.mk.inj hcollection
    obtain ⟨navigation, _, hlift, h⟩ := Disk.runOn_bind_eq_ok_iff.1 h
    rw [Disk.runOn_lift] at hlift
    obtain ⟨hnavigation, rfl⟩ := Prod.mk.inj hlift
    obtain ⟨artifacts, _, hlift, h⟩ := Disk.runOn_bind_eq_ok_iff.1 h
    rw [Disk.runOn_lift] at hlift
    obtain ⟨hartifacts, rfl⟩ := Prod.mk.inj hlift
    obtain ⟨report, _, hwritten, hpure⟩ := Disk.runOn_bind_eq_ok_iff.1 h
    rw [Disk.runOn_pure] at hpure
    obtain ⟨hsummary, rfl⟩ := Prod.mk.inj hpure
    exact ⟨documents, navigation, artifacts, report, hdocuments, hnavigation, hartifacts, hwritten,
      (Except.ok.inj hsummary).symm⟩
  · rintro ⟨documents, navigation, artifacts, report, rfl, hnavigation, hartifacts, hwritten, rfl⟩
    unfold build
    refine Disk.runOn_bind_eq_ok_iff.2 ⟨documents, t, rfl, ?_⟩
    refine Disk.runOn_bind_eq_ok_iff.2 ⟨navigation, t, Prod.ext hnavigation rfl, ?_⟩
    refine Disk.runOn_bind_eq_ok_iff.2 ⟨artifacts, t, Prod.ext hartifacts rfl, ?_⟩
    exact Disk.runOn_bind_eq_ok_iff.2 ⟨report, t', hwritten, rfl⟩

end Site
end DocCorpus
