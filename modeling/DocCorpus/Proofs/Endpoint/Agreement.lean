/-
  The answers to requests and the files of a build. Both come from one collection, but on two ways:
  a build renders all files at once, a request names one file, for which its set is looked up. A
  request for a file that a build makes is answered with that file after one reading, and one for
  another file of the set directory is not found (`served_as_built`).
-/
import DocCorpus.Proofs.Endpoint.Access
import DocCorpus.Proofs.Site

namespace DocCorpus.Endpoint

open LlmsText (setDirectory setPath)

variable {site : Site} {r : Request} {documents : List Document} {artifacts : List Artifact}

/-! ## Routes -/

/-- A request for a file of the set directory, whose name is encoded in the path. -/
def AsksSetFile (r : Request) (file : List Char) : Prop :=
  ∃ name, pathOf r = setPathStart ++ name ∧ name ≠ [] ∧ '/' ∉ name ∧
    Percent.decode? name = some file

/-- A request for the artifact at a path. The export is asked for with the authorization that it
takes. -/
inductive Asks (site : Site) (r : Request) : String → Prop
  | export (path : pathOf r = "/api/docs.json".toList) (authorized : admits site r .export = true) :
    Asks site r Site.exportName
  | index (path : pathOf r = "/llms.txt".toList) : Asks site r LlmsText.indexName
  | full (path : pathOf r = "/llms-full.txt".toList) : Asks site r LlmsText.fullName
  | small (path : pathOf r = "/llms-small.txt".toList) : Asks site r LlmsText.smallName
  | setFile {file : List Char} (asks : AsksSetFile r file) :
    Asks site r (setDirectory ++ "/" ++ String.ofList file)

theorem route?_index : route? "/llms.txt".toList = some .index := rfl

theorem route?_full : route? "/llms-full.txt".toList = some .full := rfl

theorem route?_small : route? "/llms-small.txt".toList = some .small := rfl

theorem route?_setFile {name : List Char} (hne : name ≠ []) (hslash : '/' ∉ name) :
    route? (setPathStart ++ name) = some (.setFile name) := by
  have hstart : ∀ path ∈ ["/api/docs.json".toList, ("/" ++ LlmsText.indexName).toList,
      ("/" ++ LlmsText.fullName).toList, ("/" ++ LlmsText.smallName).toList],
      setPathStart ++ name ≠ path := by
    have key : ∀ path ∈ ["/api/docs.json".toList, ("/" ++ LlmsText.indexName).toList,
        ("/" ++ LlmsText.fullName).toList, ("/" ++ LlmsText.smallName).toList],
        path.tail.head? ≠ some '_' := by decide
    intro path hpath heq
    exact key path hpath (by rw [← heq]; rfl)
  unfold route?
  rw [if_neg (hstart _ (by simp)), if_neg (hstart _ (by simp)), if_neg (hstart _ (by simp)),
    if_neg (hstart _ (by simp)), Text.dropHead?_eq_some.2 rfl]
  exact if_pos ⟨hne, hslash⟩

/-- A request to read what a route leads to goes on to it. -/
theorem answer_of_route {route : Route} (hget : r.method = "GET")
    (hroute : route? (pathOf r) = some route) (hadmits : admits site r route = true) :
    answer site r = content site route := by
  unfold answer routed
  rw [hroute]
  dsimp only
  rw [hadmits, hget]
  rfl

/-! ## Set files -/

theorem answer_of_asksSetFile (site : Site) (hget : r.method = "GET") {file : List Char}
    (h : AsksSetFile r file) :
    ∃ name, Percent.decode? name = some file ∧ answer site r = setFileAnswer site name := by
  obtain ⟨name, hpath, hne, hslash, hdecode⟩ := h
  have hroute : route? (pathOf r) = some (.setFile name) := by
    rw [hpath]
    exact route?_setFile hne hslash
  exact ⟨name, hdecode, answer_of_route hget hroute rfl⟩

/-! ## Answers -/

/-- A request is answered with some content, after one reading of the collection. -/
structure Served (site : Site) (collection : Except Failure (List Document)) (r : Request)
    (content : ByteArray) : Prop where
  reads : (answer site r).reads = 1
  status : (respond site collection r).status = 200
  body : (respond site collection r).body.toUTF8 = content

theorem respond_of_get (hget : r.method = "GET") (collection : Except Failure (List Document)) :
    respond site collection r = (answer site r).respond collection := by
  unfold respond
  rw [hget]
  exact if_neg (by decide)

theorem served_of_rendered {render : List Document → Except Failure Response}
    {response : Response} (hget : r.method = "GET") (hanswer : answer site r = .rendered render)
    (hrender : render documents = .ok response) (hstatus : response.status = 200) :
    Served site (.ok documents) r response.body.toUTF8 := by
  have hresponse : respond site (.ok documents) r = response := by
    rw [respond_of_get hget, hanswer]
    unfold Answer.respond
    dsimp only
    rw [Outcome.ok_bind, hrender]
  refine ⟨?_, ?_, ?_⟩
  · rw [hanswer]
    rfl
  · rw [hresponse, hstatus]
  · rw [hresponse]

theorem served_setFile (hsound : site.organizer.Sound) (hget : r.method = "GET")
    {set : ManifestSet} (hset : set ∈ (site.manifest documents).sets) {file : List Char}
    (hasks : AsksSetFile r file) (hfile : String.ofList file = set.slug ++ ".txt") :
    Served site (.ok documents) r
      (LlmsText.setFile (site.manifest documents).project set documents).toUTF8 := by
  obtain ⟨name, hdecode, hanswer⟩ := answer_of_asksSetFile site hget hasks
  have hslug : Text.dropTail? ".txt".toList file = some set.slug.toList := by
    rw [Text.dropTail?_eq_some, ← String.toList_append, ← hfile, String.toList_ofList]
  unfold setFileAnswer at hanswer
  rw [hdecode] at hanswer
  dsimp only at hanswer
  rw [hslug] at hanswer
  refine served_of_rendered hget hanswer
    (?_ : _ = Except.ok (Response.plain 200
      (LlmsText.setFile (site.manifest documents).project set documents))) rfl
  rw [String.ofList_toList, Site.setText?_of_mem hsound hset]

/-- A request for an artifact is answered with it. -/
theorem exists_served (hsound : site.organizer.Sound)
    (hartifacts : site.artifacts documents = .ok artifacts) (hget : r.method = "GET")
    {path : String} (hasks : Asks site r path) (hpath : path ∈ artifacts.map Artifact.path) :
    ∃ a ∈ artifacts, a.path = path ∧ Served site (.ok documents) r a.content := by
  have hpaths := Site.paths_of_artifacts hartifacts
  obtain ⟨exported, hexported, hlist⟩ := Site.artifacts_eq_ok hartifacts
  cases hasks with
  | «export» hroute hadmits =>
    have hanswer : answer site r = content site .export :=
      answer_of_route hget (by rw [hroute, route?_export]) hadmits
    have hrender : (Export.serialize documents).map Response.json = .ok (.json exported) := by
      rw [hexported]
      rfl
    refine ⟨.ofText Site.exportName exported, ?_, rfl, served_of_rendered hget hanswer hrender rfl⟩
    simp [hlist]
  | index hroute =>
    have hanswer : answer site r = content site .index :=
      answer_of_route hget (by rw [hroute, route?_index]) rfl
    refine ⟨.ofText LlmsText.indexName (site.indexText documents), ?_, rfl,
      served_of_rendered hget hanswer rfl rfl⟩
    simp [hlist]
  | full hroute =>
    have hanswer : answer site r = content site .full :=
      answer_of_route hget (by rw [hroute, route?_full]) rfl
    refine ⟨.ofText LlmsText.fullName (site.fullText documents), ?_, rfl,
      served_of_rendered hget hanswer rfl rfl⟩
    simp [hlist]
  | small hroute =>
    have hanswer : answer site r = content site .small :=
      answer_of_route hget (by rw [hroute, route?_small]) rfl
    refine ⟨.ofText LlmsText.smallName (site.smallText documents), ?_, rfl,
      served_of_rendered hget hanswer rfl rfl⟩
    simp [hlist]
  | @setFile file hasks =>
    rw [hpaths, List.mem_append] at hpath
    rcases hpath with hnamed | hset
    · -- no other artifact has a path in the set directory
      have key : ∀ path ∈ Site.namedPaths, path.toList.head? ≠ some '_' := by decide
      refine absurd ?_ (key _ hnamed)
      rw [String.append_assoc, String.toList_append]
      rfl
    · obtain ⟨slug, hslug, heq⟩ := List.mem_map.1 hset
      obtain ⟨set, hset, rfl⟩ := List.mem_map.1 hslug
      rw [LlmsText.setPath_eq, String.append_right_inj] at heq
      refine ⟨.ofText (setPath set.slug)
        (LlmsText.setFile (site.manifest documents).project set documents), ?_, ?_,
        served_setFile hsound hget hset hasks heq.symm⟩
      · rw [hlist]
        exact List.mem_append_right _ (List.mem_map.2 ⟨set, hset, rfl⟩)
      · change setPath set.slug = _
        rw [LlmsText.setPath_eq, heq]

/-- A set file that is no artifact is not found. -/
theorem status_of_no_artifact (hsound : site.organizer.Sound)
    (hartifacts : site.artifacts documents = .ok artifacts) (hget : r.method = "GET")
    {file : List Char} (hasks : AsksSetFile r file)
    (hnone : setDirectory ++ "/" ++ String.ofList file ∉ artifacts.map Artifact.path) :
    (respond site (.ok documents) r).status = 404 := by
  obtain ⟨name, hdecode, hanswer⟩ := answer_of_asksSetFile site hget hasks
  rw [respond_of_get hget, hanswer]
  unfold setFileAnswer
  rw [hdecode]
  dsimp only
  split
  · rfl
  · next slug hslug =>
    have hnoText : site.setText? documents (String.ofList slug) = none := by
      rw [Option.eq_none_iff_forall_ne_some]
      intro text htext
      obtain ⟨set, hset, heq⟩ := Site.exists_mem_of_setText? hsound htext
      refine hnone ?_
      rw [Site.paths_of_artifacts hartifacts, Text.dropTail?_eq_some.1 hslug, String.ofList_append,
        String.ofList_toList, ← LlmsText.setPath_eq, ← heq]
      exact List.mem_append_right _ (List.mem_map_of_mem (List.mem_map_of_mem hset))
    unfold Answer.respond
    dsimp only
    rw [Outcome.ok_bind, hnoText]
    rfl

/-- A build that succeeds has made the export, the three texts and one file for each set, and has
told so; where it finds no files in its way, they are on disk. Over the same collection every
request for one of them is answered with it, after one reading, and a request for any other file
of the set directory is not found. -/
theorem served_as_built {config : Configuration} {policy : ExportPolicy}
    {collection : Except Failure (List Document)} {out : Path} {time : String} {t t' : FileTree}
    {summary : Site.BuildSummary} (hsite : Site.ofConfiguration config policy = .ok site)
    (hbuild : Disk.runOn t (site.build collection out time) = (.ok summary, t')) :
    ∃ documents artifacts, collection = .ok documents ∧ site.artifacts documents = .ok artifacts ∧
      summary.report = ⟨time, artifacts.map .ofArtifact⟩ ∧
      artifacts.map Artifact.path =
        [Site.exportName, LlmsText.indexName, LlmsText.fullName, LlmsText.smallName] ++
          (site.organizer.sets.map fun s => setPath s.slug) ∧
      (Artifacts.Ready out ⟨time, artifacts⟩ t →
        ∀ a ∈ artifacts, t'.readBytes (out.join ⟨a.path⟩) = .ok a.content) ∧
      ∀ r : Request, r.method = "GET" →
        (∀ a ∈ artifacts, Asks site r a.path → Served site collection r a.content) ∧
        ∀ file, AsksSetFile r file →
          (∀ a ∈ artifacts, a.path ≠ setDirectory ++ "/" ++ String.ofList file) →
            (respond site collection r).status = 404 := by
  have hsound := Site.sound_of_ofConfiguration hsite
  obtain ⟨documents, _, artifacts, report, rfl, _, hartifacts, hwritten, rfl⟩ :=
    Site.build_eq_ok_iff.1 hbuild
  have hregular := Site.regular_of_artifacts hsound hartifacts time
  have hreport := Artifacts.report_of_write (b := ⟨time, artifacts⟩) hwritten
  refine ⟨documents, artifacts, rfl, hartifacts, hreport, ?_, ?_,
    fun r hget => ⟨fun a ha hasks => ?_, fun file hasks hnone => ?_⟩⟩
  · rw [Site.paths_of_artifacts hartifacts]
    unfold Site.manifest
    rw [Organizer.slugs_organize, List.map_map]
    rfl
  · exact fun hready => Artifacts.readBytes_of_ready hready hregular hwritten
  · obtain ⟨other, hother, hpath, hserved⟩ :=
      exists_served hsound hartifacts hget hasks (List.mem_map_of_mem ha)
    rw [← List.inj_on_of_nodup_map hregular.distinct hother ha hpath]
    exact hserved
  · refine status_of_no_artifact hsound hartifacts hget hasks fun hmem => ?_
    obtain ⟨a, ha, hpath⟩ := List.mem_map.1 hmem
    exact hnone a ha hpath

/-- A site with a set whose slug is not ASCII, and one whose slug is empty. -/
def unusualSets : Configuration :=
  { Configuration.default with
    llms := { Configuration.default.llms with
      sets := [⟨"Élan", "Quick", ["a"]⟩, ⟨"!", "Empty", ["b"]⟩] } }

def oneDocument : List Document := [⟨"a", .empty, "x"⟩]

def emptyDisk : FileTree := ⟨["work"], [(["work"], .directory)]⟩

theorem served_as_built_unusual :
    ∃ site summary t', Site.ofConfiguration unusualSets .anyone = .ok site ∧
      Disk.runOn emptyDisk (site.build (.ok oneDocument) ⟨"out"⟩ "1") = (.ok summary, t') ∧
      (∃ content, t'.readBytes ((Path.mk "out").join ⟨"_llms-txt/élan.txt"⟩) = .ok content ∧
        Served site (.ok oneDocument) ⟨"/_llms-txt/%C3%A9lan.txt", "GET", none⟩ content) ∧
      (∃ content, t'.readBytes ((Path.mk "out").join ⟨"_llms-txt/.txt"⟩) = .ok content ∧
        Served site (.ok oneDocument) ⟨"/_llms-txt/.txt", "GET", none⟩ content) ∧
      (respond site (.ok oneDocument) ⟨"/_llms-txt/elan.txt", "GET", none⟩).status = 404 := by
  have hok : (Site.ofConfiguration unusualSets .anyone >>= fun site =>
      site.artifacts oneDocument >>= fun artifacts =>
        (Disk.runOn emptyDisk (Artifacts.write ⟨"out"⟩ "1" artifacts)).1).isOk = true := by
    decide +kernel
  obtain ⟨report, hresult⟩ := Outcome.exists_of_isOk hok
  obtain ⟨site, hsite, hresult⟩ := Outcome.bind_eq_ok_iff.1 hresult
  obtain ⟨artifacts, hartifacts, hreport⟩ := Outcome.bind_eq_ok_iff.1 hresult
  obtain ⟨t', hwritten⟩ : ∃ t', Disk.runOn emptyDisk (Artifacts.write ⟨"out"⟩ "1" artifacts) =
      (.ok report, t') := ⟨_, Prod.ext hreport rfl⟩
  have hsidebar : site.config.sidebar = [] := by
    obtain ⟨_, _, h⟩ := Outcome.bind_eq_ok_iff.1 hsite
    rw [← Except.ok.inj h]
    rfl
  have hbuild := Site.build_eq_ok_iff.2 ⟨oneDocument, ⟨[]⟩, artifacts, report, rfl,
    Site.navigation_of_no_sidebar hsidebar oneDocument, hartifacts, hwritten, rfl⟩
  have hsets : (site.organizer.sets.map fun s => setPath s.slug) =
      ["_llms-txt/élan.txt", "_llms-txt/.txt"] := by
    have key : ((Site.ofConfiguration unusualSets .anyone).toOption.map fun s =>
        s.organizer.sets.map fun s => setPath s.slug) =
          some ["_llms-txt/élan.txt", "_llms-txt/.txt"] := by
      decide +kernel
    rw [hsite] at key
    exact Option.some.inj key
  have hready : Artifacts.Ready ⟨"out"⟩ ⟨"1", artifacts⟩ emptyDisk := by
    refine ⟨emptyDisk, [], [], List.nodup_singleton _, fun _ h => (nomatch h),
      fun _ h => (nomatch h), fun names content hfile => ?_, rfl⟩
    have hmem := FileTree.mem_entries_of_fileAt?_eq_some hfile
    simp [emptyDisk] at hmem
  obtain ⟨_, _, hdocuments, hartifacts', -, hpaths, hdisk, hanswers⟩ := served_as_built hsite hbuild
  obtain rfl := Except.ok.inj hdocuments
  obtain rfl := Except.ok.inj (hartifacts.symm.trans hartifacts')
  rw [hsets] at hpaths
  -- a set file is on disk, and is what its request gets
  have key : ∀ (r : Request) (file path : String), r.method = "GET" → AsksSetFile r file.toList →
      path = setDirectory ++ "/" ++ file → path ∈ artifacts.map Artifact.path →
      ∃ content, t'.readBytes ((Path.mk "out").join ⟨path⟩) = .ok content ∧
        Served site (.ok oneDocument) r content := by
    rintro r file _ hget hasks rfl hmem
    obtain ⟨a, ha, hpath⟩ := List.mem_map.1 hmem
    refine ⟨a.content, hpath ▸ hdisk hready a ha, (hanswers r hget).1 a ha ?_⟩
    rw [hpath, ← String.ofList_toList (s := file)]
    exact .setFile hasks
  refine ⟨site, _, t', hsite, hbuild, ?_, ?_, ?_⟩
  · refine key _ "élan.txt" _ rfl ⟨"%C3%A9lan.txt".toList, ?_, ?_, ?_, ?_⟩ ?_ ?_
    any_goals decide +kernel
    rw [hpaths]
    decide
  · refine key _ ".txt" _ rfl ⟨".txt".toList, ?_, ?_, ?_, ?_⟩ ?_ ?_
    any_goals decide +kernel
    rw [hpaths]
    decide
  · refine (hanswers _ rfl).2 "elan.txt".toList ⟨"elan.txt".toList, ?_, ?_, ?_, ?_⟩ ?_
    any_goals decide +kernel
    have hother : setDirectory ++ "/" ++ String.ofList "elan.txt".toList ∉
        artifacts.map Artifact.path := by
      rw [hpaths]
      decide
    exact fun a ha hpath => hother (hpath ▸ List.mem_map_of_mem ha)

end DocCorpus.Endpoint
