/-
  One output directory, built again and again. After every build that succeeds the directory holds
  what it held before the first, the artifacts of that build and the report on them, and nothing
  from the builds in between (`files_of_builds`): one build takes a directory from what an earlier
  build left to what it leaves itself (`write_eq_ok`).
-/
import DocCorpus.Proofs.Artifacts.Pruning

namespace DocCorpus.Artifacts

open FileTree

variable {t t' : FileTree} {out : Path} {home : List String} {path : String}

/-! ## Builds -/

/-- One build: when it was made, and what it makes. -/
structure Build where
  time : String
  artifacts : List Artifact

namespace Build

def report (b : Build) : ArtifactReport := ⟨b.time, b.artifacts.map .ofArtifact⟩

/-- The file that the report is written to. -/
def reportFile (b : Build) : Artifact := ⟨ArtifactReport.fileName, b.report.render.toUTF8⟩

/-- The artifacts of a build, and the report on them. -/
def files (b : Build) : List Artifact := b.artifacts ++ [b.reportFile]

theorem reportFile_mem (b : Build) : b.reportFile ∈ b.files :=
  List.mem_append_right _ (List.mem_singleton_self _)

/-- A build whose artifacts have different paths, none of them the report's. -/
structure Regular (b : Build) : Prop where
  lasting : ∀ a ∈ b.artifacts, Lasting a.path
  notReport : ∀ a ∈ b.artifacts, a.path ≠ ArtifactReport.fileName
  distinct : (b.artifacts.map Artifact.path).Nodup

/-- A build whose artifacts fit in memory. -/
def Fits (b : Build) : Prop := ∀ a ∈ b.artifacts, a.content.size < UInt64.size

end Build

/-- The files that the last build left, if there was one. -/
def leftBy (last : Option Build) : List Artifact := last.elim [] Build.files

/-- The place below the output directory of a file that is nobody's: not a set file, not the report,
not a file still to be moved, and not an artifact of any of the builds. -/
structure Foreign (builds : List Build) (names : List String) : Prop where
  notSet : names.head? ≠ some LlmsText.setDirectory
  notReport : names ≠ [ArtifactReport.fileName]
  notPassing : ¬ Passing names
  unnamed : ∀ b ∈ builds, ∀ a ∈ b.artifacts, names ≠ (Path.mk a.path).parts

/-- The files below a place are nobody's. -/
def ForeignFiles (t : FileTree) (home : List String) (builds : List Build) : Prop :=
  ∀ names content, t.fileAt? (home ++ names) = some content → Foreign builds names

theorem parts_report : (Path.mk ArtifactReport.fileName).parts = [ArtifactReport.fileName] := by
  decide

/-- A place whose last name does not end like `.tmp` is not that of a file still to be moved. -/
theorem not_passing {names : List String} {last : String} (hnames : names.getLast? = some last)
    (hlast : last.toList.getLast? ≠ some 'p') : ¬ Passing names := by
  rintro ⟨above, name, _, rfl⟩
  rw [List.getLast?_concat] at hnames
  injection hnames with hnames
  rw [← hnames, String.toList_append, List.getLast?_append] at hlast
  exact hlast rfl

theorem lasting_report : Lasting ArtifactReport.fileName where
  canonical := canonical_report
  notPassing := by
    rw [parts_report]
    exact not_passing rfl (by decide)

theorem Build.Regular.files_lasting {b : Build} (h : b.Regular) : ∀ f ∈ b.files, Lasting f.path :=
  List.forall_mem_append.2 ⟨h.lasting, List.forall_mem_singleton.2 lasting_report⟩

theorem Build.Fits.report_sized {b : Build} (h : b.Fits) : b.report.Sized := by
  intro record hrecord
  obtain ⟨a, ha, rfl⟩ := List.mem_map.1 hrecord
  exact h a ha

theorem ForeignFiles.none {builds : List Build} {b : Build} (h : ForeignFiles t home builds)
    (hb : b ∈ builds) : ∀ f ∈ b.files, t.fileAt? (placeIn home f.path) = none := by
  refine List.forall_mem_append.2 ⟨fun a ha => ?_, List.forall_mem_singleton.2 ?_⟩
  · rw [Option.eq_none_iff_forall_ne_some]
    exact fun content hfile => (h _ content hfile).unnamed b hb a ha rfl
  · rw [Option.eq_none_iff_forall_ne_some]
    exact fun content hfile => (h _ content hfile).notReport parts_report

theorem ForeignFiles.tidy {builds : List Build} (h : ForeignFiles t home builds) : Tidy t home := by
  intro names hnames
  rw [Option.eq_none_iff_forall_ne_some]
  exact fun content hfile => (h names content hfile).notPassing hnames

/-- What a regular build leaves has no file that is still to be moved. -/
theorem tidy_leftBy {start : FileTree} {last : Option Build} {builds : List Build}
    (hforeign : ForeignFiles start (start.placeOf out) builds) (hlast : ∀ e ∈ last, e.Regular)
    (hleft : Adds out start (leftBy last) t) : Tidy t (t.placeOf out) := by
  rw [hleft.keeps.placeOf]
  refine hforeign.tidy.adds ?_ hleft
  cases last with
  | none => exact fun _ hf => nomatch hf
  | some e => exact (hlast e rfl).files_lasting

/-! ## Candidates -/

theorem eq_of_parts_eq_pair {first second : String} (h : (Path.mk path).parts = [first, second]) :
    path = first ++ "/" ++ second := by
  obtain ⟨a, b, hsegments, rfl, rfl⟩ : ∃ a b, (Path.mk path).segments = [a, b] ∧
      String.ofList a = first ∧ String.ofList b = second := by
    unfold Path.parts at h
    match hsegments : (Path.mk path).segments, h with
    | [a, b], h =>
      rw [List.map_cons, List.map_singleton] at h
      injection h with hfirst h
      injection h with hsecond
      exact ⟨a, b, rfl, hfirst, hsecond⟩
  have htext := Path.intercalate_segments ⟨path⟩
  rw [hsegments] at htext
  have hpath : path = String.ofList (a ++ '/' :: b) := by
    rw [← String.ofList_toList (s := path), ← htext, List.intercalate_cons_cons,
      List.intercalate_singleton, List.append_assoc]
    rfl
  rw [hpath, List.append_cons, String.ofList_append, String.ofList_append]

section

/-! A build in a directory that an earlier build may have left files in: `start` is the tree before
all builds, `t` the tree that `b` finds, `between` the one after its artifacts are written. -/

variable {start between : FileTree} {last : Option Build} {b : Build}
  (hforeign : ForeignFiles start (start.placeOf out) (b :: last.toList))
  (hleft : Adds out start (leftBy last) t) (hadds : Adds out t b.artifacts between)

include hforeign hleft hadds

/-- Every set file that may be removed is an artifact, of the last build or of this one. -/
theorem mem_of_mem_setFiles {sets : List String} (hdistinct : between.Distinct)
    (hsets : setFiles between out = .ok sets) (hpath : path ∈ sets) :
    path ∈ (last.elim [] Build.artifacts).map Artifact.path ∨
      path ∈ b.artifacts.map Artifact.path := by
  obtain ⟨name, content, hname, hfile⟩ := exists_fileAt?_of_mem_setFiles hdistinct hsets hpath
  have hpair : ∀ {path' : String}, start.placeOf out ++ [LlmsText.setDirectory, name] =
      placeIn (start.placeOf out) path' → path' = path := by
    intro path' heq
    rw [hname]
    exact eq_of_parts_eq_pair (List.append_cancel_left heq).symm
  rw [hadds.keeps.placeOf, hleft.keeps.placeOf] at hfile
  rcases hadds.eq_some hfile with hfile | ⟨a, ha, heq, _⟩
  · rcases hleft.eq_some hfile with hfile | ⟨f, hf, heq, _⟩
    · exact absurd rfl (hforeign _ content hfile).notSet
    · cases last with
      | none => cases hf
      | some e =>
        rcases List.mem_append.1 hf with ha | hreport
        · exact .inl (List.mem_map.2 ⟨f, ha, hpair heq⟩)
        · rw [List.mem_singleton.1 hreport] at heq
          have hparts : [LlmsText.setDirectory, name] = [ArtifactReport.fileName] :=
            (List.append_cancel_left heq).trans parts_report
          exact nomatch congrArg List.length hparts
  · rw [hleft.keeps.placeOf] at heq
    exact .inr (List.mem_map.2 ⟨a, ha, hpair heq⟩)

/-- The report tells the paths of the last build. -/
theorem earlierPaths_eq (hfits : ∀ e ∈ last, e.Fits) (hb : b.Regular) :
    earlierPaths between out = (last.elim [] Build.artifacts).map Artifact.path := by
  have hhome : between.placeOf out = start.placeOf out :=
    (hadds.keeps.placeOf out).trans (hleft.keeps.placeOf out)
  have hsame : between.fileAt? (placeIn (start.placeOf out) ArtifactReport.fileName) =
      t.fileAt? (placeIn (start.placeOf out) ArtifactReport.fileName) := by
    refine hadds.others _ fun a ha heq => ?_
    rw [hleft.keeps.placeOf, placeIn_inj] at heq
    exact hb.notReport a ha heq.symm
  cases last with
  | none =>
    have hnone : t.fileAt? (placeIn (start.placeOf out) ArtifactReport.fileName) = none := by
      rw [hleft.others _ fun _ hf => nomatch hf]
      exact hforeign.none List.mem_cons_self b.reportFile b.reportFile_mem
    rw [← hsame, ← hhome] at hnone
    exact earlierPaths_of_none hnone
  | some e =>
    have hreached := (hleft.reached e.reportFile e.reportFile_mem).mono hadds.keeps
    have hfile := hsame.trans (hleft.written e.reportFile e.reportFile_mem)
    rw [← hhome] at hreached hfile
    rw [earlierPaths_of_report (hfits e rfl).report_sized hreached hfile]
    exact List.map_map ..

/-! ## Pruning -/

/-- Once the stale files are gone, only this build's files are in the places of its files, and all
other places are as they were before all builds. -/
theorem fileAt?_of_drops {pruned : FileTree} {paths : List String}
    (hpaths : ∀ path ∈ paths, path ∈ (last.elim [] Build.artifacts).map Artifact.path ∨
      path ∈ b.artifacts.map Artifact.path)
    (hcovers : ∀ path ∈ (last.elim [] Build.artifacts).map Artifact.path, path ∈ paths)
    (hdrops :
      Drops between (Stale (start.placeOf out) (b.artifacts.map Artifact.path) paths) pruned)
    (hgone : ∀ path ∈ paths, path ∉ b.artifacts.map Artifact.path →
      between.Reaches (out.join ⟨path⟩) (placeIn (start.placeOf out) path) →
        pruned.fileAt? (placeIn (start.placeOf out) path) = none)
    {names : List String} (hnames : ∀ f ∈ b.files, names ≠ placeIn (start.placeOf out) f.path) :
    pruned.fileAt? names = start.fileAt? names := by
  by_cases hstale : Stale (start.placeOf out) (b.artifacts.map Artifact.path) paths names
  · obtain ⟨path, hpath, hnew, rfl⟩ := hstale
    have hearlier := (hpaths path hpath).resolve_right hnew
    cases last with
    | none => cases hearlier
    | some e =>
      obtain ⟨a, ha, rfl⟩ := List.mem_map.1 hearlier
      have hfile : a ∈ e.files := List.mem_append_left _ ha
      rw [hgone a.path hpath hnew ((hleft.reached a hfile).mono hadds.keeps),
        hforeign.none (List.mem_cons_of_mem _ List.mem_cons_self) a hfile]
  · have hartifacts : ∀ a ∈ b.artifacts, names ≠ placeIn (t.placeOf out) a.path := by
      rw [hleft.keeps.placeOf]
      exact fun a ha => hnames a (List.mem_append_left _ ha)
    have hleftFiles : ∀ f ∈ leftBy last, names ≠ placeIn (start.placeOf out) f.path := by
      rintro f hf rfl
      cases last with
      | none => cases hf
      | some e =>
        rcases List.mem_append.1 hf with ha | hreport
        · refine hstale ⟨f.path, hcovers f.path (List.mem_map_of_mem ha), fun hnew => ?_, rfl⟩
          obtain ⟨a, ha, heq⟩ := List.mem_map.1 hnew
          exact hnames a (List.mem_append_left _ ha) (by rw [heq])
        · rw [List.mem_singleton.1 hreport] at hnames
          exact hnames b.reportFile b.reportFile_mem rfl
    rw [hdrops.others names hstale, hadds.others names hartifacts, hleft.others names hleftFiles]

/-- The stale files of a directory are removed, and the artifacts stay. -/
theorem removeStale_eq_ok {pruned : FileTree} (hdistinct : start.Distinct)
    (hlast : ∀ e ∈ last, e.Regular) (hfits : ∀ e ∈ last, e.Fits) (hb : b.Regular)
    (h : Disk.runOn between (removeStale out b.artifacts) = (.ok (), pruned)) :
    Keeps between pruned ∧ Tidy pruned (start.placeOf out) ∧
      (∀ a ∈ b.artifacts,
        pruned.fileAt? (placeIn (start.placeOf out) a.path) = some a.content) ∧
      ∀ names, (∀ f ∈ b.files, names ≠ placeIn (start.placeOf out) f.path) →
        pruned.fileAt? names = start.fileAt? names := by
  have hhome : t.placeOf out = start.placeOf out := hleft.keeps.placeOf out
  have hhomeBetween : between.placeOf out = start.placeOf out :=
    (hadds.keeps.placeOf out).trans hhome
  obtain ⟨_, _, hget, h⟩ := Disk.runOn_bind_eq_ok_iff.1 h
  rw [Disk.runOn_get] at hget
  cases hget
  obtain ⟨sets, _, hlift, h⟩ := Disk.runOn_bind_eq_ok_iff.1 h
  rw [Disk.runOn_lift] at hlift
  obtain ⟨hsets, rfl⟩ := Prod.mk.inj hlift
  rw [earlierPaths_eq hforeign hleft hadds hfits hb] at h
  have hpaths : ∀ path ∈ (last.elim [] Build.artifacts).map Artifact.path ++ sets,
      path ∈ (last.elim [] Build.artifacts).map Artifact.path ∨
        path ∈ b.artifacts.map Artifact.path := by
    have hdistinct := (hleft.keeps.trans hadds.keeps).distinct hdistinct
    exact List.forall_mem_append.2 ⟨fun path hpath => .inl hpath, fun path hpath =>
      mem_of_mem_setFiles hforeign hleft hadds hdistinct hsets hpath⟩
  have hcanonical : ∀ path ∈ (last.elim [] Build.artifacts).map Artifact.path ++ sets,
      (Path.mk path).Canonical := by
    intro path hpath
    rcases hpaths path hpath with hold | hnew
    · cases last with
      | none => cases hold
      | some e =>
        obtain ⟨a, ha, rfl⟩ := List.mem_map.1 hold
        exact ((hlast e rfl).lasting a ha).canonical
    · obtain ⟨a, ha, rfl⟩ := List.mem_map.1 hnew
      exact (hb.lasting a ha).canonical
  obtain ⟨hdrops, hgone⟩ := removeEach_eq_ok hcanonical h
  rw [hhomeBetween] at hdrops hgone
  refine ⟨hdrops.keeps, ?_, ?_, ?_⟩
  · intro names hnames
    have htidy := (tidy_leftBy hforeign hlast hleft).adds hb.lasting hadds names hnames
    rw [hhome] at htidy
    exact hdrops.fewer _ htidy
  · intro a ha
    rw [hdrops.others, ← hhome, hadds.written a ha]
    rintro ⟨path, _, hnew, heq⟩
    exact hnew (List.mem_map.2 ⟨a, ha, placeIn_inj.1 heq⟩)
  · intro names hnames
    exact fileAt?_of_drops hforeign hleft hadds hpaths
      (fun path hpath => List.mem_append_left _ hpath) hdrops hgone hnames

end

/-! ## One build after another -/

/-- What a build tells about its artifacts, whatever the directory. -/
theorem report_of_write {b : Build} {report : ArtifactReport}
    (h : Disk.runOn t (write out b.time b.artifacts) = (.ok report, t')) : report = b.report := by
  obtain ⟨_, _, _, h⟩ := Disk.runOn_bind_eq_ok_iff.1 h
  obtain ⟨records, _, hwritten, h⟩ := Disk.runOn_bind_eq_ok_iff.1 h
  obtain ⟨_, _, _, h⟩ := Disk.runOn_bind_eq_ok_iff.1 h
  obtain ⟨_, _, _, h⟩ := Disk.runOn_bind_eq_ok_iff.1 h
  obtain ⟨hreport, -⟩ := Prod.mk.inj h
  rw [← Except.ok.inj hreport, records_of_writeEach hwritten]
  rfl

/-- A build takes a directory from what the last build left to what it leaves itself. -/
theorem write_eq_ok {start : FileTree} {last : Option Build} {b : Build} {report : ArtifactReport}
    (hdistinct : start.Distinct) (hlast : ∀ e ∈ last, e.Regular) (hfits : ∀ e ∈ last, e.Fits)
    (hb : b.Regular) (hforeign : ForeignFiles start (start.placeOf out) (b :: last.toList))
    (hleft : Adds out start (leftBy last) t)
    (h : Disk.runOn t (write out b.time b.artifacts) = (.ok report, t')) :
    Adds out start b.files t' := by
  unfold write at h
  obtain ⟨_, made, hmade, h⟩ := Disk.runOn_bind_eq_ok_iff.1 h
  obtain ⟨hkeepsMade, hfilesMade⟩ := Disk.makeAllDirectories_keeps hmade
  replace hleft := hleft.mono hkeepsMade hfilesMade
  have hhome : made.placeOf out = start.placeOf out := hleft.keeps.placeOf out
  obtain ⟨records, between, hwritten, h⟩ := Disk.runOn_bind_eq_ok_iff.1 h
  obtain rfl := records_of_writeEach hwritten
  have hadds := writeEach_eq_ok hb.lasting hb.distinct (tidy_leftBy hforeign hlast hleft) hwritten
  obtain ⟨_, pruned, hremoved, h⟩ := Disk.runOn_bind_eq_ok_iff.1 h
  obtain ⟨hkeepsPruned, htidy, hartifacts, hothers⟩ :=
    removeStale_eq_ok hforeign hleft hadds hdistinct hlast hfits hb hremoved
  change Disk.runOn pruned
    (writeWhole (out.join ⟨b.reportFile.path⟩) b.reportFile.content >>= fun _ => pure b.report) =
      _ at h
  obtain ⟨_, written, hreport, hpure⟩ := Disk.runOn_bind_eq_ok_iff.1 h
  rw [Disk.runOn_pure] at hpure
  obtain ⟨-, rfl⟩ := Prod.mk.inj hpure
  have hhomePruned : pruned.placeOf out = start.placeOf out := by
    rw [hkeepsPruned.placeOf, hadds.keeps.placeOf, hhome]
  have hlasting : Lasting b.reportFile.path := lasting_report
  obtain ⟨hkeepsWritten, hreached, hfiles⟩ := writeWhole_eq_ok hhomePruned hlasting htidy hreport
  have hkept := hkeepsPruned.trans hkeepsWritten
  have hapart : ∀ a ∈ b.artifacts, placeIn (start.placeOf out) a.path ≠
      placeIn (start.placeOf out) b.reportFile.path :=
    fun a ha heq => hb.notReport a ha (placeIn_inj.1 heq)
  refine ⟨(hleft.keeps.trans hadds.keeps).trans hkept, ?_, ?_, ?_⟩
  · refine List.forall_mem_append.2 ⟨fun a ha => ?_, List.forall_mem_singleton.2 hreached⟩
    rw [← hhome]
    exact (hadds.reached a ha).mono hkept
  · refine List.forall_mem_append.2 ⟨fun a ha => ?_, List.forall_mem_singleton.2 ?_⟩
    · rw [hfiles, Function.update_of_ne (hapart a ha), hartifacts a ha]
    · rw [hfiles, Function.update_self]
  · intro names hnames
    rw [hfiles, Function.update_of_ne (hnames b.reportFile b.reportFile_mem), hothers names hnames]

theorem ForeignFiles.mono {builds builds' : List Build} (h : ForeignFiles t home builds)
    (hsub : ∀ b ∈ builds', b ∈ builds) : ForeignFiles t home builds' := by
  intro names content hfile
  obtain ⟨hset, hreport, hpassing, hunnamed⟩ := h names content hfile
  exact ⟨hset, hreport, hpassing, fun b hb => hunnamed b (hsub b hb)⟩

/-- After any number of builds a directory holds what the last of them left. -/
theorem mapM_write_eq_ok {start : FileTree} {last : Option Build} {builds : List Build}
    {reports : List ArtifactReport} (hdistinct : start.Distinct) (hlast : ∀ e ∈ last, e.Regular)
    (hlastFits : ∀ e ∈ last, e.Fits) (hbuilds : ∀ b ∈ builds, b.Regular)
    (hfits : ∀ b ∈ builds, b.Fits)
    (hforeign : ForeignFiles start (start.placeOf out) (builds ++ last.toList))
    (hleft : Adds out start (leftBy last) t)
    (h : Disk.runOn t (builds.mapM fun b => write out b.time b.artifacts) = (.ok reports, t')) :
    Adds out start (leftBy (builds.getLast?.or last)) t' := by
  induction builds generalizing t last reports with
  | nil =>
    obtain ⟨-, rfl⟩ := Prod.mk.inj h
    exact hleft
  | cons b rest ih =>
    obtain ⟨hb, hrest⟩ := List.forall_mem_cons.1 hbuilds
    obtain ⟨hbFits, hrestFits⟩ := List.forall_mem_cons.1 hfits
    rw [List.mapM_cons] at h
    obtain ⟨report, between, hwritten, h⟩ := Disk.runOn_bind_eq_ok_iff.1 h
    obtain ⟨later, _, hlater, hpure⟩ := Disk.runOn_bind_eq_ok_iff.1 h
    rw [Disk.runOn_pure] at hpure
    obtain ⟨-, rfl⟩ := Prod.mk.inj hpure
    have hfirst : ∀ x ∈ b :: last.toList, x ∈ b :: rest ++ last.toList :=
      List.forall_mem_cons.2 ⟨List.mem_cons_self, fun x hx => List.mem_append_right _ hx⟩
    have hothers : ∀ x ∈ rest ++ (some b).toList, x ∈ b :: rest ++ last.toList :=
      List.forall_mem_append.2 ⟨fun x hx => List.mem_append_left _ (List.mem_cons_of_mem b hx),
        List.forall_mem_singleton.2 List.mem_cons_self⟩
    have hadds := write_eq_ok hdistinct hlast hlastFits hb (hforeign.mono hfirst) hleft hwritten
    have hregular : ∀ e ∈ some b, e.Regular := fun e he => Option.some.inj he ▸ hb
    have hbFits : ∀ e ∈ some b, e.Fits := fun e he => Option.some.inj he ▸ hbFits
    replace hadds := ih hregular hbFits hrest hrestFits (hforeign.mono hothers) hadds hlater
    rw [Option.or_some] at hadds
    rw [List.getLast?_cons, Option.some_or]
    exact hadds

/-- The same, from a directory in which no build was made before. -/
theorem mapM_write_of_foreign {builds : List Build} {reports : List ArtifactReport}
    (hdistinct : t.Distinct) (hbuilds : ∀ b ∈ builds, b.Regular) (hfits : ∀ b ∈ builds, b.Fits)
    (hforeign : ForeignFiles t (t.placeOf out) builds)
    (h : Disk.runOn t (builds.mapM fun b => write out b.time b.artifacts) = (.ok reports, t')) :
    Adds out t (leftBy builds.getLast?) t' := by
  have hstart : ForeignFiles t (t.placeOf out) (builds ++ (none : Option Build).toList) := by
    rw [Option.toList_none, List.append_nil]
    exact hforeign
  have hadds := mapM_write_eq_ok hdistinct (fun e he => absurd he (Option.not_mem_none e))
    (fun e he => absurd he (Option.not_mem_none e)) hbuilds hfits hstart (Adds.refl out t) h
  rw [Option.or_none] at hadds
  exact hadds

/-- A tree in which a build finds nobody's files in its directory, and what regular builds left in
it before. -/
def Ready (out : Path) (b : Build) (t : FileTree) : Prop :=
  ∃ start builds reports, start.Distinct ∧ (∀ e ∈ builds, e.Regular) ∧ (∀ e ∈ builds, e.Fits) ∧
    ForeignFiles start (start.placeOf out) (builds ++ [b]) ∧
    Disk.runOn start (builds.mapM fun e => write out e.time e.artifacts) = (.ok reports, t)

/-- What a build writes is read under the paths of its artifacts. -/
theorem readBytes_of_ready {b : Build} {report : ArtifactReport} (hready : Ready out b t)
    (hb : b.Regular) (h : Disk.runOn t (write out b.time b.artifacts) = (.ok report, t')) :
    ∀ a ∈ b.artifacts, t'.readBytes (out.join ⟨a.path⟩) = .ok a.content := by
  obtain ⟨start, builds, reports, hdistinct, hbuilds, hfits, hforeign, hrun⟩ := hready
  have hleft := mapM_write_of_foreign hdistinct hbuilds hfits
    (hforeign.mono fun e he => List.mem_append_left _ he) hrun
  have hlast : ∀ e ∈ builds.getLast?, e ∈ builds := fun e he => List.mem_of_getLast? he
  have hcurrent : ForeignFiles start (start.placeOf out) (b :: builds.getLast?.toList) := by
    refine hforeign.mono (List.forall_mem_cons.2 ⟨?_, fun e he => ?_⟩)
    · exact List.mem_append_right _ (List.mem_singleton_self b)
    · exact List.mem_append_left _ (hlast e (Option.mem_toList.1 he))
  have hadds := write_eq_ok hdistinct (fun e he => hbuilds e (hlast e he))
    (fun e he => hfits e (hlast e he)) hb hcurrent hleft h
  exact fun a ha => hadds.readBytes (List.mem_append_left _ ha)

end DocCorpus.Artifacts
