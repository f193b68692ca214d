/-
  What of a build is there when it ends. A path leads to its place by its names, but stale paths are
  told from current ones by their texts, and every file passes through a name beside its own. So an
  artifact is lost if a later one passes through its name, or if the old report or the listing of
  set files has its place under another text, and for no other reason (`readBytes_write_iff`).
-/
import DocCorpus.Proofs.Artifacts.Pruning

namespace DocCorpus

/-- The names under which an artifact goes into the output directory. -/
def Artifact.names (a : Artifact) : List String := (Path.mk a.path).names

namespace Artifacts

open FileTree
open DocCorpus.Path (Proper)

variable {t t' : FileTree} {out : Path} {names : List String}

/-! ## Artifacts that are written -/

/-- A tree in which an artifact has been written. -/
structure Written (out : Path) (a : Artifact) (t t' : FileTree) : Prop where
  stays : staysInside a.path = true
  keeps : Keeps t t'
  reached : t'.Reaches (out.join ⟨a.path⟩) (t.placeOf out ++ a.names)
  files : t'.fileAt? = Function.update
    (Function.update t.fileAt? (t.placeOf out ++ passing a.names) none)
    (t.placeOf out ++ a.names) (some a.content)

theorem written_of_writeWhole {a : Artifact} {place : Path}
    (hplace : destination out a.path = .ok place)
    (h : Disk.runOn t (writeWhole place a.content) = (.ok (), t')) : Written out a t t' := by
  obtain ⟨hkeeps, hreached, hfiles⟩ := writeWhole_of_destination hplace h
  obtain ⟨hstays, rfl⟩ := destination_eq_ok_iff.1 hplace
  exact ⟨hstays, hkeeps, hreached, hfiles⟩

theorem written_of_writeEach {a : Artifact} {rest : List Artifact} {records : List ArtifactRecord}
    (h : Disk.runOn t (writeEach out (a :: rest)) = (.ok records, t')) :
    ∃ between later, Written out a t between ∧
      Disk.runOn between (writeEach out rest) = (.ok later, t') := by
  obtain ⟨place, between, later, hplace, hwhole, hrest, -⟩ := writeEach_cons_eq_ok h
  exact ⟨between, later, written_of_writeWhole hplace hwhole, hrest⟩

theorem Written.fileAt?_of_ne {a : Artifact} (h : Written out a t t') (hne : a.names ≠ names)
    (content : ByteArray) :
    t'.fileAt? (t.placeOf out ++ names) = some content ↔
      t.fileAt? (t.placeOf out ++ names) = some content ∧ passing a.names ≠ names := by
  rw [h.files, Function.update_of_ne fun heq => hne (List.append_cancel_left heq).symm]
  by_cases hpassing : passing a.names = names
  · rw [hpassing, Function.update_self]
    exact ⟨nofun, fun hfile => absurd rfl hfile.2⟩
  · rw [Function.update_of_ne fun heq => hpassing (List.append_cancel_left heq).symm]
    exact (and_iff_left hpassing).symm

theorem keeps_of_writeEach {artifacts : List Artifact} {records : List ArtifactRecord}
    (h : Disk.runOn t (writeEach out artifacts) = (.ok records, t')) :
    Keeps t t' ∧ ∀ a ∈ artifacts, staysInside a.path = true := by
  induction artifacts generalizing t records with
  | nil =>
    obtain ⟨-, rfl⟩ := Prod.mk.inj h
    exact ⟨Keeps.refl t, nofun⟩
  | cons a rest ih =>
    obtain ⟨between, later, hwritten, hrest⟩ := written_of_writeEach h
    obtain ⟨hkeeps, hstays⟩ := ih hrest
    exact ⟨hwritten.keeps.trans hkeeps, List.forall_mem_cons.2 ⟨hwritten.stays, hstays⟩⟩

/-- What stands under names that no artifact has is lost exactly if an artifact passes through
them. -/
theorem fileAt?_of_writeEach {artifacts : List Artifact} {records : List ArtifactRecord}
    (hnames : ∀ a ∈ artifacts, a.names ≠ names)
    (h : Disk.runOn t (writeEach out artifacts) = (.ok records, t')) (content : ByteArray) :
    t'.fileAt? (t.placeOf out ++ names) = some content ↔
      t.fileAt? (t.placeOf out ++ names) = some content ∧
        ∀ a ∈ artifacts, passing a.names ≠ names := by
  induction artifacts generalizing t records with
  | nil =>
    obtain ⟨-, rfl⟩ := Prod.mk.inj h
    exact ⟨fun hfile => ⟨hfile, nofun⟩, And.left⟩
  | cons a rest ih =>
    obtain ⟨hfirst, hnames⟩ := List.forall_mem_cons.1 hnames
    obtain ⟨between, later, hwritten, hrest⟩ := written_of_writeEach h
    have hlater := ih hnames hrest
    rw [hwritten.keeps.placeOf, hwritten.fileAt?_of_ne hfirst, and_assoc] at hlater
    rw [hlater, List.forall_mem_cons]

/-- A file after artifacts are written was there before, or is one of them. -/
theorem exists_of_writeEach {artifacts : List Artifact} {records : List ArtifactRecord}
    {place : List String} {content : ByteArray}
    (h : Disk.runOn t (writeEach out artifacts) = (.ok records, t'))
    (hfile : t'.fileAt? place = some content) :
    t.fileAt? place = some content ∨ ∃ a ∈ artifacts, place = t.placeOf out ++ a.names := by
  induction artifacts generalizing t records with
  | nil =>
    obtain ⟨-, rfl⟩ := Prod.mk.inj h
    exact .inl hfile
  | cons a rest ih =>
    obtain ⟨between, later, hwritten, hrest⟩ := written_of_writeEach h
    rcases ih hrest with hbetween | ⟨b, hb, hplace⟩
    · by_cases hown : place = t.placeOf out ++ a.names
      · exact .inr ⟨a, List.mem_cons_self, hown⟩
      · rw [hwritten.files, Function.update_of_ne hown, Function.update_apply] at hbetween
        split at hbetween
        · cases hbetween
        · exact .inl hbetween
    · rw [hwritten.keeps.placeOf] at hplace
      exact .inr ⟨b, List.mem_cons_of_mem a hb, hplace⟩

theorem writeEach_append {before later : List Artifact} {records : List ArtifactRecord}
    (h : Disk.runOn t (writeEach out (before ++ later)) = (.ok records, t')) :
    ∃ between records', Keeps t between ∧
      Disk.runOn between (writeEach out later) = (.ok records', t') := by
  induction before generalizing t records with
  | nil => exact ⟨t, records, Keeps.refl t, h⟩
  | cons a before ih =>
    obtain ⟨between, _, hwritten, hrest⟩ := written_of_writeEach h
    obtain ⟨between', records', hkeeps, hlater⟩ := ih hrest
    exact ⟨between', records', hwritten.keeps.trans hkeeps, hlater⟩

/-- What stands in the place of an artifact when all are written. -/
theorem fileAt?_of_written {before after : List Artifact} {a : Artifact}
    {records : List ArtifactRecord} (hafter : ∀ b ∈ after, b.names ≠ a.names)
    (h : Disk.runOn t (writeEach out (before ++ a :: after)) = (.ok records, t')) :
    t'.Reaches (out.join ⟨a.path⟩) (t.placeOf out ++ a.names) ∧
      ∀ content, t'.fileAt? (t.placeOf out ++ a.names) = some content ↔
        content = a.content ∧ ∀ b ∈ after, passing b.names ≠ a.names := by
  obtain ⟨between, _, hkeeps, h⟩ := writeEach_append h
  obtain ⟨made, _, hwritten, hrest⟩ := written_of_writeEach h
  have hreached := hwritten.reached.mono (keeps_of_writeEach hrest).1
  rw [hkeeps.placeOf] at hreached
  refine ⟨hreached, fun content => ?_⟩
  have hfile := fileAt?_of_writeEach hafter hrest content
  rw [hwritten.keeps.placeOf, hwritten.files, Function.update_self, hkeeps.placeOf,
    Option.some.injEq, eq_comm (a := a.content)] at hfile
  exact hfile

/-! ## Files that are removed -/

theorem removeFile_of_names {path other : String} {place : Path} {content : ByteArray}
    (hpath : (Path.mk path).Descends)
    (hreached : t.Reaches (out.join ⟨path⟩) (t.placeOf out ++ (Path.mk path).names))
    (hfile : t.fileAt? (t.placeOf out ++ (Path.mk path).names) = some content)
    (hplace : destination out other = .ok place)
    (hnames : (Path.mk other).names = (Path.mk path).names) :
    t.removeFile place ≠ .error .notFound := by
  obtain ⟨hother, rfl⟩ := descends_of_destination hplace
  obtain ⟨front, hfront⟩ := exists_text_join out
  obtain ⟨habsolute, hsegments⟩ := Path.filter_segments_join out hpath.relative
  obtain ⟨habsolute', hsegments'⟩ := Path.filter_segments_join out hother.relative
  have hparts : (Path.mk other).segments.filter (¬ Path.Idle ·) =
      (Path.mk path).segments.filter (¬ Path.Idle ·) := by
    rw [Path.names_eq, Path.names_eq] at hnames
    rw [hother.filter_segments, hpath.filter_segments]
    exact List.map_injective_iff.2 (fun _ _ => String.ofList_injective) hnames
  -- Both paths go the same way, and whatever is on it is there.
  refine removeFile_ne_notFound ?_ fun names hway hnone => ?_
  · rw [hfront _ hother.relative]
    exact fun hempty => hother.text_ne (String.append_eq_empty_iff.1 hempty).2
  · have hway : t.OnWay (out.join ⟨path⟩) names := by
      refine hway.of_prefix (habsolute'.trans habsolute.symm) ⟨[], ?_⟩
      rw [List.append_nil, hsegments', hsegments, hparts]
    rcases hway.directory hreached.follow with rfl | hdirectory
    · rw [fileAt?_eq_some_iff, hnone] at hfile
      cases hfile
    · rw [hnone] at hdirectory
      cases hdirectory

/-- A file that is reached is lost exactly if a stale path has its names. -/
theorem fileAt?_of_removeEach {path : String} {current paths : List String}
    (hpath : (Path.mk path).Descends)
    (hreached : t.Reaches (out.join ⟨path⟩) (t.placeOf out ++ (Path.mk path).names))
    (h : Disk.runOn t (removeEach out current paths) = (.ok (), t')) :
    Keeps t t' ∧ ∀ content, t'.fileAt? (t.placeOf out ++ (Path.mk path).names) = some content ↔
      t.fileAt? (t.placeOf out ++ (Path.mk path).names) = some content ∧
        ∀ other ∈ paths, other ∉ current → staysInside other = true →
          (Path.mk other).names ≠ (Path.mk path).names := by
  induction paths generalizing t with
  | nil =>
    obtain ⟨-, rfl⟩ := Prod.mk.inj h
    exact ⟨Keeps.refl t, fun content => ⟨fun hfile => ⟨hfile, nofun⟩, And.left⟩⟩
  | cons other paths ih =>
    obtain ⟨between, hrest, hstep⟩ := removeEach_cons_eq_ok h
    simp only [List.forall_mem_cons]
    rcases hstep with ⟨rfl, hpassed⟩ | ⟨hstale, place, hplace, hremoved⟩
    · obtain ⟨hkeeps, hfiles⟩ := ih hreached hrest
      refine ⟨hkeeps, fun content => (hfiles content).trans
        (and_congr_right fun hfile => (and_iff_right ?_).symm)⟩
      intro hstale hstays hnames
      have hplace : destination out other = .ok (out.join ⟨other⟩) :=
        destination_eq_ok_iff.2 ⟨hstays, rfl⟩
      have hnone := (hpassed.resolve_left hstale) _ hplace
      exact removeFile_of_names hpath hreached hfile hplace hnames hnone
    · obtain ⟨hkeeps, hremovedFiles⟩ := removeFile_eq_ok hremoved
      rw [← hkeeps.placeOf] at hreached
      obtain ⟨hkeepsRest, hfiles⟩ := ih (hreached.mono hkeeps) hrest
      refine ⟨hkeeps.trans hkeepsRest, fun content => ?_⟩
      rw [hkeeps.placeOf, hremovedFiles, placeOf_of_destination hplace] at hfiles
      rw [hfiles]
      have hstays := (destination_eq_ok_iff.1 hplace).1
      by_cases hnames : (Path.mk other).names = (Path.mk path).names
      · rw [hnames, Function.update_self]
        exact ⟨fun hfile => (nomatch hfile.1), fun hfile => absurd rfl (hfile.2.1 hstale hstays)⟩
      · rw [Function.update_of_ne fun heq => hnames (List.append_cancel_left heq).symm]
        exact and_congr_right fun _ => (and_iff_right fun _ _ => hnames).symm

/-! ## Listed files -/

theorem fileName_setDirectory : FileName LlmsText.setDirectory :=
  ⟨by decide, by decide, by decide, by decide⟩

theorem fileName_report : FileName ArtifactReport.fileName :=
  ⟨by decide, by decide, by decide, by decide⟩

/-- Every file has a name, and none that a path takes for a separator or for dots. -/
def Named (t : FileTree) : Prop :=
  ∀ names content, t.fileAt? names = some content →
    ∀ name ∈ names.getLast?, Proper name.toList ∧ '/' ∉ name.toList

/-- Every file in the set directory is listed. -/
theorem mem_setFiles {sets : List String} {name : String} {content : ByteArray}
    (hreached : t.Reaches (out.join ⟨LlmsText.setDirectory⟩)
      (t.placeOf out ++ [LlmsText.setDirectory]))
    (hdirectory : t.lookup? (t.placeOf out ++ [LlmsText.setDirectory]) = some .directory)
    (hfile : t.fileAt? (t.placeOf out ++ [LlmsText.setDirectory, name]) = some content)
    (h : setFiles t out = .ok sets) : LlmsText.setDirectory ++ "/" ++ name ∈ sets := by
  have hfind : t.find (out.join ⟨LlmsText.setDirectory⟩) =
      .ok (t.placeOf out ++ [LlmsText.setDirectory], .directory) := by
    unfold find
    rw [hreached.follow, Outcome.ok_bind, hdirectory]
  have hread : t.readDirectory (out.join ⟨LlmsText.setDirectory⟩) =
      .ok (t.children (t.placeOf out ++ [LlmsText.setDirectory])) := by
    unfold readDirectory
    rw [hfind]
    rfl
  unfold setFiles at h
  dsimp only at h
  rw [hread] at h
  rw [← Except.ok.inj h, List.mem_filterMap]
  refine ⟨(name, .file content), List.mem_filterMap.2 ⟨_, mem_entries_of_fileAt?_eq_some hfile, ?_⟩,
    rfl⟩
  have hsplit : t.placeOf out ++ [LlmsText.setDirectory, name] =
      t.placeOf out ++ [LlmsText.setDirectory] ++ [name] := by
    rw [List.append_assoc]
    rfl
  dsimp only
  rw [hsplit, List.getLast?_concat, List.dropLast_concat]
  exact if_pos rfl

/-! ## The report that is found -/

/-- What stands where the report goes before it is written: an artifact, or what was there. -/
def reportFound (t : FileTree) (out : Path) (artifacts : List Artifact) : Option ByteArray :=
  match artifacts.find? fun a => a.names = [ArtifactReport.fileName] with
  | some a => some a.content
  | none => t.fileAt? (t.placeOf out ++ [ArtifactReport.fileName])

/-- The paths that a build takes for those of the build before. -/
def reportedPaths (t : FileTree) (out : Path) (artifacts : List Artifact) : List String :=
  (reportFound t out artifacts).elim [] pathsIn

theorem names_report : (Path.mk ArtifactReport.fileName).names = [ArtifactReport.fileName] := by
  decide

theorem passing_ne_report (names : List String) : passing names ≠ [ArtifactReport.fileName] := by
  intro h
  have hlast := congrArg List.getLast? h
  unfold passing at hlast
  rw [List.getLast?_concat, List.getLast?_singleton, Option.some.injEq] at hlast
  have hhead := congrArg (fun s => s.toList.head?) hlast
  simp only [String.toList_append] at hhead
  cases hhead

/-- Of artifacts with different names, those behind one have others. -/
theorem names_ne_of_nodup {before after : List Artifact} {a : Artifact}
    (h : ((before ++ a :: after).map Artifact.names).Nodup) : ∀ b ∈ after, b.names ≠ a.names := by
  rw [List.map_append, List.map_cons] at h
  obtain ⟨hfresh, -⟩ := List.nodup_cons.1 (List.nodup_append.1 h).2.1
  exact fun b hb heq => hfresh (heq ▸ List.mem_map_of_mem hb)

/-- Once artifacts are written, the paths of the earlier build are read off the report found. -/
theorem earlierPaths_of_writeEach {artifacts : List Artifact} {records : List ArtifactRecord}
    (hdistinct : (artifacts.map Artifact.names).Nodup)
    (hreached : t'.Reaches (out.join ⟨ArtifactReport.fileName⟩)
      (t.placeOf out ++ [ArtifactReport.fileName]))
    (h : Disk.runOn t (writeEach out artifacts) = (.ok records, t')) :
    earlierPaths t' out = reportedPaths t out artifacts := by
  have hfound : t'.fileAt? (t.placeOf out ++ [ArtifactReport.fileName]) =
      reportFound t out artifacts := by
    unfold reportFound
    split
    · next a ha =>
      obtain ⟨hnames, before, after, rfl, -⟩ := List.find?_eq_some_iff_append.1 ha
      rw [decide_eq_true_iff] at hnames
      have hfile := (fileAt?_of_written (names_ne_of_nodup hdistinct) h).2 a.content
      rw [hnames] at hfile
      exact hfile.2 ⟨rfl, fun b _ => passing_ne_report b.names⟩
    · next hnone =>
      have hothers : ∀ a ∈ artifacts, a.names ≠ [ArtifactReport.fileName] := fun a ha =>
        of_decide_eq_false (eq_false_of_ne_true (List.find?_eq_none.1 hnone a ha))
      ext content
      rw [fileAt?_of_writeEach hothers h]
      exact and_iff_left fun a _ => passing_ne_report a.names
  rw [earlierPaths_of_reached hreached, hfound]
  rfl

theorem reportedPaths_congr {artifacts : List Artifact} (hhome : t'.placeOf out = t.placeOf out)
    (hfiles : t'.fileAt? = t.fileAt?) :
    reportedPaths t' out artifacts = reportedPaths t out artifacts := by
  unfold reportedPaths reportFound
  rw [hhome, hfiles]

/-! ## What is there in the end -/

/-- Nothing that is done after an artifact is written touches it: no file that is written later
passes through its names, and neither the report that is found nor the listing of set files has its
names under another text. -/
structure Spared (t : FileTree) (out : Path) (artifacts : List Artifact) (a : Artifact)
    (after : List Artifact) : Prop where
  notPassed : ∀ names ∈ after.map Artifact.names ++ [[ArtifactReport.fileName]],
    passing names ≠ a.names
  notReported : ∀ path ∈ reportedPaths t out artifacts, staysInside path = true →
    (Path.mk path).names = a.names → path = a.path
  notListed : ∀ name, a.names = [LlmsText.setDirectory, name] →
    a.path = LlmsText.setDirectory ++ "/" ++ name

theorem spared_iff {artifacts after : List Artifact} {a : Artifact} :
    Spared t out artifacts a after ↔
      (∀ b ∈ after, passing b.names ≠ a.names) ∧ passing [ArtifactReport.fileName] ≠ a.names ∧
      (∀ path ∈ reportedPaths t out artifacts, staysInside path = true →
        (Path.mk path).names = a.names → path = a.path) ∧
      ∀ name, a.names = [LlmsText.setDirectory, name] →
        a.path = LlmsText.setDirectory ++ "/" ++ name := by
  constructor
  · rintro ⟨hpassed, hreported, hlisted⟩
    rw [List.forall_mem_append, List.forall_mem_map, List.forall_mem_singleton] at hpassed
    exact ⟨hpassed.1, hpassed.2, hreported, hlisted⟩
  · rintro ⟨hpassed, hreport, hreported, hlisted⟩
    refine ⟨?_, hreported, hlisted⟩
    rw [List.forall_mem_append, List.forall_mem_map, List.forall_mem_singleton]
    exact ⟨hpassed, hreport⟩

/-- An artifact that is not the report does not have its name. -/
theorem names_ne_report {path : String} {place : List String} (hstays : staysInside path = true)
    (hreached : t.Reaches (out.join ⟨path⟩) place) (hpath : path ≠ ArtifactReport.fileName) :
    (Path.mk path).names ≠ [ArtifactReport.fileName] := by
  intro hnames
  obtain ⟨hdescends, first, rest, hfirst, hproperFirst⟩ := descends_of_staysInside hstays
  obtain ⟨front, last, hsegments, hlast⟩ := hreached.exists_last
  obtain ⟨outer, houter, -⟩ := Path.exists_segments_join out hdescends.relative
  obtain ⟨init, last', hconcat⟩ : ∃ init last', (Path.mk path).segments = init ++ [last'] :=
    ⟨_, _, (List.dropLast_concat_getLast (Path.segments_ne_nil ⟨path⟩)).symm⟩
  rw [houter, hconcat, ← List.append_assoc] at hsegments
  obtain rfl := List.singleton_injective (List.append_inj_right' hsegments rfl)
  rw [Path.names_of_segments hconcat nofun hlast] at hnames
  obtain ⟨hinit, hname⟩ := List.append_inj' (hnames.trans (List.nil_append _).symm) rfl
  rw [List.map_eq_nil_iff, List.filter_eq_nil_iff] at hinit
  cases init with
  | nil =>
    have htext := Path.intercalate_segments ⟨path⟩
    rw [hconcat, List.nil_append, List.intercalate_singleton] at htext
    refine hpath (String.toList_inj.1 ?_)
    rw [← htext, ← List.singleton_injective hname, String.toList_ofList]
  | cons part init =>
    rw [hconcat, List.cons_append] at hfirst
    obtain ⟨rfl, -⟩ := List.cons.inj hfirst
    exact hinit part List.mem_cons_self (decide_eq_true hproperFirst)

section

variable {artifacts : List Artifact} {a : Artifact}

/-- A path spares an artifact, as one that is not stale or leads elsewhere, exactly if it is the
artifact's own when it has its names. -/
theorem stale_iff (hnames : (artifacts.map Artifact.names).Nodup) (ha : a ∈ artifacts)
    (path : String) :
    (path ∉ artifacts.map Artifact.path → staysInside path = true →
        (Path.mk path).names ≠ a.names) ↔
      (staysInside path = true → (Path.mk path).names = a.names → path = a.path) := by
  constructor
  · intro h hstays heq
    by_contra hne
    refine h (fun hcurrent => ?_) hstays heq
    obtain ⟨b, hb, rfl⟩ := List.mem_map.1 hcurrent
    exact hne (congrArg Artifact.path (List.inj_on_of_nodup_map hnames hb ha heq))
  · intro h hstale hstays heq
    exact hstale (h hstays heq ▸ List.mem_map_of_mem ha)

theorem names_setFile {name : String} (h : Proper name.toList ∧ '/' ∉ name.toList) :
    (Path.mk (LlmsText.setDirectory ++ "/" ++ name)).Canonical ∧
      (Path.mk (LlmsText.setDirectory ++ "/" ++ name)).names = [LlmsText.setDirectory, name] := by
  have hsegments := Path.segments_pair fileName_setDirectory.single h.2
  have hcanonical : (Path.mk (LlmsText.setDirectory ++ "/" ++ name)).Canonical := by
    unfold Path.Canonical
    rw [hsegments]
    exact List.forall_mem_cons.2 ⟨fileName_setDirectory.proper,
      List.forall_mem_singleton.2 h.1⟩
  refine ⟨hcanonical, ?_⟩
  rw [hcanonical.names]
  unfold Path.parts
  rw [hsegments, List.map_cons, List.map_singleton, String.ofList_toList, String.ofList_toList]

/-- What is removed of the artifacts written: those whose names a stale path has. -/
theorem fileAt?_of_removeStale (hdistinct : t.Distinct) (hnamed : Named t)
    (hnames : (artifacts.map Artifact.names).Nodup) (ha : a ∈ artifacts)
    (hdescends : (Path.mk a.path).Descends)
    (hreached : t.Reaches (out.join ⟨a.path⟩) (t.placeOf out ++ a.names))
    (h : Disk.runOn t (removeStale out artifacts) = (.ok (), t')) :
    Keeps t t' ∧ ∀ content, t'.fileAt? (t.placeOf out ++ a.names) = some content ↔
      t.fileAt? (t.placeOf out ++ a.names) = some content ∧
        (∀ path ∈ earlierPaths t out, staysInside path = true →
          (Path.mk path).names = a.names → path = a.path) ∧
        ∀ name, a.names = [LlmsText.setDirectory, name] →
          a.path = LlmsText.setDirectory ++ "/" ++ name := by
  unfold removeStale at h
  obtain ⟨_, _, hget, h⟩ := Disk.runOn_bind_eq_ok_iff.1 h
  rw [Disk.runOn_get] at hget
  cases hget
  obtain ⟨sets, _, hlift, h⟩ := Disk.runOn_bind_eq_ok_iff.1 h
  rw [Disk.runOn_lift] at hlift
  obtain ⟨hsets, rfl⟩ := Prod.mk.inj hlift
  obtain ⟨hkeeps, hfiles⟩ := fileAt?_of_removeEach hdescends hreached h
  refine ⟨hkeeps, fun content => (hfiles content).trans (and_congr_right fun hfile => ?_)⟩
  rw [List.forall_mem_append]
  refine and_congr (forall₂_congr fun path _ => stale_iff hnames ha path)
    ((forall₂_congr fun path _ => stale_iff hnames ha path).trans ⟨?_, ?_⟩)
  · -- The file is listed in the spelling of set files, so that this has to be its own.
    intro hlisted name hname
    have hfile : t.fileAt? (t.placeOf out ++ a.names) = some content := hfile
    rw [hname] at hfile
    obtain ⟨hcanonical, hsetNames⟩ := names_setFile (hnamed _ _ hfile name (by simp))
    have hdown : [LlmsText.setDirectory] <+: (Path.mk a.path).names := ⟨[name], hname.symm⟩
    have hshort : [LlmsText.setDirectory] ≠ (Path.mk a.path).names := by
      intro heq
      cases heq.trans hname
    have hdirectory := hreached.directory hdescends hdown hshort
    have hset := hreached.beside hdescends fileName_setDirectory
    exact (hlisted _ (mem_setFiles hset hdirectory hfile hsets)
      (staysInside_of_canonical hcanonical) (hsetNames.trans hname.symm)).symm
  · intro hown path hpath _ heq
    obtain ⟨name, _, rfl, hlisted⟩ := exists_fileAt?_of_mem_setFiles hdistinct hsets hpath
    obtain ⟨-, hsetNames⟩ := names_setFile (hnamed _ _ hlisted name (by simp))
    exact (hown name (heq.symm.trans hsetNames)).symm

/-- Accepted paths that lead to different places have different names. -/
theorem nodup_names (hdescends : ∀ b ∈ artifacts, (Path.mk b.path).Descends)
    (htargets : (artifacts.map fun b => t.placeOf (out.join ⟨b.path⟩)).Nodup) :
    (artifacts.map Artifact.names).Nodup := by
  have hplaces : artifacts.map (fun b => t.placeOf (out.join ⟨b.path⟩)) =
      (artifacts.map Artifact.names).map (t.placeOf out ++ ·) := by
    rw [List.map_map]
    exact List.map_congr_left fun b hb => placeOf_join_names t out (hdescends b hb)
  rw [hplaces] at htargets
  exact htargets.of_map _

theorem Named.writeEach {records : List ArtifactRecord} (hnamed : Named t)
    (h : Disk.runOn t (writeEach out artifacts) = (.ok records, t')) : Named t' := by
  intro names content hfile
  rcases exists_of_writeEach h hfile with hbefore | ⟨b, hb, rfl⟩
  · exact hnamed names content hbefore
  · have hstays := (keeps_of_writeEach h).2 b hb
    obtain ⟨init, last, hconcat, hlast⟩ := (descends_of_staysInside hstays).1.exists_names
    change ∀ name ∈ (t.placeOf out ++ (Path.mk b.path).names).getLast?, _
    rw [hconcat, ← List.append_assoc, List.getLast?_concat]
    exact fun name hname => Option.some.inj hname ▸ hlast

end

/-- After a build whose artifacts go to different places, an artifact other than the report is read
with its content exactly if it is spared; otherwise nothing is there. What is told about the
artifacts is about the contents they were given. -/
theorem readBytes_write_iff {time : String} {artifacts : List Artifact} {report : ArtifactReport}
    (hdistinct : t.Distinct) (hnamed : Named t)
    (htargets : (artifacts.map fun a => t.placeOf (out.join ⟨a.path⟩)).Nodup)
    (h : Disk.runOn t (write out time artifacts) = (.ok report, t')) :
    report = ⟨time, artifacts.map fun a => ⟨a.path, Sha256.hex a.content, a.content.size⟩⟩ ∧
    ∀ before a after, artifacts = before ++ a :: after → a.path ≠ ArtifactReport.fileName →
      ∀ content, t'.readBytes (out.join ⟨a.path⟩) = .ok content ↔
        content = a.content ∧ Spared t out artifacts a after := by
  unfold write at h
  obtain ⟨_, made, hmade, h⟩ := Disk.runOn_bind_eq_ok_iff.1 h
  obtain ⟨records, written, hwritten, h⟩ := Disk.runOn_bind_eq_ok_iff.1 h
  obtain ⟨_, pruned, hpruned, h⟩ := Disk.runOn_bind_eq_ok_iff.1 h
  obtain ⟨_, _, hreport, hpure⟩ := Disk.runOn_bind_eq_ok_iff.1 h
  rw [Disk.runOn_pure] at hpure
  obtain ⟨hresult, rfl⟩ := Prod.mk.inj hpure
  refine ⟨?_, ?_⟩
  · rw [← Except.ok.inj hresult, records_of_writeEach hwritten]
    rfl
  -- Directories are made, artifacts written, stale files removed and the report written: the place
  -- of `a` is followed through the trees in between.
  rintro before a after rfl hpath content
  obtain ⟨hkeepsMade, hfilesMade⟩ := Disk.makeAllDirectories_keeps hmade
  obtain ⟨hkeepsWritten, hstays⟩ := keeps_of_writeEach hwritten
  have hdescends := fun b hb => (descends_of_staysInside (hstays b hb)).1
  have ha : a ∈ before ++ a :: after := List.mem_append_right _ List.mem_cons_self
  have hhome : made.placeOf out = t.placeOf out := hkeepsMade.placeOf out
  have hhomeWritten : written.placeOf out = t.placeOf out :=
    (hkeepsWritten.placeOf out).trans hhome
  have hnames := nodup_names hdescends htargets
  have hnamedMade : Named made := fun names content hfile =>
    hnamed names content (hfilesMade ▸ hfile)
  obtain ⟨hreached, hfile⟩ := fileAt?_of_written (names_ne_of_nodup hnames) hwritten
  rw [hhome, ← hhomeWritten] at hreached
  rw [hhome, ← hhomeWritten] at hfile
  have hreportReached := hreached.beside (hdescends a ha) fileName_report
  rw [hhomeWritten, ← hhome] at hreportReached
  have hearlier := earlierPaths_of_writeEach hnames hreportReached hwritten
  obtain ⟨hkeepsPruned, hkept⟩ := fileAt?_of_removeStale
    (hkeepsWritten.distinct (hkeepsMade.distinct hdistinct)) (hnamedMade.writeEach hwritten) hnames
    ha (hdescends a ha) hreached hpruned
  rw [hearlier, reportedPaths_congr hhome hfilesMade] at hkept
  have hlast := written_of_writeWhole (a := ⟨ArtifactReport.fileName, _⟩)
    (destination_of_canonical canonical_report) hreport
  have hne : (Path.mk ArtifactReport.fileName).names ≠ a.names := by
    rw [names_report]
    exact (names_ne_report (hstays a ha) hreached hpath).symm
  have hend := hlast.fileAt?_of_ne hne content
  change _ ↔ _ ∧ passing (Path.mk ArtifactReport.fileName).names ≠ a.names at hend
  rw [hkeepsPruned.placeOf, names_report] at hend
  rw [(hreached.mono (hkeepsPruned.trans hlast.keeps)).readBytes_iff, hend, hkept, hfile,
    spared_iff]
  exact ⟨fun ⟨⟨⟨hsame, hpassed⟩, hreported, hlisted⟩, hreport⟩ =>
      ⟨hsame, hpassed, hreport, hreported, hlisted⟩,
    fun ⟨hsame, hpassed, hreport, hreported, hlisted⟩ =>
      ⟨⟨⟨hsame, hpassed⟩, hreported, hlisted⟩, hreport⟩⟩

/-- A disk without files. -/
def bareDisk : FileTree := ⟨["work"], [(["work"], .directory)]⟩

/-- A set file with a separator too many, a file named like one that is still to be moved, and the
file that is moved from there. -/
def crossedArtifacts : List Artifact :=
  [.ofText "_llms-txt//b.txt" "x", .ofText ".c.tmp" "y", .ofText "c" "z"]

theorem readBytes_write_iff_crossed :
    bareDisk.Distinct ∧ Named bareDisk ∧
      (crossedArtifacts.map fun a => bareDisk.placeOf ((Path.mk "out").join ⟨a.path⟩)).Nodup ∧
      ∃ report t', Disk.runOn bareDisk (write ⟨"out"⟩ "1" crossedArtifacts) = (.ok report, t') ∧
        t'.readBytes ((Path.mk "out").join ⟨"c"⟩) = .ok "z".toUTF8 ∧
        (∀ content, t'.readBytes ((Path.mk "out").join ⟨".c.tmp"⟩) ≠ .ok content) ∧
        ∀ content, t'.readBytes ((Path.mk "out").join ⟨"_llms-txt//b.txt"⟩) ≠ .ok content := by
  have hdistinct : bareDisk.Distinct := by unfold Distinct; decide
  have hempty : ∀ names, bareDisk.fileAt? names = none := by
    intro names
    rw [Option.eq_none_iff_forall_ne_some]
    intro content hfile
    have hmem := mem_entries_of_fileAt?_eq_some hfile
    simp [bareDisk] at hmem
  have hnamed : Named bareDisk := fun names content hfile => by
    rw [hempty] at hfile
    cases hfile
  have htargets : (crossedArtifacts.map fun a =>
      bareDisk.placeOf ((Path.mk "out").join ⟨a.path⟩)).Nodup := by decide
  have hok : (Disk.runOn bareDisk (write ⟨"out"⟩ "1" crossedArtifacts)).1.isOk = true := by
    decide +kernel
  obtain ⟨report, t', hrun⟩ := Disk.exists_of_isOk hok
  obtain ⟨-, hread⟩ := readBytes_write_iff hdistinct hnamed htargets hrun
  refine ⟨hdistinct, hnamed, htargets, report, t', hrun, ?_, ?_, ?_⟩
  · refine (hread [_, _] _ [] rfl (by decide) _).2 ⟨rfl, ?_, ?_, ?_⟩
    · decide
    · decide
    · intro name hname
      have hlone : (Artifact.ofText "c" "z").names = ["c"] := by decide
      have hlength := congrArg List.length (hlone.symm.trans hname)
      cases hlength
  · intro content hfile
    obtain ⟨-, hspared⟩ := (hread [_] _ [_] rfl (by decide) content).1 hfile
    exact hspared.notPassed ["c"] (by decide) (by decide)
  · intro content hfile
    obtain ⟨-, hspared⟩ := (hread [] _ [_, _] rfl (by decide) content).1 hfile
    have hspelled := hspared.notListed "b.txt" (by decide)
    revert hspelled
    decide

/-- A set file with a separator too many is written and reported, and removed by the same build. -/
theorem write_removes_own :
    (Disk.runOn bareDisk (write ⟨"out"⟩ "1" [.ofText "_llms-txt//a.txt" "x"])).1.isOk = true ∧
      (Disk.runOn bareDisk (write ⟨"out"⟩ "1" [.ofText "_llms-txt//a.txt" "x"])).2.exists?
        ((Path.mk "out").join ⟨"_llms-txt//a.txt"⟩) = false := by
  decide +kernel

end Artifacts
end DocCorpus
