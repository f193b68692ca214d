/-
  What earlier builds left, removed. The candidates are the paths of the last report and the set
  files; of those, what no artifact has is removed, and nothing else is (`removeStale_eq_ok`).
-/
import DocCorpus.Proofs.Artifacts.Report
import DocCorpus.Proofs.Artifacts.Writing
import DocCorpus.Proofs.Text.Encoding

namespace DocCorpus.Artifacts

open FileTree

variable {t t' : FileTree} {out : Path} {home : List String} {current paths : List String}

/-! ## Removing -/

/-- A tree that lacks the files at some places of another, and has all others. -/
structure Drops (t : FileTree) (places : List String → Prop) (t' : FileTree) : Prop where
  keeps : Keeps t t'
  others : ∀ names, ¬ places names → t'.fileAt? names = t.fileAt? names
  fewer : ∀ names, t.fileAt? names = none → t'.fileAt? names = none

theorem Drops.refl (t : FileTree) (places : List String → Prop) : Drops t places t :=
  ⟨Keeps.refl t, fun _ _ => rfl, fun _ h => h⟩

theorem Drops.trans {places : List String → Prop} {t'' : FileTree} (h : Drops t places t')
    (h' : Drops t' places t'') : Drops t places t'' :=
  ⟨h.keeps.trans h'.keeps,
    fun names hnames => (h'.others names hnames).trans (h.others names hnames),
    fun names hnames => h'.fewer names (h.fewer names hnames)⟩

theorem drops_removeFile {p : Path} {places : List String → Prop} (hp : places (t.placeOf p))
    (h : t.removeFile p = .ok t') : Drops t places t' := by
  obtain ⟨hkeeps, hfiles⟩ := removeFile_eq_ok h
  refine ⟨hkeeps, fun names hnames => ?_, fun names hnone => ?_⟩
  · rw [hfiles, Function.update_of_ne]
    rintro rfl
    exact hnames hp
  · rw [hfiles, Function.update_apply]
    split
    · rfl
    · exact hnone

/-- The places of paths that are not among the current ones. -/
def Stale (home : List String) (current paths : List String) (names : List String) : Prop :=
  ∃ path ∈ paths, path ∉ current ∧ names = placeIn home path

/-- One path at a time: either it is passed over, or the file at its place is removed. -/
theorem removeEach_cons_eq_ok {path : String}
    (h : Disk.runOn t (removeEach out current (path :: paths)) = (.ok (), t')) :
    ∃ between, Disk.runOn between (removeEach out current paths) = (.ok (), t') ∧
      (between = t ∧ (path ∈ current ∨
          ∀ place, destination out path = .ok place → t.removeFile place = .error .notFound) ∨
        path ∉ current ∧
          ∃ place, destination out path = .ok place ∧ t.removeFile place = .ok between) := by
  unfold removeEach at h
  dsimp only at h
  split at h
  · next hcurrent =>
    have hstale : path ∉ current := by simpa using hcurrent
    cases hplace : destination out path with
    | error failure =>
      rw [hplace] at h
      exact ⟨t, h, .inl ⟨rfl, .inr nofun⟩⟩
    | ok place =>
      rw [hplace] at h
      obtain ⟨s, _, hget, h⟩ := Disk.runOn_bind_eq_ok_iff.1 h
      rw [Disk.runOn_get] at hget
      cases hget
      split at h
      · next made hmade =>
        obtain ⟨_, _, hset, h⟩ := Disk.runOn_bind_eq_ok_iff.1 h
        rw [Disk.runOn_set] at hset
        cases hset
        exact ⟨made, h, .inr ⟨hstale, place, rfl, hmade⟩⟩
      · next hnone =>
        exact ⟨t, h, .inl ⟨rfl, .inr fun other hother => Except.ok.inj hother ▸ hnone⟩⟩
      · obtain ⟨_, _, hthrow, _⟩ := Disk.runOn_bind_eq_ok_iff.1 h
        rw [Disk.runOn_throw] at hthrow
        cases hthrow
  · next hcurrent =>
    have hcurrent : path ∈ current := by simpa using hcurrent
    exact ⟨t, h, .inl ⟨rfl, .inl hcurrent⟩⟩

/-- A stale path that is reached has no file any more. -/
theorem removeEach_eq_ok (hpaths : ∀ path ∈ paths, (Path.mk path).Canonical)
    (h : Disk.runOn t (removeEach out current paths) = (.ok (), t')) :
    Drops t (Stale (t.placeOf out) current paths) t' ∧
      ∀ path ∈ paths, path ∉ current → t.Reaches (out.join ⟨path⟩) (placeIn (t.placeOf out) path) →
        t'.fileAt? (placeIn (t.placeOf out) path) = none := by
  induction paths generalizing t with
  | nil =>
    obtain ⟨_, rfl⟩ := Prod.mk.inj h
    exact ⟨Drops.refl t _, fun _ hmem => nomatch hmem⟩
  | cons path paths ih =>
    obtain ⟨hpath, hpaths⟩ := List.forall_mem_cons.1 hpaths
    obtain ⟨between, hrest, hstep⟩ := removeEach_cons_eq_ok h
    rw [destination_of_canonical hpath] at hstep
    obtain ⟨hdrops, hgone⟩ := ih hpaths hrest
    have hfirst : Drops t (Stale (t.placeOf out) current (path :: paths)) between := by
      rcases hstep with ⟨rfl, _⟩ | ⟨hstale, place, hplace, hremoved⟩
      · exact Drops.refl between _
      · obtain rfl := Except.ok.inj hplace
        refine drops_removeFile ⟨path, List.mem_cons_self, hstale, ?_⟩ hremoved
        exact placeOf_destination rfl hpath
    rw [hfirst.keeps.placeOf] at hdrops hgone
    refine ⟨hfirst.trans ⟨hdrops.keeps, fun names hnames => hdrops.others names ?_, hdrops.fewer⟩, ?_⟩
    · rintro ⟨other, hother, hstale, rfl⟩
      exact hnames ⟨other, List.mem_cons_of_mem _ hother, hstale, rfl⟩
    · refine List.forall_mem_cons.2 ⟨fun hstale hreached => ?_, fun other hother hstale hreached =>
        hgone other hother hstale (hreached.mono hfirst.keeps)⟩
      refine hdrops.fewer _ ?_
      rcases hstep with ⟨rfl, hcurrent | hnone⟩ | ⟨_, place, hplace, hremoved⟩
      · exact absurd hcurrent hstale
      · exact removeFile_eq_notFound hreached (hnone _ rfl)
      · obtain rfl := Except.ok.inj hplace
        rw [(removeFile_eq_ok hremoved).2, placeOf_destination rfl hpath, Function.update_self]

/-! ## Candidates -/

/-- The paths that a report lists; a content that is none lists nothing. -/
def pathsIn (content : ByteArray) : List String :=
  match (String.fromUTF8? content).bind ArtifactReport.parse? with
  | some report => report.artifacts.map ArtifactRecord.fileName
  | none => []

theorem pathsIn_render {r : ArtifactReport} (h : r.Sized) :
    pathsIn r.render.toUTF8 = r.artifacts.map ArtifactRecord.fileName := by
  unfold pathsIn
  rw [Text.fromUTF8?_eq_some_iff.2 rfl, Option.bind_some, ArtifactReport.parse?_render h]

/-- Where no report stands, no earlier path is known. -/
theorem earlierPaths_of_none
    (h : t.fileAt? (placeIn (t.placeOf out) ArtifactReport.fileName) = none) :
    earlierPaths t out = [] := by
  unfold earlierPaths
  split
  · rfl
  · next text htext =>
    obtain ⟨content, hcontent, _⟩ := Outcome.bind_eq_ok_iff.1 htext
    have hfile := readBytes_eq_ok hcontent
    rw [placeOf_destination rfl canonical_report, h] at hfile
    cases hfile

/-- Where the place of the report is reached, the earlier paths are those that the file there
lists. -/
theorem earlierPaths_of_reached {place : List String}
    (hreached : t.Reaches (out.join ⟨ArtifactReport.fileName⟩) place) :
    earlierPaths t out = (t.fileAt? place).elim [] pathsIn := by
  cases hfile : t.fileAt? place with
  | none =>
    rw [hreached.place_eq, placeOf_destination rfl canonical_report] at hfile
    exact earlierPaths_of_none hfile
  | some content =>
    unfold earlierPaths readText
    rw [hreached.readBytes (fileAt?_eq_some_iff.1 hfile), Outcome.ok_bind, Option.elim_some]
    unfold textOf pathsIn
    cases String.fromUTF8? content <;> rfl

theorem earlierPaths_of_report {r : ArtifactReport} (hsized : r.Sized)
    (hreached : t.Reaches (out.join ⟨ArtifactReport.fileName⟩)
      (placeIn (t.placeOf out) ArtifactReport.fileName))
    (hfile : t.fileAt? (placeIn (t.placeOf out) ArtifactReport.fileName) = some r.render.toUTF8) :
    earlierPaths t out = r.artifacts.map ArtifactRecord.fileName := by
  rw [earlierPaths_of_reached hreached, hfile, Option.elim_some, pathsIn_render hsized]

theorem canonical_setDirectory : (Path.mk LlmsText.setDirectory).Canonical := by decide

theorem parts_setDirectory : (Path.mk LlmsText.setDirectory).parts = [LlmsText.setDirectory] := by
  decide

/-- Every set path is that of a file in the set directory. -/
theorem exists_fileAt?_of_mem_setFiles (hdistinct : t.Distinct) {sets : List String} {path : String}
    (h : setFiles t out = .ok sets) (hpath : path ∈ sets) :
    ∃ name content, path = LlmsText.setDirectory ++ "/" ++ name ∧
      t.fileAt? (t.placeOf out ++ [LlmsText.setDirectory, name]) = some content := by
  unfold setFiles at h
  dsimp only at h
  split at h
  · next children hchildren =>
    injection h with h
    rw [← h, List.mem_filterMap] at hpath
    obtain ⟨⟨name, entry⟩, hmem, hpath⟩ := hpath
    cases entry with
    | directory => cases hpath
    | file content =>
      injection hpath with hpath
      refine ⟨name, content, hpath.symm, ?_⟩
      obtain ⟨⟨place, entry⟩, hfind, hread⟩ := Outcome.bind_eq_ok_iff.1 hchildren
      cases entry with
      | file => cases hread
      | directory =>
        injection hread with hread
        subst hread
        obtain ⟨⟨names, entry⟩, hentry, hlast⟩ := List.mem_filterMap.1 hmem
        dsimp only at hlast
        split at hlast
        · next last hname =>
          split at hlast
          · next hplace =>
            obtain ⟨rfl, rfl⟩ : last = name ∧ entry = .file content := by simpa using hlast
            obtain ⟨above, rfl⟩ := List.getLast?_eq_some_iff.1 hname
            rw [List.dropLast_concat] at hplace
            subst hplace
            rw [(find_eq_ok hfind).1, placeOf_destination rfl canonical_setDirectory] at hentry
            unfold placeIn at hentry
            rw [parts_setDirectory, List.append_assoc] at hentry
            exact fileAt?_eq_some_iff.2 (lookup?_eq_some_of_mem hdistinct hentry (by simp))
          · cases hlast
        · cases hlast
  · injection h with h
    subst h
    cases hpath
  · cases h

end DocCorpus.Artifacts
