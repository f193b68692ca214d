/-
  How a build fails. Reading the collection, the sidebar and rendering come before the first change
  of the disk; once artifacts are written, nothing fails but operations on files, as the paths of
  all artifacts stay inside the output directory. So a build that fails in any other way has left
  the disk as it was (`build_fails_unwritten`).
-/
import DocCorpus.Proofs.Site

namespace DocCorpus

/-! ## Programs that fail on files only -/

namespace Disk

variable {α β : Type}

/-- Every failure of the program is one of the file system. -/
def FailsOnFiles (program : Disk α) : Prop :=
  ∀ t failure t', runOn t program = (.error failure, t') → ∃ path fault, failure = .file path fault

/-- A step that does not touch the disk and fails leaves the disk as it was. -/
theorem runOn_lift_bind_eq_error_iff {t t' : FileTree} {x : Except Failure α} {f : α → Disk β}
    {failure : Failure} :
    runOn t (liftM x >>= f) = (.error failure, t') ↔
      (x = .error failure ∧ t' = t) ∨
        ∃ a, x = .ok a ∧ runOn t (f a) = (.error failure, t') := by
  rw [runOn_bind, runOn_lift]
  cases x with
  | error e => simp [eq_comm]
  | ok a => simp

theorem failsOnFiles_pure (a : α) : FailsOnFiles (pure a : Disk α) := by
  intro t failure t' h
  rw [runOn_pure] at h
  cases h

theorem failsOnFiles_get : FailsOnFiles get := by
  intro t failure t' h
  rw [runOn_get] at h
  cases h

theorem failsOnFiles_set (made : FileTree) : FailsOnFiles (set made) := by
  intro t failure t' h
  rw [runOn_set] at h
  cases h

theorem failsOnFiles_throw (path : String) (fault : FileFault) :
    FailsOnFiles (throw (.file path fault) : Disk α) := by
  intro t failure t' h
  rw [runOn_throw] at h
  cases h
  exact ⟨path, fault, rfl⟩

theorem failsOnFiles_lift {x : Except Failure α}
    (hx : ∀ failure, x = .error failure → ∃ path fault, failure = .file path fault) :
    FailsOnFiles (liftM x : Disk α) := by
  intro t failure t' h
  rw [runOn_lift] at h
  exact hx failure (Prod.mk.inj h).1

theorem FailsOnFiles.bind {x : Disk α} {f : α → Disk β} (hx : FailsOnFiles x)
    (hf : ∀ a, FailsOnFiles (f a)) : FailsOnFiles (x >>= f) := by
  intro t failure t' h
  rcases runOn_bind_eq_error_iff.1 h with h | ⟨a, between, -, h⟩
  · exact hx t failure t' h
  · exact hf a between failure t' h

theorem failsOnFiles_change (p : Path) (operation : FileTree → Except FileFault FileTree) :
    FailsOnFiles (change p operation) := by
  refine failsOnFiles_get.bind fun t => ?_
  cases operation t with
  | ok made => exact failsOnFiles_set made
  | error fault => exact failsOnFiles_throw p.text fault

theorem failsOnFiles_makeAllDirectories (p : Path) : FailsOnFiles (makeAllDirectories p) := by
  intro t failure t' h
  rw [runOn_makeAllDirectories] at h
  cases hresult : (t.makeAllDirectories p).1 with
  | ok a =>
    rw [hresult] at h
    cases h
  | error fault =>
    rw [hresult] at h
    obtain ⟨hfailure, -⟩ := Prod.mk.inj h
    exact ⟨p.text, fault, (Except.error.inj hfailure).symm⟩

end Disk

/-! ## Writing -/

namespace Artifacts

open Disk

theorem failsOnFiles_writeWhole (place : Path) (content : ByteArray) :
    FailsOnFiles (writeWhole place content) := by
  unfold writeWhole
  refine (failsOnFiles_makeAllDirectories _).bind fun _ => ?_
  exact (failsOnFiles_change _ _).bind fun _ => failsOnFiles_change _ _

theorem failsOnFiles_writeEach (out : Path) {artifacts : List Artifact}
    (hpaths : ∀ a ∈ artifacts, (Path.mk a.path).Canonical) :
    FailsOnFiles (writeEach out artifacts) := by
  induction artifacts with
  | nil => exact failsOnFiles_pure []
  | cons a rest ih =>
    obtain ⟨hpath, hrest⟩ := List.forall_mem_cons.1 hpaths
    unfold writeEach
    rw [destination_of_canonical hpath]
    refine FailsOnFiles.bind (failsOnFiles_lift fun _ h => nomatch h) fun place => ?_
    refine (failsOnFiles_writeWhole place a.content).bind fun _ => ?_
    exact (ih hrest).bind fun records => failsOnFiles_pure _

theorem failsOnFiles_removeEach (out : Path) (current paths : List String) :
    FailsOnFiles (removeEach out current paths) := by
  induction paths with
  | nil => exact failsOnFiles_pure ()
  | cons path rest ih =>
    unfold removeEach
    dsimp only
    split
    · cases destination out path with
      | error failure => exact ih
      | ok place =>
        refine failsOnFiles_get.bind fun t => ?_
        split
        · exact (failsOnFiles_set _).bind fun _ => ih
        · exact ih
        · exact (failsOnFiles_throw _ _).bind fun _ => ih
    · exact ih

theorem failsOnFiles_removeStale (out : Path) (artifacts : List Artifact) :
    FailsOnFiles (removeStale out artifacts) := by
  unfold removeStale
  refine failsOnFiles_get.bind fun t => ?_
  refine FailsOnFiles.bind (failsOnFiles_lift fun failure h => ?_) fun sets =>
    failsOnFiles_removeEach out _ _
  unfold setFiles at h
  dsimp only at h
  split at h
  · cases h
  · cases h
  · cases h
    exact ⟨_, _, rfl⟩

/-- Writing artifacts whose paths are made of names fails on files only. -/
theorem failsOnFiles_write (out : Path) (time : String) {artifacts : List Artifact}
    (hpaths : ∀ a ∈ artifacts, (Path.mk a.path).Canonical) :
    FailsOnFiles (write out time artifacts) := by
  unfold write
  refine (failsOnFiles_makeAllDirectories _).bind fun _ => ?_
  refine (failsOnFiles_writeEach out hpaths).bind fun records => ?_
  refine (failsOnFiles_removeStale out artifacts).bind fun _ => ?_
  exact (failsOnFiles_writeWhole _ _).bind fun _ => failsOnFiles_pure _

end Artifacts

/-! ## Building -/

namespace Site

variable {site : Site}

/-- A build that fails has changed nothing yet, or fails in writing its artifacts. -/
theorem build_eq_error {collection : Except Failure (List Document)} {out : Path} {time : String}
    {t t' : FileTree} {failure : Failure}
    (h : Disk.runOn t (site.build collection out time) = (.error failure, t')) :
    t' = t ∨ ∃ documents artifacts, site.artifacts documents = .ok artifacts ∧
      Disk.runOn t (Artifacts.write out time artifacts) = (.error failure, t') := by
  unfold build at h
  rcases Disk.runOn_lift_bind_eq_error_iff.1 h with ⟨-, ht⟩ | ⟨documents, -, h⟩
  · exact .inl ht
  rcases Disk.runOn_lift_bind_eq_error_iff.1 h with ⟨-, ht⟩ | ⟨_, -, h⟩
  · exact .inl ht
  rcases Disk.runOn_lift_bind_eq_error_iff.1 h with ⟨-, ht⟩ | ⟨artifacts, hartifacts, h⟩
  · exact .inl ht
  rcases Disk.runOn_bind_eq_error_iff.1 h with h | ⟨_, _, -, h⟩
  · exact .inr ⟨documents, artifacts, hartifacts, h⟩
  · rw [Disk.runOn_pure] at h
    cases h

/-- Every path of an artifact is one of names, and leads into the output directory. -/
theorem canonical_of_artifacts {documents : List Document} {artifacts : List Artifact}
    (hsound : site.organizer.Sound) (h : site.artifacts documents = .ok artifacts) :
    ∀ a ∈ artifacts, (Path.mk a.path).Canonical := by
  intro a ha
  exact ((regular_of_artifacts hsound h "").lasting a ha).canonical

/-- The paths of all artifacts are accepted, so that nothing but operations on files fails once
they are written; and a build that fails in any other way leaves the disk as it was. -/
theorem build_fails_unwritten {config : Configuration} {policy : ExportPolicy}
    (hsite : ofConfiguration config policy = .ok site) :
    (∀ documents artifacts, site.artifacts documents = .ok artifacts →
      (∀ a ∈ artifacts, ∀ out, Artifacts.destination out a.path = .ok (out.join ⟨a.path⟩)) ∧
        ∀ out time, Disk.FailsOnFiles (Artifacts.write out time artifacts)) ∧
    ∀ collection out time t failure t',
      Disk.runOn t (site.build collection out time) = (.error failure, t') →
        (∀ path fault, failure ≠ .file path fault) → t' = t := by
  have hsound := sound_of_ofConfiguration hsite
  refine ⟨fun documents artifacts hartifacts => ?_, ?_⟩
  · have hpaths := canonical_of_artifacts hsound hartifacts
    refine ⟨fun a ha out => Artifacts.destination_of_canonical (hpaths a ha), ?_⟩
    exact fun out time => Artifacts.failsOnFiles_write out time hpaths
  · intro collection out time t failure t' hbuild hother
    rcases build_eq_error hbuild with ht | ⟨documents, artifacts, hartifacts, hwrite⟩
    · exact ht
    · have hpaths := canonical_of_artifacts hsound hartifacts
      obtain ⟨path, fault, heq⟩ :=
        Artifacts.failsOnFiles_write out time hpaths t failure t' hwrite
      exact absurd heq (hother path fault)

/-- A site with a set that is called like a path, and a sidebar that names no group there is. -/
def strayReference : Configuration :=
  { Configuration.default with
    llms := { Configuration.default.llms with sets := [⟨"../etc", "Odd", ["**"]⟩] }
    sidebar := [.reference "more"] }

/-- A disk with the index of an earlier build. -/
def builtDisk : FileTree :=
  ⟨["work"], [(["work"], .directory), (["work", "out"], .directory),
    (["work", "out", "llms.txt"], .file "# Corpus\n".toUTF8)]⟩

theorem build_fails_unwritten_reference :
    ∃ site artifacts t', ofConfiguration strayReference .anyone = .ok site ∧
      site.artifacts [⟨"a", .empty, ""⟩] = .ok artifacts ∧
      (∀ a ∈ artifacts, Artifacts.destination ⟨"out"⟩ a.path = .ok ((Path.mk "out").join ⟨a.path⟩)) ∧
      Disk.runOn builtDisk (site.build (.ok [⟨"a", .empty, ""⟩]) ⟨"out"⟩ "1") =
        (.error (.validation (.unknownGroup "more")), t') ∧
      t' = builtDisk := by
  have hok : (ofConfiguration strayReference .anyone >>= fun site =>
      site.artifacts [⟨"a", .empty, ""⟩]).isOk = true := by
    decide +kernel
  obtain ⟨artifacts, hresult⟩ := Outcome.exists_of_isOk hok
  obtain ⟨site, hsite, hartifacts⟩ := Outcome.bind_eq_ok_iff.1 hresult
  obtain ⟨-, hconfig, -⟩ := ofConfiguration_eq_ok_iff.1 hsite
  have hnavigation : site.navigation [⟨"a", .empty, ""⟩] =
      .error (.validation (.unknownGroup "more")) := by
    unfold navigation Navigation.ofDeclaration
    rw [hconfig]
    change Sidebar.lowerRoots [] ⟨.empty, []⟩ [.reference "more"] >>= _ = _
    rw [Sidebar.lowerRoots, Sidebar.lower]
    rfl
  have hbuild : Disk.runOn builtDisk (site.build (.ok [⟨"a", .empty, ""⟩]) ⟨"out"⟩ "1") =
      (.error (.validation (.unknownGroup "more")), builtDisk) := by
    refine Disk.runOn_lift_bind_eq_error_iff.2 (.inr ⟨[⟨"a", .empty, ""⟩], rfl, ?_⟩)
    exact Disk.runOn_lift_bind_eq_error_iff.2 (.inl ⟨hnavigation, rfl⟩)
  have hother : ∀ path fault,
      Failure.validation (.unknownGroup "more") ≠ .file path fault := by
    intro path fault h
    cases h
  obtain ⟨hpaths, hunwritten⟩ := build_fails_unwritten hsite
  refine ⟨site, artifacts, _, hsite, hartifacts, ?_, hbuild, ?_⟩
  · exact fun a ha => (hpaths _ _ hartifacts).1 a ha ⟨"out"⟩
  · exact hunwritten _ _ _ _ _ _ hbuild hother

end Site
end DocCorpus
