/-
  Artifacts written in the output directory. A file is put beside its place and moved into it; where
  no file has such a passing name, that changes the tree at its place alone (`writeWhole_eq_ok`), so
  that a list of artifacts changes it at their places alone (`writeEach_eq_ok`).
-/
import DocCorpus.Artifacts
import DocCorpus.Proofs.FileTree.Change

namespace DocCorpus.Artifacts

open FileTree
open DocCorpus.Path (Proper Canonical)

variable {t t' : FileTree} {out : Path} {home : List String}

/-! ## Places in the output directory -/

/-- Where a path leads to in a directory. -/
def placeIn (home : List String) (path : String) : List String := home ++ (Path.mk path).parts

theorem placeIn_inj {path path' : String} :
    placeIn home path = placeIn home path' ↔ path = path' := by
  unfold placeIn
  rw [List.append_cancel_left_eq, Path.parts_inj, Path.mk.injEq]

theorem placeOf_destination (hhome : t.placeOf out = home) {path : String}
    (hpath : (Path.mk path).Canonical) : t.placeOf (out.join ⟨path⟩) = placeIn home path := by
  rw [placeOf_join t out hpath, hhome]
  rfl

theorem staysInside_of_canonical {path : String} (hpath : (Path.mk path).Canonical) :
    staysInside path = true := by
  have hne : path ≠ "" := by
    rintro rfl
    exact (hpath [] (by decide)).1 rfl
  have hsteps : ∀ step ∈ (Path.mk path).steps, ∃ s, step = .name s := by
    intro step hstep
    obtain ⟨first, rest, hsegments⟩ := List.exists_cons_of_ne_nil (Path.segments_ne_nil ⟨path⟩)
    have hfirst : (Path.mk path).segments.head? ≠ some ['.'] := by
      rw [hsegments]
      intro hdot
      injection hdot with hdot
      exact (hpath first (hsegments ▸ List.mem_cons_self)).2.1 hdot
    unfold Path.steps at hstep
    rw [hpath.isAbsolute, if_neg Bool.false_ne_true, if_neg hfirst, List.nil_append,
      List.mem_filterMap] at hstep
    obtain ⟨part, hpart, hstep⟩ := hstep
    rw [Path.stepOf?_of_proper (hpath part hpart)] at hstep
    injection hstep with hstep
    exact ⟨_, hstep.symm⟩
  unfold staysInside
  rw [Bool.and_eq_true, decide_eq_true_iff, List.all_eq_true]
  refine ⟨hne, fun step hstep => ?_⟩
  obtain ⟨s, rfl⟩ := hsteps step hstep
  rfl

theorem destination_of_canonical {path : String} (hpath : (Path.mk path).Canonical) :
    destination out path = .ok (out.join ⟨path⟩) :=
  if_pos (staysInside_of_canonical hpath)

theorem canonical_report : (Path.mk ArtifactReport.fileName).Canonical := by decide

theorem destination_eq_ok_iff {path : String} {place : Path} :
    destination out path = .ok place ↔ staysInside path = true ∧ out.join ⟨path⟩ = place := by
  unfold destination
  split
  · next hstays => rw [Except.ok.injEq, and_iff_right hstays]
  · next hleaves => exact ⟨nofun, fun h => absurd h.1 hleaves⟩

/-- A path that is accepted leads down, and its first part is a name. -/
theorem descends_of_staysInside {path : String} (h : staysInside path = true) :
    (Path.mk path).Descends ∧ ∃ first rest, (Path.mk path).segments = first :: rest ∧
      Proper first := by
  unfold staysInside at h
  rw [Bool.and_eq_true, decide_eq_true_iff, List.all_eq_true] at h
  obtain ⟨hne, hsteps⟩ := h
  unfold Path.steps at hsteps
  have hrelative : (Path.mk path).isAbsolute = false := by
    by_contra habsolute
    rw [if_pos (eq_true_of_ne_false habsolute)] at hsteps
    exact Bool.false_ne_true (hsteps .root List.mem_cons_self)
  have hforward : ∀ part ∈ (Path.mk path).segments, part ≠ ['.', '.'] := by
    rintro part hpart rfl
    have hup : PathStep.parent ∈ (Path.mk path).segments.filterMap Path.stepOf? :=
      List.mem_filterMap.2 ⟨_, hpart, rfl⟩
    exact Bool.false_ne_true (hsteps .parent (List.mem_append_right _ hup))
  obtain ⟨first, rest, hsegments, hfirst⟩ := Path.head_segments ⟨path⟩ hrelative hne
  have hmem : first ∈ (Path.mk path).segments := hsegments ▸ List.mem_cons_self
  have hproper : Proper first := by
    refine ⟨hfirst, ?_, hforward first hmem⟩
    rintro rfl
    have hhead : (Path.mk path).segments.head? = some ['.'] := by rw [hsegments, List.head?_cons]
    rw [hrelative, if_neg Bool.false_ne_true, if_pos hhead] at hsteps
    exact Bool.false_ne_true (hsteps .here List.mem_cons_self)
  exact ⟨⟨hrelative, hforward, first, hmem, hproper⟩, first, rest, hsegments, hproper⟩

theorem descends_of_destination {path : String} {place : Path}
    (h : destination out path = .ok place) :
    (Path.mk path).Descends ∧ place = out.join ⟨path⟩ := by
  obtain ⟨hstays, hplace⟩ := destination_eq_ok_iff.1 h
  exact ⟨(descends_of_staysInside hstays).1, hplace.symm⟩

theorem placeOf_of_destination {path : String} {place : Path} (h : destination out path = .ok place)
    (t : FileTree) : t.placeOf place = t.placeOf out ++ (Path.mk path).names := by
  obtain ⟨hdescends, rfl⟩ := descends_of_destination h
  exact placeOf_join_names t out hdescends

/-- The last name of an accepted path is the last in its place. -/
theorem exists_last_of_destination {path : String} {place : Path}
    (h : destination out path = .ok place) :
    ∃ init front last idle, (Path.mk path).names = init ++ [String.ofList last] ∧
      place.segments = front ++ last :: idle ∧ (∀ part ∈ idle, Path.Idle part) ∧ Proper last := by
  obtain ⟨hdescends, rfl⟩ := descends_of_destination h
  obtain ⟨front, last, idle, hsegments, hidle, hlast⟩ := hdescends.exists_last
  obtain ⟨outer, houter, -, -⟩ := Path.exists_segments_join out hdescends.relative
  refine ⟨_, outer ++ front, last, idle, Path.names_of_segments hsegments hidle hlast, ?_, hidle,
    hlast⟩
  rw [houter, hsegments, List.append_assoc]

/-! ## Passing names -/

/-- The place of a file that is still to be moved: its name is another one between `.` and
`.tmp`. -/
def Passing (names : List String) : Prop :=
  ∃ above name, name ≠ "" ∧ names = above ++ ["." ++ name ++ ".tmp"]

/-- No file below a place is still to be moved. -/
def Tidy (t : FileTree) (home : List String) : Prop :=
  ∀ names, Passing names → t.fileAt? (home ++ names) = none

theorem segments_passing {last : List Char} (hslash : '/' ∉ last) :
    (Path.mk ("." ++ String.ofList last ++ ".tmp")).segments =
      [['.'] ++ last ++ ".tmp".toList] := by
  have htext : '/' ∉ ['.'] ++ last ++ ".tmp".toList := by simp [hslash]
  unfold Path.segments
  rw [String.toList_append, String.toList_append, @String.toList_ofList last]
  exact List.splitOn_eq_singleton htext

theorem canonical_passing {last : List Char} (hslash : '/' ∉ last) :
    (Path.mk ("." ++ String.ofList last ++ ".tmp")).Canonical := by
  have hlength : 5 ≤ (['.'] ++ last ++ ".tmp".toList).length := by
    have htmp : ".tmp".toList.length = 4 := by decide
    rw [List.length_append, List.length_append, htmp, List.length_singleton]
    omega
  unfold Canonical
  rw [segments_passing hslash, List.forall_mem_singleton]
  generalize ['.'] ++ last ++ ".tmp".toList = part at hlength
  refine ⟨?_, ?_, ?_⟩ <;> rintro rfl <;> exact absurd hlength (by decide)

theorem parts_passing {last : List Char} (hslash : '/' ∉ last) :
    (Path.mk ("." ++ String.ofList last ++ ".tmp")).parts =
      ["." ++ String.ofList last ++ ".tmp"] := by
  unfold Path.parts
  rw [segments_passing hslash, List.map_singleton, String.ofList_append, String.ofList_append,
    String.ofList_toList]

section

/-! A file and the place it is moved to: `last` is the last name of its path `p`, and what is behind
it means nothing. -/

variable {p above : Path} {front idle : List (List Char)} {last : List Char}
  (hp : p.segments = front ++ last :: idle) (hidle : ∀ part ∈ idle, Path.Idle part)
  (hlast : Proper last)

include hp hidle hlast

theorem placeOf_temporary (t : FileTree) (above : Path) :
    t.placeOf (temporary above p) =
      t.placeOf above ++ ["." ++ String.ofList last ++ ".tmp"] := by
  have hslash : '/' ∉ last := by
    refine Path.slash_not_mem_of_mem_segments (p := p) ?_
    rw [hp]
    exact List.mem_append_right _ List.mem_cons_self
  have htemp : temporary above p = above.join ⟨"." ++ String.ofList last ++ ".tmp"⟩ := by
    unfold temporary
    rw [Path.fileName?_of_segments hp hidle hlast]
    rfl
  rw [htemp, placeOf_join t above (canonical_passing hslash), parts_passing hslash]

/-- A file is written beside its place and moved into it. -/
theorem writeWhole_moves {content : ByteArray}
    (h : Disk.runOn t (writeWhole p content) = (.ok (), t')) :
    ∃ above, t.placeOf p = above ++ [String.ofList last] ∧ Keeps t t' ∧
      t'.Reaches p (t.placeOf p) ∧
      t'.fileAt? = Function.update
        (Function.update t.fileAt? (above ++ ["." ++ String.ofList last ++ ".tmp"]) none)
        (t.placeOf p) (some content) := by
  obtain ⟨above, hparent, hplace⟩ := exists_parent?_placeOf hp hidle hlast
  have htempPlace : ∀ {s : FileTree}, Keeps t s →
      s.placeOf (temporary above p) = t.placeOf above ++ ["." ++ String.ofList last ++ ".tmp"] := by
    intro s hs
    rw [placeOf_temporary hp hidle hlast, hs.placeOf]
  unfold writeWhole at h
  rw [hparent, Option.getD_some] at h
  obtain ⟨_, made, hmade, h⟩ := Disk.runOn_bind_eq_ok_iff.1 h
  obtain ⟨_, written, hwritten, hmoved⟩ := Disk.runOn_bind_eq_ok_iff.1 h
  obtain ⟨hkeepsMade, hfilesMade⟩ := Disk.makeAllDirectories_keeps hmade
  obtain ⟨hkeepsWritten, hfilesWritten⟩ := writeFile_eq_ok (Disk.runOn_change_eq_ok_iff.1 hwritten)
  have hkeeps := hkeepsMade.trans hkeepsWritten
  rw [htempPlace hkeepsMade, hfilesMade] at hfilesWritten
  have hfile : written.fileAt? (written.placeOf (temporary above p)) = some content := by
    rw [htempPlace hkeeps, hfilesWritten, Function.update_self]
  have hne : written.placeOf (temporary above p) ≠ [] := by
    rw [htempPlace hkeeps]
    exact List.append_ne_nil_of_right_ne_nil _ (List.cons_ne_nil _ _)
  obtain ⟨hkeepsMoved, hreaches, hfilesMoved⟩ :=
    renameFile_eq_ok (Disk.runOn_change_eq_ok_iff.1 hmoved) hfile hne
  rw [htempPlace hkeeps, hfilesWritten, hkeeps.placeOf, Function.update_idem] at hfilesMoved
  refine ⟨t.placeOf above, hplace t, hkeeps.trans hkeepsMoved, ?_, hfilesMoved⟩
  rw [← hkeeps.placeOf]
  exact hreaches

end

/-- The names beside others that a file is written under before it is moved. -/
def passing (names : List String) : List String :=
  names.dropLast ++ ["." ++ names.getLastD "" ++ ".tmp"]

theorem passing_concat (init : List String) (last : String) :
    passing (init ++ [last]) = init ++ ["." ++ last ++ ".tmp"] := by
  unfold passing
  rw [List.dropLast_concat, List.getLastD_concat]

/-- An accepted path is written under its names, and nothing is left under those beside them. -/
theorem writeWhole_of_destination {path : String} {place : Path} {content : ByteArray}
    (hplace : destination out path = .ok place)
    (h : Disk.runOn t (writeWhole place content) = (.ok (), t')) :
    Keeps t t' ∧ t'.Reaches place (t.placeOf out ++ (Path.mk path).names) ∧
      t'.fileAt? = Function.update
        (Function.update t.fileAt? (t.placeOf out ++ passing (Path.mk path).names) none)
        (t.placeOf out ++ (Path.mk path).names) (some content) := by
  obtain ⟨init, front, last, idle, hnames, hsegments, hidle, hlast⟩ :=
    exists_last_of_destination hplace
  obtain ⟨above, habove, hkeeps, hreached, hfiles⟩ := writeWhole_moves hsegments hidle hlast h
  have hhome := placeOf_of_destination hplace t
  rw [hhome] at hreached hfiles
  refine ⟨hkeeps, hreached, ?_⟩
  rw [hhome, hnames, ← List.append_assoc] at habove
  obtain rfl := List.append_cancel_right habove
  rw [hfiles, hnames, passing_concat, List.append_assoc]

/-! ## Artifacts -/

/-- A path that an artifact is written under: of names only, and not that of a file still to be
moved. -/
structure Lasting (path : String) : Prop where
  canonical : (Path.mk path).Canonical
  notPassing : ¬ Passing (Path.mk path).parts

/-- In a tidy directory a file that is written changes its own place and no other. -/
theorem writeWhole_eq_ok {path : String} {content : ByteArray} (hhome : t.placeOf out = home)
    (hpath : Lasting path) (htidy : Tidy t home)
    (h : Disk.runOn t (writeWhole (out.join ⟨path⟩) content) = (.ok (), t')) :
    Keeps t t' ∧ t'.Reaches (out.join ⟨path⟩) (placeIn home path) ∧
      t'.fileAt? = Function.update t.fileAt? (placeIn home path) (some content) := by
  obtain ⟨hkeeps, hreached, hfiles⟩ :=
    writeWhole_of_destination (destination_of_canonical hpath.canonical) h
  rw [hhome, hpath.canonical.names] at hreached hfiles
  have hnone : t.fileAt? (home ++ passing (Path.mk path).parts) = none := by
    obtain ⟨init, last, hlast⟩ : ∃ init last, (Path.mk path).segments = init ++ [last] :=
      ⟨_, _, (List.dropLast_concat_getLast (Path.segments_ne_nil ⟨path⟩)).symm⟩
    have hproper : Proper last := by
      refine hpath.canonical last ?_
      rw [hlast]
      exact List.mem_append_right _ (List.mem_singleton_self last)
    unfold Path.parts
    rw [hlast, List.map_append, List.map_singleton, passing_concat]
    refine htidy _ ⟨init.map String.ofList, String.ofList last, ?_, rfl⟩
    exact fun hempty => hproper.1 (String.ofList_eq_empty_iff.1 hempty)
  refine ⟨hkeeps, hreached, ?_⟩
  rw [hfiles, ← hnone, Function.update_eq_self]
  rfl

theorem Tidy.update {path : String} {content : Option ByteArray} (htidy : Tidy t home)
    (hpath : Lasting path)
    (h : t'.fileAt? = Function.update t.fileAt? (placeIn home path) content) : Tidy t' home := by
  intro names hnames
  rw [h, Function.update_of_ne, htidy names hnames]
  intro heq
  rw [List.append_cancel_left heq] at hnames
  exact hpath.notPassing hnames

/-- A tree in which files stand at their paths in a directory, and which otherwise has the files of
another. -/
structure Adds (out : Path) (t : FileTree) (files : List Artifact) (t' : FileTree) : Prop where
  keeps : Keeps t t'
  reached : ∀ f ∈ files, t'.Reaches (out.join ⟨f.path⟩) (placeIn (t.placeOf out) f.path)
  written : ∀ f ∈ files, t'.fileAt? (placeIn (t.placeOf out) f.path) = some f.content
  others : ∀ names, (∀ f ∈ files, names ≠ placeIn (t.placeOf out) f.path) →
    t'.fileAt? names = t.fileAt? names

theorem Adds.refl (out : Path) (t : FileTree) : Adds out t [] t where
  keeps := Keeps.refl t
  reached := fun _ h => nomatch h
  written := fun _ h => nomatch h
  others := fun _ _ => rfl

theorem Adds.mono {files : List Artifact} {t'' : FileTree} (h : Adds out t files t')
    (hkeeps : Keeps t' t'') (hfiles : t''.fileAt? = t'.fileAt?) : Adds out t files t'' where
  keeps := h.keeps.trans hkeeps
  reached := fun f hf => (h.reached f hf).mono hkeeps
  written := by
    rw [hfiles]
    exact h.written
  others := by
    rw [hfiles]
    exact h.others

/-- A file after the addition was there before, or is one of those added. -/
theorem Adds.eq_some {files : List Artifact} {names : List String} {content : ByteArray}
    (h : Adds out t files t') (hfile : t'.fileAt? names = some content) :
    t.fileAt? names = some content ∨
      ∃ f ∈ files, names = placeIn (t.placeOf out) f.path ∧ content = f.content := by
  by_cases hadded : ∃ f ∈ files, names = placeIn (t.placeOf out) f.path
  · obtain ⟨f, hf, rfl⟩ := hadded
    rw [h.written f hf] at hfile
    injection hfile with hfile
    exact .inr ⟨f, hf, rfl, hfile.symm⟩
  · rw [h.others names fun f hf heq => hadded ⟨f, hf, heq⟩] at hfile
    exact .inl hfile

theorem Adds.readBytes {files : List Artifact} {f : Artifact} (h : Adds out t files t')
    (hf : f ∈ files) : t'.readBytes (out.join ⟨f.path⟩) = .ok f.content :=
  (h.reached f hf).readBytes (fileAt?_eq_some_iff.1 (h.written f hf))

theorem Tidy.adds {files : List Artifact} (htidy : Tidy t (t.placeOf out))
    (hpaths : ∀ f ∈ files, Lasting f.path) (h : Adds out t files t') :
    Tidy t' (t.placeOf out) := by
  intro names hnames
  rw [Option.eq_none_iff_forall_ne_some]
  intro content hfile
  rcases h.eq_some hfile with hbefore | ⟨f, hf, heq, _⟩
  · rw [htidy names hnames] at hbefore
    cases hbefore
  · rw [List.append_cancel_left heq] at hnames
    exact (hpaths f hf).notPassing hnames

/-- A file that no other is in the way of is added in front of those added later. -/
theorem Adds.cons {a : Artifact} {rest : List Artifact} {between : FileTree}
    (hkeeps : Keeps t between)
    (hreached : between.Reaches (out.join ⟨a.path⟩) (placeIn (t.placeOf out) a.path))
    (hfiles : between.fileAt? =
      Function.update t.fileAt? (placeIn (t.placeOf out) a.path) (some a.content))
    (hrest : Adds out between rest t') (hfresh : a.path ∉ rest.map Artifact.path) :
    Adds out t (a :: rest) t' := by
  have hhome := hkeeps.placeOf out
  have hreachedRest := hrest.reached
  have hwritten := hrest.written
  have hothers := hrest.others
  rw [hhome] at hreachedRest hwritten hothers
  have hfirst : ∀ f ∈ rest, placeIn (t.placeOf out) a.path ≠ placeIn (t.placeOf out) f.path := by
    intro f hf heq
    exact hfresh (List.mem_map.2 ⟨f, hf, (placeIn_inj.1 heq).symm⟩)
  refine ⟨hkeeps.trans hrest.keeps, ?_, ?_, ?_⟩
  · exact List.forall_mem_cons.2 ⟨hreached.mono hrest.keeps, hreachedRest⟩
  · refine List.forall_mem_cons.2 ⟨?_, hwritten⟩
    rw [hothers _ hfirst, hfiles, Function.update_self]
  · intro names hnames
    obtain ⟨hne, hnames⟩ := List.forall_mem_cons.1 hnames
    rw [hothers names hnames, hfiles, Function.update_of_ne hne]

/-- One artifact after the other: the first is written whole, then the rest. -/
theorem writeEach_cons_eq_ok {a : Artifact} {rest : List Artifact} {records : List ArtifactRecord}
    (h : Disk.runOn t (writeEach out (a :: rest)) = (.ok records, t')) :
    ∃ place between later, destination out a.path = .ok place ∧
      Disk.runOn t (writeWhole place a.content) = (.ok (), between) ∧
      Disk.runOn between (writeEach out rest) = (.ok later, t') ∧
      records = .ofArtifact a :: later := by
  obtain ⟨place, _, hlift, h⟩ := Disk.runOn_bind_eq_ok_iff.1 h
  rw [Disk.runOn_lift] at hlift
  obtain ⟨hplace, rfl⟩ := Prod.mk.inj hlift
  obtain ⟨_, between, hwhole, h⟩ := Disk.runOn_bind_eq_ok_iff.1 h
  obtain ⟨later, _, hrest, hpure⟩ := Disk.runOn_bind_eq_ok_iff.1 h
  rw [Disk.runOn_pure] at hpure
  obtain ⟨hrecords, rfl⟩ := Prod.mk.inj hpure
  exact ⟨place, between, later, hplace, hwhole, hrest, (Except.ok.inj hrecords).symm⟩

/-- What is told about the artifacts written is about each of them, in their order. -/
theorem records_of_writeEach {artifacts : List Artifact} {records : List ArtifactRecord}
    (h : Disk.runOn t (writeEach out artifacts) = (.ok records, t')) :
    records = artifacts.map .ofArtifact := by
  induction artifacts generalizing t records with
  | nil =>
    obtain ⟨hrecords, -⟩ := Prod.mk.inj h
    exact (Except.ok.inj hrecords).symm
  | cons a rest ih =>
    obtain ⟨_, _, later, _, _, hrest, rfl⟩ := writeEach_cons_eq_ok h
    rw [ih hrest, List.map_cons]

/-- Artifacts under different paths are written at their places, and nothing else changes. -/
theorem writeEach_eq_ok {artifacts : List Artifact} {records : List ArtifactRecord}
    (hpaths : ∀ a ∈ artifacts, Lasting a.path) (hdistinct : (artifacts.map Artifact.path).Nodup)
    (htidy : Tidy t (t.placeOf out))
    (h : Disk.runOn t (writeEach out artifacts) = (.ok records, t')) : Adds out t artifacts t' := by
  induction artifacts generalizing t records with
  | nil =>
    obtain ⟨-, rfl⟩ := Prod.mk.inj h
    exact Adds.refl out t
  | cons a rest ih =>
    obtain ⟨hpath, hpaths⟩ := List.forall_mem_cons.1 hpaths
    rw [List.map_cons, List.nodup_cons] at hdistinct
    obtain ⟨place, between, later, hplace, hwhole, hrest, -⟩ := writeEach_cons_eq_ok h
    rw [destination_of_canonical hpath.canonical] at hplace
    obtain rfl := Except.ok.inj hplace
    obtain ⟨hkeeps, hreached, hfiles⟩ := writeWhole_eq_ok rfl hpath htidy hwhole
    have htidyRest : Tidy between (between.placeOf out) := by
      rw [hkeeps.placeOf]
      exact htidy.update hpath hfiles
    exact Adds.cons hkeeps hreached hfiles (ih hpaths hdistinct.2 htidyRest hrest) hdistinct.1

end DocCorpus.Artifacts
