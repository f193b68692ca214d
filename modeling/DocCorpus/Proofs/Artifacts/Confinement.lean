/-
  Writing artifacts stays inside the output directory. A path that is accepted leads below it, and
  so does the path beside it that is written first (`below_destination`); directories are made on
  the way to it or below it (`confined_makeDirectories`). So a run changes nothing else, whatever
  the artifacts are called, whatever an earlier report lists, and wherever the run fails
  (`write_confined`).
-/
import DocCorpus.Proofs.Artifacts.Writing

namespace DocCorpus

namespace FileTree

variable {t t' : FileTree} {out p : Path} {place names : List String}

/-! ## Changes inside a directory -/

/-- A place below another, and not that one itself. -/
def Below (home names : List String) : Prop := ∃ down, down ≠ [] ∧ names = home ++ down

/-- A tree that has what another has, save below a path; the directories on the way to it may be
new. -/
structure Confined (out : Path) (t t' : FileTree) : Prop where
  workingDirectory : t'.workingDirectory = t.workingDirectory
  outside : ∀ names, ¬ Below (t.placeOf out) names →
    t'.lookup? names = t.lookup? names ∨
      t.lookup? names = none ∧ t'.lookup? names = some .directory ∧ t.OnWay out names

theorem Confined.refl (out : Path) (t : FileTree) : Confined out t t := ⟨rfl, fun _ _ => .inl rfl⟩

theorem Confined.start (h : Confined out t t') (p : Path) : t'.start p = t.start p := by
  unfold FileTree.start
  rw [h.workingDirectory]

theorem Confined.trans {t'' : FileTree} (h : Confined out t t') (h' : Confined out t' t'') :
    Confined out t t'' where
  workingDirectory := h'.workingDirectory.trans h.workingDirectory
  outside names hnames := by
    have hplace : t'.placeOf out = t.placeOf out := by
      unfold placeOf
      rw [h.start]
    have hway : t'.OnWay out names → t.OnWay out names := by
      unfold OnWay
      rw [h.start]
      exact id
    rcases h.outside names hnames with hsame | ⟨hnone, hmade, hon⟩
    · rw [← hsame]
      refine (h'.outside names (hplace ▸ hnames)).imp id ?_
      rintro ⟨hnone, hmade, hon⟩
      exact ⟨hnone, hmade, hway hon⟩
    · -- What was made first is there, so that it is not made again.
      rcases h'.outside names (hplace ▸ hnames) with hsame | ⟨hnone', -, -⟩
      · exact .inr ⟨hnone, hsame.trans hmade, hon⟩
      · rw [hmade] at hnone'
        cases hnone'

theorem confined_put {entry : FileEntry} (hplace : Below (t.placeOf out) place) :
    Confined out t (t.put place entry) :=
  ⟨rfl, fun _ hnames => .inl (lookup?_put_of_ne fun heq => hnames (heq ▸ hplace))⟩

theorem confined_erase (hplace : Below (t.placeOf out) place) : Confined out t (t.erase place) :=
  ⟨rfl, fun _ hnames => .inl (lookup?_erase_of_ne fun heq => hnames (heq ▸ hplace))⟩

theorem confined_putDirectory (hplace : Below (t.placeOf out) place ∨ t.OnWay out place)
    (hne : place ≠ []) (hnone : t.lookup? place = none) :
    Confined out t (t.put place .directory) := by
  refine ⟨rfl, fun names hnames => ?_⟩
  by_cases heq : names = place
  · subst heq
    exact .inr ⟨hnone, lookup?_put_self hne, hplace.resolve_left hnames⟩
  · exact .inl (lookup?_put_of_ne heq)

/-- Directories are made on the way to a path only. -/
theorem confined_makeDirectories
    (hway : ∀ (t : FileTree) names, t.OnWay p names →
      Below (t.placeOf out) names ∨ t.OnWay out names)
    (t : FileTree) (fuel : Nat) : Confined out t (t.makeDirectories p fuel).2 := by
  refine makeDirectories_induction (Confined.refl out) Confined.trans ?_ t fuel
  intro t t' q hq hmade
  obtain ⟨hne, hnone, rfl⟩ := put_of_makeDirectory hmade
  exact confined_putDirectory (hway t _ ((onWay_placeOf t q).of_above hq)) hne hnone

end FileTree

/-! ## Programs that stay inside a directory -/

namespace Disk

open FileTree

variable {α β : Type} {out p : Path}

/-- What the program changes is below a path, whether it succeeds or fails. -/
def StaysBelow (out : Path) (program : Disk α) : Prop :=
  ∀ t, Confined out t (runOn t program).2

theorem staysBelow_pure (out : Path) (a : α) : StaysBelow out (pure a : Disk α) :=
  fun t => Confined.refl out t

theorem StaysBelow.bind {x : Disk α} {f : α → Disk β} (hx : StaysBelow out x)
    (hf : ∀ a, StaysBelow out (f a)) : StaysBelow out (x >>= f) := by
  intro t
  have hfirst := hx t
  rw [runOn_bind]
  generalize runOn t x = result at hfirst ⊢
  obtain ⟨failure | a, between⟩ := result
  · exact hfirst
  · exact hfirst.trans (hf a between)

theorem staysBelow_lift_bind {x : Except Failure α} {f : α → Disk β}
    (hf : ∀ a, x = .ok a → StaysBelow out (f a)) : StaysBelow out (liftM x >>= f) := by
  intro t
  rw [runOn_bind, runOn_lift]
  cases x with
  | error failure => exact Confined.refl out t
  | ok a => exact hf a rfl t

/-- A program that looks at the disk first stays where it goes on from what it sees. -/
theorem staysBelow_get_bind {f : FileTree → Disk α}
    (hf : ∀ t, Confined out t (runOn t (f t)).2) : StaysBelow out (get >>= f) := by
  intro t
  rw [runOn_bind, runOn_get]
  exact hf t

theorem staysBelow_change {operation : FileTree → Except FileFault FileTree}
    (h : ∀ t t', operation t = .ok t' → Confined out t t') :
    StaysBelow out (change p operation) := by
  refine staysBelow_get_bind fun t => ?_
  cases hmade : operation t with
  | ok made => exact h t made hmade
  | error fault => exact Confined.refl out t

theorem staysBelow_makeAllDirectories
    (hway : ∀ (t : FileTree) names, t.OnWay p names →
      Below (t.placeOf out) names ∨ t.OnWay out names) :
    StaysBelow out (makeAllDirectories p) := by
  intro t
  rw [runOn_makeAllDirectories]
  exact confined_makeDirectories hway t _

end Disk

/-! ## Artifacts -/

namespace Artifacts

open FileTree Disk

variable {out place above : Path} {path : String}

/-- A path that is accepted, and the one beside it that is written first, lead below the output
directory. -/
theorem below_destination (h : destination out path = .ok place) (t : FileTree) :
    Below (t.placeOf out) (t.placeOf place) ∧
      Below (t.placeOf out) (t.placeOf (temporary (place.parent?.getD ⟨"."⟩) place)) := by
  obtain ⟨init, front, last, idle, hnames, hsegments, hidle, hlast⟩ := exists_last_of_destination h
  obtain ⟨above, hparent, habove⟩ := exists_parent?_placeOf hsegments hidle hlast
  have hplace := placeOf_of_destination h t
  rw [hnames] at hplace
  refine ⟨⟨_, append_singleton_ne_nil init _, hplace⟩, ?_⟩
  rw [habove, ← List.append_assoc] at hplace
  refine ⟨_, append_singleton_ne_nil init ("." ++ String.ofList last ++ ".tmp"), ?_⟩
  rw [hparent, Option.getD_some, placeOf_temporary hsegments hidle hlast,
    List.append_cancel_right hplace, List.append_assoc]

/-- The directories above an accepted path are on the way to the output directory, or below it. -/
theorem onWay_above_destination (h : destination out path = .ok place) {t : FileTree}
    {names : List String} (hnames : t.OnWay (place.parent?.getD ⟨"."⟩) names) :
    Below (t.placeOf out) names ∨ t.OnWay out names := by
  obtain ⟨init, front, last, idle, -, hsegments, hidle, hlast⟩ := exists_last_of_destination h
  obtain ⟨above, hparent, -⟩ := exists_parent?_placeOf hsegments hidle hlast
  obtain ⟨hdescends, rfl⟩ := descends_of_destination h
  rw [hparent] at hnames
  rcases (hnames.of_parent? hparent).of_join hdescends with hway | ⟨down, hne, -, hdown⟩
  · exact .inr hway
  · exact .inl ⟨down, hne, hdown⟩

theorem staysBelow_writeWhole (h : destination out path = .ok place) (content : ByteArray) :
    StaysBelow out (writeWhole place content) := by
  have htemp := fun t => (below_destination h t).2
  unfold writeWhole
  refine (staysBelow_makeAllDirectories fun t names => onWay_above_destination h).bind fun _ => ?_
  refine (staysBelow_change fun t t' hwritten => ?_).bind fun _ =>
    staysBelow_change fun t t' hmoved => ?_
  · obtain ⟨-, -, rfl⟩ := put_of_writeFile hwritten
    exact confined_put (htemp t)
  · obtain ⟨entry, -, -, -, rfl⟩ := put_of_renameFile hmoved
    refine (confined_erase (htemp t)).trans (confined_put ?_)
    exact (below_destination h t).1

theorem staysBelow_writeEach (out : Path) (artifacts : List Artifact) :
    StaysBelow out (writeEach out artifacts) := by
  induction artifacts with
  | nil => exact staysBelow_pure out []
  | cons a rest ih =>
    unfold writeEach
    refine staysBelow_lift_bind fun place hplace => ?_
    refine (staysBelow_writeWhole hplace a.content).bind fun _ => ?_
    exact ih.bind fun records => staysBelow_pure out _

theorem staysBelow_removeEach (out : Path) (current paths : List String) :
    StaysBelow out (removeEach out current paths) := by
  induction paths with
  | nil => exact staysBelow_pure out ()
  | cons path rest ih =>
    unfold removeEach
    dsimp only
    split
    · cases hplace : destination out path with
      | error failure => exact ih
      | ok place =>
        refine staysBelow_get_bind fun t => ?_
        split
        · next made hmade =>
          obtain ⟨-, -, rfl⟩ := erase_of_removeFile hmade
          exact (confined_erase (below_destination hplace t).1).trans (ih _)
        · exact ih t
        · exact Confined.refl out t
    · exact ih

theorem staysBelow_write (out : Path) (time : String) (artifacts : List Artifact) :
    StaysBelow out (write out time artifacts) := by
  have hreport : destination out ArtifactReport.fileName =
      .ok (out.join ⟨ArtifactReport.fileName⟩) :=
    destination_of_canonical canonical_report
  unfold write
  refine (staysBelow_makeAllDirectories fun t names => .inr).bind fun _ => ?_
  refine (staysBelow_writeEach out artifacts).bind fun records => ?_
  refine StaysBelow.bind ?_ fun _ => ?_
  · unfold removeStale
    refine staysBelow_get_bind fun t => ?_
    exact staysBelow_lift_bind (fun sets _ => staysBelow_removeEach out _ _) t
  · exact (staysBelow_writeWhole hreport _).bind fun _ => staysBelow_pure out _

/-- Whatever the artifacts are called and whatever stands in the tree, an old report included, a run
that succeeds or fails changes nothing but what is below the output directory: everything else stays
as it was, save for directories on the way to the output directory that were missing. Each file that
is written, moved or removed has an accepted path, or the path that is written in its place first,
and both are below the output directory. -/
theorem write_confined (t : FileTree) (out : Path) (time : String) (artifacts : List Artifact) :
    (Disk.runOn t (write out time artifacts)).2.workingDirectory = t.workingDirectory ∧
    (∀ names, ¬ Below (t.placeOf out) names →
      (Disk.runOn t (write out time artifacts)).2.lookup? names = t.lookup? names ∨
        t.lookup? names = none ∧
          (Disk.runOn t (write out time artifacts)).2.lookup? names = some .directory ∧
          t.OnWay out names) ∧
    ∀ path place, destination out path = .ok place →
      Below (t.placeOf out) (t.placeOf place) ∧
        Below (t.placeOf out) (t.placeOf (temporary (place.parent?.getD ⟨"."⟩) place)) := by
  obtain ⟨hdirectory, houtside⟩ := staysBelow_write out time artifacts t
  exact ⟨hdirectory, houtside, fun path place h => below_destination h t⟩

end Artifacts
end DocCorpus
