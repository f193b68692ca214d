/-
  Reports read back. The text of a report whose sizes fit a machine word is read as that report,
  so that a later build knows every file an earlier one wrote.
-/
import DocCorpus.Artifacts
import DocCorpus.Proofs.Json.RoundTrip
import DocCorpus.Proofs.Outcome

namespace DocCorpus

open Json (Source)

namespace Json

mutual

/-- A source that has a tree is JSON throughout. -/
theorem intact_of_tree? : ∀ {source : Source} {t : Tree}, source.tree? = some t →
    source.intact = true
  | .null, _, _ | .boolean _, _, _ | .number _, _, _ | .string _, _, _ => rfl
  | .array items, _, h => by
    obtain ⟨ts, hts, -⟩ := Option.map_eq_some_iff.1 h
    exact intactItems_of_itemTrees? hts
  | .object members, _, h => by
    obtain ⟨ts, hts, -⟩ := Option.map_eq_some_iff.1 h
    exact intactMembers_of_memberTrees? hts
  | .broken, _, h => nomatch h

theorem intactItems_of_itemTrees? : ∀ {items : List Source} {ts : List Tree},
    Source.itemTrees? items = some ts → Source.intactItems items = true
  | [], _, _ => rfl
  | item :: rest, _, h => by
    obtain ⟨t, ht, h⟩ := Option.bind_eq_some_iff.1 h
    obtain ⟨ts, hts, -⟩ := Option.bind_eq_some_iff.1 h
    rw [Source.intactItems, intact_of_tree? ht, intactItems_of_itemTrees? hts, Bool.and_self]

theorem intactMembers_of_memberTrees? : ∀ {members : List (Option String × Source)}
    {ts : List (String × Tree)}, Source.memberTrees? members = some ts →
    Source.intactMembers members = true
  | [], _, _ => rfl
  | (none, _) :: _, _, h => nomatch h
  | (some _, value) :: rest, _, h => by
    obtain ⟨t, ht, h⟩ := Option.bind_eq_some_iff.1 h
    obtain ⟨ts, hts, -⟩ := Option.bind_eq_some_iff.1 h
    rw [Source.intactMembers, intact_of_tree? ht, intactMembers_of_memberTrees? hts, Bool.and_self]

end

theorem text?_of_tree? {source : Source} {s : String} (h : source.tree? = some (.text s)) :
    source.text? = some s := by
  obtain rfl : source = .string (some s) := source_of_tree? h
  rfl

theorem size?_of_tree? {source : Source} {n : Nat} (h : source.tree? = some (.integer n)) :
    source.size? = some n := by
  obtain ⟨m, rfl, hm⟩ := source_of_tree? h
  simp [Source.size?, hm]

end Json

/-! ## Records and reports -/

theorem ArtifactRecord.ofSource?_of_tree? {r : ArtifactRecord} {source : Source}
    (h : source.tree? = some r.toTree) : ofSource? source = some r := by
  obtain ⟨members, rfl, hmembers⟩ := Json.source_of_tree? h
  obtain ⟨name, others, rfl, hname, hothers⟩ := Json.sources_of_memberTrees? hmembers
  obtain ⟨sum, others, rfl, hsum, hothers⟩ := Json.sources_of_memberTrees? hothers
  obtain ⟨size, others, rfl, hsize, hothers⟩ := Json.sources_of_memberTrees? hothers
  obtain rfl : others = [] := Json.sources_of_memberTrees? hothers
  have hfields : (Source.object [(some "filename", name), (some "sha256", sum),
      (some "size_bytes", size)]).fields? ["filename", "sha256", "size_bytes"] =
        some [name, sum, size] := by
    simp [Source.fields?, Source.membersNamed, Json.intact_of_tree? hname,
      Json.intact_of_tree? hsum, Json.intact_of_tree? hsize]
  unfold ofSource?
  rw [hfields]
  dsimp only
  rw [Json.text?_of_tree? hname, Json.text?_of_tree? hsum, Json.size?_of_tree? hsize]
  rfl

theorem ArtifactRecord.mapM_ofSource? {records : List ArtifactRecord} {sources : List Source}
    (h : Source.itemTrees? sources = some (records.map ArtifactRecord.toTree)) :
    sources.mapM ArtifactRecord.ofSource? = some records := by
  induction records generalizing sources with
  | nil =>
    obtain rfl : sources = [] := Json.sources_of_itemTrees? h
    rfl
  | cons r records ih =>
    obtain ⟨source, others, rfl, hsource, hothers⟩ := Json.sources_of_itemTrees? h
    rw [List.mapM_cons, ofSource?_of_tree? hsource, ih hothers]
    rfl

namespace ArtifactReport

/-- Every size in a report fits a machine word. -/
def Sized (r : ArtifactReport) : Prop := ∀ record ∈ r.artifacts, record.size < UInt64.size

theorem ofSource?_of_tree? {r : ArtifactReport} {source : Source}
    (h : source.tree? = some r.toTree) : ofSource? source = some r := by
  obtain ⟨members, rfl, hmembers⟩ := Json.source_of_tree? h
  obtain ⟨time, others, rfl, htime, hothers⟩ := Json.sources_of_memberTrees? hmembers
  obtain ⟨artifacts, others, rfl, hartifacts, hothers⟩ := Json.sources_of_memberTrees? hothers
  obtain rfl : others = [] := Json.sources_of_memberTrees? hothers
  have hfields :
      (Source.object [(some "generated_at", time), (some "artifacts", artifacts)]).fields?
        ["generated_at", "artifacts"] = some [time, artifacts] := by
    simp [Source.fields?, Source.membersNamed, Json.intact_of_tree? htime,
      Json.intact_of_tree? hartifacts]
  obtain ⟨items, rfl, hitems⟩ := Json.source_of_tree? hartifacts
  unfold ofSource?
  rw [hfields]
  dsimp only
  rw [Json.text?_of_tree? htime]
  change (items.mapM ArtifactRecord.ofSource?).bind _ = _
  rw [ArtifactRecord.mapM_ofSource? hitems]
  rfl

theorem legible_toTree {r : ArtifactReport} (h : r.Sized) : Json.Legible r.toTree := by
  refine ⟨trivial, ?_, trivial⟩
  change Json.LegibleItems (r.artifacts.map ArtifactRecord.toTree)
  unfold Sized at h
  generalize r.artifacts = records at h
  induction records with
  | nil => trivial
  | cons record records ih =>
    obtain ⟨hrecord, hrecords⟩ := List.forall_mem_cons.1 h
    refine ⟨⟨trivial, trivial, ⟨?_, ?_⟩, trivial⟩, ih hrecords⟩
    · have hlow : (-(Nat.pow 2 63 : Nat) : Int) ≤ 0 := by decide
      exact Int.le_trans hlow (Int.natCast_nonneg record.size)
    · exact Int.ofNat_lt.2 hrecord

/-- The text of a report is read as that report. -/
theorem parse?_render {r : ArtifactReport} (h : r.Sized) : parse? r.render = some r := by
  obtain ⟨source, hsource, htree⟩ := Json.ofText_pretty (legible_toTree h)
  unfold parse? render
  rw [hsource]
  exact ofSource?_of_tree? htree

end ArtifactReport
end DocCorpus
