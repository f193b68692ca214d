/-
  Exports that are refused. The check before the writing and the writing itself go by the same
  numbers: documents with finite numbers only have trees and are written (`exists_mapM_toTree`), so
  the writer reports no failure of its own. A refusal names the first document with another number
  and spells the path to the first of these in it (`serialize_refused`).
-/
import DocCorpus.Proofs.Metadata.Path
import DocCorpus.Proofs.Outcome

namespace DocCorpus

/-! ## Paths in metadata -/

namespace Metadata

variable {m : Metadata} {path : List MetaStep} {x : Binary64}

/-- A text leads to the end of the path that it spells: keys with dots between them, positions in
brackets. -/
def LeadsBy (m : Metadata) (text : String) (w : MetaValue) : Prop :=
  ∃ path, m.Leads path w ∧ "." ++ text = MetaStep.marks path

def Finite (m : Metadata) : Prop := ∀ path x, m.Leads path (.float x) → x.isFinite = true

/-- All keys, at every depth, can be told apart in the text of a path. -/
def PlainKeys (m : Metadata) : Prop := ∀ name ∈ (MetaValue.map m.entries).allKeys, PlainKey name

/-- Of the floats that are not finite, the first in depth-first order stands at the path. -/
def FirstNonFinite (m : Metadata) (path : List MetaStep) (x : Binary64) : Prop :=
  x.isFinite = false ∧ ∃ front back, (MetaValue.map m.entries).spots = front ++ (path, x) :: back ∧
    ∀ s ∈ front, s.2.isFinite = true

theorem PlainKeys.plainPath (h : m.PlainKeys) {w : MetaValue} (hpath : m.Leads path w) :
    MetaStep.PlainPath path :=
  fun name hname => h name (hpath.mem_allKeys hname)

theorem firstNonFinite?_eq_find? : m.firstNonFinite? =
    (MetaValue.map m.entries).spots.find? fun s => !s.2.isFinite :=
  MetaValue.firstNonFinite?_eq_find? (.map m.entries)

theorem firstNonFinite?_eq_some_iff :
    m.firstNonFinite? = some (path, x) ↔ m.FirstNonFinite path x := by
  rw [firstNonFinite?_eq_find?, List.find?_eq_some_iff_append]
  simp [FirstNonFinite]

theorem firstNonFinite?_eq_none_iff : m.firstNonFinite? = none ↔ m.Finite := by
  rw [firstNonFinite?_eq_find?, List.find?_eq_none]
  simp [Finite, Leads, MetaValue.mem_spots_iff]

theorem finite_iff : m.Finite ↔ ∀ x ∈ m.floats, x.isFinite = true := by
  rw [← firstNonFinite?_eq_none_iff, ← unrepresentable?_eq_none_iff, unrepresentable?,
    Option.map_eq_none_iff]

theorem FirstNonFinite.leads (h : m.FirstNonFinite path x) : m.Leads path (.float x) := by
  obtain ⟨-, front, back, hspots, -⟩ := h
  apply MetaValue.mem_spots_iff.1
  rw [hspots]
  exact List.mem_append_right _ List.mem_cons_self

/-- A path to a float starts with a key. -/
theorem Leads.exists_key (h : m.Leads path (.float x)) :
    ∃ name rest, path = .key name :: rest := by
  cases h with
  | key => exact ⟨_, _, rfl⟩

/-- Among plain keys, the text of a path to a float leads to that float, and to no other value
unless a key is repeated. -/
theorem leadsBy_pathText (hplain : m.PlainKeys) (h : m.Leads path (.float x)) :
    m.LeadsBy (MetaStep.pathText path) (.float x) ∧
      (m.UniqueKeys → ∀ w, m.LeadsBy (MetaStep.pathText path) w → w = .float x) := by
  have hmarks : "." ++ MetaStep.pathText path = MetaStep.marks path := by
    obtain ⟨name, rest, rfl⟩ := h.exists_key
    exact MetaStep.dot_pathText (hplain.plainPath h)
  refine ⟨⟨path, h, hmarks⟩, ?_⟩
  rintro hkeys w ⟨path', h', hmarks'⟩
  obtain rfl := MetaStep.marks_inj (hplain.plainPath h') (hplain.plainPath h)
    (hmarks'.symm.trans hmarks)
  exact h'.unique hkeys h

end Metadata

/-! ## Documents that have trees -/

theorem Document.exists_toTree {d : Document} (h : d.data.Finite) : ∃ t, d.toTree = .ok t := by
  obtain ⟨members, -, hdata⟩ := Metadata.exists_toTree (Metadata.finite_iff.1 h)
  exact ⟨_, by rw [toTree, hdata]; rfl⟩

namespace Export

variable {documents : List Document}

theorem exists_mapM_toTree (h : ∀ d ∈ documents, d.data.Finite) :
    ∃ ts, documents.mapM Document.toTree = .ok ts := by
  induction documents with
  | nil => exact ⟨[], rfl⟩
  | cons d documents ih =>
    obtain ⟨t, ht⟩ := Document.exists_toTree (h d List.mem_cons_self)
    obtain ⟨ts, hts⟩ := ih fun d' hd => h d' (List.mem_cons_of_mem _ hd)
    exact ⟨t :: ts, by rw [List.mapM_cons, ht, hts]; rfl⟩

theorem refusal?_eq_none_iff {d : Document} : refusal? d = none ↔ d.data.Finite := by
  rw [refusal?, Option.map_eq_none_iff, Metadata.unrepresentable?, Option.map_eq_none_iff,
    Metadata.firstNonFinite?_eq_none_iff]

theorem refusal?_eq_some_iff {d : Document} {failure : Failure} :
    refusal? d = some failure ↔
      ∃ path x, d.data.FirstNonFinite path x ∧
        failure = .notSerializable d.id (.notFinite (MetaStep.pathText path)) := by
  unfold refusal? Metadata.unrepresentable?
  rw [Option.map_map, Option.map_eq_some_iff]
  constructor
  · rintro ⟨⟨path, x⟩, hfirst, rfl⟩
    exact ⟨path, x, Metadata.firstNonFinite?_eq_some_iff.1 hfirst, rfl⟩
  · rintro ⟨path, x, hfirst, rfl⟩
    exact ⟨(path, x), Metadata.firstNonFinite?_eq_some_iff.2 hfirst, rfl⟩

/-- The check lets the documents pass whose numbers are all finite. -/
theorem findSome?_refusal?_eq_none_iff :
    documents.findSome? refusal? = none ↔ ∀ d ∈ documents, d.data.Finite := by
  simp only [List.findSome?_eq_none_iff, refusal?_eq_none_iff]

theorem serialize_eq_ok {ts : List Tree} (h : ∀ d ∈ documents, d.data.Finite)
    (hts : documents.mapM Document.toTree = .ok ts) :
    serialize documents = .ok (Json.pretty (.list ts) ++ "\n") := by
  simp only [serialize, findSome?_refusal?_eq_none_iff.2 h, hts]

theorem exists_serialize_iff :
    (∃ text, serialize documents = .ok text) ↔ ∀ d ∈ documents, d.data.Finite := by
  constructor
  · rintro ⟨text, htext⟩
    rw [← findSome?_refusal?_eq_none_iff]
    cases hrefused : documents.findSome? refusal? with
    | none => rfl
    | some failure => simp [serialize, hrefused] at htext
  · intro h
    obtain ⟨ts, hts⟩ := exists_mapM_toTree h
    exact ⟨_, serialize_eq_ok h hts⟩

/-- A failure is the refusal of the first document that is refused. -/
theorem serialize_eq_error_iff {failure : Failure} :
    serialize documents = .error failure ↔
      ∃ front d back, documents = front ++ d :: back ∧ (∀ d' ∈ front, d'.data.Finite) ∧
        refusal? d = some failure := by
  have hfirst : documents.findSome? refusal? = some failure ↔
      ∃ front d back, documents = front ++ d :: back ∧ (∀ d' ∈ front, d'.data.Finite) ∧
        refusal? d = some failure := by
    simp only [List.findSome?_eq_some_iff, refusal?_eq_none_iff, and_comm]
  rw [← hfirst]
  cases hrefused : documents.findSome? refusal? with
  | some other => simp only [serialize, hrefused, Except.error.injEq, Option.some.injEq]
  | none =>
    obtain ⟨text, htext⟩ :=
      exists_serialize_iff.2 (findSome?_refusal?_eq_none_iff.1 hrefused)
    rw [htext]
    constructor
    · exact nofun
    · exact nofun

/-- An export fails exactly if the metadata of a document holds, at some depth, a number that is not
finite. The failure names the first such document and spells the path to the first such number in
it, so that the text leads there if all keys are plain. Where all numbers are finite, all documents
have trees and are written: the writer never fails. -/
theorem serialize_refused (documents : List Document) :
    ((∃ failure, serialize documents = .error failure) ↔
      ∃ d ∈ documents, ∃ path x, d.data.Leads path (.float x) ∧ x.isFinite = false) ∧
    (∀ failure, serialize documents = .error failure →
      ∃ front d back path x, documents = front ++ d :: back ∧
        (∀ d' ∈ front, d'.data.Finite) ∧ d.data.FirstNonFinite path x ∧
        d.data.Leads path (.float x) ∧
        failure = .notSerializable d.id (.notFinite (MetaStep.pathText path)) ∧
        (d.data.PlainKeys → d.data.LeadsBy (MetaStep.pathText path) (.float x) ∧
          (d.data.UniqueKeys →
            ∀ w, d.data.LeadsBy (MetaStep.pathText path) w → w = .float x))) ∧
    (∀ id x, serialize documents ≠ .error (.notSerializable id (.writer x))) ∧
    ((∀ d ∈ documents, d.data.Finite) → ∃ ts, documents.mapM Document.toTree = .ok ts ∧
      serialize documents = .ok (Json.pretty (.list ts) ++ "\n")) := by
  have hnamed : ∀ failure, serialize documents = .error failure →
      ∃ front d back path x, documents = front ++ d :: back ∧
        (∀ d' ∈ front, d'.data.Finite) ∧ d.data.FirstNonFinite path x ∧
        failure = .notSerializable d.id (.notFinite (MetaStep.pathText path)) := by
    intro failure h
    obtain ⟨front, d, back, hdocuments, hfront, hd⟩ := serialize_eq_error_iff.1 h
    obtain ⟨path, x, hfirst, hfailure⟩ := refusal?_eq_some_iff.1 hd
    exact ⟨front, d, back, path, x, hdocuments, hfront, hfirst, hfailure⟩
  refine ⟨⟨?_, ?_⟩, ?_, ?_, ?_⟩
  · rintro ⟨failure, h⟩
    obtain ⟨front, d, back, path, x, rfl, -, hfirst, -⟩ := hnamed failure h
    exact ⟨d, List.mem_append_right _ List.mem_cons_self, path, x, hfirst.leads, hfirst.1⟩
  · rintro ⟨d, hd, path, x, hpath, hx⟩
    cases h : serialize documents with
    | error failure => exact ⟨failure, rfl⟩
    | ok text =>
      have hfinite := exists_serialize_iff.1 ⟨text, h⟩ d hd path x hpath
      exact absurd hfinite (by simp [hx])
  · intro failure h
    obtain ⟨front, d, back, path, x, hdocuments, hfront, hfirst, hfailure⟩ := hnamed failure h
    exact ⟨front, d, back, path, x, hdocuments, hfront, hfirst, hfirst.leads, hfailure,
      fun hplain => Metadata.leadsBy_pathText hplain hfirst.leads⟩
  · intro id x h
    obtain ⟨front, d, back, path, y, -, -, -, hfailure⟩ := hnamed _ h
    cases hfailure
  · intro hfinite
    obtain ⟨ts, hts⟩ := exists_mapM_toTree hfinite
    exact ⟨ts, hts, serialize_eq_ok hfinite hts⟩

/-- Infinity in a list below two keys, and a number that is none after it. -/
def unboundedMetadata : Metadata := ⟨[
  ("title", .text "a.b[0]"),
  ("sidebar", .map [("order", .list [.integer 1, .float (.infinite true)])]),
  ("weight", .float .nan)]⟩

def unboundedDocuments : List Document :=
  [⟨"index", .empty, ""⟩, ⟨"bad/page", unboundedMetadata, "x"⟩]

example : serialize unboundedDocuments =
    .error (.notSerializable "bad/page" (.notFinite "sidebar.order[1]")) := rfl

theorem serialize_refused_unbounded :
    (∀ d ∈ unboundedDocuments, d.data.PlainKeys ∧ d.data.UniqueKeys) ∧
      (∃ d ∈ unboundedDocuments, ∃ path x,
        serialize unboundedDocuments =
          .error (.notSerializable d.id (.notFinite (MetaStep.pathText path))) ∧
        d.data.LeadsBy (MetaStep.pathText path) (.float x) ∧
        ∀ w, d.data.LeadsBy (MetaStep.pathText path) w → w = .float x) ∧
      (∀ d ∈ unboundedDocuments.take 1, d.data.Finite) ∧
      ∃ ts, (unboundedDocuments.take 1).mapM Document.toTree = .ok ts ∧
        serialize (unboundedDocuments.take 1) = .ok (Json.pretty (.list ts) ++ "\n") := by
  have hkeys : ∀ d ∈ unboundedDocuments, d.data.PlainKeys ∧ d.data.UniqueKeys := by
    intro d hd
    rcases List.mem_cons.1 hd with rfl | hd
    · exact ⟨nofun, trivial⟩
    · obtain rfl := List.mem_singleton.1 hd
      have hplain : ∀ name ∈ (MetaValue.map unboundedMetadata.entries).allKeys, PlainKey name := by
        decide
      have horder :
          (MetaValue.map [("order", .list [.integer 1, .float (.infinite true)])]).UniqueKeys :=
        MetaValue.uniqueKeysEntries_iff.2 ⟨by decide, List.forall_mem_singleton.2
          (MetaValue.uniqueKeysItems_iff.2 (List.forall_mem_cons.2
            ⟨trivial, List.forall_mem_singleton.2 trivial⟩))⟩
      have hunique : unboundedMetadata.UniqueKeys :=
        MetaValue.uniqueKeysEntries_iff.2 ⟨by decide, List.forall_mem_cons.2
          ⟨trivial, List.forall_mem_cons.2 ⟨horder, List.forall_mem_singleton.2 trivial⟩⟩⟩
      exact ⟨hplain, hunique⟩
  have hrefused : ∃ d ∈ unboundedDocuments, ∃ path x,
      d.data.Leads path (.float x) ∧ x.isFinite = false :=
    ⟨_, List.mem_of_getElem? (i := 1) rfl, [.key "weight"], .nan,
      .key (List.mem_of_getElem? (i := 2) rfl) (.here _), rfl⟩
  have hfinite : ∀ d ∈ unboundedDocuments.take 1, d.data.Finite := by
    intro d hd
    obtain rfl := List.mem_singleton.1 hd
    exact Metadata.finite_iff.2 (by decide)
  obtain ⟨hfails, hnamed, -, -⟩ := serialize_refused unboundedDocuments
  obtain ⟨failure, h⟩ := hfails.2 hrefused
  obtain ⟨front, d, back, path, x, hdocuments, -, -, -, rfl, htext⟩ := hnamed failure h
  have hd : d ∈ unboundedDocuments := hdocuments ▸ List.mem_append_right _ List.mem_cons_self
  obtain ⟨hplain, hunique⟩ := hkeys d hd
  exact ⟨hkeys, ⟨d, hd, path, x, h, (htext hplain).1, (htext hplain).2 hunique⟩, hfinite,
    (serialize_refused (unboundedDocuments.take 1)).2.2.2 hfinite⟩

end Export
end DocCorpus
