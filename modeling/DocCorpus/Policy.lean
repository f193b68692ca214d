/-
  Who may read the export: everyone, or whoever presents the secret. The comparison looks at every
  byte, so that its time does not depend on where two texts differ; it tells whether they are equal
  (`sameBytes_iff`).
-/

namespace DocCorpus

structure ExportPolicy where
  secret : Option String

namespace ExportPolicy

/-- The policy without a secret. -/
def anyone : ExportPolicy := ⟨none⟩

def isOpen (p : ExportPolicy) : Bool := p.secret.isNone

/-- Whether two byte sequences are equal, with every pair of bytes looked at. -/
def sameBytes (a b : List UInt8) : Bool :=
  a.length == b.length && (List.zip a b).foldl (fun acc (x, y) => acc ||| (x ^^^ y)) 0 == 0

theorem foldl_or_eq_zero (l : List (UInt8 × UInt8)) (acc : UInt8) :
    l.foldl (fun acc (x, y) => acc ||| (x ^^^ y)) acc = 0 ↔ acc = 0 ∧ ∀ e ∈ l, e.1 = e.2 := by
  induction l generalizing acc with
  | nil => simp
  | cons e l ih =>
    simp only [List.foldl_cons, ih, UInt8.or_eq_zero_iff, UInt8.xor_eq_zero_iff, List.mem_cons,
      forall_eq_or_imp, and_assoc]

theorem eq_of_zip {a b : List UInt8} (hl : a.length = b.length)
    (h : ∀ e ∈ List.zip a b, e.1 = e.2) : a = b := by
  induction a generalizing b with
  | nil => simpa using hl.symm
  | cons x a ih =>
    cases b with
    | nil => simp at hl
    | cons y b =>
      simp only [List.zip_cons_cons, List.mem_cons, forall_eq_or_imp] at h
      rw [h.1, ih (by simpa using hl) h.2]

theorem sameBytes_iff {a b : List UInt8} : sameBytes a b = true ↔ a = b := by
  simp only [sameBytes, Bool.and_eq_true, beq_iff_eq, foldl_or_eq_zero, true_and]
  refine ⟨fun h => eq_of_zip h.1 h.2, fun h => ⟨h ▸ rfl, fun e he => ?_⟩⟩
  subst h
  simp only [List.zip_eq_zipWith, List.zipWith_self, List.mem_map] at he
  obtain ⟨x, _, rfl⟩ := he
  rfl

def bytes (s : String) : List UInt8 := s.toUTF8.toList

/-- Whether a request with this authorization may read the export. -/
def allows (p : ExportPolicy) (authorization : Option String) : Bool :=
  match p.secret with
  | none => true
  | some secret =>
    match authorization with
    | none => false
    | some given => sameBytes (bytes given) (bytes secret)

end ExportPolicy
end DocCorpus
