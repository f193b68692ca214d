/-
  Letters in another case. The form of a letter holds no character of a set that the letter and the
  table keep out of (`Letter.not_has_form`). A table whose images no run of it covers again takes
  every character to characters that it leaves alone (`Letter.form_of_mem_form`); the table of
  lower-case forms is one, so what is in lower case stays as it is (`Letter.flatMap_lower`).
-/
import DocCorpus.Text.Letter
import Mathlib.Data.List.Basic

namespace DocCorpus

namespace CaseRun

variable {r r' : CaseRun} {table : List CaseRun} {n code : Nat}

theorem bounds_of_covers (h : r.covers n = true) : r.first ≤ n ∧ n ≤ r.last := by
  simp only [covers, Bool.and_eq_true, decide_eq_true_eq] at h
  exact h.1

/-- What a table maps a code point to is its image under a run that covers it. -/
theorem exists_of_find? (h : find? table n = some code) :
    ∃ r ∈ table, r.covers n = true ∧ code = r.image + (n - r.first) := by
  induction table with
  | nil => cases h
  | cons r rest ih =>
    rw [find?] at h
    split at h
    · cases h
    · split at h
      · next hcovers => exact ⟨r, List.mem_cons_self, hcovers, (Option.some.inj h).symm⟩
      · obtain ⟨r', hr', hcode⟩ := ih h
        exact ⟨r', List.mem_cons_of_mem r hr', hcode⟩

/-- Whether `r'` covers no image under `r`: they lie apart, or `r'` covers every other code point
and the images are those between. -/
def misses (r r' : CaseRun) : Bool :=
  (r.image + (r.last - r.first)).blt r'.first || r'.last.blt r.image ||
    ((r.step == 2 || r.last == r.first) && r'.step == 2 && (r.image + r'.first) % 2 == 1)

theorem not_covers_of_misses (h : r.misses r' = true) (hn : r.covers n = true) :
    r'.covers (r.image + (n - r.first)) = false := by
  simp only [misses, Bool.or_eq_true, Bool.and_eq_true, Nat.blt_eq, beq_iff_eq] at h
  simp only [covers, Bool.and_eq_true, decide_eq_true_eq, beq_iff_eq] at hn
  rw [← Bool.not_eq_true]
  simp only [covers, Bool.and_eq_true, decide_eq_true_eq, beq_iff_eq, not_and]
  intro hbounds hparity
  obtain (hapart | hapart) | ⟨⟨hstep, hstep'⟩, hodd⟩ := h
  · omega
  · omega
  · rw [hstep'] at hparity
    rcases hstep with hstep | hstep
    · rw [hstep] at hn
      omega
    · omega

theorem find?_eq_none (h : ∀ r ∈ table, r.covers n = false) : find? table n = none := by
  induction table with
  | nil => rfl
  | cons r rest ih =>
    obtain ⟨hr, hrest⟩ := List.forall_mem_cons.1 h
    rw [find?, hr, if_neg Bool.false_ne_true, ih hrest, ite_self]

end CaseRun

namespace Letter

variable {sequences : List (Nat × List Nat)} {table : List CaseRun} {c d : Char}

/-! ## Forms -/

theorem mem_of_lookup {n : Nat} {codes : List Nat} (h : sequences.lookup n = some codes) :
    (n, codes) ∈ sequences := by
  obtain ⟨_, _, rfl, -⟩ := List.lookup_eq_some_iff.1 h
  exact List.mem_append_right _ List.mem_cons_self

/-- A character of a form stands in a sequence, is the image under a run, or is the letter itself,
which then is all of its form. -/
theorem form_cases (h : d ∈ form sequences table c) :
    (∃ e ∈ sequences, ∃ code ∈ e.2, d = Char.ofNat code) ∨
      (∃ r ∈ table, r.covers c.toNat = true ∧ d = Char.ofNat (r.image + (c.toNat - r.first))) ∨
      d = c ∧ form sequences table c = [c] := by
  cases hlookup : sequences.lookup c.toNat with
  | some codes =>
    left
    rw [form, hlookup] at h
    obtain ⟨code, hcode, rfl⟩ := List.mem_map.1 h
    exact ⟨(c.toNat, codes), mem_of_lookup hlookup, code, hcode, rfl⟩
  | none =>
    right
    cases hfind : CaseRun.find? table c.toNat with
    | some code =>
      left
      rw [form, hlookup, hfind] at h
      obtain ⟨r, hr, hcovers, rfl⟩ := CaseRun.exists_of_find? hfind
      exact ⟨r, hr, hcovers, List.mem_singleton.1 h⟩
    | none =>
      right
      have hself : form sequences table c = [c] := by rw [form, hlookup, hfind]
      rw [hself] at h
      exact ⟨List.mem_singleton.1 h, hself⟩

theorem toNat_ofNat_cases (n : Nat) : (Char.ofNat n).toNat = n ∨ (Char.ofNat n).toNat = 0 := by
  by_cases h : n.isValidChar
  · exact .inl (congrArg Char.toNat (dif_pos h))
  · exact .inr (congrArg Char.toNat (dif_neg h))

/-- A set that keeps apart from the sequences and the images of a table has no character of a form
but the letter itself. -/
theorem not_has_form {set : CharSet}
    (hsequences : ∀ e ∈ sequences, ∀ code ∈ e.2, set.has (Char.ofNat code) = false)
    (hruns : ∀ r ∈ table, ∀ i ∈ set.intervals,
      r.image + (r.last - r.first) < i.1 ∨ i.2 < r.image)
    (hzero : ∀ i ∈ set.intervals, 0 < i.1) (hc : set.has c = false)
    (h : d ∈ form sequences table c) : set.has d = false := by
  obtain ⟨e, he, code, hcode, rfl⟩ | ⟨r, hr, hcovers, rfl⟩ | ⟨rfl, -⟩ := form_cases h
  · exact hsequences e he code hcode
  · rw [← Bool.not_eq_true]
    intro hhas
    obtain ⟨i, hi, hfirst, hlast⟩ := CharSet.search_eq_true hhas
    have hapart := hruns r hr i hi
    have hpos := hzero i hi
    have hbounds := CaseRun.bounds_of_covers hcovers
    rcases toNat_ofNat_cases (r.image + (c.toNat - r.first)) with hcode | hcode
    · omega
    · omega
  · exact hc

/-- A letter has a form. -/
theorem form_ne_nil (hsequences : ∀ e ∈ sequences, e.2 ≠ []) (c : Char) :
    form sequences table c ≠ [] := by
  unfold form
  split
  · next codes hcodes =>
    exact fun hnil => hsequences _ (mem_of_lookup hcodes) (List.map_eq_nil_iff.1 hnil)
  · split
    · exact List.cons_ne_nil _ _
    · exact List.cons_ne_nil _ _

/-! ## Lower case -/

/-- A character that a table neither lists nor covers is its own form. -/
theorem form_eq_self (hsequences : ∀ e ∈ sequences, e.1 ≠ c.toNat)
    (hruns : ∀ r ∈ table, r.covers c.toNat = false) : form sequences table c = [c] := by
  have hlookup : sequences.lookup c.toNat = none :=
    List.lookup_eq_none_iff.2 fun e he => bne_iff_ne.2 (hsequences e he).symm
  rw [form, hlookup, CaseRun.find?_eq_none hruns]

/-- Where no image is covered or listed again, the characters of a form are their own forms. -/
theorem form_of_mem_form
    (hsequences : ∀ e ∈ sequences, ∀ code ∈ e.2,
      form sequences table (Char.ofNat code) = [Char.ofNat code])
    (hruns : ∀ r ∈ table, ∀ r' ∈ table, r.misses r' = true)
    (hapart : ∀ r ∈ table, ∀ e ∈ sequences, e.1 < r.image ∨ r.image + (r.last - r.first) < e.1)
    (hzero : form sequences table (Char.ofNat 0) = [Char.ofNat 0])
    (h : d ∈ form sequences table c) : form sequences table d = [d] := by
  obtain ⟨e, he, code, hcode, rfl⟩ | ⟨r, hr, hcovers, rfl⟩ | ⟨rfl, hself⟩ := form_cases h
  · exact hsequences e he code hcode
  · -- An image that is no character stands for the character with code point zero.
    rcases toNat_ofNat_cases (r.image + (c.toNat - r.first)) with hvalid | hvalid
    · refine form_eq_self (fun e he => ?_) (fun r' hr' => ?_)
      · have hbounds := CaseRun.bounds_of_covers hcovers
        have hlisted := hapart r hr e he
        omega
      · rw [hvalid]
        exact CaseRun.not_covers_of_misses (hruns r hr r' hr') hcovers
    · have hnul : Char.ofNat (r.image + (c.toNat - r.first)) = Char.ofNat 0 :=
        Char.toNat_inj.1 hvalid
      rw [hnul]
      exact hzero
  · exact hself

theorem misses_lowerRuns : ∀ r ∈ lowerRuns, ∀ r' ∈ lowerRuns, r.misses r' = true := by
  have hall : (lowerRuns.all fun r => lowerRuns.all r.misses) = true := by decide +kernel
  simpa only [List.all_eq_true] using hall

/-- The characters of a lower-case form are in lower case. -/
theorem lower_of_mem_lower (h : d ∈ lower c) : lower d = [d] :=
  form_of_mem_form (by decide) misses_lowerRuns (by decide +kernel) (by decide) h

/-- A text of characters in lower case is its own lower-case form. -/
theorem flatMap_lower {s : List Char} (h : ∀ c ∈ s, lower c = [c]) : s.flatMap lower = s := by
  induction s with
  | nil => rfl
  | cons c s ih =>
    obtain ⟨hc, hs⟩ := List.forall_mem_cons.1 h
    rw [List.flatMap_cons, hc, ih hs]
    rfl

end Letter
end DocCorpus
