/-
  The file name form of a label. It holds the alphanumeric characters of the label in lower case, in
  their order, with at most one hyphen between two of them and none at its ends (`Hyphenated`). Such
  a text in lower case is its own form, so the form of a label is its own form too (`slug_slug`).
-/
import DocCorpus.Identifier
import DocCorpus.Proofs.Text.Letter

namespace DocCorpus.Label

/-! ## Shape -/

/-- Alphanumeric characters with single hyphens between them. -/
structure Hyphenated (s : List Char) : Prop where
  chars : ∀ c ∈ s, isAlphanumeric c = true ∨ c = '-'
  single : ¬ ['-', '-'] <:+: s
  head : s.head? ≠ some '-'
  last : s.getLast? ≠ some '-'

/-- What may stand behind an alphanumeric character: each hyphen has another one behind it. -/
inductive Rest : List Char → Prop
  | nil : Rest []
  | char {c : Char} {s : List Char} (alphanumeric : isAlphanumeric c = true) (rest : Rest s) :
      Rest (c :: s)
  | hyphen {c : Char} {s : List Char} (alphanumeric : isAlphanumeric c = true) (rest : Rest s) :
      Rest ('-' :: c :: s)

variable {c : Char} {s : List Char}

theorem isAlphanumeric_hyphen : isAlphanumeric '-' = false := by decide

theorem ne_hyphen (h : isAlphanumeric c = true) : c ≠ '-' := by
  rintro rfl
  rw [isAlphanumeric_hyphen] at h
  cases h

theorem not_infix_cons (hc : isAlphanumeric c = true) (hs : ¬ ['-', '-'] <:+: s) :
    ¬ ['-', '-'] <:+: c :: s := by
  rw [List.infix_cons_iff]
  rintro (h | h)
  · exact ne_hyphen hc (List.cons_prefix_cons.1 h).1.symm
  · exact hs h

theorem Rest.single (h : Rest s) (hc : isAlphanumeric c = true) : ¬ ['-', '-'] <:+: c :: s := by
  induction h generalizing c with
  | nil => exact not_infix_cons hc (by decide)
  | char hd _ ih => exact not_infix_cons hc (ih hd)
  | hyphen hd _ ih =>
    refine not_infix_cons hc ?_
    rw [List.infix_cons_iff]
    rintro (h | h)
    · exact ne_hyphen hd (List.cons_prefix_cons.1 (List.cons_prefix_cons.1 h).2).1.symm
    · exact ih hd h

theorem Rest.last (h : Rest s) (hc : isAlphanumeric c = true) : (c :: s).getLast? ≠ some '-' := by
  induction h generalizing c with
  | nil => simpa using ne_hyphen hc
  | char hd _ ih => exact ih hd
  | hyphen hd _ ih => exact ih hd

/-! ## What the form keeps -/

theorem mem_slugFrom {c : Char} {started pending : Bool} {s : List Char}
    (h : c ∈ slugFrom started pending s) : isAlphanumeric c = true ∨ c = '-' := by
  induction s generalizing started pending with
  | nil => cases h
  | cons d rest ih =>
    unfold slugFrom at h
    split at h
    · next hd =>
      split at h
      · rcases List.mem_cons.1 h with rfl | h
        · exact .inr rfl
        · rcases List.mem_cons.1 h with rfl | h
          · exact .inl hd
          · exact ih h
      · rcases List.mem_cons.1 h with rfl | h
        · exact .inl hd
        · exact ih h
    · exact ih h

theorem not_mem_slug {c : Char} (hc : isAlphanumeric c = false) (hdash : c ≠ '-')
    (label : String) : c ∉ (slug label).toList := by
  unfold slug
  rw [String.toList_ofList]
  intro h
  rcases mem_slugFrom h with h | h
  · rw [hc] at h
    cases h
  · exact hdash h

/-- What a form holds behind its first character, whether or not a hyphen is due. -/
theorem rest_slugFrom (pending : Bool) (s : List Char) : Rest (slugFrom true pending s) := by
  induction s generalizing pending with
  | nil => exact .nil
  | cons c s ih =>
    unfold slugFrom
    split
    · next hc =>
      split
      · exact .hyphen hc (ih false)
      · exact .char hc (ih false)
    · exact ih true

/-- A form starts with an alphanumeric character, if it is not empty. -/
theorem slugFrom_cases (s : List Char) :
    slugFrom false false s = [] ∨
      ∃ c rest, slugFrom false false s = c :: rest ∧ isAlphanumeric c = true ∧ Rest rest := by
  induction s with
  | nil => exact .inl rfl
  | cons c s ih =>
    unfold slugFrom
    split
    · next hc => exact .inr ⟨c, _, rfl, hc, rest_slugFrom false s⟩
    · exact ih

/-- No alphanumeric character is lost, and hyphens are all that is added. -/
theorem filter_slugFrom (started pending : Bool) (s : List Char) :
    (slugFrom started pending s).filter isAlphanumeric = s.filter isAlphanumeric := by
  induction s generalizing started pending with
  | nil => rfl
  | cons c s ih =>
    unfold slugFrom
    split
    · next hc =>
      split
      · rw [List.filter_cons_of_neg (by decide), List.filter_cons_of_pos hc,
          List.filter_cons_of_pos hc, ih]
      · rw [List.filter_cons_of_pos hc, List.filter_cons_of_pos hc, ih]
    · next hc => rw [List.filter_cons_of_neg hc, ih]

theorem Rest.slugFrom_eq_self (h : Rest s) : slugFrom true false s = s := by
  induction h with
  | nil => rfl
  | char hc _ ih => rw [slugFrom, if_pos hc, if_neg Bool.false_ne_true, ih]
  | hyphen hc _ ih =>
    rw [slugFrom, isAlphanumeric_hyphen, if_neg Bool.false_ne_true, slugFrom, if_pos hc, if_pos rfl,
      ih]

/-! ## Labels -/

/-- The lower-case characters of a label. -/
def lowered (label : String) : List Char := label.toList.flatMap Letter.lower

theorem toList_slug (label : String) :
    (slug label).toList = slugFrom false false (lowered label) :=
  String.toList_ofList

theorem hyphenated_slugFrom (s : List Char) : Hyphenated (slugFrom false false s) := by
  have hchars : ∀ c ∈ slugFrom false false s, isAlphanumeric c = true ∨ c = '-' :=
    fun c => mem_slugFrom
  obtain hnil | ⟨c, rest, hcons, hc, hrest⟩ := slugFrom_cases s
  · rw [hnil] at hchars ⊢
    exact ⟨hchars, by decide, by decide, by decide⟩
  · rw [hcons] at hchars ⊢
    exact ⟨hchars, hrest.single hc, fun h => ne_hyphen hc (Option.some.inj h), hrest.last hc⟩

/-- Every character of a form is its own lower-case form. -/
theorem lower_of_mem_slug {label : String} (h : c ∈ (slug label).toList) :
    Letter.lower c = [c] := by
  rw [toList_slug] at h
  rcases mem_slugFrom h with hc | rfl
  · have hmem : c ∈ (slugFrom false false (lowered label)).filter isAlphanumeric :=
      List.mem_filter.2 ⟨h, hc⟩
    rw [filter_slugFrom] at hmem
    obtain ⟨d, -, hd⟩ := List.mem_flatMap.1 (List.mem_filter.1 hmem).1
    exact Letter.lower_of_mem_lower hd
  · decide

theorem slugFrom_slugFrom (s : List Char) :
    slugFrom false false (slugFrom false false s) = slugFrom false false s := by
  obtain hnil | ⟨c, rest, hcons, hc, hrest⟩ := slugFrom_cases s
  · rw [hnil]
    rfl
  · rw [hcons, slugFrom, if_pos hc, if_neg Bool.false_ne_true, hrest.slugFrom_eq_self]

/-- The form of a label holds alphanumeric characters with single hyphens between them, and these
are all the alphanumeric characters of the label in lower case. It is its own form. -/
theorem slug_slug (label : String) :
    Hyphenated (slug label).toList ∧
    (slug label).toList.filter isAlphanumeric = (lowered label).filter isAlphanumeric ∧
    slug (slug label) = slug label := by
  refine ⟨?_, ?_, ?_⟩
  · rw [toList_slug]
    exact hyphenated_slugFrom (lowered label)
  · rw [toList_slug, filter_slugFrom]
  · have hlower : lowered (slug label) = (slug label).toList :=
      Letter.flatMap_lower fun c => lower_of_mem_slug
    rw [← String.toList_inj, toList_slug (slug label), hlower, toList_slug, slugFrom_slugFrom]

end DocCorpus.Label
