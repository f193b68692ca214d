/-
  Identifiers made from the paths of files. Such an identifier is one part or several parts with a
  slash between each two, and a part is made of letters and digits of any script, hyphens and dots
  (`part_of_mem_splitOn`). So it is not empty, has no slashes at its ends, and holds no other
  characters (`normalize_ofPath`, `not_mem_ofPath`).
-/
import DocCorpus.Identifier
import DocCorpus.Proofs.Text.Splitting

namespace DocCorpus

/-- Sets without a common interval have no common member. -/
theorem CharSet.has_eq_false {s t : CharSet}
    (h : ∀ i ∈ s.intervals, ∀ j ∈ t.intervals, i.2 < j.1 ∨ j.2 < i.1) {c : Char}
    (hc : s.has c = true) : t.has c = false := by
  rw [← Bool.not_eq_true]
  intro hc'
  obtain ⟨i, hi, hfirst, hlast⟩ := search_eq_true hc
  obtain ⟨j, hj, hfirst', hlast'⟩ := search_eq_true hc'
  have hapart := h i hi j hj
  omega

theorem not_isAlphanumeric_of_isBlank {c : Char} (h : isBlank c = true) :
    isAlphanumeric c = false :=
  CharSet.has_eq_false (s := blankChars) (t := alphanumericChars) (by decide +kernel) h

namespace Identifier

/-! ## Parts -/

/-- A character that a path name leaves in an identifier. -/
def PartChar (c : Char) : Prop := isAlphanumeric c = true ∨ c = '-' ∨ c = '.'

/-- A part of an identifier made from a path. -/
structure Part (s : List Char) : Prop where
  visible : s ≠ []
  chars : ∀ c ∈ s, PartChar c

theorem PartChar.ne {c d : Char} (h : PartChar c) (hd : isAlphanumeric d = false)
    (hmark : d ≠ '-' ∧ d ≠ '.') : c ≠ d := by
  rintro rfl
  rcases h with h | h | h
  · rw [hd] at h
    cases h
  · exact hmark.1 h
  · exact hmark.2 h

theorem PartChar.not_blank {c : Char} (h : PartChar c) : isBlank c = false := by
  rcases h with h | rfl | rfl
  · rw [← Bool.not_eq_true]
    intro hblank
    rw [not_isAlphanumeric_of_isBlank hblank] at h
    cases h
  · decide
  · decide

theorem partChar_of_mem_slugOfName {name : List Char} {c : Char} (h : c ∈ slugOfName name) :
    PartChar c := by
  have hc := (List.mem_filter.1 h).2
  rw [Bool.or_eq_true, Bool.or_eq_true, beq_iff_eq, beq_iff_eq, or_assoc] at hc
  exact hc

theorem Part.slash {s : List Char} (h : Part s) : '/' ∉ s :=
  fun hmem => (h.chars '/' hmem).ne (by decide) (by decide) rfl

/-- The identifier of a path falls into parts at its slashes. -/
theorem part_of_mem_splitOn {names : List (List Char)} {part : List Char}
    (h : part ∈ (ofNames names).splitOn '/') : Part part := by
  -- `parts` is what `ofNames` joins; only the index of a directory loses its last part.
  unfold ofNames at h
  dsimp only at h
  generalize hjoined : ((dropExtension names).map slugOfName).filter (· ≠ []) = parts at h
  have hparts : ∀ part ∈ parts, Part part := by
    intro part hpart
    rw [← hjoined] at hpart
    obtain ⟨hmem, hvisible⟩ := List.mem_filter.1 hpart
    obtain ⟨name, -, rfl⟩ := List.mem_map.1 hmem
    exact ⟨of_decide_eq_true hvisible, fun _ => partChar_of_mem_slugOfName⟩
  have hletters : "index".toList.all isAlphanumeric = true := by decide
  have hindex : Part "index".toList :=
    ⟨by decide, fun c hc => .inl (List.all_eq_true.1 hletters c hc)⟩
  have hsplit : ['/'].intercalate parts ≠ [] → (['/'].intercalate parts).splitOn '/' = parts := by
    intro hne
    refine List.splitOn_intercalate '/' (fun part hpart => (hparts part hpart).slash) fun hnil => ?_
    exact hne (by rw [hnil]; rfl)
  split at h
  · next parent htail =>
    have hslug := Text.dropTail?_eq_some.1 htail
    have hne : ['/'].intercalate parts ≠ [] := by
      rw [hslug]
      exact List.append_ne_nil_of_right_ne_nil parent (by decide)
    have hall : parts = parent.splitOn '/' ++ ["index".toList] := by
      rw [← hsplit hne, hslug]
      exact List.splitOn_append_cons_self ..
    exact hparts part (hall ▸ List.mem_append_left _ h)
  · split at h
    · have hone : "index".toList.splitOn '/' = ["index".toList] := by decide
      rw [hone, List.mem_singleton] at h
      exact h ▸ hindex
    · next hne =>
      rw [hsplit hne] at h
      exact hparts part h

/-! ## Whole identifiers -/

/-- Nothing is taken from a text that has no slashes at its ends. -/
theorem normalizeChars_of_ends {s : List Char} (head : s.head? ≠ some '/')
    (last : s.getLast? ≠ some '/') : normalizeChars s = s := by
  refine Text.strip_eq_self (fun c hc => decide_eq_false ?_) (fun c hc => decide_eq_false ?_)
  · rintro rfl
    exact head hc
  · rintro rfl
    exact last hc

/-- A text whose parts are not empty has no slashes at its ends. -/
theorem normalizeChars_eq_self {s : List Char} (h : [] ∉ s.splitOn '/') : normalizeChars s = s := by
  refine normalizeChars_of_ends (fun hc => ?_) (fun hc => ?_)
  · obtain ⟨rest, rfl⟩ := List.head?_eq_some_iff.1 hc
    have hsplit : ('/' :: rest).splitOn '/' = [] :: rest.splitOn '/' :=
      List.splitOn_append_cons_self [] rest
    exact h (hsplit ▸ .head _)
  · obtain ⟨front, rfl⟩ := List.getLast?_eq_some_iff.1 hc
    have hsplit : (front ++ ['/']).splitOn '/' = front.splitOn '/' ++ [[]] :=
      List.splitOn_append_cons_self ..
    exact h (hsplit ▸ List.mem_append_right _ (.head _))

theorem normalizeChars_toList {id : String} (h : normalize id = id) :
    normalizeChars id.toList = id.toList := by
  have hchars := congrArg String.toList h
  rwa [normalize, String.toList_ofList] at hchars

theorem head_ne_slash {id : String} (h : normalize id = id) : id.toList.head? ≠ some '/' := by
  intro hhead
  rw [← normalizeChars_toList h] at hhead
  exact absurd (Text.head_strip hhead) (by decide)

theorem last_ne_slash {id : String} (h : normalize id = id) : id.toList.getLast? ≠ some '/' := by
  intro hlast
  rw [← normalizeChars_toList h] at hlast
  exact absurd (Text.last_strip hlast) (by decide)

theorem nil_not_mem_splitOn (names : List (List Char)) : [] ∉ (ofNames names).splitOn '/' :=
  fun h => (part_of_mem_splitOn h).visible rfl

theorem mem_ofPath_cases {relative : Path} {c : Char} (h : c ∈ (ofPath relative).toList) :
    c = '/' ∨ PartChar c := by
  unfold ofPath at h
  rw [String.toList_ofList] at h
  have hcases : c = '/' ∨ ∃ part ∈ (ofNames (relative.names.map String.toList)).splitOn '/',
      c ∈ part := Text.mem_cases_splitOn h
  obtain rfl | ⟨part, hpart, hc⟩ := hcases
  · exact .inl rfl
  · exact .inr ((part_of_mem_splitOn hpart).chars c hc)

theorem not_mem_ofPath {c : Char} (hc : isAlphanumeric c = false)
    (hmark : c ≠ '/' ∧ c ≠ '-' ∧ c ≠ '.') (relative : Path) : c ∉ (ofPath relative).toList := by
  intro h
  rcases mem_ofPath_cases h with h | h
  · exact hmark.1 h
  · exact h.ne hc hmark.2 rfl

theorem not_blank_of_mem_ofPath {relative : Path} {c : Char} (h : c ∈ (ofPath relative).toList) :
    isBlank c = false := by
  rcases mem_ofPath_cases h with rfl | h
  · decide
  · exact h.not_blank

theorem normalize_ofPath (relative : Path) : normalize (ofPath relative) = ofPath relative := by
  unfold normalize ofPath
  rw [String.toList_ofList, normalizeChars_eq_self (nil_not_mem_splitOn _)]

theorem ofPath_ne_empty (relative : Path) : ofPath relative ≠ "" := by
  intro h
  have hnil : ofNames (relative.names.map String.toList) = [] := by
    rw [← String.toList_ofList (l := ofNames _)]
    exact String.toList_eq_nil_iff.2 h
  refine nil_not_mem_splitOn (relative.names.map String.toList) ?_
  rw [hnil]
  exact .head _

end Identifier
end DocCorpus
