/-
  Blanks of a minified body. Collapsing keeps an empty line behind another in code only
  (`codeAfter_of_collapseFrom`). The lines that are left out, and the blanks that the last trim
  takes from the first line, change no fence, so the lines of the result tell by their own fences
  where its code is (`blanks_of_minify`).
-/
import DocCorpus.Proofs.Minify.Body

namespace DocCorpus.Minify

variable {inCode afterEmpty : Bool} {ls front back : List (List Char)}

theorem codeAfter_append (inCode : Bool) (ls ls' : List (List Char)) :
    codeAfter inCode (ls ++ ls') = codeAfter (codeAfter inCode ls) ls' :=
  List.foldl_append

/-- Lines that are no fences leave open whether a text stands in code. -/
theorem codeAfter_of_plain (h : ∀ line ∈ ls, isFence line = false) :
    codeAfter inCode ls = inCode := by
  rw [codeAfter_eq_iff, List.countP_eq_zero.2 fun line hline => Bool.eq_false_iff.1 (h line hline)]
  exact Even.zero

/-! ## Collapsed lines -/

/-- Outside code no empty line is kept behind another. -/
theorem head?_collapseFrom_ne (ls : List (List Char)) :
    (collapseFrom false true ls).head? ≠ some [] := by
  induction ls with
  | nil => exact nofun
  | cons line ls ih =>
    by_cases hline : line = []
    · subst hline
      exact ih
    · rw [collapseFrom_visible _ _ hline]
      exact fun hhead => hline (Option.some.inj hhead)

/-- Two empty lines are kept one behind the other in code only. -/
theorem codeAfter_of_collapseFrom
    (h : collapseFrom inCode afterEmpty ls = front ++ [] :: [] :: back) :
    codeAfter inCode front = true := by
  induction ls generalizing inCode afterEmpty front with
  | nil =>
    have hlength := congrArg List.length h
    simp [collapseFrom] at hlength
  | cons line ls ih =>
    rw [collapseFrom_cons] at h
    split at h
    · next hdrop =>
      have hline : line = [] := by simp only [Bool.and_eq_true] at hdrop; simpa using hdrop.1.2
      rw [hline, isFence_nil, Bool.xor_false] at h
      exact ih h
    · cases front with
      | nil =>
        -- The first of the two is the line that was just kept.
        obtain ⟨rfl, hrest⟩ := List.cons.inj h
        cases inCode with
        | true => rfl
        | false => exact absurd (congrArg List.head? hrest) (head?_collapseFrom_ne ls)
      | cons first front =>
        obtain ⟨rfl, hrest⟩ := List.cons.inj h
        rw [codeAfter_cons]
        exact ih hrest

/-! ## The lines of a minified body -/

/-- The same of the lines of a minified body. -/
theorem codeAfter_of_bodyLines {s : List Char} (h : bodyLines s = front ++ [] :: [] :: back) :
    codeAfter false front = true := by
  obtain ⟨above, below, hls, habove, -⟩ := exists_trimLines_append (tidyLines (leftLines s))
  have hhead := (body_eq_unlines s).2.2
  unfold bodyLines at h hhead
  rw [h] at hhead
  obtain ⟨first, front, rfl⟩ := List.exists_cons_of_ne_nil (l := front) (by
    rintro rfl
    exact hhead rfl)
  generalize trimLines (tidyLines (leftLines s)) = kept at h hls
  cases kept with
  | nil => cases h
  | cons line kept =>
    obtain ⟨rfl, rfl⟩ := List.cons.inj h
    have hcut : collapseFrom false false ((leftLines s).map Text.trimEnd) =
        (above ++ line :: front) ++ [] :: [] :: (back ++ below) := by
      refine hls.trans ?_
      simp
    have hcode := codeAfter_of_collapseFrom hcut
    have hplain : ∀ line ∈ above, isFence line = false := fun line hline =>
      habove line hline ▸ isFence_nil
    rw [codeAfter_append, codeAfter_of_plain hplain] at hcode
    rw [codeAfter_cons, isFence_trimStart]
    exact hcode

/-- A line of blanks is empty if no blank stands at its end. -/
theorem eq_nil_of_blank {line : List Char} (hends : ∀ c, line.getLast? = some c → isBlank c = false)
    (hblank : ∀ c ∈ line, isBlank c = true) : line = [] := by
  cases hlast : line.getLast? with
  | none => exact List.getLast?_eq_none_iff.1 hlast
  | some c =>
    have hc := hends c hlast
    rw [hblank c (List.mem_of_getLast? hlast)] at hc
    cases hc

/-- A minified body has no blank at the end of a line, at its start or at its end, and outside
fenced code, as its own fences tell it, no two lines of blanks one behind the other. -/
theorem blanks_of_minify (s : String) :
    (∀ line ∈ (minify s).toList.splitOn '\n', ∀ c, line.getLast? = some c → isBlank c = false) ∧
    (∀ c, (minify s).toList.head? = some c → isBlank c = false) ∧
    (∀ c, (minify s).toList.getLast? = some c → isBlank c = false) ∧
    ∀ front line line' back, (minify s).toList.splitOn '\n' = front ++ line :: line' :: back →
      (∀ c ∈ line, isBlank c = true) → (∀ c ∈ line', isBlank c = true) →
      codeAfter false front = true := by
  have htext : (minify s).toList = body s.toList := String.toList_ofList
  obtain ⟨hbody, htidy, -⟩ := body_eq_unlines s.toList
  have hlines : bodyLines s.toList ≠ [] →
      (minify s).toList.splitOn '\n' = bodyLines s.toList := by
    intro hne
    rw [htext, hbody]
    exact List.splitOn_intercalate '\n' htidy.one hne
  have hempty : bodyLines s.toList = [] → (minify s).toList.splitOn '\n' = [[]] := by
    intro hnil
    rw [htext, hbody, hnil]
    rfl
  have hends : ∀ line ∈ (minify s).toList.splitOn '\n',
      ∀ c, line.getLast? = some c → isBlank c = false := by
    by_cases hnil : bodyLines s.toList = []
    · rw [hempty hnil]
      exact List.forall_mem_singleton.2 nofun
    · rw [hlines hnil]
      exact htidy.ends
  refine ⟨hends, ?_, ?_, ?_⟩
  · rw [htext]
    exact fun _ => Text.head_trim
  · rw [htext]
    exact fun _ => Text.last_trim
  · intro front line line' back hsplit hblank hblank'
    have hmem : ∀ x ∈ [line, line'], x ∈ (minify s).toList.splitOn '\n' := by
      rw [hsplit]
      simp
    obtain rfl := eq_nil_of_blank (hends line (hmem _ List.mem_cons_self)) hblank
    obtain rfl := eq_nil_of_blank (hends line' (hmem _ (by simp))) hblank'
    by_cases hnil : bodyLines s.toList = []
    · rw [hempty hnil] at hsplit
      have hlength := congrArg List.length hsplit
      simp only [List.length_append, List.length_cons, List.length_nil] at hlength
      omega
    · rw [hlines hnil] at hsplit
      exact codeAfter_of_bodyLines hsplit

/-- Carriage returns and blanks of any script count as blanks; code keeps its empty lines. -/
example : minify "\u2003 a\t\r\n \u3000\r\n\r\n```\n\n\nb\u00a0\n```\n\n\n\u2028\n" =
    "a\n\n```\n\n\nb\n```" := by
  decide +kernel

end DocCorpus.Minify
