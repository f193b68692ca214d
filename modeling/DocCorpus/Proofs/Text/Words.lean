/-
  Words. The words of a text are visible: they are not empty and hold no blank
  (`visible_of_mem_words`), and there are none exactly if the text is blank throughout
  (`words_eq_nil_iff`). Visible words joined by spaces make a text without blanks at its ends and
  without two blanks side by side (`Evenly.join`).
-/
import DocCorpus.Proofs.Text.Splitting
import DocCorpus.Text.Blank

namespace DocCorpus.Text

variable {p : Char → Bool} {s word : List Char} {ws : List (List Char)}

/-! ## The words of a text -/

/-- A run holds the word begun before, or characters of the text outside `p`. -/
theorem outside_of_mem_runs {begun : List Char} (hbegun : ∀ c ∈ begun, p c = false)
    (h : word ∈ runs p begun s) :
    word ≠ [] ∧ ∀ c ∈ word, p c = false ∧ (c ∈ begun ∨ c ∈ s) := by
  induction s generalizing begun with
  | nil =>
    rw [runs] at h
    split at h
    · cases h
    · next hne =>
      obtain rfl := List.mem_singleton.1 h
      refine ⟨mt List.reverse_eq_nil_iff.1 hne, fun c hc => ?_⟩
      exact ⟨hbegun c (List.mem_reverse.1 hc), .inl (List.mem_reverse.1 hc)⟩
  | cons c s ih =>
    have hlater : word ∈ runs p [] s → word ≠ [] ∧
        ∀ d ∈ word, p d = false ∧ (d ∈ begun ∨ d ∈ c :: s) := by
      intro hmem
      obtain ⟨hne, hall⟩ := ih (List.forall_mem_nil _) hmem
      refine ⟨hne, fun d hd => ⟨(hall d hd).1, .inr (List.mem_cons_of_mem c ?_)⟩⟩
      exact (hall d hd).2.resolve_left List.not_mem_nil
    rw [runs] at h
    split at h
    · split at h
      · exact hlater h
      · next hne =>
        rcases List.mem_cons.1 h with rfl | h
        · refine ⟨mt List.reverse_eq_nil_iff.1 hne, fun d hd => ?_⟩
          exact ⟨hbegun d (List.mem_reverse.1 hd), .inl (List.mem_reverse.1 hd)⟩
        · exact hlater h
    · next hc =>
      have hstarted : ∀ d ∈ c :: begun, p d = false :=
        List.forall_mem_cons.2 ⟨Bool.eq_false_iff.2 hc, hbegun⟩
      obtain ⟨hne, hall⟩ := ih hstarted h
      refine ⟨hne, fun d hd => ⟨(hall d hd).1, ?_⟩⟩
      rcases (hall d hd).2 with hd | hd
      · rcases List.mem_cons.1 hd with rfl | hd
        · exact .inr List.mem_cons_self
        · exact .inl hd
      · exact .inr (List.mem_cons_of_mem c hd)

theorem runs_eq_nil_iff {begun : List Char} :
    runs p begun s = [] ↔ begun = [] ∧ ∀ c ∈ s, p c = true := by
  induction s generalizing begun with
  | nil =>
    rw [runs]
    split
    · next hnil => exact ⟨fun _ => ⟨hnil, nofun⟩, fun _ => rfl⟩
    · next hne => exact ⟨nofun, fun h => absurd h.1 hne⟩
  | cons c s ih =>
    rw [runs, List.forall_mem_cons]
    split
    · next hc =>
      split
      · next hnil => rw [ih]; exact ⟨fun h => ⟨hnil, hc, h.2⟩, fun h => ⟨rfl, h.2.2⟩⟩
      · next hne => exact ⟨nofun, fun h => absurd h.1 hne⟩
    · next hc =>
      rw [ih]
      exact ⟨fun h => absurd h.1 (List.cons_ne_nil c begun), fun h => absurd h.2.1 hc⟩

/-- A word of a text: not empty, and without blanks. -/
structure Visible (word : List Char) : Prop where
  nonempty : word ≠ []
  plain : ∀ c ∈ word, isBlank c = false

theorem visible_of_mem_words (h : word ∈ words s) : Visible word ∧ ∀ c ∈ word, c ∈ s := by
  obtain ⟨hne, hall⟩ := outside_of_mem_runs (List.forall_mem_nil _) h
  refine ⟨⟨hne, fun c hc => (hall c hc).1⟩, fun c hc => ?_⟩
  exact (hall c hc).2.resolve_left List.not_mem_nil

theorem words_eq_nil_iff : words s = [] ↔ ∀ c ∈ s, isBlank c = true := by
  unfold words
  rw [runs_eq_nil_iff]
  exact ⟨fun h => h.2, fun h => ⟨rfl, h⟩⟩

/-! ## Words joined by spaces -/

/-- A text without blanks at its ends and without two blanks side by side. -/
structure Evenly (s : List Char) : Prop where
  head : ∀ c, s.head? = some c → isBlank c = false
  last : ∀ c, s.getLast? = some c → isBlank c = false
  inner : ∀ front c d back, s = front ++ c :: d :: back → isBlank c = true → isBlank d = false

/-- The words are found again at the spaces between them. -/
theorem splitOn_join (hws : ∀ word ∈ ws, Visible word) (hne : ws ≠ []) :
    ([' '].intercalate ws).splitOn ' ' = ws := by
  refine List.splitOn_intercalate ' ' (fun word hword hmem => ?_) hne
  have hplain := (hws word hword).plain ' ' hmem
  cases hplain

theorem mem_join {c : Char} (hws : ∀ word ∈ ws, Visible word) (hc : c ∈ [' '].intercalate ws) :
    c = ' ' ∨ ∃ word ∈ ws, c ∈ word := by
  have hne : ws ≠ [] := by
    rintro rfl
    cases hc
  have hcases : c = ' ' ∨ ∃ word ∈ ([' '].intercalate ws).splitOn ' ', c ∈ word :=
    mem_cases_splitOn hc
  rwa [splitOn_join hws hne] at hcases

/-- Behind a space stands a word, and before it as well. -/
theorem join_eq_append {front back : List Char} (hws : ∀ word ∈ ws, Visible word)
    (h : [' '].intercalate ws = front ++ ' ' :: back) :
    front ≠ [] ∧ back ≠ [] ∧ back.head? ≠ some ' ' := by
  have hne : ws ≠ [] := by
    rintro rfl
    have hlength := congrArg List.length h
    simp at hlength
  have hsplit := splitOn_join hws hne
  rw [h, List.splitOn_append_cons_self] at hsplit
  have hvisible : [] ∉ front.splitOn ' ' ++ back.splitOn ' ' := by
    rw [hsplit]
    exact fun hmem => (hws [] hmem).nonempty rfl
  refine ⟨?_, ?_, ?_⟩
  · rintro rfl
    exact hvisible (List.mem_append_left _ List.mem_cons_self)
  · rintro rfl
    exact hvisible (List.mem_append_right _ List.mem_cons_self)
  · intro hhead
    obtain ⟨rest, rfl⟩ := List.head?_eq_some_iff.1 hhead
    have hrest : (' ' :: rest).splitOn ' ' = [] :: rest.splitOn ' ' :=
      List.splitOn_append_cons_self [] rest
    exact hvisible (List.mem_append_right _ (hrest ▸ List.mem_cons_self))

theorem Evenly.join (hws : ∀ word ∈ ws, Visible word) : Evenly ([' '].intercalate ws) := by
  have hspace : ∀ c ∈ [' '].intercalate ws, isBlank c = true → c = ' ' := by
    intro c hc hblank
    rcases mem_join hws hc with rfl | ⟨word, hword, hmem⟩
    · rfl
    · rw [(hws word hword).plain c hmem] at hblank
      cases hblank
  refine ⟨fun c hc => ?_, fun c hc => ?_, fun front c d back heq hc => ?_⟩
  · rw [← Bool.not_eq_true]
    intro hblank
    obtain rfl := hspace c (List.mem_of_head? hc) hblank
    obtain ⟨rest, hrest⟩ := List.head?_eq_some_iff.1 hc
    have hjoin : [' '].intercalate ws = [] ++ ' ' :: rest := hrest
    exact (join_eq_append hws hjoin).1 rfl
  · rw [← Bool.not_eq_true]
    intro hblank
    obtain rfl := hspace c (List.mem_of_getLast? hc) hblank
    obtain ⟨front, hfront⟩ := List.getLast?_eq_some_iff.1 hc
    exact (join_eq_append hws hfront).2.1 rfl
  · obtain rfl := hspace c (heq ▸ List.mem_append_right _ List.mem_cons_self) hc
    rw [← Bool.not_eq_true]
    intro hblank
    have hd : d ∈ [' '].intercalate ws := by
      rw [heq]
      exact List.mem_append_right _ (List.mem_cons_of_mem _ List.mem_cons_self)
    obtain rfl := hspace d hd hblank
    exact (join_eq_append hws heq).2.2 rfl

end DocCorpus.Text
