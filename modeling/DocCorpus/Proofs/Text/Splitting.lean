/-
  What splitting a text at a separator leaves: no part holds the separator. What is cut off after
  the last one holds none either (`cutLast?_eq_some_iff`). A text is cut at the first occurrence of
  a mark if there is one (`cutAt?_eq_none_iff`, `cutAt?_append`).
-/
import DocCorpus.Text.Blank
import DocCorpus.Text.Split

namespace DocCorpus.Text

theorem startsWith_iff {head s : List Char} : startsWith head s = true ↔ head <+: s := by
  unfold startsWith
  rw [Option.isSome_iff_exists]
  simp only [dropHead?_eq_some]
  exact ⟨fun ⟨rest, h⟩ => ⟨rest, h.symm⟩, fun ⟨rest, h⟩ => ⟨rest, h.symm⟩⟩

theorem not_mem_of_mem_splitOn {sep : Char} {text part : List Char} (h : part ∈ text.splitOn sep) :
    sep ∉ part := by
  induction text generalizing part with
  | nil =>
    rw [List.splitOn_nil, List.mem_singleton] at h
    rw [h]
    exact List.not_mem_nil
  | cons c text ih =>
    rw [List.splitOn_cons_eq_if_modifyHead] at h
    split at h
    · rcases List.mem_cons.1 h with rfl | h
      · exact List.not_mem_nil
      · exact ih h
    · next hc =>
      have hne : sep ≠ c := fun heq => hc (beq_iff_eq.2 heq.symm)
      cases hsplit : text.splitOn sep with
      | nil => exact absurd hsplit (List.splitOn_ne_nil sep text)
      | cons first rest =>
        rw [hsplit] at h ih
        rcases List.mem_cons.1 h with rfl | h
        · rw [List.mem_cons, not_or]
          exact ⟨hne, ih List.mem_cons_self⟩
        · exact ih (List.mem_cons_of_mem _ h)

/-- A character of a text is the separator or stands in a part. -/
theorem mem_cases_splitOn {sep c : Char} {text : List Char} (h : c ∈ text) :
    c = sep ∨ ∃ part ∈ text.splitOn sep, c ∈ part := by
  induction text with
  | nil => cases h
  | cons d text ih =>
    cases hsplit : text.splitOn sep with
    | nil => exact absurd hsplit (List.splitOn_ne_nil sep text)
    | cons first rest =>
      rw [hsplit] at ih
      rw [List.splitOn_cons_eq_if_modifyHead, hsplit]
      split
      · next hd =>
        rcases List.mem_cons.1 h with rfl | h
        · exact .inl (beq_iff_eq.1 hd)
        · obtain heq | ⟨part, hpart, hmem⟩ := ih h
          · exact .inl heq
          · exact .inr ⟨part, List.mem_cons_of_mem [] hpart, hmem⟩
      · rcases List.mem_cons.1 h with rfl | h
        · exact .inr ⟨c :: first, .head rest, .head first⟩
        · obtain heq | ⟨part, hpart, hmem⟩ := ih h
          · exact .inl heq
          · rcases List.mem_cons.1 hpart with rfl | hpart
            · exact .inr ⟨d :: part, .head rest, .tail d hmem⟩
            · exact .inr ⟨part, .tail (d :: first) hpart, hmem⟩

/-- The last part of a text that does not end in the separator is not empty. -/
theorem exists_splitOn_concat {sep c : Char} (hc : c ≠ sep) (init : List Char) :
    ∃ front last, (init ++ [c]).splitOn sep = front ++ [last] ∧ last ≠ [] := by
  have hsep : (c == sep) = false := beq_eq_false_iff_ne.2 hc
  induction init with
  | nil =>
    refine ⟨[], [c], ?_, List.cons_ne_nil c []⟩
    rw [List.nil_append, List.splitOn_cons_eq_if_modifyHead, hsep, List.splitOn_nil]
    rfl
  | cons d init ih =>
    obtain ⟨front, last, hsplit, hlast⟩ := ih
    rw [List.cons_append, List.splitOn_cons_eq_if_modifyHead, hsplit]
    split
    · exact ⟨[] :: front, last, rfl, hlast⟩
    · cases front with
      | nil => exact ⟨[], d :: last, rfl, List.cons_ne_nil d last⟩
      | cons part front => exact ⟨(d :: part) :: front, last, rfl, hlast⟩

/-- A text is cut at its last separator, after which there is none. -/
theorem cutLast?_eq_some_iff {sep : Char} {s front back : List Char} :
    cutLast? sep s = some (front, back) ↔ s = front ++ sep :: back ∧ sep ∉ back := by
  unfold cutLast?
  constructor
  · intro h
    split at h
    · cases h
    · next c rest hdrop =>
      obtain ⟨rfl, rfl⟩ := Prod.mk.inj (Option.some.inj h)
      have hc : c = sep := by simpa using dropWhile_head (congrArg List.head? hdrop)
      have hs : s.reverse = s.reverse.takeWhile (· ≠ sep) ++ sep :: rest := by
        rw [← hc, ← hdrop, hc, List.takeWhile_append_dropWhile]
      refine ⟨?_, fun hmem => ?_⟩
      · have hreverse := congrArg List.reverse hs
        rwa [List.reverse_reverse, List.reverse_append, List.reverse_cons, List.append_assoc]
          at hreverse
      · have hall := List.all_eq_true.1 List.all_takeWhile sep (List.mem_reverse.1 hmem)
        exact of_decide_eq_true hall rfl
  · rintro ⟨rfl, hback⟩
    have hall : ∀ c ∈ back.reverse, decide (c ≠ sep) = true :=
      fun c hc => decide_eq_true fun heq => hback (heq ▸ List.mem_reverse.1 hc)
    have hreverse : (front ++ sep :: back).reverse = back.reverse ++ sep :: front.reverse := by
      simp
    rw [hreverse, List.dropWhile_append_of_pos hall, List.takeWhile_append_of_pos hall]
    simp

/-! ## Marks -/

variable {mark s : List Char}

/-- Where a text starts with the mark, it is cut there. -/
theorem cutAt?_here (hmark : mark ≠ []) (rest : List Char) :
    cutAt? mark (mark ++ rest) = some ([], rest) := by
  obtain ⟨c, tail, rfl⟩ := List.exists_cons_of_ne_nil hmark
  rw [List.cons_append, cutAt?, ← List.cons_append, dropHead?_eq_some.2 rfl]

/-- Where a text does not start with the mark, it is cut later. -/
theorem cutAt?_later {c : Char} (h : ¬ mark <+: c :: s) :
    cutAt? mark (c :: s) = (cutAt? mark s).map fun (front, back) => (c :: front, back) := by
  have hnone : dropHead? mark (c :: s) = none := by
    rw [← Option.not_isSome_iff_eq_none]
    exact fun hsome => h (startsWith_iff.1 hsome)
  rw [cutAt?, hnone]

theorem cutAt?_eq_none_iff (hmark : mark ≠ []) : cutAt? mark s = none ↔ ¬ mark <:+: s := by
  induction s with
  | nil => simp [cutAt?, hmark]
  | cons c s ih =>
    rw [List.infix_cons_iff, not_or]
    by_cases h : mark <+: c :: s
    · obtain ⟨rest, hrest⟩ := h
      rw [← hrest, cutAt?_here hmark]
      simp
    · rw [cutAt?_later h, Option.map_eq_none_iff, ih]
      simp [h]

/-- A text is cut at the first of its marks. -/
theorem length_le_of_cutAt? (hmark : mark ≠ []) {front back a rest : List Char}
    (h : cutAt? mark s = some (front, back)) (hs : s = a ++ (mark ++ rest)) :
    front.length ≤ a.length := by
  induction s generalizing front a with
  | nil => simp [cutAt?, hmark] at h
  | cons c s ih =>
    by_cases hprefix : mark <+: c :: s
    · obtain ⟨tail, htail⟩ := hprefix
      rw [← htail, cutAt?_here hmark] at h
      obtain ⟨rfl, -⟩ := Prod.mk.inj (Option.some.inj h)
      exact Nat.zero_le _
    · cases a with
      | nil => exact absurd ⟨rest, hs.symm⟩ hprefix
      | cons d a =>
        rw [cutAt?_later hprefix] at h
        obtain ⟨⟨front', back'⟩, hcut, heq⟩ := Option.map_eq_some_iff.1 h
        obtain ⟨rfl, rfl⟩ := Prod.mk.inj heq
        exact Nat.succ_le_succ (ih hcut (List.cons.inj hs).2)

/-- What follows any of the marks follows the first one. -/
theorem suffix_of_cutAt? (hmark : mark ≠ []) {front back a rest : List Char}
    (h : cutAt? mark s = some (front, back)) (hs : s = a ++ (mark ++ rest)) : rest <:+ back := by
  have hle := length_le_of_cutAt? hmark h hs
  have heq := cutAt?_eq_some h
  have hlength := congrArg List.length (heq.symm.trans hs)
  have hback : back <:+ s := heq ▸ (List.suffix_append mark back).trans (List.suffix_append front _)
  have hrest : rest <:+ s := hs ▸ (List.suffix_append mark rest).trans (List.suffix_append a _)
  refine List.suffix_of_suffix_length_le hrest hback ?_
  simp only [List.length_append] at hlength
  omega

theorem not_infix_of_cutAt? (hmark : mark ≠ []) {front back : List Char}
    (h : cutAt? mark s = some (front, back)) : ¬ mark <:+: front := by
  rintro ⟨a, b, rfl⟩
  have hs := cutAt?_eq_some h
  rw [List.append_assoc, List.append_assoc] at hs
  have hle := length_le_of_cutAt? hmark h hs
  have hpos := List.length_pos_iff.2 hmark
  rw [List.length_append, List.length_append] at hle
  omega

/-- A text whose front lacks the first character of the mark is cut behind the front. -/
theorem cutAt?_append {c : Char} {front : List Char} (h : c ∉ front) (mark back : List Char) :
    cutAt? (c :: mark) (front ++ (c :: mark ++ back)) = some (front, back) := by
  induction front with
  | nil => exact cutAt?_here (List.cons_ne_nil c mark) back
  | cons d front ih =>
    obtain ⟨hd, hfront⟩ := not_or.1 (mt List.mem_cons.2 h)
    rw [List.cons_append, cutAt?_later, ih hfront]
    · rfl
    · exact fun hprefix => hd (List.cons_prefix_cons.1 hprefix).1

end DocCorpus.Text
