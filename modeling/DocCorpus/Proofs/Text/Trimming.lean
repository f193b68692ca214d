/-
  What trimming does to a text. Trimming takes characters from the ends only, so that what is put
  at an end for trimming to take does not matter (`strip_append`, `append_strip`). What is left is
  the one text that stands between blanks and has none at its ends (`trimmed_iff`).
-/
import DocCorpus.Text.Blank
import Mathlib.Data.List.TakeWhile

namespace DocCorpus.Text

variable {p : Char → Bool} {s w : List Char}

theorem exists_dropWhile_append (p : Char → Bool) (s : List Char) :
    ∃ w, s = w ++ s.dropWhile p ∧ ∀ c ∈ w, p c = true := by
  refine ⟨s.takeWhile p, List.takeWhile_append_dropWhile.symm, fun c hc => ?_⟩
  exact List.all_eq_true.1 List.all_takeWhile c hc

theorem exists_dropEnd_append (p : Char → Bool) (s : List Char) :
    ∃ w, s = dropEnd p s ++ w ∧ ∀ c ∈ w, p c = true := by
  obtain ⟨w, hs, hw⟩ := exists_dropWhile_append p s.reverse
  refine ⟨w.reverse, ?_, fun c hc => hw c (List.mem_reverse.1 hc)⟩
  rw [dropEnd, ← List.reverse_append, ← hs, List.reverse_reverse]

theorem exists_strip_append (p : Char → Bool) (s : List Char) :
    ∃ w w', s = w ++ strip p s ++ w' ∧ (∀ c ∈ w, p c = true) ∧ ∀ c ∈ w', p c = true := by
  obtain ⟨w, hs, hw⟩ := exists_dropWhile_append p s
  obtain ⟨w', hs', hw'⟩ := exists_dropEnd_append p (s.dropWhile p)
  refine ⟨w, w', ?_, hw, hw'⟩
  rw [strip, List.append_assoc, ← hs', ← hs]

theorem strip_sublist (p : Char → Bool) (s : List Char) : (strip p s).Sublist s := by
  obtain ⟨w, w', hs, -, -⟩ := exists_strip_append p s
  have hinside : (strip p s).Sublist (w ++ strip p s ++ w') :=
    (List.sublist_append_right w _).trans (List.sublist_append_left _ w')
  rwa [← hs] at hinside

/-- Only characters that satisfy `p` are taken. -/
theorem mem_dropEnd {c : Char} (hc : c ∈ s) (hpc : p c = false) : c ∈ dropEnd p s := by
  obtain ⟨w, hs, hw⟩ := exists_dropEnd_append p s
  rw [hs] at hc
  rcases List.mem_append.1 hc with hc | hc
  · exact hc
  · rw [hw c hc] at hpc
    cases hpc

theorem dropEnd_append (hw : ∀ c ∈ w, p c = true) : dropEnd p (s ++ w) = dropEnd p s := by
  unfold dropEnd
  rw [List.reverse_append,
    List.dropWhile_append_of_pos fun c hc => hw c (List.mem_reverse.1 hc)]

/-- What follows a character outside `p` is all that is taken from. -/
theorem dropEnd_append_of_last {last : Char} (hlast : s.getLast? = some last) (hp : p last = false)
    (w : List Char) : dropEnd p (s ++ w) = s ++ dropEnd p w := by
  obtain ⟨front, rfl⟩ := List.getLast?_eq_some_iff.1 hlast
  unfold dropEnd
  rw [List.reverse_append, List.dropWhile_append]
  split
  · next hw =>
    rw [List.isEmpty_iff.1 hw, List.reverse_nil, List.append_nil, List.reverse_concat,
      List.dropWhile_cons_of_neg (by rw [hp]; exact Bool.false_ne_true), ← List.reverse_concat,
      List.reverse_reverse]
  · rw [List.reverse_append, List.reverse_reverse]

theorem strip_of_forall (hw : ∀ c ∈ w, p c = true) : strip p w = [] := by
  unfold strip
  rw [List.dropWhile_eq_nil_iff.2 hw]
  rfl

theorem strip_append (hw : ∀ c ∈ w, p c = true) : strip p (s ++ w) = strip p s := by
  unfold strip
  rw [List.dropWhile_append]
  split
  · next hs =>
    rw [List.isEmpty_iff] at hs
    rw [hs, List.dropWhile_eq_nil_iff.2 hw]
  · exact dropEnd_append hw

theorem append_strip (hw : ∀ c ∈ w, p c = true) : strip p (w ++ s) = strip p s := by
  unfold strip
  rw [List.dropWhile_append_of_pos hw]

theorem not_mem_strip {c : Char} (h : c ∉ s) : c ∉ strip p s :=
  fun hmem => h ((strip_sublist p s).subset hmem)

theorem forall_blank_lineFeed : ∀ c ∈ ['\n'], isBlank c = true :=
  List.forall_mem_singleton.2 (by decide)

theorem forall_blank_space : ∀ c ∈ [' '], isBlank c = true :=
  List.forall_mem_singleton.2 (by decide)

/-- A text that starts and ends with characters that are not blank is trimmed. -/
theorem trim_eq_self {first last : Char} (hfirst : isBlank first = false)
    (hlast : isBlank last = false) (hs : s.head? = some first) (hs' : s.getLast? = some last) :
    trim s = s := by
  refine strip_eq_self (fun c hc => ?_) (fun c hc => ?_)
  · rw [hs] at hc
    injection hc with hc
    rw [← hc]
    exact hfirst
  · rw [hs'] at hc
    injection hc with hc
    rw [← hc]
    exact hlast

/-! ## Trimmed texts -/

/-- `t` is `s` without the blanks at its end. -/
structure EndTrimmed (s t : List Char) : Prop where
  between : ∃ back, s = t ++ back ∧ ∀ c ∈ back, isBlank c = true
  last : ∀ c, t.getLast? = some c → isBlank c = false

/-- `t` is `s` without the blanks at its ends. -/
structure Trimmed (s t : List Char) : Prop where
  between : ∃ front back, s = front ++ t ++ back ∧ (∀ c ∈ front, isBlank c = true) ∧
    ∀ c ∈ back, isBlank c = true
  head : ∀ c, t.head? = some c → isBlank c = false
  last : ∀ c, t.getLast? = some c → isBlank c = false

theorem endTrimmed_iff {s t : List Char} : EndTrimmed s t ↔ t = trimEnd s := by
  constructor
  · rintro ⟨⟨back, rfl, hback⟩, hlast⟩
    exact ((dropEnd_append hback).trans (dropEnd_eq_self hlast)).symm
  · rintro rfl
    exact ⟨exists_dropEnd_append isBlank s, fun _ => dropEnd_last⟩

theorem trimmed_iff {s t : List Char} : Trimmed s t ↔ t = trim s := by
  constructor
  · rintro ⟨⟨front, back, rfl, hfront, hback⟩, hhead, hlast⟩
    have hstrip : strip isBlank (front ++ t ++ back) = strip isBlank t :=
      (strip_append hback).trans (append_strip hfront)
    exact (hstrip.trans (strip_eq_self hhead hlast)).symm
  · rintro rfl
    exact ⟨exists_strip_append isBlank s, fun _ => head_trim, fun _ => last_trim⟩

end DocCorpus.Text
