/-
  Lines that mean something to the passes, and the runs of lines between fenced code. Blanks at
  the end of a line do not change what it means (`isFence_append`, `opensAside_append`,
  `closesAside_append`). Lines that are left out or trimmed change the runs one by one, as long as
  no fence is left out (`Thinned.forall₂_runs`).
-/
import DocCorpus.Minify
import DocCorpus.Proofs.Text.Pieces
import DocCorpus.Proofs.Text.Splitting
import Mathlib.Data.List.Forall2

namespace DocCorpus.Minify

variable {line w : List Char}

/-! ## Blanks at the end of a line -/

/-- A mark without blanks is found at the start of a text, whatever blanks follow the text. -/
theorem prefix_append_blank_iff {mark s : List Char} (hmark : ∀ c ∈ mark, isBlank c = false)
    (hw : ∀ c ∈ w, isBlank c = true) : mark <+: s ++ w ↔ mark <+: s := by
  refine ⟨fun h => ?_, fun h => h.trans (List.prefix_append s w)⟩
  rcases List.prefix_or_prefix_of_prefix h (List.prefix_append s w) with hs | ⟨rest, rfl⟩
  · exact hs
  · cases rest with
    | nil => exact ⟨[], by rw [List.append_nil, List.append_nil]⟩
    | cons c rest =>
      have hrest : c :: rest <+: w := (List.prefix_append_right_inj s).1 h
      have hblank : isBlank c = true := hw c (hrest.subset List.mem_cons_self)
      rw [hmark c (List.mem_append_right s List.mem_cons_self)] at hblank
      cases hblank

/-- Blanks at the end stay behind what trimming leaves, if it leaves anything. -/
theorem trimStart_append (line : List Char) (hw : ∀ c ∈ w, isBlank c = true) :
    Text.trimStart (line ++ w) = Text.trimStart line ++ w ∨
      Text.trimStart (line ++ w) = [] ∧ Text.trimStart line = [] := by
  unfold Text.trimStart
  rw [List.dropWhile_append]
  split
  · next hnil => exact .inr ⟨List.dropWhile_eq_nil_iff.2 hw, List.isEmpty_iff.1 hnil⟩
  · exact .inl rfl

theorem not_blank_fenceMark : ∀ c ∈ fenceMark, isBlank c = false :=
  List.forall_mem_cons.2 ⟨by decide, List.forall_mem_cons.2 ⟨by decide,
    List.forall_mem_singleton.2 (by decide)⟩⟩

theorem not_blank_asideMark : ∀ c ∈ asideMark, isBlank c = false :=
  List.forall_mem_cons.2 ⟨by decide, List.forall_mem_cons.2 ⟨by decide,
    List.forall_mem_singleton.2 (by decide)⟩⟩

theorem isFence_iff : isFence line = true ↔ fenceMark <+: Text.trimStart line :=
  Text.startsWith_iff

theorem isFence_append (line : List Char) (hw : ∀ c ∈ w, isBlank c = true) :
    isFence (line ++ w) = isFence line := by
  rw [Bool.eq_iff_iff, isFence_iff, isFence_iff]
  rcases trimStart_append line hw with h | ⟨h, h'⟩
  · rw [h, prefix_append_blank_iff not_blank_fenceMark hw]
  · rw [h, h']

/-- A line opens an aside with three colons, blanks and a letter, after blanks. -/
theorem opensAside_iff : opensAside line = true ↔
    ∃ rest c, Text.trimStart line = asideMark ++ rest ∧ (Text.trimStart rest).head? = some c ∧
      c.isAlpha = true := by
  unfold opensAside
  constructor
  · intro h
    split at h
    · cases h
    · next rest hrest =>
      cases hhead : (Text.trimStart rest).head? with
      | none =>
        rw [hhead] at h
        cases h
      | some c =>
        rw [hhead] at h
        exact ⟨rest, c, Text.dropHead?_eq_some.1 hrest, hhead, h⟩
  · rintro ⟨rest, c, hrest, hhead, hc⟩
    rw [Text.dropHead?_eq_some.2 hrest]
    dsimp only
    rw [hhead]
    exact hc

theorem head?_trimStart_append (s : List Char) (hw : ∀ c ∈ w, isBlank c = true) :
    (Text.trimStart (s ++ w)).head? = (Text.trimStart s).head? := by
  rcases trimStart_append s hw with h | ⟨h, h'⟩
  · rw [h, List.head?_append]
    cases hs : Text.trimStart s with
    | cons c s => rfl
    | nil =>
      -- Here `w` itself is what trimming leaves, so it is empty.
      cases w with
      | nil => rfl
      | cons c w =>
        rw [hs] at h
        have hhead := Text.dropWhile_head (congrArg List.head? h)
        rw [hw c List.mem_cons_self] at hhead
        cases hhead
  · rw [h, h']

theorem opensAside_append (line : List Char) (hw : ∀ c ∈ w, isBlank c = true) :
    opensAside (line ++ w) = opensAside line := by
  rw [Bool.eq_iff_iff, opensAside_iff, opensAside_iff]
  rcases trimStart_append line hw with h | ⟨h, h'⟩
  · rw [h]
    constructor
    · rintro ⟨rest, c, hrest, hhead, hc⟩
      obtain ⟨rest', hrest'⟩ :=
        (prefix_append_blank_iff not_blank_asideMark hw).1 ⟨rest, hrest.symm⟩
      have heq : rest = rest' ++ w := by
        rw [← hrest', List.append_assoc] at hrest
        exact (List.append_cancel_left hrest).symm
      exact ⟨rest', c, hrest'.symm, by rw [← hhead, heq, head?_trimStart_append rest' hw], hc⟩
    · rintro ⟨rest, c, hrest, hhead, hc⟩
      refine ⟨rest ++ w, c, ?_, ?_, hc⟩
      · rw [hrest, List.append_assoc]
      · rw [head?_trimStart_append rest hw, hhead]
  · rw [h, h']

theorem closesAside_append (line : List Char) (hw : ∀ c ∈ w, isBlank c = true) :
    closesAside (line ++ w) = closesAside line := by
  unfold closesAside Text.trim
  rw [Text.strip_append hw]

theorem isFence_lineOf (piece : List Char) : isFence (Text.lineOf piece) = isFence piece := by
  obtain ⟨w, hpiece, hw⟩ := Text.exists_lineOf_append piece
  conv => rhs; rw [hpiece]
  exact (isFence_append _ hw).symm

theorem opensAside_lineOf (piece : List Char) :
    opensAside (Text.lineOf piece) = opensAside piece := by
  obtain ⟨w, hpiece, hw⟩ := Text.exists_lineOf_append piece
  conv => rhs; rw [hpiece]
  exact (opensAside_append _ hw).symm

theorem closesAside_lineOf (piece : List Char) :
    closesAside (Text.lineOf piece) = closesAside piece := by
  obtain ⟨w, hpiece, hw⟩ := Text.exists_lineOf_append piece
  conv => rhs; rw [hpiece]
  exact (closesAside_append _ hw).symm

theorem isFence_trimEnd (line : List Char) : isFence (Text.trimEnd line) = isFence line := by
  obtain ⟨w, hline, hw⟩ := Text.exists_dropEnd_append isBlank line
  conv => rhs; rw [hline]
  exact (isFence_append _ hw).symm

theorem isFence_trimStart (line : List Char) : isFence (Text.trimStart line) = isFence line := by
  rw [Bool.eq_iff_iff, isFence_iff, isFence_iff]
  unfold Text.trimStart
  rw [Text.dropWhile_eq_self (s := line.dropWhile isBlank) fun _ => Text.dropWhile_head]

theorem isFence_nil : isFence [] = false := rfl

theorem ne_nil_of_isFence (h : isFence line = true) : line ≠ [] := by
  rintro rfl
  cases h

/-- A line that opens an aside is no fence. -/
theorem not_isFence_of_opensAside (h : opensAside line = true) : isFence line = false := by
  obtain ⟨rest, -, hrest, -⟩ := opensAside_iff.1 h
  rw [← Bool.not_eq_true, isFence_iff, hrest]
  rintro ⟨tail, htail⟩
  have hhead := congrArg List.head? htail
  cases hhead

theorem not_opensAside_of_isFence (h : isFence line = true) : opensAside line = false := by
  cases hopens : opensAside line with
  | false => rfl
  | true =>
    rw [not_isFence_of_opensAside hopens] at h
    cases h

/-- Fenced code: the fences that open and close it, and no other between them. -/
structure Fenced (opening : List Char) (inner : List (List Char)) (closing : List Char) : Prop where
  opens : isFence opening = true
  one : ∀ line ∈ inner, isFence line = false
  closes : isFence closing = true

theorem Fenced.map {opening closing : List Char} {inner : List (List Char)}
    {g : List Char → List Char} (hg : ∀ line, isFence (g line) = isFence line)
    (h : Fenced opening inner closing) : Fenced (g opening) (inner.map g) (g closing) :=
  ⟨(hg opening).trans h.opens, List.forall_mem_map.2 fun line hline =>
    (hg line).trans (h.one line hline), (hg closing).trans h.closes⟩

/-! ## Runs -/

/-- The runs of lines outside fenced code: the lines before the first fence, those between two
pieces of code, and those after the last one, where `inCode` tells whether the text starts in
code. -/
def runs (inCode : Bool) : List (List Char) → List (List (List Char))
  | [] => [[]]
  | line :: rest =>
    if inCode then runs (!isFence line) rest
    else if isFence line then [] :: runs true rest
    else (runs false rest).modifyHead (line :: ·)

theorem runs_code (line : List Char) (rest : List (List Char)) :
    runs true (line :: rest) = runs (!isFence line) rest := rfl

theorem runs_fence (h : isFence line = true) (rest : List (List Char)) :
    runs false (line :: rest) = [] :: runs true rest := by
  simp [runs, h]

theorem runs_line (h : isFence line = false) (rest : List (List Char)) :
    runs false (line :: rest) = (runs false rest).modifyHead (line :: ·) := by
  simp [runs, h]

theorem exists_runs_eq_cons (inCode : Bool) (ls : List (List Char)) :
    ∃ run more, runs inCode ls = run :: more := by
  induction ls generalizing inCode with
  | nil => exact ⟨[], [], rfl⟩
  | cons line ls ih =>
    cases inCode with
    | true => exact ih _
    | false =>
      cases h : isFence line with
      | true => exact ⟨[], _, runs_fence h ls⟩
      | false =>
        obtain ⟨run, more, heq⟩ := ih false
        exact ⟨line :: run, more, by rw [runs_line h, heq]; rfl⟩

/-- A run stands in the text as it is. -/
theorem sublist_of_mem_runs (inCode : Bool) {ls run : List (List Char)}
    (h : run ∈ runs inCode ls) : run.Sublist ls := by
  induction ls generalizing inCode run with
  | nil =>
    obtain rfl := List.mem_singleton.1 h
    exact List.nil_sublist _
  | cons line ls ih =>
    cases inCode with
    | true => exact (ih _ h).cons line
    | false =>
      cases hline : isFence line with
      | true =>
        rw [runs_fence hline] at h
        rcases List.mem_cons.1 h with rfl | h
        · exact List.nil_sublist _
        · exact (ih _ h).cons line
      | false =>
        obtain ⟨first, more, heq⟩ := exists_runs_eq_cons false ls
        rw [runs_line hline, heq] at h
        rcases List.mem_cons.1 h with rfl | h
        · exact (ih false (heq ▸ List.mem_cons_self)).cons_cons line
        · exact (ih false (heq ▸ List.mem_cons_of_mem first h)).cons line

/-- What is done to the lines without a change of the fences is done to those of the runs. -/
theorem runs_map {g : List Char → List Char} (hg : ∀ line, isFence (g line) = isFence line)
    (inCode : Bool) (ls : List (List Char)) :
    runs inCode (ls.map g) = (runs inCode ls).map (List.map g) := by
  induction ls generalizing inCode with
  | nil => rfl
  | cons line ls ih =>
    cases inCode with
    | true => rw [List.map_cons, runs_code, runs_code, hg, ih]
    | false =>
      cases hline : isFence line with
      | true =>
        rw [List.map_cons, runs_fence ((hg line).trans hline), runs_fence hline, ih]
        rfl
      | false =>
        obtain ⟨first, more, heq⟩ := exists_runs_eq_cons false ls
        rw [List.map_cons, runs_line ((hg line).trans hline), runs_line hline, ih, heq]
        rfl

/-- The lines outside fenced code. -/
def outsideLines (inCode : Bool) (ls : List (List Char)) : List (List Char) :=
  (runs inCode ls).flatten

theorem outsideLines_cons (inCode : Bool) (line : List Char) (ls : List (List Char)) :
    outsideLines inCode (line :: ls) =
      if inCode || isFence line then outsideLines (inCode ^^ isFence line) ls
      else line :: outsideLines false ls := by
  unfold outsideLines
  cases inCode with
  | true => rw [runs_code, Bool.true_or, if_pos rfl, Bool.true_xor]
  | false =>
    cases hline : isFence line with
    | true => rw [runs_fence hline]; rfl
    | false =>
      obtain ⟨first, more, heq⟩ := exists_runs_eq_cons false ls
      rw [runs_line hline, heq]
      rfl

theorem outsideLines_sublist (inCode : Bool) (ls : List (List Char)) :
    (outsideLines inCode ls).Sublist ls := by
  induction ls generalizing inCode with
  | nil => exact .slnil
  | cons line ls ih =>
    rw [outsideLines_cons]
    split
    · exact (ih _).cons line
    · exact (ih _).cons_cons line

theorem outsideLines_map {g : List Char → List Char} (hg : ∀ line, isFence (g line) = isFence line)
    (inCode : Bool) (ls : List (List Char)) :
    outsideLines inCode (ls.map g) = (outsideLines inCode ls).map g := by
  unfold outsideLines
  rw [runs_map hg, List.map_flatten]

/-! ## Lines left out or trimmed -/

/-- Lines of a text of which some that are no fences are left out, and others lose characters at
their ends without becoming fences or losing a fence. -/
inductive Thinned : List (List Char) → List (List Char) → Prop
  | nil : Thinned [] []
  | drop {line : List Char} {ls ls' : List (List Char)} (plain : isFence line = false)
      (rest : Thinned ls' ls) : Thinned ls' (line :: ls)
  | keep {line line' : List Char} {ls ls' : List (List Char)} (part : line' <:+: line)
      (fence : isFence line' = isFence line) (rest : Thinned ls' ls) :
      Thinned (line' :: ls') (line :: ls)

variable {ls ls' ls'' : List (List Char)}

theorem Thinned.refl (ls : List (List Char)) : Thinned ls ls := by
  induction ls with
  | nil => exact .nil
  | cons line ls ih => exact .keep List.infix_rfl rfl ih

theorem Thinned.trans (h : Thinned ls' ls) (h' : Thinned ls'' ls') : Thinned ls'' ls := by
  induction h generalizing ls'' with
  | nil => exact h'
  | drop plain rest ih => exact .drop plain (ih h')
  | keep part fence rest ih =>
    cases h' with
    | drop plain' rest' => exact .drop (fence ▸ plain') (ih rest')
    | keep part' fence' rest' => exact .keep (part'.trans part) (fence'.trans fence) (ih rest')

theorem Thinned.exists_mem {line' : List Char} (h : Thinned ls' ls) (hmem : line' ∈ ls') :
    ∃ line ∈ ls, line' <:+: line := by
  induction h with
  | nil => cases hmem
  | drop plain rest ih =>
    obtain ⟨line, hline, hpart⟩ := ih hmem
    exact ⟨line, List.mem_cons_of_mem _ hline, hpart⟩
  | keep part fence rest ih =>
    rcases List.mem_cons.1 hmem with rfl | hmem
    · exact ⟨_, List.mem_cons_self, part⟩
    · obtain ⟨line, hline, hpart⟩ := ih hmem
      exact ⟨line, List.mem_cons_of_mem _ hline, hpart⟩

theorem Thinned.map {g : List Char → List Char} (hpart : ∀ line, g line <:+: line)
    (hfence : ∀ line, isFence (g line) = isFence line) (ls : List (List Char)) :
    Thinned (ls.map g) ls := by
  induction ls with
  | nil => exact .nil
  | cons line ls ih => exact .keep (hpart line) (hfence line) ih

theorem forall₂_modifyHead {α : Type} {R : α → α → Prop} {f g : α → α} {xs ys : List α}
    (hfg : ∀ x y, R x y → R (f x) (g y)) (h : List.Forall₂ R xs ys) :
    List.Forall₂ R (xs.modifyHead f) (ys.modifyHead g) := by
  cases h with
  | nil => exact .nil
  | cons hxy hrest => exact .cons (hfg _ _ hxy) hrest

/-- Thinning a text thins its runs one by one. -/
theorem Thinned.forall₂_runs (h : Thinned ls' ls) (inCode : Bool) :
    List.Forall₂ Thinned (runs inCode ls') (runs inCode ls) := by
  induction h generalizing inCode with
  | nil => exact .cons .nil .nil
  | drop plain rest ih =>
    cases inCode with
    | true =>
      rw [runs_code, plain]
      exact ih true
    | false =>
      have hruns := forall₂_modifyHead (f := id) (fun _ _ => .drop plain) (ih false)
      rwa [List.modifyHead_id, ← runs_line plain] at hruns
  | @keep line line' ls ls' part fence rest ih =>
    cases inCode with
    | true =>
      rw [runs_code, runs_code, fence]
      exact ih _
    | false =>
      cases hline : isFence line with
      | true =>
        rw [runs_fence hline, runs_fence (fence.trans hline)]
        exact .cons .nil (ih true)
      | false =>
        rw [runs_line hline, runs_line (fence.trans hline)]
        exact forall₂_modifyHead (fun _ _ => .keep part fence) (ih false)

theorem Thinned.exists_run (h : Thinned ls' ls) {inCode : Bool} {run' : List (List Char)}
    (hrun' : run' ∈ runs inCode ls') :
    ∃ run ∈ runs inCode ls, Thinned run' run := by
  obtain ⟨i, hi, rfl⟩ := List.getElem_of_mem hrun'
  obtain ⟨hlength, hruns⟩ := List.forall₂_iff_get.1 (h.forall₂_runs inCode)
  exact ⟨_, List.get_mem _ ⟨i, hlength ▸ hi⟩, hruns i hi (hlength ▸ hi)⟩

/-- Thinning a text thins its lines outside fenced code. -/
theorem Thinned.outsideLines (h : Thinned ls' ls) (inCode : Bool) :
    Thinned (outsideLines inCode ls') (outsideLines inCode ls) := by
  induction h generalizing inCode with
  | nil => exact .nil
  | drop plain rest ih =>
    rw [outsideLines_cons, plain]
    cases inCode with
    | true => exact ih true
    | false => exact .drop plain (ih false)
  | keep part fence rest ih =>
    rw [outsideLines_cons, outsideLines_cons, fence]
    split
    · exact ih _
    · exact .keep part fence (ih false)

end DocCorpus.Minify
