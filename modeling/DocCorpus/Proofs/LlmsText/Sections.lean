/-
  Sections read back. A section is written as its heading, lines to pass over and the lines of its
  entries; sections written one after the other are read one after the other, whatever stands
  before the first of them (`sectionsFrom_flatMap`, `sectionsFrom_none`).
-/
import DocCorpus.Proofs.LlmsText.Entries

namespace DocCorpus.LlmsText

/-! ## Reading sections -/

/-- A line that a reader of sections passes over. -/
def Silent (line : List Char) : Prop := ∀ c, line.head? = some c → c ≠ '#' ∧ c ≠ '-' ∧ c ≠ '*'

instance (line : List Char) : Decidable (Silent line) :=
  match line with
  | [] => isTrue fun _ h => nomatch h
  | c :: _ => decidable_of_iff (c ≠ '#' ∧ c ≠ '-' ∧ c ≠ '*')
      ⟨fun h _ hc => Option.some.inj hc ▸ h, fun h => h c rfl⟩

/-- A section that its lines give back. -/
structure Section.Legible (s : Section) : Prop where
  title : Title s.title
  entries : ∀ e ∈ s.entries, e.Legible

/-- The lines of a section, with lines to pass over after the heading. -/
def Section.lines (s : Section) (passed : List (List Char)) : List (List Char) :=
  headingLine sectionMark s.title :: (passed ++ s.entries.map Entry.line)

theorem heading?_eq_none {mark front line : List Char} {c : Char} (hmark : mark = c :: front)
    (h : line.head? ≠ some c) : heading? mark line = none := by
  subst hmark
  unfold heading?
  cases line with
  | nil => rfl
  | cons c' line =>
    have hne : c ≠ c' := by
      rintro rfl
      exact h rfl
    rw [Text.dropHead?, if_neg hne]
    rfl

theorem linkOf?_eq_none {line : List Char} (h : Silent line) : linkOf? line = none := by
  cases line with
  | nil => rfl
  | cons c line =>
    obtain ⟨_, hdash, hstar⟩ := h c rfl
    rw [linkOf?, if_neg (not_or.2 ⟨hdash, hstar⟩)]

theorem sectionsFrom_cons (current : Option Section) (line : List Char)
    (rest : List (List Char)) :
    sectionsFrom current (line :: rest) =
      match heading? sectionMark line with
      | some title => current.toList ++ sectionsFrom (some ⟨title, []⟩) rest
      | none =>
        match linkOf? line, current with
        | some entry, some s => sectionsFrom (some { s with entries := s.entries ++ [entry] }) rest
        | _, _ => sectionsFrom current rest := rfl

theorem sectionsFrom_headingLine {title : String} (h : Title title) (current : Option Section)
    (rest : List (List Char)) :
    sectionsFrom current (headingLine sectionMark title :: rest) =
      current.toList ++ sectionsFrom (some ⟨title, []⟩) rest := by
  rw [sectionsFrom_cons, heading?_headingLine h]

theorem sectionsFrom_silent {line : List Char} (h : Silent line) (current : Option Section)
    (rest : List (List Char)) :
    sectionsFrom current (line :: rest) = sectionsFrom current rest := by
  have hheading : heading? sectionMark line = none :=
    heading?_eq_none rfl fun hc => (h '#' hc).1 rfl
  rw [sectionsFrom_cons, hheading, linkOf?_eq_none h]

theorem sectionsFrom_passed {passed : List (List Char)} (h : ∀ line ∈ passed, Silent line)
    (current : Option Section) (rest : List (List Char)) :
    sectionsFrom current (passed ++ rest) = sectionsFrom current rest := by
  induction passed with
  | nil => rfl
  | cons line passed ih =>
    obtain ⟨hline, hpassed⟩ := List.forall_mem_cons.1 h
    rw [List.cons_append, sectionsFrom_silent hline, ih hpassed]

/-- Before the first heading, links are passed over as well. -/
theorem sectionsFrom_none {before : List (List Char)} (h : ∀ line ∈ before, line.head? ≠ some '#')
    (rest : List (List Char)) : sectionsFrom none (before ++ rest) = sectionsFrom none rest := by
  induction before with
  | nil => rfl
  | cons line before ih =>
    obtain ⟨hline, hbefore⟩ := List.forall_mem_cons.1 h
    have hheading : heading? sectionMark line = none := heading?_eq_none rfl hline
    rw [List.cons_append, sectionsFrom_cons, hheading]
    cases linkOf? line <;> exact ih hbefore

theorem sectionsFrom_entries {entries : List Entry} (h : ∀ e ∈ entries, e.Legible) (s : Section)
    (rest : List (List Char)) :
    sectionsFrom (some s) (entries.map Entry.line ++ rest) =
      sectionsFrom (some { s with entries := s.entries ++ entries }) rest := by
  induction entries generalizing s with
  | nil => rw [List.append_nil, List.map_nil, List.nil_append]
  | cons e entries ih =>
    obtain ⟨he, hentries⟩ := List.forall_mem_cons.1 h
    rw [List.map_cons, List.cons_append, sectionsFrom_cons, heading?_line, linkOf?_line he]
    dsimp only
    rw [ih hentries, List.append_assoc, List.singleton_append]

theorem sectionsFrom_lines {s : Section} (h : s.Legible) {passed : List (List Char)}
    (hpassed : ∀ line ∈ passed, Silent line) (current : Option Section)
    (rest : List (List Char)) :
    sectionsFrom current (s.lines passed ++ rest) =
      current.toList ++ sectionsFrom (some s) rest := by
  unfold Section.lines
  rw [List.cons_append, sectionsFrom_headingLine h.title, List.append_assoc,
    sectionsFrom_passed hpassed, sectionsFrom_entries h.entries, List.nil_append]

/-- Sections written one after the other are read one after the other. -/
theorem sectionsFrom_flatMap {written : List (Section × List (List Char))}
    (h : ∀ w ∈ written, w.1.Legible ∧ ∀ line ∈ w.2, Silent line) (current : Option Section) :
    sectionsFrom current (written.flatMap fun w => w.1.lines w.2) =
      current.toList ++ written.map Prod.fst := by
  induction written generalizing current with
  | nil => rw [List.flatMap_nil, sectionsFrom, List.map_nil, List.append_nil]
  | cons w written ih =>
    obtain ⟨hw, hwritten⟩ := List.forall_mem_cons.1 h
    rw [List.flatMap_cons, sectionsFrom_lines hw.1 hw.2, ih hwritten, List.map_cons]
    rfl

/-! ## Writing sections -/

theorem contentLines_passed {passed : List (List Char)} (h : ∀ line ∈ passed, Solid line)
    (rest : List Char) :
    contentLines (passed.flatMap (· ++ ['\n', '\n']) ++ rest) = passed ++ contentLines rest := by
  induction passed with
  | nil => rfl
  | cons line passed ih =>
    obtain ⟨hline, hpassed⟩ := List.forall_mem_cons.1 h
    have htext : line ++ ['\n', '\n'] ++ passed.flatMap (· ++ ['\n', '\n']) ++ rest =
        line ++ '\n' :: ('\n' :: (passed.flatMap (· ++ ['\n', '\n']) ++ rest)) := by
      simp
    rw [List.flatMap_cons, htext, contentLines_append, hline.contentLines, contentLines_lineFeed,
      ih hpassed]
    rfl

/-- The text of a section is seen as its lines. -/
theorem contentLines_section {s : Section} (htitle : Title s.title)
    (hentries : ∀ e ∈ s.entries, Solid e.line) {passed : List (List Char)}
    (hpassed : ∀ line ∈ passed, Solid line) :
    contentLines (headingLine sectionMark s.title ++ '\n' :: '\n' ::
      (passed.flatMap (· ++ ['\n', '\n']) ++ (s.entries.map Entry.line).flatMap (· ++ ['\n']))) =
      s.lines passed := by
  have hheading : Solid (headingLine sectionMark s.title) := by
    have hmark : '\n' ∉ ['#', '#'] := by decide
    exact solid_headingLine htitle (by decide) hmark
  have hlines : ∀ line ∈ s.entries.map Entry.line, Solid line := by
    intro line hline
    obtain ⟨e, he, rfl⟩ := List.mem_map.1 hline
    exact hentries e he
  rw [contentLines_append, hheading.contentLines, contentLines_lineFeed,
    contentLines_passed hpassed, contentLines_flatMap hlines]
  rfl

theorem Section.Legible.contentLines {s : Section} (h : s.Legible) {passed : List (List Char)}
    (hpassed : ∀ line ∈ passed, Solid line) :
    contentLines (headingLine sectionMark s.title ++ '\n' :: '\n' ::
      (passed.flatMap (· ++ ['\n', '\n']) ++ (s.entries.map Entry.line).flatMap (· ++ ['\n']))) =
      s.lines passed :=
  contentLines_section h.title (fun e he => (h.entries e he).solid) hpassed

theorem toList_join {α : Type} {entry : α → Entry} {line : α → String} {xs : List α}
    (h : ∀ x ∈ xs, (line x).toList = (entry x).line ++ ['\n']) :
    (String.join (xs.map line)).toList =
      ((xs.map entry).map Entry.line).flatMap (· ++ ['\n']) := by
  induction xs with
  | nil => rfl
  | cons x xs ih =>
    obtain ⟨hx, hxs⟩ := List.forall_mem_cons.1 h
    rw [List.map_cons, String.join_cons, String.toList_append, hx, ih hxs]
    rfl

end DocCorpus.LlmsText
