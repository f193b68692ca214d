/-
  Titles made from identifiers. A title is the words of the last part of the identifier, at hyphens,
  underscores and blanks, with a space between each two (`titleChars_eq`). Capitalizing a word makes
  neither a blank nor a hyphen (`TitleWord.capitalize`), so a title is evenly spaced. It is empty if
  the last part has no word, which an identifier made from a path can come to by hyphens alone
  (`displayTitle_make_resolve`).
-/
import DocCorpus.Document
import DocCorpus.Proofs.Identifier
import DocCorpus.Proofs.Text.Letter
import DocCorpus.Proofs.Text.Words

namespace DocCorpus.Identifier

/-! ## Capitalized words -/

/-- The characters that stand for spaces in an identifier. -/
def spaceMarks : CharSet := ⟨[(0x2d, 0x2d), (0x5f, 0x5f)]⟩

theorem has_spaceMarks_iff {c : Char} : spaceMarks.has c = true ↔ c = '-' ∨ c = '_' := by
  constructor
  · intro h
    obtain ⟨i, hi, hfirst, hlast⟩ := CharSet.search_eq_true h
    have heq : ∀ d : Char, c.toNat = d.toNat → c = d := fun d hd => Char.ext (UInt32.toNat_inj.1 hd)
    rcases List.mem_cons.1 hi with rfl | hi
    · exact .inl (heq '-' (Nat.le_antisymm hlast hfirst))
    · obtain rfl := List.mem_singleton.1 hi
      exact .inr (heq '_' (Nat.le_antisymm hlast hfirst))
  · rintro (rfl | rfl) <;> decide

/-- A word of a title: visible, and without hyphens and underscores. -/
structure TitleWord (word : List Char) : Prop where
  visible : Text.Visible word
  unmarked : ∀ c ∈ word, spaceMarks.has c = false

theorem upper_ne_nil (c : Char) : Letter.upper c ≠ [] :=
  Letter.form_ne_nil (by decide +kernel) c

theorem not_blank_of_mem_upper {c d : Char} (hc : isBlank c = false) (hd : d ∈ Letter.upper c) :
    isBlank d = false := by
  change blankChars.has d = false
  exact Letter.not_has_form (by decide +kernel) (by decide +kernel) (by decide +kernel) hc hd

theorem not_mark_of_mem_upper {c d : Char} (hc : spaceMarks.has c = false)
    (hd : d ∈ Letter.upper c) : spaceMarks.has d = false :=
  Letter.not_has_form (by decide +kernel) (by decide +kernel) (by decide +kernel) hc hd

theorem TitleWord.capitalize {word : List Char} (h : TitleWord word) :
    TitleWord (capitalize word) := by
  cases word with
  | nil => exact h
  | cons c rest =>
    obtain ⟨hc, hrest⟩ := List.forall_mem_cons.1 h.visible.plain
    obtain ⟨hc', hrest'⟩ := List.forall_mem_cons.1 h.unmarked
    refine ⟨⟨List.append_ne_nil_of_left_ne_nil (upper_ne_nil c) rest, ?_⟩, ?_⟩
    · exact List.forall_mem_append.2 ⟨fun _ => not_blank_of_mem_upper hc, hrest⟩
    · exact List.forall_mem_append.2 ⟨fun _ => not_mark_of_mem_upper hc', hrest'⟩

/-! ## The words of a title -/

def lastPart (id : List Char) : List Char := (id.splitOn '/').getLastD []

/-- A part of an identifier with a space for each hyphen and underscore. -/
def spaced (part : List Char) : List Char :=
  part.map fun c => if c = '-' ∨ c = '_' then ' ' else c

theorem mem_spaced {part : List Char} {c : Char} (h : c ∈ spaced part) :
    spaceMarks.has c = false := by
  obtain ⟨d, -, rfl⟩ := List.mem_map.1 h
  rw [← Bool.not_eq_true, has_spaceMarks_iff]
  split
  · decide
  · next hd => exact hd

/-- A character that no word holds. -/
def Separates (c : Char) : Prop := c = '-' ∨ c = '_' ∨ isBlank c = true

theorem blank_spaced_iff {part : List Char} :
    (∀ c ∈ spaced part, isBlank c = true) ↔ ∀ c ∈ part, Separates c := by
  unfold spaced
  rw [List.forall_mem_map]
  refine forall₂_congr fun c _ => ?_
  unfold Separates
  split
  · next hmark =>
    rw [← or_assoc]
    exact ⟨fun _ => .inl hmark, fun _ => by decide⟩
  · next hmark =>
    rw [← or_assoc]
    exact ⟨.inr, fun h => h.resolve_left hmark⟩

/-- The words of the title that an identifier gets. -/
def titleWords (id : List Char) : List (List Char) :=
  if lastPart id = "index".toList ∨ lastPart id = [] then ["Overview".toList]
  else (Text.words (spaced (lastPart id))).map capitalize

theorem titleChars_eq (id : List Char) : titleChars id = [' '].intercalate (titleWords id) := by
  unfold titleChars titleWords lastPart
  dsimp only
  split
  · exact List.intercalate_singleton.symm
  · rfl

theorem titleWord_overview : TitleWord "Overview".toList := by
  have hall : "Overview".toList.all (fun c => !isBlank c && !spaceMarks.has c) = true := by
    decide +kernel
  have hchars : ∀ c ∈ "Overview".toList, isBlank c = false ∧ spaceMarks.has c = false := by
    intro c hc
    simpa using List.all_eq_true.1 hall c hc
  exact ⟨⟨by decide, fun c hc => (hchars c hc).1⟩, fun c hc => (hchars c hc).2⟩

theorem titleWord_of_mem_titleWords {id word : List Char} (h : word ∈ titleWords id) :
    TitleWord word := by
  unfold titleWords at h
  split at h
  · obtain rfl := List.mem_singleton.1 h
    exact titleWord_overview
  · obtain ⟨word, hword, rfl⟩ := List.mem_map.1 h
    obtain ⟨hvisible, hmem⟩ := Text.visible_of_mem_words hword
    exact TitleWord.capitalize ⟨hvisible, fun c hc => mem_spaced (hmem c hc)⟩

theorem titleWords_eq_nil_iff {id : List Char} :
    titleWords id = [] ↔ lastPart id ≠ [] ∧ ∀ c ∈ lastPart id, Separates c := by
  unfold titleWords
  split
  · next hnamed =>
    refine ⟨nofun, fun ⟨hne, hall⟩ => ?_⟩
    rw [hnamed.resolve_right hne] at hall
    rcases hall 'i' (by decide) with h | h | h <;> cases h
  · next hnamed =>
    rw [List.map_eq_nil_iff, Text.words_eq_nil_iff, blank_spaced_iff]
    exact ⟨fun hall => ⟨(not_or.1 hnamed).2, hall⟩, fun h => h.2⟩

/-! ## Titles -/

theorem title_eq_empty_iff {id : String} :
    title id = "" ↔ lastPart id.toList ≠ [] ∧ ∀ c ∈ lastPart id.toList, Separates c := by
  have hvisible : ∀ word ∈ titleWords id.toList, Text.Visible word := fun word hword =>
    (titleWord_of_mem_titleWords hword).visible
  rw [← titleWords_eq_nil_iff, title, titleChars_eq, String.ofList_eq_empty_iff]
  refine ⟨fun hnil => ?_, fun hnil => by rw [hnil]; rfl⟩
  by_cases hne : titleWords id.toList = []
  · exact hne
  · -- An empty text would fall into one empty word.
    have hsplit := Text.splitOn_join hvisible hne
    rw [hnil, List.splitOn_nil] at hsplit
    exact absurd rfl (hvisible [] (hsplit ▸ List.mem_cons_self)).nonempty

theorem evenly_title (id : String) : Text.Evenly (title id).toList := by
  rw [title, String.toList_ofList, titleChars_eq]
  exact .join fun word hword => (titleWord_of_mem_titleWords hword).visible

theorem not_mark_of_mem_title {id : String} {c : Char} (h : c ∈ (title id).toList) :
    spaceMarks.has c = false := by
  rw [title, String.toList_ofList, titleChars_eq] at h
  have hvisible : ∀ word ∈ titleWords id.toList, Text.Visible word := fun word hword =>
    (titleWord_of_mem_titleWords hword).visible
  rcases Text.mem_join hvisible h with rfl | ⟨word, hword, hc⟩
  · decide
  · exact (titleWord_of_mem_titleWords hword).unmarked c hc

/-- The last part of an identifier made from a path has no separators but hyphens. -/
theorem separates_lastPart_iff (relative : Path) :
    (lastPart (ofPath relative).toList ≠ [] ∧
        ∀ c ∈ lastPart (ofPath relative).toList, Separates c) ↔
      ∀ c ∈ lastPart (ofPath relative).toList, c = '-' := by
  have hpart : Part (lastPart (ofPath relative).toList) := by
    unfold lastPart ofPath
    rw [String.toList_ofList]
    have hne := List.splitOn_ne_nil '/' (ofNames (relative.names.map String.toList))
    rw [List.getLastD_eq_getLast?, List.getLast?_eq_some_getLast hne, Option.getD_some]
    exact part_of_mem_splitOn (List.getLast_mem hne)
  refine ⟨fun ⟨_, hall⟩ c hc => ?_, fun hall => ⟨hpart.visible, fun c hc => .inl (hall c hc)⟩⟩
  rcases hall c hc with h | rfl | h
  · exact h
  · exact absurd rfl ((hpart.chars '_' hc).ne (by decide) (by decide))
  · rw [(hpart.chars c hc).not_blank] at h
    cases h

/-- The title that a document without one is listed under. It is empty exactly if the last part of
the identifier is made of separators, and for an identifier made from the path, of hyphens alone; it
never has a hyphen, an underscore, a blank at one of its ends or two blanks side by side. -/
theorem displayTitle_make_resolve (relative : Path) {data : Metadata} (body : String)
    (htitle : data.getText? "title" = none) :
    let d := Document.make (resolve relative data) data body
    (d.displayTitle = "" ↔
      lastPart d.id.toList ≠ [] ∧ ∀ c ∈ lastPart d.id.toList, Separates c) ∧
    ((∀ slug, data.getText? "slug" = some slug → normalize slug = "") →
      d.id = ofPath relative ∧
        (d.displayTitle = "" ↔ ∀ c ∈ lastPart (ofPath relative).toList, c = '-')) ∧
    '-' ∉ d.displayTitle.toList ∧ '_' ∉ d.displayTitle.toList ∧
    Text.Evenly d.displayTitle.toList := by
  intro d
  have hdisplay : d.displayTitle = title d.id := by
    unfold Document.displayTitle Document.title?
    rw [show d.data.getText? "title" = none from htitle]
    rfl
  have hunmarked : ∀ c, spaceMarks.has c = true → c ∉ (title d.id).toList := by
    intro c hc hmem
    rw [not_mark_of_mem_title hmem] at hc
    cases hc
  rw [hdisplay]
  refine ⟨title_eq_empty_iff, fun hslug => ?_, hunmarked '-' (by decide), hunmarked '_' (by decide),
    evenly_title d.id⟩
  have hresolve : resolve relative data = ofPath relative := by
    unfold resolve
    cases hdata : data.getText? "slug" with
    | none => rfl
    | some slug =>
      rw [Option.map_some, hslug slug hdata]
      exact if_pos rfl
  have hid : d.id = ofPath relative := by
    change normalize (resolve relative data) = ofPath relative
    rw [hresolve, normalize_ofPath]
  refine ⟨hid, ?_⟩
  rw [title_eq_empty_iff, hid]
  exact separates_lastPart_iff relative

/-- A letter whose upper-case form has two characters, and a name of hyphens and underscores. -/
theorem displayTitle_make_resolve_written :
    let d := Document.make (resolve ⟨"guides/ŉ-_teps.x.md"⟩ .empty) .empty ""
    let e := Document.make (resolve ⟨"guides/-_-.md"⟩ .empty) .empty ""
    Metadata.empty.getText? "title" = none ∧ d.displayTitle ≠ "" ∧
      Text.Evenly d.displayTitle.toList ∧ e.displayTitle = "" := by
  have htitle : Metadata.empty.getText? "title" = none := by decide
  intro d e
  obtain ⟨hempty, -, -, -, hevenly⟩ :=
    displayTitle_make_resolve ⟨"guides/ŉ-_teps.x.md"⟩ "" htitle
  obtain ⟨hempty', -⟩ := displayTitle_make_resolve ⟨"guides/-_-.md"⟩ "" htitle
  have hhyphens : (lastPart e.id.toList).all (· == '-') = true := by decide +kernel
  refine ⟨htitle, fun hnone => ?_, hevenly, hempty'.2 ⟨by decide +kernel, fun c hc => ?_⟩⟩
  · obtain ⟨-, hall⟩ := hempty.1 hnone
    rcases hall 't' (by decide +kernel) with h | h | h <;> cases h
  · exact .inl (beq_iff_eq.1 (List.all_eq_true.1 hhyphens c hc))

/-- A file named by a hyphen has no title at all. -/
theorem displayTitle_of_hyphen :
    (Document.make (resolve ⟨"-.md"⟩ .empty) .empty "").displayTitle = "" := by
  decide +kernel

end DocCorpus.Identifier
