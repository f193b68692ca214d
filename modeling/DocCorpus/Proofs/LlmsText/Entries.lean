/-
  Lines that are written for an index and what a reader makes of them. A heading, a quoted line and
  a line with a link are read as what they were written for, as long as the texts in them are of one
  line, have no blanks at their ends and keep clear of the brackets that close them.
-/
import DocCorpus.Proofs.LlmsText.Lines

namespace DocCorpus.LlmsText

/-! ## Plain texts -/

/-- A text of one line, without blanks at its ends. -/
structure Plain (s : String) : Prop where
  one : '\n' ∉ s.toList
  ends : Text.trim s.toList = s.toList

/-- A plain text with something in it. -/
structure Title (s : String) : Prop extends Plain s where
  visible : s ≠ ""

instance (s : String) : Decidable (Plain s) :=
  decidable_of_iff ('\n' ∉ s.toList ∧ Text.trim s.toList = s.toList)
    ⟨fun h => ⟨h.1, h.2⟩, fun h => ⟨h.one, h.ends⟩⟩

instance (s : String) : Decidable (Title s) :=
  decidable_of_iff (Plain s ∧ s ≠ "") ⟨fun h => ⟨h.1, h.2⟩, fun h => ⟨h.toPlain, h.visible⟩⟩

theorem Plain.trimmed_eq {s : String} (h : Plain s) : trimmed s.toList = s := by
  unfold trimmed
  rw [h.ends, String.ofList_toList]

theorem Plain.trimText_eq {s : String} (h : Plain s) : trimText s = s := h.trimmed_eq

theorem Plain.head_blank {s : String} (h : Plain s) {c : Char} (hc : s.toList.head? = some c) :
    isBlank c = false := by
  rw [← h.ends] at hc
  exact Text.head_trim hc

theorem Plain.last_blank {s : String} (h : Plain s) {c : Char} (hc : s.toList.getLast? = some c) :
    isBlank c = false := by
  rw [← h.ends] at hc
  exact Text.last_trim hc

theorem Title.exists_cons {s : String} (h : Title s) :
    ∃ c rest, s.toList = c :: rest ∧ isBlank c = false := by
  cases hs : s.toList with
  | nil => exact absurd (String.toList_eq_nil_iff.1 hs) h.visible
  | cons c rest =>
    refine ⟨c, rest, rfl, h.head_blank ?_⟩
    rw [hs, List.head?_cons]

theorem Title.exists_last {s : String} (h : Title s) :
    ∃ c, s.toList.getLast? = some c ∧ isBlank c = false := by
  obtain ⟨c, rest, hs, _⟩ := h.exists_cons
  have hlast : s.toList.getLast? = some ((c :: rest).getLast (List.cons_ne_nil c rest)) := by
    rw [hs]
    rfl
  exact ⟨_, hlast, h.last_blank hlast⟩

/-- A line that starts with a visible mark and ends with a title is seen as it is. -/
theorem Title.solid {s : String} (h : Title s) {mark : Char} {front : List Char}
    (hmark : isBlank mark = false) (hline : '\n' ∉ mark :: front) :
    Solid (mark :: front ++ s.toList) := by
  obtain ⟨c, hlast, hc⟩ := h.exists_last
  refine ⟨?_, Text.trim_eq_self hmark hc rfl ?_, List.cons_ne_nil mark _⟩
  · rw [List.mem_append, not_or]
    exact ⟨hline, h.one⟩
  · rw [List.getLast?_append, hlast]
    rfl

/-- The text of a description, if there is any. -/
def text? (s : String) : Option String := if s = "" then none else some s

theorem Plain.visible?_eq {s : String} (h : Plain s) : visible? s = text? s := by
  unfold visible? text?
  dsimp only
  rw [h.trimText_eq]

theorem Plain.title_of_text? {s t : String} (h : Plain s) (ht : text? s = some t) : Title t := by
  unfold text? at ht
  split at ht
  · cases ht
  · next hs =>
    injection ht with ht
    rw [← ht]
    exact ⟨h, hs⟩

/-! ## Headings and quotations -/

def headingLine (mark : List Char) (title : String) : List Char := mark ++ ' ' :: title.toList

def quotedLine (text : String) : List Char := '>' :: ' ' :: text.toList

theorem afterBlanks?_eq {s : String} (h : Title s) :
    afterBlanks? (' ' :: s.toList) = some s.toList := by
  obtain ⟨c, rest, hs, hc⟩ := h.exists_cons
  have htrim : Text.trimStart s.toList = s.toList := by
    refine Text.dropWhile_eq_self fun c' hc' => h.head_blank hc'
  rw [afterBlanks?, if_pos (by decide), htrim, hs]

theorem heading?_headingLine {title : String} (h : Title title) (mark : List Char) :
    heading? mark (headingLine mark title) = some title := by
  unfold heading? headingLine
  rw [Text.dropHead?_eq_some.2 rfl, Option.bind_some, afterBlanks?_eq h, Option.map_some,
    h.trimmed_eq]

theorem solid_headingLine {title : String} (h : Title title) {mark : Char} {front : List Char}
    (hmark : isBlank mark = false) (hline : '\n' ∉ mark :: front) :
    Solid (headingLine (mark :: front) title) := by
  have hspace : '\n' ∉ mark :: (front ++ [' ']) := by
    rw [← List.cons_append, List.mem_append, not_or]
    exact ⟨hline, by decide⟩
  have hsolid := h.solid hmark hspace
  rw [← List.cons_append, List.append_assoc] at hsolid
  exact hsolid

theorem quotation?_quotedLine {text : String} (h : Title text) :
    quotation? (quotedLine text) = some text := by
  show some (trimmed ([' '] ++ text.toList)) = some text
  unfold trimmed
  rw [show Text.trim ([' '] ++ text.toList) = Text.trim text.toList from
    Text.append_strip Text.forall_blank_space, h.ends, String.ofList_toList]

theorem solid_quotedLine {text : String} (h : Title text) : Solid (quotedLine text) := by
  have hline : '\n' ∉ ['>', ' '] := by decide
  exact h.solid (by decide) hline

/-! ## Links -/

/-- What stands after the address of a link. -/
def Entry.tail (e : Entry) : List Char :=
  match e.notes with
  | none => [')']
  | some notes => ')' :: ':' :: ' ' :: notes.toList

/-- The line of an entry. -/
def Entry.line (e : Entry) : List Char :=
  '-' :: ' ' :: '[' :: (e.name.toList ++ ']' :: '(' :: (e.url.toList ++ e.tail))

/-- An entry that its line gives back. -/
structure Entry.Legible (e : Entry) : Prop where
  name : Title e.name
  name_close : ']' ∉ e.name.toList
  url : Title e.url
  url_close : ')' ∉ e.url.toList
  notes : ∀ notes, e.notes = some notes → Title notes

theorem enclosed?_eq {close : Char} {text rest : List Char} (hne : text ≠ [])
    (hclose : close ∉ text) : enclosed? close (text ++ close :: rest) = some (text, rest) := by
  have hbefore : ∀ c ∈ text, decide (c ≠ close) = true := by
    intro c hc
    rw [decide_eq_true_iff]
    rintro rfl
    exact hclose hc
  have hclosed : ¬ decide (close ≠ close) = true := by
    rw [decide_eq_true_iff]
    exact fun h => h rfl
  have hdrop : (text ++ close :: rest).dropWhile (fun c => decide (c ≠ close)) = close :: rest := by
    rw [List.dropWhile_append_of_pos hbefore, List.dropWhile_cons, if_neg hclosed]
  have htake : (text ++ close :: rest).takeWhile (fun c => decide (c ≠ close)) = text := by
    rw [List.takeWhile_append_of_pos hbefore, List.takeWhile_cons, if_neg hclosed, List.append_nil]
  unfold enclosed? Text.cutFirst?
  rw [hdrop, htake]
  cases text with
  | nil => exact absurd rfl hne
  | cons c text => rfl

theorem notes?_tail {e : Entry} (h : ∀ notes, e.notes = some notes → Title notes) :
    ∃ rest, e.tail = ')' :: rest ∧ notes? rest = some e.notes := by
  unfold Entry.tail
  cases hnotes : e.notes with
  | none => exact ⟨[], rfl, rfl⟩
  | some notes =>
    refine ⟨':' :: ' ' :: notes.toList, rfl, ?_⟩
    show some (some (trimmed ([' '] ++ notes.toList))) = some (some notes)
    unfold trimmed
    rw [show Text.trim ([' '] ++ notes.toList) = Text.trim notes.toList from
      Text.append_strip Text.forall_blank_space, (h notes hnotes).ends, String.ofList_toList]

theorem Title.toList_ne_nil {s : String} (h : Title s) : s.toList ≠ [] := by
  obtain ⟨c, rest, hs, _⟩ := h.exists_cons
  rw [hs]
  exact List.cons_ne_nil c rest

/-- A name that a link can have: there is one, and it does not close the bracket it stands in. -/
structure LinkName (name : String) : Prop where
  visible : name ≠ ""
  close : ']' ∉ name.toList

theorem linkOf?_open (text : List Char) :
    linkOf? ('-' :: ' ' :: '[' :: text) =
      match enclosed? ']' text with
      | some (name, '(' :: rest) =>
        match enclosed? ')' rest with
        | some (url, rest) => (notes? rest).map fun notes => ⟨trimmed name, trimmed url, notes⟩
        | none => none
      | _ => none := by
  have htrim : Text.trimStart ('[' :: text) = '[' :: text :=
    List.dropWhile_cons_of_neg (by decide)
  have hblanks : afterBlanks? (' ' :: '[' :: text) = some ('[' :: text) := by
    rw [afterBlanks?, if_pos (by decide), htrim]
  rw [linkOf?, if_pos (.inl rfl), hblanks]
  rfl

/-- A link is read up to its address as soon as it has a name. -/
theorem LinkName.linkOf?_eq {name : String} (h : LinkName name) (rest : List Char) :
    linkOf? ('-' :: ' ' :: '[' :: (name.toList ++ ']' :: '(' :: rest)) =
      (enclosed? ')' rest).bind fun (url, rest) =>
        (notes? rest).map fun notes => ⟨trimmed name.toList, trimmed url, notes⟩ := by
  have hne : name.toList ≠ [] := mt String.toList_eq_nil_iff.1 h.visible
  rw [linkOf?_open, enclosed?_eq hne h.close]
  cases hurl : enclosed? ')' rest <;> simp only [hurl] <;> rfl

/-- The line of an entry with a name is read as the entry, but for blanks around the name. -/
theorem LinkName.linkOf?_line {e : Entry} (h : LinkName e.name) (hurl : Title e.url)
    (hclose : ')' ∉ e.url.toList) (hnotes : ∀ notes, e.notes = some notes → Title notes) :
    linkOf? e.line = some ⟨trimmed e.name.toList, e.url, e.notes⟩ := by
  obtain ⟨rest, htail, hrest⟩ := notes?_tail hnotes
  have henclosed : enclosed? ')' (e.url.toList ++ ')' :: rest) = some (e.url.toList, rest) :=
    enclosed?_eq hurl.toList_ne_nil hclose
  unfold Entry.line
  rw [h.linkOf?_eq, htail, henclosed, Option.bind_some]
  simp only [hrest, Option.map_some, hurl.trimmed_eq]

/-- Any other name ends the link early, at its first closing bracket, and the line is passed over
unless what looks like an address starts there. -/
theorem linkOf?_line_of_not_linkName {e : Entry} (h : ¬ LinkName e.name)
    (haddress : ¬ [']', '('] <:+: e.name.toList) : linkOf? e.line = none := by
  unfold Entry.line
  rw [linkOf?_open]
  split
  · next name rest heq =>
    by_cases hclose : ']' ∈ e.name.toList
    · obtain ⟨front, back, hname, hfront⟩ := List.eq_append_cons_of_mem hclose
      rw [hname, List.append_assoc, List.cons_append] at heq
      by_cases hnil : front = []
      · rw [hnil] at heq
        cases heq
      · rw [enclosed?_eq hnil hfront] at heq
        obtain ⟨-, hrest⟩ := Prod.mk.inj (Option.some.inj heq)
        cases back with
        | nil => cases hrest
        | cons d back =>
          obtain ⟨rfl, -⟩ := List.cons.inj hrest
          exact absurd ⟨front, back, by simp [hname]⟩ haddress
    · have hempty : e.name = "" := by
        by_contra hne
        exact h ⟨hne, hclose⟩
      rw [hempty] at heq
      cases heq
  · rfl

/-- The line of an entry is read as the entry. -/
theorem linkOf?_line {e : Entry} (h : e.Legible) : linkOf? e.line = some e := by
  have hname : LinkName e.name := ⟨h.name.visible, h.name_close⟩
  rw [hname.linkOf?_line h.url h.url_close h.notes, h.name.trimmed_eq]

/-- A line with a link to nowhere is passed over. -/
theorem linkOf?_line_of_no_url {e : Entry} (h : Title e.name) (hclose : ']' ∉ e.name.toList)
    (hurl : e.url = "") : linkOf? e.line = none := by
  obtain ⟨rest, htail⟩ : ∃ rest, e.tail = ')' :: rest := by
    unfold Entry.tail
    cases e.notes with
    | none => exact ⟨_, rfl⟩
    | some notes => exact ⟨_, rfl⟩
  have hname : LinkName e.name := ⟨h.visible, hclose⟩
  unfold Entry.line
  rw [hname.linkOf?_eq, htail, hurl]
  rfl

theorem heading?_line (e : Entry) : heading? sectionMark e.line = none := rfl

theorem solid_line {e : Entry} (hname : '\n' ∉ e.name.toList) (hurl : '\n' ∉ e.url.toList)
    (htext : ∀ notes, e.notes = some notes → Title notes) : Solid e.line := by
  cases hnotes : e.notes with
  | none =>
    have hline : e.line =
        '-' :: (' ' :: '[' :: (e.name.toList ++ ']' :: '(' :: e.url.toList)) ++ ")".toList := by
      simp [Entry.line, Entry.tail, hnotes]
    have hclose : Title ")" := ⟨⟨by decide, by decide⟩, by decide⟩
    rw [hline]
    exact hclose.solid (by decide) (by simp [hname, hurl])
  | some notes =>
    have hline : e.line =
        '-' :: (' ' :: '[' :: (e.name.toList ++ ']' :: '(' :: (e.url.toList ++ "): ".toList))) ++
          notes.toList := by
      simp [Entry.line, Entry.tail, hnotes]
    rw [hline]
    exact (htext notes hnotes).solid (by decide) (by simp [hname, hurl])

theorem Entry.Legible.solid {e : Entry} (h : e.Legible) : Solid e.line :=
  solid_line h.name.one h.url.one h.notes

/-- The line that is written for an entry. -/
theorem toList_linkLine_visible (name url : String) (description : Option String) :
    (linkLine name url description).toList =
      (Entry.mk name url (description.bind visible?)).line ++ ['\n'] := by
  unfold linkLine
  cases description.bind visible? with
  | none => simp [Entry.line, Entry.tail]
  | some notes => simp [Entry.line, Entry.tail]

theorem toList_linkLine {name url : String} {description : Option String}
    (h : ∀ d, description = some d → Plain d) :
    (linkLine name url description).toList =
      (Entry.mk name url (description.bind text?)).line ++ ['\n'] := by
  have hbind : description.bind visible? = description.bind text? := by
    cases hd : description with
    | none => rfl
    | some d => exact (h d hd).visible?_eq
  rw [toList_linkLine_visible, hbind]

end DocCorpus.LlmsText
