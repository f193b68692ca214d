/-
  An index read back. The index of a manifest has a title, a quoted description, details, the
  section of the sets, one section for each set and one for the links. Reading it gives these
  sections with all of their entries, in order (`read_index`); the details may say anything except
  what starts like a heading or a quotation.
-/
import DocCorpus.Proofs.LlmsText.Rendering
import DocCorpus.Proofs.LlmsText.Sections
import DocCorpus.Proofs.Manifest
import DocCorpus.Proofs.Outcome
import Mathlib.Data.List.Basic

namespace DocCorpus

namespace LlmsText

/-! ## Addresses -/

theorem title_of_ends {s : String} {first last : Char} (hline : '\n' ∉ s.toList)
    (hfirst : isBlank first = false) (hlast : isBlank last = false)
    (hs : s.toList.head? = some first) (hs' : s.toList.getLast? = some last) : Title s := by
  refine ⟨⟨hline, Text.trim_eq_self hfirst hlast hs hs'⟩, ?_⟩
  rintro rfl
  cases hs

/-- A text that starts visibly and ends with a title. -/
theorem title_front {s t : String} {first : Char} (hline : '\n' ∉ s.toList)
    (hfirst : isBlank first = false) (hs : s.toList.head? = some first) (ht : Title t) :
    Title (s ++ t) := by
  obtain ⟨last, hlast, hblank⟩ := ht.exists_last
  refine title_of_ends ?_ hfirst hblank ?_ ?_
  · rw [String.toList_append, List.mem_append, not_or]
    exact ⟨hline, ht.one⟩
  · rw [String.toList_append, List.head?_append, hs]
    rfl
  · rw [String.toList_append, List.getLast?_append, hlast]
    rfl

theorem Title.append_of_plain {s t : String} (hs : Plain s) (ht : Title t) : Title (s ++ t) := by
  cases hfirst : s.toList with
  | nil =>
    rw [String.toList_eq_nil_iff.1 hfirst, String.empty_append]
    exact ht
  | cons c rest =>
    have hhead : s.toList.head? = some c := by rw [hfirst, List.head?_cons]
    exact title_front hs.one (hs.head_blank hhead) hhead ht

theorem Title.append_append {s t u : String} (hs : Title s) (ht : '\n' ∉ t.toList) (hu : Title u) :
    Title (s ++ t ++ u) := by
  obtain ⟨c, rest, hc, hblank⟩ := hs.exists_cons
  have hline : '\n' ∉ (s ++ t).toList := by
    rw [String.toList_append, List.mem_append, not_or]
    exact ⟨hs.one, ht⟩
  refine title_front hline hblank ?_ hu
  rw [String.toList_append, hc]
  rfl

theorem title_slash : Title "/" := by decide

theorem title_documentUrl {base id : String} (hbase : Plain base) (hid : Plain id) :
    Title (documentUrl base id) := by
  have hfront : Title (base ++ "/") := .append_of_plain hbase title_slash
  unfold documentUrl
  split
  · exact hfront
  · exact .append_append hfront hid.one title_slash

theorem not_mem_documentUrl {base id : String} (hbase : ')' ∉ base.toList)
    (hid : ')' ∉ id.toList) : ')' ∉ (documentUrl base id).toList := by
  unfold documentUrl
  split
  · simp [hbase]
  · simp [hbase, hid]

theorem title_setPath (label : String) : Title (setPath (Label.slug label)) := by
  have hdirectory : Title (setDirectory ++ "/") := by decide
  have hend : Title ".txt" := by decide
  have hslug : '\n' ∉ (Label.slug label).toList := Label.not_mem_slug (by decide) (by decide) label
  exact .append_append hdirectory hslug hend

theorem not_mem_setPath (label : String) : ')' ∉ (setPath (Label.slug label)).toList := by
  have hslug : ')' ∉ (Label.slug label).toList := Label.not_mem_slug (by decide) (by decide) label
  simp [setPath, setDirectory, hslug]

/-! ## Listings -/

def abridged (p : Project) : Entry where
  name := "Abridged documentation"
  url := p.baseUrl ++ "/" ++ smallName
  notes := some ("a compact version of the documentation for " ++ p.name ++
    ", with non-essential content removed")

def complete (p : Project) : Entry where
  name := "Complete documentation"
  url := p.baseUrl ++ "/" ++ fullName
  notes := some ("the full documentation for " ++ p.name)

def setEntry (base : String) (s : ManifestSet) : Entry :=
  ⟨s.label, base ++ "/" ++ setPath s.slug, text? s.description⟩

def memberEntry (base : String) (e : ManifestEntry) : Entry :=
  ⟨e.title, documentUrl base e.id, e.description.bind text?⟩

def linkEntry (l : ExternalLink) : Entry := ⟨l.label, l.url, text? l.description⟩

def setsSection (m : Manifest) : Section where
  title := "Documentation Sets"
  entries := abridged m.project :: complete m.project :: m.sets.map (setEntry m.project.baseUrl)

def setSection (base : String) (s : ManifestSet) : Section :=
  ⟨s.label, s.members.map (memberEntry base)⟩

def linksSection (links : List ExternalLink) : Section := ⟨"Optional", links.map linkEntry⟩

/-- What the index of a manifest says: the section of the sets, a section for each set, and one for
the links if there are any. -/
def listing (m : Manifest) : Listing where
  title := m.project.name
  summary := m.project.description.bind text?
  sections := setsSection m :: m.sets.map (setSection m.project.baseUrl) ++
    if m.links.isEmpty then [] else [linksSection m.links]

/-! ## Manifests that can be read back -/

/-- A member whose texts keep clear of the brackets of a link. -/
structure MemberClear (e : ManifestEntry) : Prop where
  title : Title e.title
  title_close : ']' ∉ e.title.toList
  id : Plain e.id
  id_close : ')' ∉ e.id.toList
  description : ∀ d, e.description = some d → Plain d

/-- A set whose texts do. -/
structure SetClear (s : ManifestSet) : Prop where
  label : Title s.label
  label_close : ']' ∉ s.label.toList
  description : Plain s.description
  silent : Silent s.description.toList
  members : ∀ e ∈ s.members, MemberClear e

structure LinkClear (l : ExternalLink) : Prop where
  label : Title l.label
  label_close : ']' ∉ l.label.toList
  url : Title l.url
  url_close : ')' ∉ l.url.toList
  description : Plain l.description

/-- A manifest whose texts keep clear of the marks of an index. -/
structure Clear (m : Manifest) : Prop where
  name : Title m.project.name
  base : Plain m.project.baseUrl
  base_close : ')' ∉ m.project.baseUrl.toList
  description : ∀ d, m.project.description = some d → Plain d
  details : ∀ d, m.project.details = some d → ∀ line ∈ Text.lines d.toList,
    ∀ c, (Text.trim line).head? = some c → c ≠ '>' ∧ c ≠ '#'
  sets : ∀ s ∈ m.sets, SetClear s
  links : ∀ l ∈ m.links, LinkClear l

/-! ## Reading the index -/

variable {m : Manifest}

/-- The entry of a text file of the site. -/
theorem Clear.legible_file (h : Clear m) {name file : String} {notes : Option String}
    (hname : Title name) (hclose : ']' ∉ name.toList) (hfile : Title file)
    (hfileClose : ')' ∉ file.toList) (hnotes : ∀ text, notes = some text → Title text) :
    (Entry.mk name (m.project.baseUrl ++ "/" ++ file) notes).Legible where
  name := hname
  name_close := hclose
  url := by
    have hfront : Title (m.project.baseUrl ++ "/") := .append_of_plain h.base title_slash
    exact .append_of_plain hfront.toPlain hfile
  url_close := by
    have hbase := h.base_close
    simp [hbase, hfileClose]
  notes := hnotes

theorem Clear.legible_abridged (h : Clear m) : (abridged m.project).Legible := by
  refine h.legible_file (by decide) (by decide) (by decide) (by decide) fun notes hnotes => ?_
  have hname := h.name.one
  have hend : Title ", with non-essential content removed" := by decide
  have hline : '\n' ∉
      ("a compact version of the documentation for " ++ m.project.name).toList := by
    simp [hname]
  injection hnotes with hnotes
  rw [← hnotes]
  exact title_front hline (by decide : isBlank 'a' = false) (by simp) hend

theorem Clear.legible_complete (h : Clear m) : (complete m.project).Legible := by
  refine h.legible_file (by decide) (by decide) (by decide) (by decide) fun notes hnotes => ?_
  have hline : '\n' ∉ "the full documentation for ".toList := by decide
  injection hnotes with hnotes
  rw [← hnotes]
  exact title_front hline (by decide : isBlank 't' = false) (by decide) h.name

theorem Clear.legible_setEntry (h : Clear m) {s : ManifestSet} (hs : SetClear s) :
    (setEntry m.project.baseUrl s).Legible := by
  unfold setEntry
  rw [s.slug_eq]
  exact h.legible_file hs.label hs.label_close (title_setPath s.label) (not_mem_setPath s.label)
    fun _ => hs.description.title_of_text?

theorem Clear.legible_memberEntry (h : Clear m) {e : ManifestEntry} (he : MemberClear e) :
    (memberEntry m.project.baseUrl e).Legible where
  name := he.title
  name_close := he.title_close
  url := title_documentUrl h.base he.id
  url_close := not_mem_documentUrl h.base_close he.id_close
  notes := by
    intro notes hnotes
    obtain ⟨d, hd, hnotes⟩ := Option.bind_eq_some_iff.1 hnotes
    exact (he.description d hd).title_of_text? hnotes

theorem LinkClear.legible {l : ExternalLink} (h : LinkClear l) : (linkEntry l).Legible where
  name := h.label
  name_close := h.label_close
  url := h.url
  url_close := h.url_close
  notes := fun _ => h.description.title_of_text?

theorem Clear.legible_setsSection (h : Clear m) : (setsSection m).Legible where
  title := (by decide : Title "Documentation Sets")
  entries := by
    refine List.forall_mem_cons.2 ⟨h.legible_abridged, List.forall_mem_cons.2
      ⟨h.legible_complete, fun e he => ?_⟩⟩
    obtain ⟨s, hs, rfl⟩ := List.mem_map.1 he
    exact h.legible_setEntry (h.sets s hs)

theorem Clear.legible_setSection (h : Clear m) {s : ManifestSet} (hs : s ∈ m.sets) :
    (setSection m.project.baseUrl s).Legible where
  title := (h.sets s hs).label
  entries := by
    intro e he
    obtain ⟨member, hmember, rfl⟩ := List.mem_map.1 he
    exact h.legible_memberEntry ((h.sets s hs).members member hmember)

theorem Clear.legible_linksSection (h : Clear m) : (linksSection m.links).Legible where
  title := (by decide : Title "Optional")
  entries := by
    intro e he
    obtain ⟨l, hl, rfl⟩ := List.mem_map.1 he
    exact (h.links l hl).legible

/-! ### Its lines -/

theorem contentLines_of_blocks (m : Manifest) :
    contentLines (index m).toList = (blocks m).flatMap fun block => contentLines block.toList := by
  have hgap : "\n\n".toList = ['\n', '\n'] := by decide
  have hend : "\n".toList = ['\n'] := by decide
  have htrim (block : String) :
      contentLines (trimTextEnd block).toList = contentLines block.toList := by
    unfold trimTextEnd
    rw [String.toList_ofList, contentLines_trimEnd]
  unfold index
  rw [String.toList_append, hend, contentLines_append_blank _ _ Text.forall_blank_lineFeed,
    String.toList_intercalate, hgap, contentLines_intercalate, List.flatMap_map, List.flatMap_map]
  simp only [htrim]

theorem toList_abridged (p : Project) :
    ("- [Abridged documentation](" ++ p.baseUrl ++ "/" ++ smallName ++
      "): a compact version of the documentation for " ++ p.name ++
      ", with non-essential content removed\n").toList = (abridged p).line ++ ['\n'] := by
  have hfront : "- [Abridged documentation](".toList =
      '-' :: ' ' :: '[' :: "Abridged documentation".toList ++ [']', '('] := by decide
  have hnotes : "): a compact version of the documentation for ".toList =
      ')' :: ':' :: ' ' :: "a compact version of the documentation for ".toList := by decide
  have hend : ", with non-essential content removed\n".toList =
      ", with non-essential content removed".toList ++ ['\n'] := by decide
  unfold Entry.line Entry.tail abridged
  simp only [String.toList_append, hfront, hnotes, hend, List.append_assoc, List.cons_append,
    List.nil_append]

theorem toList_complete (p : Project) :
    ("- [Complete documentation](" ++ p.baseUrl ++ "/" ++ fullName ++
      "): the full documentation for " ++ p.name ++ "\n").toList =
        (complete p).line ++ ['\n'] := by
  have hfront : "- [Complete documentation](".toList =
      '-' :: ' ' :: '[' :: "Complete documentation".toList ++ [']', '('] := by decide
  have hnotes : "): the full documentation for ".toList =
      ')' :: ':' :: ' ' :: "the full documentation for ".toList := by decide
  have hend : "\n".toList = ['\n'] := by decide
  unfold Entry.line Entry.tail complete
  simp only [String.toList_append, hfront, hnotes, hend, List.append_assoc, List.cons_append,
    List.nil_append]

theorem Clear.contentLines_overview (h : Clear m) :
    contentLines (overview m).toList = (setsSection m).lines [] := by
  have hsets : (String.join (m.sets.map fun s =>
      linkLine s.label (m.project.baseUrl ++ "/" ++ setPath s.slug) (some s.description))).toList =
        ((m.sets.map (setEntry m.project.baseUrl)).map Entry.line).flatMap (· ++ ['\n']) := by
    refine toList_join fun s hs => ?_
    exact toList_linkLine fun d hd => Option.some.inj hd ▸ (h.sets s hs).description
  have htext : (overview m).toList = headingLine sectionMark (setsSection m).title ++ '\n' :: '\n' ::
      (([] : List (List Char)).flatMap (· ++ ['\n', '\n']) ++
        ((setsSection m).entries.map Entry.line).flatMap (· ++ ['\n'])) := by
    have hheading : "## Documentation Sets\n\n".toList =
        headingLine sectionMark "Documentation Sets" ++ ['\n', '\n'] := by decide
    unfold overview setsSection
    dsimp only
    rw [String.toList_append, String.toList_append, String.toList_append, toList_abridged,
      toList_complete, hsets, hheading]
    simp only [List.flatMap_nil, List.nil_append, List.map_cons, List.flatMap_cons,
      List.append_assoc, List.cons_append]
  rw [htext, h.legible_setsSection.contentLines fun _ hline => absurd hline List.not_mem_nil]

/-- The line between the heading of a set and its members. -/
def intro (s : ManifestSet) : List (List Char) := (text? s.description).toList.map String.toList

theorem SetClear.solid_intro {s : ManifestSet} (h : SetClear s) : ∀ line ∈ intro s, Solid line := by
  intro line hline
  obtain ⟨d, hd, rfl⟩ := List.mem_map.1 hline
  rw [Option.mem_toList] at hd
  have htitle := h.description.title_of_text? hd
  exact ⟨htitle.one, htitle.ends, htitle.toList_ne_nil⟩

theorem SetClear.silent_intro {s : ManifestSet} (h : SetClear s) : ∀ line ∈ intro s, Silent line := by
  intro line hline
  obtain ⟨d, hd, rfl⟩ := List.mem_map.1 hline
  rw [Option.mem_toList] at hd
  unfold text? at hd
  split at hd
  · cases hd
  · injection hd with hd
    rw [← hd]
    exact h.silent

theorem Clear.contentLines_setBlock (h : Clear m) {s : ManifestSet} (hs : s ∈ m.sets) :
    contentLines (setBlock m.project.baseUrl s).toList =
      (setSection m.project.baseUrl s).lines (intro s) := by
  have hset := h.sets s hs
  have hmembers : (String.join (s.members.map fun e =>
      linkLine e.title (documentUrl m.project.baseUrl e.id) e.description)).toList =
        ((s.members.map (memberEntry m.project.baseUrl)).map Entry.line).flatMap (· ++ ['\n']) :=
    toList_join fun e he => toList_linkLine (hset.members e he).description
  have htext : (setBlock m.project.baseUrl s).toList =
      headingLine sectionMark (setSection m.project.baseUrl s).title ++ '\n' :: '\n' ::
        ((intro s).flatMap (· ++ ['\n', '\n']) ++
          ((setSection m.project.baseUrl s).entries.map Entry.line).flatMap (· ++ ['\n'])) := by
    unfold setBlock intro
    dsimp only
    rw [hset.description.visible?_eq, String.toList_append, hmembers]
    cases text? s.description <;> simp [headingLine, sectionMark, setSection]
  rw [htext, (h.legible_setSection hs).contentLines hset.solid_intro]

/-- The links are seen line by line, also one without an address. -/
theorem contentLines_linksBlock {links : List ExternalLink}
    (h : ∀ l ∈ links, Plain l.label ∧ Plain l.url ∧ Plain l.description) :
    contentLines (linksBlock links).toList = (linksSection links).lines [] := by
  have hlinks : (String.join (links.map fun l =>
      linkLine l.label l.url (some l.description))).toList =
        ((links.map linkEntry).map Entry.line).flatMap (· ++ ['\n']) := by
    refine toList_join fun l hl => ?_
    exact toList_linkLine fun d hd => Option.some.inj hd ▸ (h l hl).2.2
  have htext : (linksBlock links).toList =
      headingLine sectionMark (linksSection links).title ++ '\n' :: '\n' ::
        (([] : List (List Char)).flatMap (· ++ ['\n', '\n']) ++
          ((linksSection links).entries.map Entry.line).flatMap (· ++ ['\n'])) := by
    unfold linksBlock
    rw [String.toList_append, hlinks]
    simp [headingLine, sectionMark, linksSection]
  have hentries : ∀ e ∈ (linksSection links).entries, Solid e.line := by
    intro e he
    obtain ⟨l, hl, rfl⟩ := List.mem_map.1 he
    obtain ⟨hlabel, hurl, hdescription⟩ := h l hl
    exact solid_line hlabel.one hurl.one fun _ => hdescription.title_of_text?
  have htitle : Title (linksSection links).title := (by decide : Title "Optional")
  rw [htext, contentLines_section htitle hentries fun _ hline => absurd hline List.not_mem_nil]

/-- The lines of the details. -/
def remarks (m : Manifest) : List (List Char) :=
  (m.project.details.bind visible?).toList.flatMap fun d => contentLines d.toList

theorem Clear.remarks_start (h : Clear m) {line : List Char} (hline : line ∈ remarks m) :
    line.head? ≠ some '>' ∧ line.head? ≠ some '#' := by
  obtain ⟨shown, hshown, hline⟩ := List.mem_flatMap.1 hline
  rw [Option.mem_toList] at hshown
  obtain ⟨d, hd, hvisible⟩ := Option.bind_eq_some_iff.1 hshown
  have hlines : contentLines shown.toList = contentLines d.toList := by
    rw [Text.trimmed_iff.1 (visible?_eq_some_iff.1 hvisible).1, contentLines_trim]
  rw [hlines] at hline
  obtain ⟨raw, hraw, rfl⟩ := List.mem_map.1 (List.mem_filter.1 hline).1
  have hstart := h.details d hd raw hraw
  exact ⟨fun hc => (hstart '>' hc).1 rfl, fun hc => (hstart '#' hc).2 rfl⟩

/-- The sections of the index, with the lines that stand between a heading and its entries. -/
def written (m : Manifest) : List (Section × List (List Char)) :=
  (setsSection m, []) :: m.sets.map (fun s => (setSection m.project.baseUrl s, intro s)) ++
    if m.links.isEmpty then [] else [(linksSection m.links, [])]

theorem Clear.legible_written (h : Clear m) :
    ∀ w ∈ written m, w.1.Legible ∧ ∀ line ∈ w.2, Silent line := by
  have hnone : ∀ line ∈ ([] : List (List Char)), Silent line := fun _ hline => by cases hline
  intro w hw
  rcases List.mem_append.1 hw with hw | hw
  · rcases List.mem_cons.1 hw with rfl | hw
    · exact ⟨h.legible_setsSection, hnone⟩
    · obtain ⟨s, hs, rfl⟩ := List.mem_map.1 hw
      exact ⟨h.legible_setSection hs, (h.sets s hs).silent_intro⟩
  · split at hw
    · cases hw
    · rw [List.mem_singleton.1 hw]
      exact ⟨h.legible_linksSection, hnone⟩

theorem written_sections (m : Manifest) : (written m).map Prod.fst = (listing m).sections := by
  unfold written listing
  rw [List.map_append, List.map_cons, List.map_map]
  split <;> rfl

theorem contentLines_title {name : String} (h : Title name) :
    contentLines ("# " ++ name).toList = [headingLine titleMark name] := by
  have hmark : '\n' ∉ ['#'] := by decide
  have hsolid : Solid (headingLine titleMark name) := solid_headingLine h (by decide) hmark
  have htext : ("# " ++ name).toList = headingLine titleMark name := by
    rw [String.toList_append, show "# ".toList = ['#', ' '] by decide]
    rfl
  rw [htext, hsolid.contentLines]

/-- The index as a reader sees it. -/
theorem Clear.contentLines_index (h : Clear m) :
    contentLines (index m).toList =
      headingLine titleMark m.project.name ::
        ((m.project.description.bind text?).toList.map quotedLine ++
          (remarks m ++ (written m).flatMap fun w => w.1.lines w.2)) := by
  have hdescription : (((m.project.description.bind visible?).map ("> " ++ ·)).toList.flatMap
      fun block => contentLines block.toList) =
        (m.project.description.bind text?).toList.map quotedLine := by
    cases hd : m.project.description with
    | none => rfl
    | some d =>
      rw [Option.bind_some, Option.bind_some, (h.description d hd).visible?_eq]
      cases ht : text? d with
      | none => rfl
      | some t =>
        have hsolid := solid_quotedLine ((h.description d hd).title_of_text? ht)
        have htext : ("> " ++ t).toList = quotedLine t := by
          rw [String.toList_append, show "> ".toList = ['>', ' '] by decide]
          rfl
        show contentLines ("> " ++ t).toList ++ [] = [quotedLine t]
        rw [htext, hsolid.contentLines, List.append_nil]
  have hsets : ((m.sets.map (setBlock m.project.baseUrl)).flatMap
      fun block => contentLines block.toList) =
        (m.sets.map fun s => (setSection m.project.baseUrl s, intro s)).flatMap
          fun w => w.1.lines w.2 := by
    rw [List.flatMap_map, List.flatMap_map]
    exact List.flatMap_congr fun s hs => h.contentLines_setBlock hs
  have hlinks : ((if m.links.isEmpty then [] else [linksBlock m.links]).flatMap
      fun block => contentLines block.toList) =
        (if m.links.isEmpty then [] else [(linksSection m.links, [])]).flatMap
          fun w => w.1.lines w.2 := by
    split
    · rfl
    · rw [List.flatMap_singleton, List.flatMap_singleton, contentLines_linksBlock fun l hl =>
        ⟨(h.links l hl).label.toPlain, (h.links l hl).url.toPlain, (h.links l hl).description⟩]
  rw [contentLines_of_blocks]
  unfold blocks written remarks
  simp only [List.flatMap_append, List.flatMap_cons, contentLines_title h.name, hdescription,
    h.contentLines_overview, hsets, hlinks, List.append_assoc, List.cons_append, List.nil_append]

/-! ### The result -/

theorem summary_quoted (quoted : Option String) (hquoted : ∀ text, quoted = some text → Title text)
    {rest : List (List Char)} (hrest : ∀ line, rest.head? = some line → line.head? ≠ some '>') :
    summary (quoted.toList.map quotedLine ++ rest) = (quoted.toList, rest) := by
  have hstop : summary rest = ([], rest) := by
    cases rest with
    | nil => rfl
    | cons line rest =>
      have hnone : quotation? line = none := by
        unfold quotation?
        split
        · exact absurd rfl (hrest _ rfl)
        · rfl
      rw [summary, hnone]
  cases quoted with
  | none => exact hstop
  | some text =>
    show summary (quotedLine text :: rest) = _
    rw [summary, quotation?_quotedLine (hquoted text rfl), hstop]
    rfl

theorem Clear.rest_start (h : Clear m) :
    ∀ line, (remarks m ++ (written m).flatMap fun w => w.1.lines w.2).head? = some line →
      line.head? ≠ some '>' := by
  intro line hline
  cases hremarks : remarks m with
  | nil =>
    rw [hremarks] at hline
    injection hline with hline
    rw [← hline]
    intro hc
    injection hc with hc
    exact absurd hc (by decide)
  | cons first rest =>
    rw [hremarks] at hline
    injection hline with hline
    subst hline
    have hmem : first ∈ remarks m := by
      rw [hremarks]
      exact List.mem_cons_self
    exact (h.remarks_start hmem).1

/-- Reading the index of a manifest gives what the index says: the title, the description as the
summary, and every section with every entry, in order. -/
theorem read_index (m : Manifest) (h : Clear m) : read (index m) = .ok (listing m) := by
  have hsummary : ∀ text, m.project.description.bind text? = some text → Title text := by
    intro text htext
    obtain ⟨d, hd, htext⟩ := Option.bind_eq_some_iff.1 htext
    exact (h.description d hd).title_of_text? htext
  have hsections : sectionsFrom none (remarks m ++ (written m).flatMap fun w => w.1.lines w.2) =
      (listing m).sections := by
    rw [sectionsFrom_none fun line hline => (h.remarks_start hline).2,
      sectionsFrom_flatMap h.legible_written, ← written_sections]
    rfl
  unfold read
  rw [h.contentLines_index]
  dsimp only
  rw [heading?_headingLine h.name, summary_quoted _ hsummary h.rest_start]
  dsimp only
  rw [hsections]
  unfold listing
  cases m.project.description.bind text? with
  | none => rfl
  | some text => rfl

/-- A manifest with one set of one member, and one link. -/
def guides : Manifest :=
  ⟨⟨"Corpus", some "Documents", some "See the guides.", "https://x.dev"⟩,
    [⟨"Guides", "guides", "How to", ["guides/**"], [⟨"guides/a", "A", some "About a"⟩],
      by decide⟩],
    [⟨"Forum", "https://y.dev", ""⟩]⟩

theorem clear_guides : Clear guides := by
  have hmember : MemberClear ⟨"guides/a", "A", some "About a"⟩ :=
    ⟨by decide, by decide, by decide, by decide, fun d hd => Option.some.inj hd ▸ by decide⟩
  have hset : SetClear ⟨"Guides", "guides", "How to", ["guides/**"],
      [⟨"guides/a", "A", some "About a"⟩], by decide⟩ :=
    ⟨by decide, by decide, by decide, by decide,
      fun e he => List.mem_singleton.1 he ▸ hmember⟩
  have hlink : LinkClear ⟨"Forum", "https://y.dev", ""⟩ :=
    ⟨by decide, by decide, by decide, by decide, by decide⟩
  have hlines : Text.lines "See the guides.".toList = ["See the guides.".toList] := by decide
  have hdetails : ∀ line ∈ Text.lines "See the guides.".toList,
      ∀ c, (Text.trim line).head? = some c → c ≠ '>' ∧ c ≠ '#' := by
    intro line hline c hc
    rw [hlines] at hline
    rw [List.mem_singleton.1 hline] at hc
    injection hc with hc
    rw [← hc]
    decide
  exact ⟨by decide, by decide, by decide, fun d hd => Option.some.inj hd ▸ by decide,
    fun d hd => Option.some.inj hd ▸ hdetails, fun s hs => List.mem_singleton.1 hs ▸ hset,
    fun l hl => List.mem_singleton.1 hl ▸ hlink⟩

theorem read_index_guides :
    Clear guides ∧ read (index guides) = .ok ⟨"Corpus", some "Documents",
      [⟨"Documentation Sets", [
        ⟨"Abridged documentation", "https://x.dev/llms-small.txt", some ("a compact version of " ++
          "the documentation for Corpus, with non-essential content removed")⟩,
        ⟨"Complete documentation", "https://x.dev/llms-full.txt",
          some "the full documentation for Corpus"⟩,
        ⟨"Guides", "https://x.dev/_llms-txt/guides.txt", some "How to"⟩]⟩,
      ⟨"Guides", [⟨"A", "https://x.dev/guides/a/", some "About a"⟩]⟩,
      ⟨"Optional", [⟨"Forum", "https://y.dev", none⟩]⟩]⟩ :=
  ⟨clear_guides, (read_index guides clear_guides).trans rfl⟩

end LlmsText
end DocCorpus
