/-
  Links to documents that are gone. Below a heading, every line with a link is read as an entry,
  whatever stands in the other lines (`exists_read_below`). In an index each member of a set has a
  line with a link to its page, and that line is read as soon as the title of the member is a name
  that a link can have (`Filed.isSome_linkOf?_line_iff`). So a check of the index reports all such
  members whose documents are gone (`removed_member_reported`), and none of the members whose titles
  hide the links (`Hidden.unresolved_eq_nil`).
-/
import DocCorpus.Proofs.Identifier
import DocCorpus.Proofs.LlmsText.Resolution

namespace DocCorpus

namespace LlmsText

/-! ## Links below a heading -/

theorem heading?_of_linkOf? {line : List Char} {e : Entry} (h : linkOf? line = some e) :
    heading? sectionMark line = none := by
  refine heading?_eq_none rfl fun hhead => ?_
  rcases head_of_linkOf? h with hmark | hmark <;> cases hhead.symm.trans hmark

/-- An entry of the open section stays in it. -/
theorem exists_section_of_open {s : Section} {e : Entry} (he : e ∈ s.entries)
    (lines : List (List Char)) : ∃ s' ∈ sectionsFrom (some s) lines, e ∈ s'.entries := by
  induction lines generalizing s with
  | nil => exact ⟨s, .head [], he⟩
  | cons line rest ih =>
    rw [sectionsFrom_cons]
    split
    · exact ⟨s, .head _, he⟩
    · split
      · next hopen =>
        injection hopen with hopen
        exact ih (hopen ▸ List.mem_append_left _ he)
      · exact ih he

/-- Once a section is open, a line with a link gives an entry to it or to a later one. -/
theorem exists_section_of_line {lines : List (List Char)} {line : List Char} {e : Entry}
    (hlink : linkOf? line = some e) (hline : line ∈ lines) (s : Section) :
    ∃ s' ∈ sectionsFrom (some s) lines, e ∈ s'.entries := by
  induction lines generalizing s with
  | nil => cases hline
  | cons first rest ih =>
    rw [sectionsFrom_cons]
    rcases List.mem_cons.1 hline with rfl | hline
    · rw [heading?_of_linkOf? hlink, hlink]
      exact exists_section_of_open (List.mem_append_right _ (.head [])) rest
    · split
      · next title _ =>
        obtain ⟨s', hs', he⟩ := ih hline ⟨title, []⟩
        exact ⟨s', List.mem_append_right _ hs', he⟩
      · split
        · exact ih hline _
        · exact ih hline s

/-- Before its first heading a text may have lines of any kind. -/
theorem exists_section_below {before after : List (List Char)} {heading line : List Char}
    {title : String} {e : Entry} (hheading : heading? sectionMark heading = some title)
    (hlink : linkOf? line = some e) (hline : line ∈ after) (current : Option Section) :
    ∃ s ∈ sectionsFrom current (before ++ heading :: after), e ∈ s.entries := by
  induction before generalizing current with
  | nil =>
    obtain ⟨s, hs, he⟩ := exists_section_of_line hlink hline ⟨title, []⟩
    rw [List.nil_append, sectionsFrom_cons, hheading]
    exact ⟨s, List.mem_append_right _ hs, he⟩
  | cons first before ih =>
    rw [List.cons_append, sectionsFrom_cons]
    split
    · next opened _ =>
      obtain ⟨s, hs, he⟩ := ih (some ⟨opened, []⟩)
      exact ⟨s, List.mem_append_right _ hs, he⟩
    · split <;> exact ih _

/-- A summary ends before the first line that is no quotation. -/
theorem summary_append_cons {line : List Char} (h : quotation? line = none)
    (before after : List (List Char)) :
    ∃ left, (summary (before ++ line :: after)).2 = left ++ line :: after := by
  induction before with
  | nil =>
    refine ⟨[], ?_⟩
    rw [List.nil_append, summary, h]
  | cons first before ih =>
    rw [List.cons_append, summary]
    split
    · exact ih
    · exact ⟨first :: before, rfl⟩

theorem quotation?_of_heading? {line : List Char} {title : String}
    (h : heading? sectionMark line = some title) : quotation? line = none := by
  unfold quotation?
  split
  · cases h
  · rfl

/-- A text with a title is read, and the links below a heading are entries of its sections. -/
theorem exists_read_below {text : String} {first heading : List Char} {name title : String}
    {before after : List (List Char)} (hname : heading? titleMark first = some name)
    (hheading : heading? sectionMark heading = some title)
    (hlines : contentLines text.toList = first :: (before ++ heading :: after)) :
    ∃ listing, read text = .ok listing ∧
      ∀ line ∈ after, ∀ e, linkOf? line = some e → ∃ s ∈ listing.sections, e ∈ s.entries := by
  obtain ⟨left, hleft⟩ := summary_append_cons (quotation?_of_heading? hheading) before after
  unfold read
  rw [hlines]
  dsimp only
  rw [hname]
  refine ⟨_, rfl, fun line hline e hlink => ?_⟩
  rw [hleft]
  exact exists_section_below hheading hlink hline none

/-! ## Lines of an index -/

/-- Whether the first line of a text shows anything. -/
def Shown (s : String) : Prop := ∃ c ∈ s.toList.takeWhile (· ≠ '\n'), isBlank c = false

theorem exists_afterBlanks? {s : List Char} {c : Char} (hc : c ∈ s) (hblank : isBlank c = false) :
    ∃ text, afterBlanks? (' ' :: s) = some text := by
  rw [afterBlanks?, if_pos (by decide)]
  cases hs : Text.trimStart s with
  | nil =>
    rw [List.dropWhile_eq_nil_iff.1 hs c hc] at hblank
    cases hblank
  | cons first rest => exact ⟨first :: rest, rfl⟩

/-- A heading is read from a line that shows something, blanks at its ends apart. -/
theorem exists_heading_of_line {mark c : Char} {line : List Char} (hmark : isBlank mark = false)
    (hone : '\n' ∉ mark :: line) (hc : c ∈ line) (hblank : isBlank c = false) :
    ∃ seen title, contentLines (mark :: ' ' :: line) = [seen] ∧
      heading? [mark] seen = some title := by
  have hspace : '\n' ∉ mark :: ' ' :: line := by
    simpa using hone
  have hvisible := Text.mem_dropEnd hc hblank
  have hlast := List.getLast?_eq_some_getLast (List.ne_nil_of_mem hvisible)
  have htrim : Text.trim (mark :: ' ' :: line) = mark :: ' ' :: Text.dropEnd isBlank line := by
    obtain ⟨w, hline, hw⟩ := Text.exists_dropEnd_append isBlank line
    have hstrip : Text.trim (mark :: ' ' :: Text.dropEnd isBlank line ++ w) =
        Text.trim (mark :: ' ' :: Text.dropEnd isBlank line) := Text.strip_append hw
    rw [List.cons_append, List.cons_append, ← hline] at hstrip
    refine hstrip.trans (Text.trim_eq_self hmark (Text.dropEnd_last hlast) rfl ?_)
    rw [List.getLast?_cons_cons, List.getLast?_cons, hlast]
    rfl
  have hdrop : Text.dropHead? [mark] (mark :: ' ' :: Text.dropEnd isBlank line) =
      some (' ' :: Text.dropEnd isBlank line) := Text.dropHead?_eq_some.2 rfl
  obtain ⟨text, htext⟩ := exists_afterBlanks? hvisible hblank
  refine ⟨mark :: ' ' :: Text.dropEnd isBlank line, trimmed text, ?_, ?_⟩
  · rw [contentLines_of_line hspace, htrim]
    rfl
  · unfold heading?
    rw [hdrop, Option.bind_some, htext]
    rfl

/-- The title of an index is read as soon as the first line of the name shows something. -/
theorem Shown.exists_heading {name : String} (h : Shown name) :
    ∃ first rest title, contentLines ("# " ++ name).toList = first :: rest ∧
      heading? titleMark first = some title := by
  have htext : ("# " ++ name).toList = '#' :: ' ' :: name.toList := by
    rw [String.toList_append, show "# ".toList = ['#', ' '] by decide]
    rfl
  obtain ⟨c, hc, hblank⟩ := h
  rw [htext]
  generalize hline : name.toList.takeWhile (· ≠ '\n') = line at hc
  have hone : '\n' ∉ '#' :: line := by
    rw [List.mem_cons, not_or, ← hline]
    refine ⟨by decide, fun hmem => ?_⟩
    exact of_decide_eq_true (List.all_eq_true.1 List.all_takeWhile '\n' hmem) rfl
  obtain ⟨seen, title, hseen, htitle⟩ := exists_heading_of_line (by decide) hone hc hblank
  have hname : name.toList = line ++ name.toList.dropWhile (· ≠ '\n') := by
    rw [← hline, List.takeWhile_append_dropWhile]
  rw [hname]
  cases hrest : name.toList.dropWhile (· ≠ '\n') with
  | nil =>
    rw [List.append_nil, hseen]
    exact ⟨seen, [], title, rfl, htitle⟩
  | cons d rest =>
    have hd : d = '\n' := by
      simpa using Text.dropWhile_head (congrArg List.head? hrest)
    have hcut : contentLines ('#' :: ' ' :: (line ++ '\n' :: rest)) = [seen] ++ contentLines rest :=
      hseen ▸ contentLines_append ('#' :: ' ' :: line) rest
    rw [hd, hcut]
    exact ⟨seen, contentLines rest, title, rfl, htitle⟩

theorem exists_contentLines_overview (m : Manifest) :
    ∃ entries, contentLines (overview m).toList =
      headingLine sectionMark "Documentation Sets" :: entries := by
  have hsolid : Solid (headingLine sectionMark "Documentation Sets") :=
    solid_headingLine (by decide) (by decide) (by decide : '\n' ∉ ['#', '#'])
  have hheading : "## Documentation Sets\n\n".toList =
      headingLine sectionMark "Documentation Sets" ++ ['\n', '\n'] := by decide
  obtain ⟨rest, hrest⟩ : ∃ rest, (overview m).toList =
      headingLine sectionMark "Documentation Sets" ++ '\n' :: rest := by
    unfold overview
    dsimp only
    rw [String.append_assoc, String.append_assoc, String.toList_append, hheading,
      List.append_assoc]
    exact ⟨_, rfl⟩
  rw [hrest, contentLines_append, hsolid.contentLines]
  exact ⟨contentLines rest, rfl⟩

/-- The manifest with its members left out. -/
def emptied (m : Manifest) : Manifest where
  project := m.project
  sets := m.sets.map fun s => { s with members := [] }
  links := m.links

theorem overview_emptied (m : Manifest) : overview (emptied m) = overview m := by
  unfold overview emptied
  dsimp only
  rw [List.map_map]
  rfl

/-- The blocks of the sets stand after the overview; the others do not depend on the members. -/
theorem exists_blocks (m : Manifest) :
    ∃ opening closing,
      blocks m = ("# " ++ m.project.name) ::
        (opening ++ overview m :: (m.sets.map (setBlock m.project.baseUrl) ++ closing)) ∧
      blocks (emptied m) = ("# " ++ m.project.name) ::
        (opening ++ overview m ::
          (m.sets.map (fun s => setBlock m.project.baseUrl { s with members := [] }) ++
            closing)) := by
  refine ⟨((m.project.description.bind visible?).map ("> " ++ ·)).toList ++
    (m.project.details.bind visible?).toList,
    if m.links.isEmpty then [] else [linksBlock m.links], ?_, ?_⟩
  · simp only [blocks, List.append_assoc, List.cons_append, List.nil_append]
  · unfold blocks
    rw [overview_emptied]
    simp only [List.append_assoc, List.cons_append, List.nil_append, emptied, List.map_map]
    rfl

/-- Below the title and the heading of the overview stand all lines of the sets. -/
theorem exists_lines_index {m : Manifest} (hname : Shown m.project.name) :
    ∃ first heading before after name title,
      contentLines (index m).toList = first :: (before ++ heading :: after) ∧
        heading? titleMark first = some name ∧ heading? sectionMark heading = some title ∧
          ∀ s ∈ m.sets, ∀ line ∈ contentLines (setBlock m.project.baseUrl s).toList,
            line ∈ after := by
  obtain ⟨first, rest, name, hfirst, hheading⟩ := hname.exists_heading
  obtain ⟨entries, hentries⟩ := exists_contentLines_overview m
  have htitle : Title "Documentation Sets" := by decide
  obtain ⟨opening, closing, hblocks, -⟩ := exists_blocks m
  let lines (blocks : List String) : List (List Char) :=
    blocks.flatMap fun block => contentLines block.toList
  refine ⟨first, headingLine sectionMark "Documentation Sets", rest ++ lines opening,
    entries ++ (lines (m.sets.map (setBlock m.project.baseUrl)) ++ lines closing), name,
    "Documentation Sets", ?_, hheading, heading?_headingLine htitle sectionMark, ?_⟩
  · rw [contentLines_of_blocks, hblocks, List.flatMap_cons, List.flatMap_append, List.flatMap_cons,
      List.flatMap_append, hfirst, hentries, List.append_assoc]
    rfl
  · intro s hs line hline
    refine List.mem_append_right _ (List.mem_append_left _ ?_)
    exact List.mem_flatMap.2 ⟨_, List.mem_map_of_mem hs, hline⟩

/-- The link of a member, with its description as it is shown. -/
def memberLink (base : String) (e : ManifestEntry) : Entry :=
  ⟨e.title, documentUrl base e.id, e.description.bind visible?⟩

/-- The text of a set ends in the lines of its members. -/
theorem exists_setBlock (base : String) (s : ManifestSet) :
    ∃ front, ∀ members, (setBlock base { s with members }).toList =
      front ++ '\n' :: ((members.map (memberLink base)).map Entry.line).flatMap (· ++ ['\n']) := by
  have hlines (members : List ManifestEntry) : (String.join (members.map fun e =>
      linkLine e.title (documentUrl base e.id) e.description)).toList =
        ((members.map (memberLink base)).map Entry.line).flatMap (· ++ ['\n']) :=
    toList_join fun e _ => toList_linkLine_visible e.title (documentUrl base e.id) e.description
  have hend : "\n\n".toList = ['\n', '\n'] := by decide
  unfold setBlock
  dsimp only
  cases visible? s.description with
  | none =>
    refine ⟨("## " ++ s.label).toList ++ ['\n'], fun members => ?_⟩
    rw [String.toList_append, hlines]
    simp [hend]
  | some description =>
    refine ⟨("## " ++ s.label ++ "\n\n" ++ description).toList ++ ['\n'], fun members => ?_⟩
    rw [String.toList_append, hlines]
    simp [hend]

/-- The lines of a set are those that it would have without members, and then theirs. -/
theorem contentLines_setBlock (base : String) (s : ManifestSet) :
    contentLines (setBlock base s).toList =
      contentLines (setBlock base { s with members := [] }).toList ++
        ((s.members.map (memberLink base)).map Entry.line).flatMap contentLines := by
  obtain ⟨front, hfront⟩ := exists_setBlock base s
  have hnone := hfront []
  rw [List.map_nil, List.map_nil, List.flatMap_nil] at hnone
  rw [show setBlock base s = setBlock base { s with members := s.members } from rfl, hfront,
    hnone, contentLines_append, contentLines_append, contentLines_ended]
  exact congrArg (· ++ _) (List.append_nil _).symm

theorem mem_contentLines_setBlock {base : String} {s : ManifestSet} {e : ManifestEntry}
    (he : e ∈ s.members) (hsolid : Solid (memberLink base e).line) :
    (memberLink base e).line ∈ contentLines (setBlock base s).toList := by
  have hline : (memberLink base e).line ∈ contentLines (memberLink base e).line := by
    rw [hsolid.contentLines]
    exact .head []
  rw [contentLines_setBlock]
  exact List.mem_append_right _
    (List.mem_flatMap.2 ⟨_, List.mem_map_of_mem (List.mem_map_of_mem he), hline⟩)

/-! ## Links of members -/

/-- An address of a site that a link can hold. -/
structure LinkBase (base : String) : Prop where
  visible : ∀ c ∈ base.toList, isBlank c = false
  close : ')' ∉ base.toList

instance (base : String) : Decidable (LinkBase base) :=
  decidable_of_iff (base.toList.all (fun c => !isBlank c) = true ∧ ')' ∉ base.toList)
    (by
      simp only [List.all_eq_true, Bool.not_eq_true']
      exact ⟨fun h => ⟨h.1, h.2⟩, fun h => ⟨h.visible, h.close⟩⟩)

/-- A text without blanks is plain. -/
theorem plain_of_visible {s : String} (h : ∀ c ∈ s.toList, isBlank c = false) : Plain s where
  one := fun hmem => absurd (h '\n' hmem) (by decide)
  ends := Text.strip_eq_self (fun c hc => h c (List.mem_of_head? hc))
    fun c hc => h c (List.mem_of_getLast? hc)

/-- The identifiers of files are such that a link can hold them. -/
theorem linkable_ofPath (relative : Path) : Linkable (Identifier.ofPath relative) where
  title := ⟨plain_of_visible fun _ => Identifier.not_blank_of_mem_ofPath,
    Identifier.ofPath_ne_empty relative⟩
  normal := Identifier.normalize_ofPath relative
  fragment := Identifier.not_mem_ofPath (by decide) (by decide) relative
  query := Identifier.not_mem_ofPath (by decide) (by decide) relative
  close := Identifier.not_mem_ofPath (by decide) (by decide) relative

theorem visible_title {d shown : String} (hone : '\n' ∉ d.toList) (h : visible? d = some shown) :
    Title shown := by
  obtain ⟨htrimmed, hne⟩ := visible?_eq_some_iff.1 h
  have hshown : shown.toList = Text.trim d.toList := Text.trimmed_iff.1 htrimmed
  refine ⟨⟨?_, ?_⟩, hne⟩
  · rw [hshown]
    exact Text.not_mem_strip hone
  · rw [hshown]
    exact Text.strip_strip isBlank d.toList

/-- A member whose texts are of one line, under the identifier of a file. -/
structure Filed (e : ManifestEntry) : Prop where
  id : ∃ relative, e.id = Identifier.ofPath relative
  title : '\n' ∉ e.title.toList
  description : ∀ d, e.description = some d → '\n' ∉ d.toList

variable {base : String} {e : ManifestEntry}

theorem Filed.linkable (h : Filed e) : Linkable e.id := by
  obtain ⟨relative, hid⟩ := h.id
  rw [hid]
  exact linkable_ofPath relative

theorem Filed.notes (h : Filed e) (base : String) :
    ∀ notes, (memberLink base e).notes = some notes → Title notes := by
  intro notes hnotes
  obtain ⟨d, hd, hshown⟩ := Option.bind_eq_some_iff.1 hnotes
  exact visible_title (h.description d hd) hshown

theorem Filed.solid (h : Filed e) (hbase : LinkBase base) : Solid (memberLink base e).line :=
  solid_line h.title
    (title_documentUrl (plain_of_visible hbase.visible) h.linkable.title.toPlain).one (h.notes base)

/-- The line of a member is read as a link to its page if its title is a name that a link can
have. -/
theorem Filed.linkOf?_line (h : Filed e) (hbase : LinkBase base) (hname : LinkName e.title) :
    linkOf? (memberLink base e).line =
      some ⟨trimmed e.title.toList, documentUrl base e.id, e.description.bind visible?⟩ :=
  LinkName.linkOf?_line (e := memberLink base e) hname
    (title_documentUrl (plain_of_visible hbase.visible) h.linkable.title.toPlain)
    (not_mem_documentUrl hbase.close h.linkable.close) (h.notes base)

/-- Of other titles, only one in which an address seems to start can give a link at all. -/
theorem Filed.isSome_linkOf?_line_iff (h : Filed e) (hbase : LinkBase base)
    (haddress : ¬ [']', '('] <:+: e.title.toList) :
    (linkOf? (memberLink base e).line).isSome = true ↔ LinkName e.title := by
  constructor
  · intro hsome
    by_contra hname
    rw [linkOf?_line_of_not_linkName (e := memberLink base e) hname haddress] at hsome
    cases hsome
  · intro hname
    rw [h.linkOf?_line hbase hname]
    rfl

theorem mem_unresolved {known : List String} {listing : Listing} {s : Section} {e : Entry}
    (hbase : Project.dropSlashes base = base) (hs : s ∈ listing.sections) (he : e ∈ s.entries)
    (h : isUnresolved base.toList known e.url = true) :
    ⟨s.title, e.name, e.url⟩ ∈ unresolved listing base known := by
  unfold unresolved
  rw [hbase]
  exact List.mem_flatMap.2 ⟨s, hs, List.mem_map.2 ⟨e, List.mem_filter.2 ⟨he, h⟩, rfl⟩⟩

/-- The index of a manifest is read, and a check of it reports every member whose document is gone
and whose title is a name that a link can have. -/
theorem exists_read_reporting {m : Manifest} (hname : Shown m.project.name)
    (hbase : LinkBase m.project.baseUrl)
    (hslashes : Project.dropSlashes m.project.baseUrl = m.project.baseUrl) :
    ∃ listing, read (index m) = .ok listing ∧
      ∀ known, ∀ s ∈ m.sets, ∀ e ∈ s.members, Filed e → LinkName e.title → e.id ∉ known →
        ∃ link ∈ unresolved listing m.project.baseUrl known,
          link.name = trimmed e.title.toList ∧ link.url = documentUrl m.project.baseUrl e.id := by
  obtain ⟨first, heading, before, after, name, title, hlines, hfirst, hheading, hsets⟩ :=
    exists_lines_index hname
  obtain ⟨listing, hread, hentries⟩ := exists_read_below hfirst hheading hlines
  refine ⟨listing, hread, fun known s hs e he hfiled hlinkName hgone => ?_⟩
  have hline := hsets s hs _ (mem_contentLines_setBlock he (hfiled.solid hbase))
  obtain ⟨found, hfound, hmem⟩ := hentries _ hline _ (hfiled.linkOf?_line hbase hlinkName)
  refine ⟨_, mem_unresolved hslashes hfound hmem ?_, rfl, rfl⟩
  rw [isUnresolved_page hfiled.linkable, Bool.not_eq_true', ← Bool.not_eq_true,
    List.contains_iff_mem]
  exact hgone

/-! ## Members without a link -/

/-- A title that gives no link: it is not a name that a link can have, and no address seems to start
in it. -/
structure Hidden (title : String) : Prop where
  name : ¬ LinkName title
  address : ¬ [']', '('] <:+: title.toList

variable {m : Manifest}

theorem Worded.emptied (h : Worded m) : Worded (emptied m) where
  name := h.name
  base := h.base
  base_close := h.base_close
  description := h.description
  details := h.details
  labels := List.forall_mem_map.2 h.labels
  descriptions := List.forall_mem_map.2 h.descriptions
  titles := List.forall_mem_map.2 fun _ _ _ he => absurd he List.not_mem_nil
  notes := List.forall_mem_map.2 fun _ _ _ he => absurd he List.not_mem_nil
  link_labels := h.link_labels
  link_urls := h.link_urls
  link_notes := h.link_notes

theorem Paged.emptied (h : Paged m) : Paged (emptied m) where
  base := h.base
  pages := List.forall_mem_map.2 fun _ _ _ he => absurd he List.not_mem_nil

/-- Below the title, the lines of an index are those of its other blocks. -/
theorem contentLines_index (h : Title m.project.name) :
    contentLines (index m).toList = headingLine titleMark m.project.name ::
      (blocks m).tail.flatMap fun block => contentLines block.toList := by
  have hblocks : blocks m = ("# " ++ m.project.name) :: (blocks m).tail := rfl
  rw [contentLines_of_blocks, hblocks, List.flatMap_cons, contentLines_title h]
  rfl

/-- A line of an index is one of the index without members, or is that of a member. -/
theorem mem_lines_cases (hmembers : ∀ s ∈ m.sets, ∀ e ∈ s.members,
      Solid (memberLink m.project.baseUrl e).line) {line : List Char}
    (hline : line ∈ (blocks m).tail.flatMap fun block => contentLines block.toList) :
    (line ∈ (blocks (emptied m)).tail.flatMap fun block => contentLines block.toList) ∨
      ∃ s ∈ m.sets, ∃ e ∈ s.members, line = (memberLink m.project.baseUrl e).line := by
  obtain ⟨opening, closing, hblocks, hemptied⟩ := exists_blocks m
  rw [hblocks] at hline
  rw [hemptied]
  simp only [List.tail_cons, List.flatMap_append, List.flatMap_cons, List.mem_append,
    List.flatMap_map] at hline ⊢
  rcases hline with hline | hline | hline | hline
  · exact .inl (.inl hline)
  · exact .inl (.inr (.inl hline))
  · obtain ⟨s, hs, hline⟩ := List.mem_flatMap.1 hline
    rw [contentLines_setBlock] at hline
    rcases List.mem_append.1 hline with hline | hline
    · exact .inl (.inr (.inr (.inl (List.mem_flatMap.2 ⟨s, hs, hline⟩))))
    · obtain ⟨text, htext, hline⟩ := List.mem_flatMap.1 hline
      obtain ⟨entry, hentry, rfl⟩ := List.mem_map.1 htext
      obtain ⟨e, he, rfl⟩ := List.mem_map.1 hentry
      rw [(hmembers s hs e he).contentLines, List.mem_singleton] at hline
      exact .inr ⟨s, hs, e, he, hline⟩
  · exact .inl (.inr (.inr (.inr hline)))

/-- An index whose members have no link is read, and a check has nothing to report about them,
whatever documents are there. -/
theorem Hidden.unresolved_eq_nil (hworded : Worded (emptied m)) (hpaged : Paged (emptied m))
    (hbase : LinkBase m.project.baseUrl)
    (hlinks : ∀ l ∈ m.links, Outside m.project.baseUrl l)
    (hmembers : ∀ s ∈ m.sets, ∀ e ∈ s.members, Filed e ∧ Hidden e.title) :
    ∃ listing, read (index m) = .ok listing ∧
      ∀ known, unresolved listing m.project.baseUrl known = [] := by
  have hsolid : ∀ s ∈ m.sets, ∀ e ∈ s.members, Solid (memberLink m.project.baseUrl e).line :=
    fun s hs e he => (hmembers s hs e he).1.solid hbase
  have hname : Title m.project.name := hworded.name
  obtain ⟨rest, hrest, hentry⟩ := hworded.entry_of_line hpaged
  rw [contentLines_index (m := emptied m) hname] at hrest
  obtain ⟨-, rfl⟩ := List.cons.inj hrest
  obtain ⟨listing, hread, hfound⟩ := exists_read hname (contentLines_index (m := m) hname)
  refine ⟨listing, hread, fun known => ?_⟩
  refine LlmsText.unresolved_eq_nil hpaged.base fun s hs e he => ?_
  obtain ⟨line, hline, hlink⟩ := hfound s hs e he
  rcases mem_lines_cases hsolid hline with hline | ⟨set, hset, member, hmember, rfl⟩
  · obtain ⟨s', hs', he'⟩ := hentry line hline e hlink
    refine hpaged.not_isUnresolved (fun s hs e he => ?_) hlinks hs' he'
    obtain ⟨set, -, rfl⟩ := List.mem_map.1 hs
    cases he
  · obtain ⟨hfiled, hhidden⟩ := hmembers set hset member hmember
    have hsome : (linkOf? (memberLink m.project.baseUrl member).line).isSome = true := by
      rw [hlink]
      rfl
    exact absurd ((hfiled.isSome_linkOf?_line_iff hbase hhidden.address).1 hsome) hhidden.name

end LlmsText

namespace Site

variable {config : Configuration} {policy : ExportPolicy} {site : Site}

/-- A check of the index of a site reports every member of a set whose document is gone, if the
name of the site shows and its address, the identifier of the member and its texts are such that
links can hold them. Of a title this asks that it is not empty and has no closing bracket. -/
theorem removed_member_reported (hsite : ofConfiguration config policy = .ok site)
    (hname : LlmsText.Shown config.projectName)
    (hbase : LlmsText.LinkBase (Project.ofConfiguration config).baseUrl)
    (documents : List Document) :
    ∃ listing, LlmsText.read (site.indexText documents) = .ok listing ∧
      ∀ known, ∀ s ∈ (site.manifest documents).sets, ∀ e ∈ s.members,
        LlmsText.Filed e → LlmsText.LinkName e.title → e.id ∉ known →
          ∃ link ∈ LlmsText.unresolved listing (Project.ofConfiguration config).baseUrl known,
            link.name = LlmsText.trimmed e.title.toList ∧
              link.url = LlmsText.documentUrl (Project.ofConfiguration config).baseUrl e.id := by
  have hproject := project_of_ofConfiguration hsite documents
  rw [← hproject] at hbase ⊢
  refine LlmsText.exists_read_reporting ?_ hbase ?_
  · rw [hproject]
    exact hname
  · rw [hproject]
    exact Project.dropSlashes_dropSlashes _

/-- A site below a directory whose set has brackets in its label. -/
def bracketedSets : Configuration :=
  { Configuration.default with
    site := { Configuration.default.site with siteUrl := some "https://x.dev/docs/" }
    llms := { Configuration.default.llms with sets := [⟨"All [pages]", "", ["**"]⟩] } }

def draft : Document :=
  ⟨"guides/v1.2-notes", ⟨[("title", .text " [Draft"), ("description", .text " About\t")]⟩, ""⟩

theorem filed_draft : LlmsText.Filed (.ofDocument draft) where
  id := ⟨⟨"Guides/v1.2 Notes.md"⟩, by decide +kernel⟩
  title := by decide
  description := by
    intro d hd
    have habout : " About\t" = d := Option.some.inj hd
    rw [← habout]
    decide

/-- A title may have blanks around it, and may open a bracket. -/
theorem removed_member_reported_draft :
    ∃ site, ofConfiguration bracketedSets .anyone = .ok site ∧
      LlmsText.Shown bracketedSets.projectName ∧
      LlmsText.LinkBase (Project.ofConfiguration bracketedSets).baseUrl ∧
      ∃ listing, LlmsText.read (site.indexText [draft]) = .ok listing ∧
        ∃ link ∈ LlmsText.unresolved listing (Project.ofConfiguration bracketedSets).baseUrl
            ["index"],
          link.name = "[Draft" ∧ link.url = "https://x.dev/docs/guides/v1.2-notes/" := by
  have hok : (ofConfiguration bracketedSets .anyone).isOk = true := by decide +kernel
  obtain ⟨site, hsite⟩ := Outcome.exists_of_isOk hok
  have hname : LlmsText.Shown bracketedSets.projectName := ⟨'D', by decide, by decide⟩
  have hbase : LlmsText.LinkBase (Project.ofConfiguration bracketedSets).baseUrl := by decide
  obtain ⟨listing, hread, hreported⟩ := removed_member_reported hsite hname hbase [draft]
  obtain ⟨horganizer, -⟩ := ofConfiguration_eq_ok_iff.1 hsite
  have hdeclared : SetDeclaration.mk "All [pages]" "" ["**"] ∈ bracketedSets.llms.sets := .head []
  have hmatched : (PatternSet.ofPatterns ["**"]).isMatch draft.id = true := by decide +kernel
  obtain ⟨set, hset, hmember⟩ :=
    Organizer.exists_member horganizer hdeclared (.head []) hmatched
  obtain ⟨link, hlink, hname', hurl⟩ :=
    hreported ["index"] set hset _ hmember filed_draft ⟨by decide, by decide⟩ (by decide)
  have htrimmed : LlmsText.trimmed (ManifestEntry.ofDocument draft).title.toList = "[Draft" := by
    decide
  have haddress : LlmsText.documentUrl (Project.ofConfiguration bracketedSets).baseUrl
      (ManifestEntry.ofDocument draft).id = "https://x.dev/docs/guides/v1.2-notes/" := by
    decide
  rw [htrimmed] at hname'
  rw [haddress] at hurl
  exact ⟨site, hsite, hname, hbase, listing, hread, link, hlink, hname', hurl⟩

def generic : Document :=
  ⟨"arrays", ⟨[("title", .text "Arrays [T]")]⟩, ""⟩

/-- Without its members, what an organizer makes of a collection does not depend on it. -/
theorem emptied_manifest (site : Site) (documents documents' : List Document) :
    LlmsText.emptied (site.manifest documents) = LlmsText.emptied (site.manifest documents') := by
  unfold manifest Organizer.organize LlmsText.emptied
  rw [List.map_map, List.map_map]
  rfl

/-- A title with a closing bracket hides that its document is gone. -/
theorem removed_member_unseen :
    ∃ site, ofConfiguration linkedSets .anyone = .ok site ∧
      LlmsText.Shown linkedSets.projectName ∧
      LlmsText.LinkBase (Project.ofConfiguration linkedSets).baseUrl ∧
      linkedSets.llms.details = none ∧
      ∃ listing, LlmsText.read (site.indexText [generic]) = .ok listing ∧
        ∃ s ∈ (site.manifest [generic]).sets, ∃ e ∈ s.members, LlmsText.Filed e ∧
          ∀ link ∈ LlmsText.unresolved listing (Project.ofConfiguration linkedSets).baseUrl [],
            link.url ≠
              LlmsText.documentUrl (Project.ofConfiguration linkedSets).baseUrl e.id := by
  have hok : (ofConfiguration linkedSets .anyone).isOk = true := by decide +kernel
  obtain ⟨site, hsite⟩ := Outcome.exists_of_isOk hok
  have hname : LlmsText.Shown linkedSets.projectName := ⟨'D', by decide, by decide⟩
  have hbase : LlmsText.LinkBase (Project.ofConfiguration linkedSets).baseUrl := by decide
  have hproject := project_of_ofConfiguration hsite [generic]
  have hworded : LlmsText.Worded (LlmsText.emptied (site.manifest [generic])) :=
    emptied_manifest site linkedDocuments [generic] ▸ (worded_linkedSets hsite).emptied
  have hpaged : LlmsText.Paged (LlmsText.emptied (site.manifest [generic])) :=
    emptied_manifest site [] [generic] ▸
      (paged_of_ofConfiguration hsite fun _ hd => absurd hd List.not_mem_nil).emptied
  have hlinks : ∀ l ∈ (site.manifest [generic]).links,
      LlmsText.Outside (Project.ofConfiguration linkedSets).baseUrl l := by
    rw [links_of_ofConfiguration hsite]
    unfold LlmsText.Outside
    decide
  have hfiled : LlmsText.Filed (.ofDocument generic) :=
    ⟨⟨⟨"arrays.md"⟩, by decide +kernel⟩, by decide, nofun⟩
  have hhidden : LlmsText.Hidden (ManifestEntry.ofDocument generic).title :=
    ⟨fun h => absurd h.close (by decide), by decide⟩
  have hmembers : ∀ s ∈ (site.manifest [generic]).sets, ∀ e ∈ s.members,
      LlmsText.Filed e ∧ LlmsText.Hidden e.title := by
    intro s hs e he
    obtain ⟨d, hd, rfl⟩ := Organizer.exists_document hs he
    rw [List.mem_singleton.1 hd]
    exact ⟨hfiled, hhidden⟩
  rw [← hproject] at hbase hlinks ⊢
  obtain ⟨listing, hread, hnil⟩ :=
    LlmsText.Hidden.unresolved_eq_nil hworded hpaged hbase hlinks hmembers
  obtain ⟨horganizer, -⟩ := ofConfiguration_eq_ok_iff.1 hsite
  have hdeclared : SetDeclaration.mk "All" "" ["**"] ∈ linkedSets.llms.sets := .tail _ (.head [])
  have hmatched : (PatternSet.ofPatterns ["**"]).isMatch generic.id = true := by decide +kernel
  obtain ⟨set, hset, hmember⟩ :=
    Organizer.exists_member horganizer hdeclared (.head []) hmatched
  refine ⟨site, hsite, hname, hbase, rfl, listing, hread, set, hset, _, hmember, hfiled, ?_⟩
  rw [hnil]
  exact fun _ hlink => absurd hlink List.not_mem_nil

end Site
end DocCorpus
