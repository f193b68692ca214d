/-
  The links of a site's own index. An entry that is read stands in a line of the text
  (`exists_read`), and in an index these are the lines of text files, of pages and of outside
  links (`Worded.entry_of_line`). The address of a page leads back to its identifier
  (`Linkable.normalize_page`), so a check of an index just written has nothing to report
  (`index_resolves`).
-/
import DocCorpus.Proofs.LinkTarget
import DocCorpus.Proofs.LlmsText.Addresses
import DocCorpus.Proofs.LlmsText.Index
import DocCorpus.Proofs.Members
import DocCorpus.Proofs.Site

namespace DocCorpus

namespace LlmsText

/-! ## Entries and their lines -/

theorem head_of_linkOf? {line : List Char} {e : Entry} (h : linkOf? line = some e) :
    line.head? = some '-' ∨ line.head? = some '*' := by
  cases line with
  | nil => cases h
  | cons c line =>
    by_cases hc : c = '-' ∨ c = '*'
    · rw [List.head?_cons, Option.some_inj, Option.some_inj]
      exact hc
    · rw [linkOf?, if_neg hc] at h
      cases h

/-- An entry that is read was in the open section before, or stands in a line. -/
theorem exists_line_of_sectionsFrom {current : Option Section} {lines : List (List Char)}
    {s : Section} {e : Entry} (hs : s ∈ sectionsFrom current lines) (he : e ∈ s.entries) :
    (∃ s', current = some s' ∧ e ∈ s'.entries) ∨ ∃ line ∈ lines, linkOf? line = some e := by
  induction lines generalizing current with
  | nil => exact .inl ⟨s, Option.mem_toList.1 hs, he⟩
  | cons line rest ih =>
    have later {current' : Option Section} (hs : s ∈ sectionsFrom current' rest)
        (hopen : ∀ s', current' = some s' → e ∈ s'.entries →
          (∃ s', current = some s' ∧ e ∈ s'.entries) ∨ linkOf? line = some e) :
        (∃ s', current = some s' ∧ e ∈ s'.entries) ∨
          ∃ line' ∈ line :: rest, linkOf? line' = some e := by
      rcases ih hs with ⟨s', hs', he⟩ | ⟨line', hline', hlink⟩
      · rcases hopen s' hs' he with hcurrent | hlink
        · exact .inl hcurrent
        · exact .inr ⟨line, List.mem_cons_self, hlink⟩
      · exact .inr ⟨line', List.mem_cons_of_mem _ hline', hlink⟩
    rw [sectionsFrom_cons] at hs
    split at hs
    · next title _ =>
      rcases List.mem_append.1 hs with hs | hs
      · exact .inl ⟨s, Option.mem_toList.1 hs, he⟩
      · refine later hs fun s' hs' he => ?_
        injection hs' with hs'
        subst hs'
        exact absurd he List.not_mem_nil
    · split at hs
      · next opened hlink =>
        refine later hs fun s' hs' he => ?_
        injection hs' with hs'
        subst hs'
        rcases List.mem_append.1 he with he | he
        · exact .inl ⟨opened, rfl, he⟩
        · exact .inr (List.mem_singleton.1 he ▸ hlink)
      · exact later hs fun s' hs' he => .inl ⟨s', hs', he⟩

theorem suffix_summary (lines : List (List Char)) : (summary lines).2 <:+ lines := by
  induction lines with
  | nil => exact List.suffix_rfl
  | cons line rest ih =>
    unfold summary
    split
    · exact ih.trans (List.suffix_cons line rest)
    · exact List.suffix_rfl

/-- A text that starts with a heading is read, and its entries stand in its lines. -/
theorem exists_read {text : String} {title : String} {rest : List (List Char)}
    (htitle : Title title)
    (hlines : contentLines text.toList = headingLine titleMark title :: rest) :
    ∃ listing, read text = .ok listing ∧
      ∀ s ∈ listing.sections, ∀ e ∈ s.entries, ∃ line ∈ rest, linkOf? line = some e := by
  unfold read
  rw [hlines]
  dsimp only
  rw [heading?_headingLine htitle]
  refine ⟨_, rfl, fun s hs e he => ?_⟩
  rcases exists_line_of_sectionsFrom hs he with ⟨s', hs', _⟩ | ⟨line, hline, hlink⟩
  · cases hs'
  · exact ⟨line, (suffix_summary rest).subset hline, hlink⟩

/-- The lines of a section hold its entries and no others. -/
theorem Section.mem_of_linkOf? {s : Section} {passed : List (List Char)}
    (hpassed : ∀ line ∈ passed, Silent line)
    (hentries : ∀ e ∈ s.entries, ∀ e', linkOf? e.line = some e' → e' = e)
    {line : List Char} (hline : line ∈ s.lines passed) {e : Entry}
    (hlink : linkOf? line = some e) : e ∈ s.entries := by
  rcases List.mem_cons.1 hline with rfl | hline
  · rcases head_of_linkOf? hlink with hhead | hhead <;> cases hhead
  · rcases List.mem_append.1 hline with hline | hline
    · rw [linkOf?_eq_none (hpassed line hline)] at hlink
      cases hlink
    · obtain ⟨e', he', rfl⟩ := List.mem_map.1 hline
      rw [hentries e' he' e hlink]
      exact he'

/-! ## Addresses on the site -/

theorem localPath?_append (base : List Char) {rest : List Char} (h : rest.head? = some '/') :
    localPath? base (base ++ rest) = some rest := by
  rw [localPath?_eq_some_iff]
  by_cases hbase : base = []
  · exact .inr ⟨.inl hbase, by rw [hbase, List.nil_append], h⟩
  · exact .inl ⟨hbase, rfl, .inr h⟩

theorem localPath?_eq_none {base url : List Char} (hrooted : url.head? ≠ some '/')
    (hbase : base = [] ∨ ¬ base <+: url) : localPath? base url = none := by
  rw [Option.eq_none_iff_forall_ne_some]
  intro path hpath
  rcases localPath?_eq_some_iff.1 hpath with ⟨hne, heq, -⟩ | ⟨-, rfl, hhead⟩
  · exact hbase.elim hne fun hoff => hoff ⟨path, heq.symm⟩
  · exact hrooted hhead

variable {base : String} {known : List String}

/-- What follows the slash after the base decides. -/
theorem isUnresolved_append {path : String} (h : path.toList.head? ≠ some '/') :
    isUnresolved base.toList known (base ++ "/" ++ path) =
      (!Text.endsWith ".txt".toList path.toList && !known.contains (LinkTarget.normalize path)) := by
  have hslash : "/".toList = ['/'] := by decide
  have hurl : (base ++ "/" ++ path).toList = base.toList ++ '/' :: path.toList := by
    rw [String.toList_append, String.toList_append, hslash, List.append_assoc]
    rfl
  have hpath : ('/' :: path.toList).dropWhile (fun c => decide (c = '/')) = path.toList := by
    have hstart : decide ('/' = '/') = true := decide_eq_true rfl
    rw [List.dropWhile_cons, if_pos hstart]
    refine Text.dropWhile_eq_self fun c hc => decide_eq_false ?_
    rintro rfl
    exact h hc
  unfold isUnresolved
  rw [hurl, localPath?_append base.toList rfl]
  dsimp only
  rw [hpath, String.ofList_toList]

theorem not_isUnresolved_file {file : String} (h : file.toList.head? ≠ some '/')
    (htext : Text.endsWith ".txt".toList file.toList = true) :
    isUnresolved base.toList known (base ++ "/" ++ file) = false := by
  rw [isUnresolved_append h, htext]
  rfl

theorem endsWith_setPath (slug : String) :
    Text.endsWith ".txt".toList (setPath slug).toList = true := by
  unfold setPath
  rw [String.toList_append]
  exact Text.endsWith_append _ _

/-- An identifier that a link can hold. -/
structure Linkable (id : String) : Prop where
  title : Title id
  normal : Identifier.normalize id = id
  fragment : '#' ∉ id.toList
  query : '?' ∉ id.toList
  close : ')' ∉ id.toList

instance (id : String) : Decidable (Linkable id) :=
  decidable_of_iff
    (Title id ∧ Identifier.normalize id = id ∧ '#' ∉ id.toList ∧ '?' ∉ id.toList ∧ ')' ∉ id.toList)
    ⟨fun ⟨ht, hn, hf, hq, hc⟩ => ⟨ht, hn, hf, hq, hc⟩,
      fun h => ⟨h.title, h.normal, h.fragment, h.query, h.close⟩⟩

theorem Linkable.head {id : String} (h : Linkable id) : id.toList.head? ≠ some '/' :=
  Identifier.head_ne_slash h.normal

/-- The path of a page, written with a slash at its end, leads back to the identifier. -/
theorem Linkable.normalize_page {id : String} (h : Linkable id) :
    LinkTarget.normalize (id ++ "/") = id := by
  obtain ⟨first, rest, hfirst, hblank⟩ := h.title.exists_cons
  have hid : id.toList ≠ [] := hfirst ▸ List.cons_ne_nil first rest
  have hpath : LinkTarget.Bare (id.toList ++ ['/']) := by
    refine ⟨List.append_ne_nil_of_right_ne_nil _ (List.cons_ne_nil _ _), ?_, fun c hc => ?_⟩
    · refine Text.trim_eq_self hblank (by decide : isBlank '/' = false) ?_ List.getLast?_concat
      rw [hfirst]
      rfl
    · rcases List.mem_append.1 hc with hc | hc
      · have hfragment : c ≠ '#' := fun heq => h.fragment (heq ▸ hc)
        have hquery : c ≠ '?' := fun heq => h.query (heq ▸ hc)
        simp [LinkTarget.endsPath, hfragment, hquery]
      · rw [List.mem_singleton.1 hc]
        decide
  have hnormal : Identifier.normalizeChars (id.toList ++ ['/']) = id.toList :=
    (Text.strip_append (List.forall_mem_singleton.2 (by decide))).trans
      (Identifier.normalizeChars_toList h.normal)
  have htext : (id ++ "/").toList = id.toList ++ ['/'] := String.toList_append
  unfold LinkTarget.normalize
  rw [htext, hpath.normalizeChars_eq_id hid hnormal, String.ofList_toList]

/-- The address of a page leads to a known document exactly if that of the page is known. -/
theorem isUnresolved_page {id : String} (h : Linkable id) :
    isUnresolved base.toList known (documentUrl base id) = !known.contains id := by
  unfold documentUrl
  split
  · next heq =>
    have hurl : base ++ "/" = base ++ "/" ++ "" := (String.append_empty).symm
    have hindex : LinkTarget.normalize "" = id := heq ▸ (by decide)
    have hending : Text.endsWith ".txt".toList "".toList = false := by decide
    rw [hurl, isUnresolved_append (by decide), hindex, hending, Bool.not_false, Bool.true_and]
  · have hhead : (id ++ "/").toList.head? ≠ some '/' := by
      obtain ⟨first, rest, hfirst, -⟩ := h.title.exists_cons
      have hid := h.head
      rw [hfirst] at hid
      rw [String.toList_append, hfirst]
      exact hid
    have hending : Text.endsWith ".txt".toList (id ++ "/").toList = false := by
      rw [← Bool.not_eq_true, endsWith_iff]
      rintro ⟨front, hfront⟩
      have hlast : ".txt".toList.getLast?.or front.getLast? =
          "/".toList.getLast?.or id.toList.getLast? := by
        rw [← List.getLast?_append, hfront, String.toList_append, List.getLast?_append]
      have hletter : some 't' = some '/' := hlast
      cases hletter
    have hurl : base ++ "/" ++ id ++ "/" = base ++ "/" ++ (id ++ "/") := String.append_assoc
    rw [hurl, isUnresolved_append hhead, h.normalize_page, hending, Bool.not_false, Bool.true_and]

/-- A link that leaves the site at `base`. -/
def Outside (base : String) (l : ExternalLink) : Prop :=
  l.url.toList.head? ≠ some '/' ∧ (base ≠ "" → ¬ base.toList <+: l.url.toList)

theorem Outside.not_isUnresolved {l : ExternalLink} (h : Outside base l) :
    isUnresolved base.toList known l.url = false := by
  have hbase : base.toList = [] ∨ ¬ base.toList <+: l.url.toList := by
    by_cases hempty : base = ""
    · exact .inl (String.toList_eq_nil_iff.2 hempty)
    · exact .inr (h.2 hempty)
  unfold isUnresolved
  rw [localPath?_eq_none h.1 hbase]

/-! ## The entries of an index -/

/-- A manifest without details whose texts, identifiers apart, keep clear of the marks of an
index. -/
structure Worded (m : Manifest) : Prop where
  name : Title m.project.name
  base : Plain m.project.baseUrl
  base_close : ')' ∉ m.project.baseUrl.toList
  description : ∀ d, m.project.description = some d → Plain d
  details : m.project.details = none
  labels : ∀ s ∈ m.sets, Title s.label ∧ ']' ∉ s.label.toList
  descriptions : ∀ s ∈ m.sets, Plain s.description ∧ Silent s.description.toList
  titles : ∀ s ∈ m.sets, ∀ e ∈ s.members, Title e.title ∧ ']' ∉ e.title.toList
  notes : ∀ s ∈ m.sets, ∀ e ∈ s.members, ∀ d, e.description = some d → Plain d
  link_labels : ∀ l ∈ m.links, Title l.label ∧ ']' ∉ l.label.toList
  link_urls : ∀ l ∈ m.links, Plain l.url ∧ ')' ∉ l.url.toList
  link_notes : ∀ l ∈ m.links, Plain l.description

/-- A manifest as a site organizes it, of pages that links can hold. -/
structure Paged (m : Manifest) : Prop where
  base : Project.dropSlashes m.project.baseUrl = m.project.baseUrl
  pages : ∀ s ∈ m.sets, ∀ e ∈ s.members, Linkable e.id

/-- The manifest without its links. -/
def unlinked (m : Manifest) : Manifest := ⟨m.project, m.sets, []⟩

variable {m : Manifest}

/-- Without its links, which may have no address, the index can be read back. -/
theorem Worded.clear_unlinked (h : Worded m) (hpaged : Paged m) : Clear (unlinked m) where
  name := h.name
  base := h.base
  base_close := h.base_close
  description := h.description
  details := fun d hd => absurd (h.details.symm.trans hd) (Option.some_ne_none d).symm
  sets := fun s hs => {
    label := (h.labels s hs).1
    label_close := (h.labels s hs).2
    description := (h.descriptions s hs).1
    silent := (h.descriptions s hs).2
    members := fun e he => {
      title := (h.titles s hs e he).1
      title_close := (h.titles s hs e he).2
      id := (hpaged.pages s hs e he).title.toPlain
      id_close := (hpaged.pages s hs e he).close
      description := h.notes s hs e he } }
  links := fun _ hl => absurd hl List.not_mem_nil

/-- The lines of an index are those without its links, and then those of its links. -/
theorem contentLines_append_links (m : Manifest) :
    contentLines (index m).toList =
      contentLines (index (unlinked m)).toList ++
        if m.links.isEmpty then [] else contentLines (linksBlock m.links).toList := by
  have hblocks : blocks m =
      blocks (unlinked m) ++ if m.links.isEmpty then [] else [linksBlock m.links] := by
    unfold blocks unlinked
    rw [List.isEmpty_nil, if_pos rfl, List.append_nil]
    rfl
  rw [contentLines_of_blocks, contentLines_of_blocks, hblocks, List.flatMap_append]
  split
  · rw [List.flatMap_nil]
  · rw [List.flatMap_singleton]

theorem sections_append_links (m : Manifest) :
    (listing m).sections =
      (listing (unlinked m)).sections ++
        if m.links.isEmpty then [] else [linksSection m.links] := by
  unfold listing unlinked
  dsimp only
  rw [List.isEmpty_nil, if_pos rfl, List.append_nil]
  rfl

/-- The line of a link holds the link, or is passed over. -/
theorem Worded.eq_linkEntry (h : Worded m) {l : ExternalLink} (hl : l ∈ m.links) {e : Entry}
    (hlink : linkOf? (linkEntry l).line = some e) : e = linkEntry l := by
  obtain ⟨hlabel, hclose⟩ := h.link_labels l hl
  by_cases hurl : l.url = ""
  · rw [linkOf?_line_of_no_url hlabel hclose hurl] at hlink
    cases hlink
  · have hclear : LinkClear l :=
      ⟨hlabel, hclose, ⟨(h.link_urls l hl).1, hurl⟩, (h.link_urls l hl).2, h.link_notes l hl⟩
    rw [linkOf?_line hclear.legible, Option.some_inj] at hlink
    exact hlink.symm

/-- Below its title, the lines of an index hold no entries but its own. -/
theorem Worded.entry_of_line (h : Worded m) (hpaged : Paged m) :
    ∃ rest, contentLines (index m).toList = headingLine titleMark m.project.name :: rest ∧
      ∀ line ∈ rest, ∀ e, linkOf? line = some e → ∃ s ∈ (listing m).sections, e ∈ s.entries := by
  have hclear := h.clear_unlinked hpaged
  have hremarks : remarks (unlinked m) = [] := by
    unfold remarks unlinked
    rw [h.details]
    rfl
  rw [contentLines_append_links, hclear.contentLines_index, hremarks, sections_append_links,
    ← written_sections]
  refine ⟨_, List.cons_append, fun line hline e hlink => ?_⟩
  rcases List.mem_append.1 hline with hline | hline
  · rcases List.mem_append.1 hline with hline | hline
    · obtain ⟨text, -, rfl⟩ := List.mem_map.1 hline
      rcases head_of_linkOf? hlink with hhead | hhead <;> cases hhead
    · obtain ⟨w, hw, hline⟩ := List.mem_flatMap.1 hline
      obtain ⟨hlegible, hsilent⟩ := hclear.legible_written w hw
      have hentries : ∀ e' ∈ w.1.entries, ∀ e'', linkOf? e'.line = some e'' → e'' = e' := by
        intro e' he' e'' hlink'
        rw [linkOf?_line (hlegible.entries e' he'), Option.some_inj] at hlink'
        exact hlink'.symm
      exact ⟨w.1, List.mem_append_left _ (List.mem_map_of_mem hw),
        Section.mem_of_linkOf? hsilent hentries hline hlink⟩
  · split at hline
    · cases hline
    · next hlinks =>
      rw [contentLines_linksBlock fun l hl =>
        ⟨(h.link_labels l hl).1.toPlain, (h.link_urls l hl).1, h.link_notes l hl⟩] at hline
      rw [if_neg hlinks]
      have hentries : ∀ e' ∈ (linksSection m.links).entries, ∀ e'',
          linkOf? e'.line = some e'' → e'' = e' := by
        intro e' he' e'' hlink'
        obtain ⟨l, hl, rfl⟩ := List.mem_map.1 he'
        exact h.eq_linkEntry hl hlink'
      exact ⟨linksSection m.links, List.mem_append_right _ List.mem_cons_self,
        Section.mem_of_linkOf? (fun _ hline => absurd hline List.not_mem_nil) hentries hline hlink⟩

/-- No entry of an index leads to a page that is missing. -/
theorem Paged.not_isUnresolved (h : Paged m)
    (hknown : ∀ s ∈ m.sets, ∀ e ∈ s.members, e.id ∈ known)
    (houtside : ∀ l ∈ m.links, Outside m.project.baseUrl l) {s : Section}
    (hs : s ∈ (listing m).sections) {e : Entry} (he : e ∈ s.entries) :
    isUnresolved m.project.baseUrl.toList known e.url = false := by
  rcases List.mem_append.1 hs with hs | hs
  · rcases List.mem_cons.1 hs with rfl | hs
    · rcases List.mem_cons.1 he with rfl | he
      · exact not_isUnresolved_file (by decide) (by decide)
      · rcases List.mem_cons.1 he with rfl | he
        · exact not_isUnresolved_file (by decide) (by decide)
        · obtain ⟨set, -, rfl⟩ := List.mem_map.1 he
          refine not_isUnresolved_file ?_ (endsWith_setPath set.slug)
          rw [head?_setPath]
          decide
    · obtain ⟨set, hset, rfl⟩ := List.mem_map.1 hs
      obtain ⟨member, hmember, rfl⟩ := List.mem_map.1 he
      have hid := List.contains_iff_mem.2 (hknown set hset member hmember)
      change isUnresolved _ _ (documentUrl m.project.baseUrl member.id) = false
      rw [isUnresolved_page (h.pages set hset member hmember), hid, Bool.not_true]
  · split at hs
    · cases hs
    · rw [List.mem_singleton.1 hs] at he
      obtain ⟨l, hl, rfl⟩ := List.mem_map.1 he
      exact (houtside l hl).not_isUnresolved

theorem unresolved_eq_nil (hbase : Project.dropSlashes base = base) {listing : Listing}
    (h : ∀ s ∈ listing.sections, ∀ e ∈ s.entries, isUnresolved base.toList known e.url = false) :
    unresolved listing base known = [] := by
  unfold unresolved
  rw [hbase]
  refine List.flatMap_eq_nil_iff.2 fun s hs => List.map_eq_nil_iff.2 (List.filter_eq_nil_iff.2 ?_)
  intro e he
  rw [h s hs e he]
  exact Bool.false_ne_true

/-- The index of a manifest is read, and every entry of it that leads to the site leads to a text
file or to a known page. -/
theorem Worded.resolves (h : Worded m) (hpaged : Paged m)
    (hknown : ∀ s ∈ m.sets, ∀ e ∈ s.members, e.id ∈ known)
    (houtside : ∀ l ∈ m.links, Outside m.project.baseUrl l) :
    ∃ listing, read (index m) = .ok listing ∧
      unresolved listing m.project.baseUrl known = [] := by
  obtain ⟨rest, hlines, hentry⟩ := h.entry_of_line hpaged
  obtain ⟨found, hread, hfound⟩ := exists_read h.name hlines
  refine ⟨found, hread, unresolved_eq_nil hpaged.base fun s hs e he => ?_⟩
  obtain ⟨line, hline, hlink⟩ := hfound s hs e he
  obtain ⟨s', hs', he'⟩ := hentry line hline e hlink
  exact hpaged.not_isUnresolved hknown houtside hs' he'

end LlmsText

/-! ## The index of a site -/

namespace Project

theorem dropSlashes_dropSlashes (url : String) :
    dropSlashes (dropSlashes url) = dropSlashes url := by
  unfold dropSlashes
  rw [String.toList_ofList, Text.dropEnd_eq_self fun c hc => Text.dropEnd_last hc]

end Project

namespace Site

variable {config : Configuration} {policy : ExportPolicy} {site : Site}

theorem links_of_ofConfiguration (h : ofConfiguration config policy = .ok site)
    (documents : List Document) :
    (site.manifest documents).links = config.llms.optionalLinks := by
  obtain ⟨horganizer, -⟩ := ofConfiguration_eq_ok_iff.1 h
  obtain ⟨-, -, -, ho⟩ := Organizer.ofDeclarations_eq_ok_iff.1 horganizer
  show site.organizer.links = _
  rw [ho]

theorem paged_of_ofConfiguration (h : ofConfiguration config policy = .ok site)
    {documents : List Document} (hids : ∀ d ∈ documents, LlmsText.Linkable d.id) :
    LlmsText.Paged (site.manifest documents) where
  base := by
    rw [project_of_ofConfiguration h]
    exact Project.dropSlashes_dropSlashes _
  pages := by
    intro s hs e he
    obtain ⟨d, hd, rfl⟩ := Organizer.exists_document hs he
    exact hids d hd

/-- A check of the index that a site writes, against the documents it was written from, has nothing
to report: text files and outside links are not checked, and all pages are found. -/
theorem index_resolves (hsite : ofConfiguration config policy = .ok site)
    (documents : List Document) (hids : ∀ d ∈ documents, LlmsText.Linkable d.id)
    (htexts : LlmsText.Worded (site.manifest documents))
    (hlinks : ∀ l ∈ (site.manifest documents).links,
      LlmsText.Outside (site.manifest documents).project.baseUrl l) :
    ∃ listing, LlmsText.read (site.indexText documents) = .ok listing ∧
      LlmsText.unresolved listing (site.manifest documents).project.baseUrl
        (identifiers documents) = [] := by
  refine htexts.resolves (paged_of_ofConfiguration hsite hids) (fun s hs e he => ?_) hlinks
  obtain ⟨d, hd, rfl⟩ := Organizer.exists_document hs he
  exact List.mem_map_of_mem hd

/-- A site below a directory, with a link that leaves it and one that has no address yet. -/
def linkedSets : Configuration :=
  { Configuration.default with
    site := { Configuration.default.site with siteUrl := some "https://x.dev/docs/" }
    llms := { Configuration.default.llms with
      sets := [⟨"Guides", "How to", ["guides/**"]⟩, ⟨"All", "", ["**"]⟩]
      optionalLinks := [⟨"Forum", "https://y.dev/docs/", "Questions"⟩, ⟨"Shop", "", ""⟩] } }

def linkedDocuments : List Document :=
  ["index", "guides/v1.2/notes.txt", "guides/index"].map fun id =>
    ⟨id, ⟨[("description", .text "About")]⟩, ""⟩

theorem worded_linkedSets (h : ofConfiguration linkedSets .anyone = .ok site) :
    LlmsText.Worded (site.manifest linkedDocuments) := by
  have hproject := project_of_ofConfiguration h linkedDocuments
  have hlinks := links_of_ofConfiguration h linkedDocuments
  have hdeclared : ∀ s ∈ (site.manifest linkedDocuments).sets,
      ∃ d ∈ linkedSets.llms.sets, s.label = d.label ∧ s.description = d.description := by
    intro s hs
    obtain ⟨horganizer, -⟩ := ofConfiguration_eq_ok_iff.1 h
    obtain ⟨d, hd, rfl⟩ := Organizer.exists_declaration horganizer hs
    exact ⟨d, hd, rfl, rfl⟩
  have hsets : ∀ d ∈ linkedSets.llms.sets, (LlmsText.Title d.label ∧ ']' ∉ d.label.toList) ∧
      LlmsText.Plain d.description ∧ LlmsText.Silent d.description.toList := by
    decide
  have htitles : ∀ d ∈ linkedDocuments,
      LlmsText.Title d.displayTitle ∧ ']' ∉ d.displayTitle.toList := by
    decide
  have hnotes : ∀ d ∈ linkedDocuments, d.description? = some "About" := by decide
  have hurls : ∀ l ∈ linkedSets.llms.optionalLinks,
      (LlmsText.Title l.label ∧ ']' ∉ l.label.toList) ∧
      (LlmsText.Plain l.url ∧ ')' ∉ l.url.toList) ∧ LlmsText.Plain l.description := by
    decide
  constructor
  case name => exact hproject ▸ (by decide)
  case base => exact hproject ▸ (by decide)
  case base_close => exact hproject ▸ (by decide)
  case description => exact hproject ▸ fun d hd => nomatch hd
  case details => exact hproject ▸ rfl
  case labels =>
    intro s hs
    obtain ⟨d, hd, hlabel, -⟩ := hdeclared s hs
    exact hlabel ▸ (hsets d hd).1
  case descriptions =>
    intro s hs
    obtain ⟨d, hd, -, hdescription⟩ := hdeclared s hs
    exact hdescription ▸ (hsets d hd).2
  case titles =>
    intro s hs e he
    obtain ⟨d, hd, rfl⟩ := Organizer.exists_document hs he
    exact htitles d hd
  case notes =>
    intro s hs e he
    obtain ⟨d, hd, rfl⟩ := Organizer.exists_document hs he
    rintro text htext
    have habout : text = "About" := Option.some.inj (htext.symm.trans (hnotes d hd))
    rw [habout]
    decide
  case link_labels => exact hlinks ▸ fun l hl => (hurls l hl).1
  case link_urls => exact hlinks ▸ fun l hl => (hurls l hl).2.1
  case link_notes => exact hlinks ▸ fun l hl => (hurls l hl).2.2

theorem index_resolves_nested :
    ∃ site, ofConfiguration linkedSets .anyone = .ok site ∧
      (∀ d ∈ linkedDocuments, LlmsText.Linkable d.id) ∧
      LlmsText.Worded (site.manifest linkedDocuments) ∧
      (∀ l ∈ (site.manifest linkedDocuments).links,
        LlmsText.Outside (site.manifest linkedDocuments).project.baseUrl l) ∧
      ∃ listing, LlmsText.read (site.indexText linkedDocuments) = .ok listing ∧
        LlmsText.unresolved listing "https://x.dev/docs"
          ["index", "guides/v1.2/notes.txt", "guides/index"] = [] := by
  have hok : (ofConfiguration linkedSets .anyone).isOk = true := by decide +kernel
  obtain ⟨site, hsite⟩ := Outcome.exists_of_isOk hok
  have hids : ∀ d ∈ linkedDocuments, LlmsText.Linkable d.id := by decide
  have hbase : (site.manifest linkedDocuments).project.baseUrl = "https://x.dev/docs" := by
    rw [project_of_ofConfiguration hsite]
    decide
  have hlinks : ∀ l ∈ (site.manifest linkedDocuments).links,
      LlmsText.Outside (site.manifest linkedDocuments).project.baseUrl l := by
    rw [hbase, links_of_ofConfiguration hsite]
    unfold LlmsText.Outside
    decide
  have htexts := worded_linkedSets hsite
  obtain ⟨listing, hread, hnil⟩ := index_resolves hsite linkedDocuments hids htexts hlinks
  rw [hbase] at hnil
  exact ⟨site, hsite, hids, htexts, hlinks, listing, hread, hnil⟩

end Site
end DocCorpus
