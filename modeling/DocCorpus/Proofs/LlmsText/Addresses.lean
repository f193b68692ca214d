/-
  Which links of a listing a check reports. An address is on a site if it continues the address of
  the site, or is relative to its root; it should be reported if it leads neither to a text file nor
  to a known page (`Missing`). A check reports the links with such addresses in their order, unless
  an address is of one of four kinds that it takes for something else (`Misjudged`); these kinds are
  all there are (`unresolved_eq_missing_iff`).
-/
import DocCorpus.LlmsText.Reader
import Mathlib.Data.List.Infix
import Mathlib.Tactic.MkIffOfInductiveProp

namespace DocCorpus.LlmsText

/-! ## Links in order -/

/-- The links of a listing in their order, each with the heading that it stands under. -/
def links (listing : Listing) : List Unresolved :=
  listing.sections.flatMap fun s => s.entries.map fun e => ⟨s.title, e.name, e.url⟩

theorem unresolved_eq_filter (listing : Listing) (baseUrl : String) (known : List String) :
    unresolved listing baseUrl known = (links listing).filter fun link =>
      isUnresolved (Project.dropSlashes baseUrl).toList known link.url := by
  unfold unresolved links
  rw [List.filter_flatMap]
  simp only [List.filter_map]
  rfl

/-! ## Paths -/

variable {base url path : List Char} {known : List String}

theorem rooted_eq_some_iff :
    (if url.head? = some '/' then some url else none) = some path ↔
      url = path ∧ path.head? = some '/' := by
  split
  · next hurl =>
    rw [Option.some_inj]
    exact ⟨fun h => ⟨h, h ▸ hurl⟩, fun h => h.1⟩
  · next hurl =>
    refine ⟨nofun, ?_⟩
    rintro ⟨rfl, hpath⟩
    exact absurd hpath hurl

/-- A check takes the path of an address from what stands after the base, if that is nothing or
starts with a slash; it takes a path from another address only if that does not start with the
base, but with a slash. -/
theorem localPath?_eq_some_iff :
    localPath? base url = some path ↔
      (base ≠ [] ∧ url = base ++ path ∧ (path = [] ∨ path.head? = some '/')) ∨
        ((base = [] ∨ ¬ base <+: url) ∧ url = path ∧ path.head? = some '/') := by
  unfold localPath?
  by_cases hbase : base = []
  · rw [if_pos hbase, rooted_eq_some_iff]
    simp [hbase]
  · rw [if_neg hbase]
    cases hdrop : Text.dropHead? base url with
    | none =>
      have hoff : ¬ base <+: url := by
        rintro ⟨rest, hrest⟩
        rw [Text.dropHead?_eq_some.2 hrest.symm] at hdrop
        cases hdrop
      have hne (rest : List Char) : url ≠ base ++ rest := fun heq => hoff ⟨rest, heq.symm⟩
      simp only [rooted_eq_some_iff, hne, hoff, not_false_eq_true, or_true, true_and, false_and,
        and_false, false_or]
    | some rest =>
      obtain rfl := Text.dropHead?_eq_some.1 hdrop
      have hon : base <+: base ++ rest := List.prefix_append base rest
      simp only [hbase, hon, not_true_eq_false, or_false, false_and, ne_eq, not_false_eq_true,
        true_and, List.append_cancel_left_eq]
      split
      · next hrest =>
        rw [Option.some_inj]
        exact ⟨fun h => ⟨h, h ▸ hrest⟩, fun h => h.1⟩
      · next hrest =>
        refine ⟨nofun, ?_⟩
        rintro ⟨rfl, hpath⟩
        exact absurd hpath hrest

/-- The identifier of the page at a path. -/
def pageOf (path : List Char) : String :=
  LinkTarget.normalize (String.ofList (path.dropWhile (· = '/')))

theorem endsWith_iff {tail s : List Char} : Text.endsWith tail s = true ↔ tail <:+ s := by
  unfold Text.endsWith
  rw [Option.isSome_iff_exists]
  simp only [Text.dropTail?_eq_some]
  exact exists_congr fun _ => eq_comm

theorem suffix_dropWhile_iff {p : Char → Bool} {c : Char} {tail s : List Char} (hc : p c = false) :
    c :: tail <:+ s.dropWhile p ↔ c :: tail <:+ s := by
  induction s with
  | nil => rfl
  | cons d s ih =>
    rw [List.dropWhile_cons]
    split
    · next hd =>
      rw [ih, List.suffix_cons_iff]
      constructor
      · exact .inr
      · rintro (heq | h)
        · rw [(List.cons.inj heq).1, hd] at hc
          cases hc
        · exact h
    · rfl

def textEnding : List Char := ".txt".toList

theorem isUnresolved_iff {url : String} :
    isUnresolved base known url = true ↔
      ∃ path, localPath? base url.toList = some path ∧ ¬ textEnding <:+ path ∧
        pageOf path ∉ known := by
  unfold isUnresolved
  cases localPath? base url.toList with
  | none => simp
  | some path =>
    have hending : Text.endsWith textEnding (path.dropWhile (· = '/')) = true ↔
        textEnding <:+ path :=
      endsWith_iff.trans (suffix_dropWhile_iff (by decide))
    show (!Text.endsWith textEnding (path.dropWhile (· = '/')) && !known.contains (pageOf path)) =
      true ↔ _
    rw [Bool.and_eq_true, Bool.not_eq_true', Bool.not_eq_true', ← Bool.not_eq_true, hending,
      ← Bool.not_eq_true, List.contains_iff_mem]
    simp

/-! ## Addresses on a site -/

/-- What may follow the address of a site on the site: nothing, a path, a query or a fragment. -/
def Continues (path : List Char) : Prop := ∀ c, path.head? = some c → c = '/' ∨ c = '#' ∨ c = '?'

/-- The path of an address on the site at `base`. It continues the base; an address that does not
may be relative to the root of the site, with one slash at its start. A site without a base has
addresses of the second kind only. -/
@[mk_iff]
inductive SitePath (base : List Char) : List Char → List Char → Prop
  | below {path : List Char} (hbase : base ≠ []) (hpath : Continues path) :
      SitePath base (base ++ path) path
  | rooted {path : List Char} (hsingle : path.head? ≠ some '/')
      (hoff : ∀ rest, base ≠ [] → Continues rest → '/' :: path ≠ base ++ rest) :
      SitePath base ('/' :: path) ('/' :: path)

/-- A path to a text file: it ends in `.txt` before any query or fragment. -/
def TextPath (path : List Char) : Prop :=
  textEnding <:+ Text.before (fun c => c == '#' || c == '?') path

/-- An address on the site that leads neither to a text file nor to a known page. -/
def Missing (base : List Char) (known : List String) (url : List Char) : Prop :=
  ∃ path, SitePath base url path ∧ ¬ TextPath path ∧ pageOf path ∉ known

/-- The addresses that a check takes for something else than they are. -/
inductive Misjudged (base : List Char) : List Char → Prop
  /-- The base with a query or a fragment but without a path is passed over. -/
  | bare {mark : Char} {rest : List Char} (hbase : base ≠ []) (hmark : mark = '#' ∨ mark = '?') :
      Misjudged base (base ++ mark :: rest)
  /-- So is a page whose path from the root starts with the characters of the base, but does not
  continue it. -/
  | beside {path rest : List Char} (hbase : base ≠ []) (hrest : ¬ Continues rest)
      (hpath : '/' :: path = base ++ rest) (hsingle : path.head? ≠ some '/')
      (htext : ¬ TextPath ('/' :: path)) : Misjudged base ('/' :: path)
  /-- An address of another host, which two slashes start, is taken for a path. -/
  | host {rest : List Char} (hoff : base = [] ∨ ¬ base <+: '/' :: '/' :: rest)
      (htext : ¬ textEnding <:+ '/' :: '/' :: rest) : Misjudged base ('/' :: '/' :: rest)
  /-- A query or fragment hides that a path leads to a text file, or makes it look so. -/
  | ending {url path : List Char} (hsite : SitePath base url path)
      (hlocal : localPath? base url = some path) (hending : ¬ (textEnding <:+ path ↔ TextPath path)) :
      Misjudged base url

theorem SitePath.unique {other : List Char} (h : SitePath base url path)
    (h' : SitePath base url other) : path = other := by
  rw [sitePath_iff] at h h'
  rcases h with ⟨hbase, hpath, rfl⟩ | ⟨rest, _, hoff, rfl, rfl⟩ <;>
    rcases h' with ⟨hbase', hpath', heq⟩ | ⟨rest', _, hoff', heq, rfl⟩
  · exact List.append_cancel_left heq
  · exact absurd heq.symm (hoff' path hbase hpath)
  · exact absurd heq (hoff other hbase' hpath')
  · exact heq

theorem Continues.cases (h : Continues path) :
    (path = [] ∨ path.head? = some '/') ∨ ∃ mark rest, path = mark :: rest ∧ (mark = '#' ∨ mark = '?') := by
  cases path with
  | nil => exact .inl (.inl rfl)
  | cons c rest =>
    rcases h c rfl with rfl | hmark
    · exact .inl (.inr rfl)
    · exact .inr ⟨c, rest, rfl, hmark⟩

theorem continues_of_slash (h : path = [] ∨ path.head? = some '/') : Continues path := by
  rcases h with rfl | hpath
  · exact nofun
  · exact fun c hc => .inl (Option.some.inj (hc.symm.trans hpath))

/-- What starts with the base and goes on with another character than a slash is passed over. -/
theorem localPath?_append_eq_none (hbase : base ≠ []) (h : ¬ (path = [] ∨ path.head? = some '/')) :
    localPath? base (base ++ path) = none := by
  rw [Option.eq_none_iff_forall_ne_some]
  intro other hother
  rcases localPath?_eq_some_iff.1 hother with ⟨-, heq, hpath⟩ | ⟨hoff, -⟩
  · exact h (List.append_cancel_left heq ▸ hpath)
  · exact hoff.elim hbase fun hoff => hoff (List.prefix_append base path)

/-! ## Right and wrong reports -/

/-- The four kinds are judged wrongly where no page is known. -/
theorem Misjudged.not_iff {url : String} (h : Misjudged base url.toList) :
    ¬ (isUnresolved base [] url = true ↔ Missing base [] url.toList) := by
  rw [isUnresolved_iff]
  generalize url.toList = url at h
  intro hiff
  cases h with
  | @bare mark rest hbase hmark =>
    have hnone : localPath? base (base ++ mark :: rest) = none := by
      refine localPath?_append_eq_none hbase ?_
      rcases hmark with rfl | rfl <;> simp
    have hcontinues : Continues (mark :: rest) := fun c hc => .inr (Option.some.inj hc ▸ hmark)
    have htext : ¬ TextPath (mark :: rest) := by
      have hbefore : Text.before (fun c => c == '#' || c == '?') (mark :: rest) = [] := by
        rcases hmark with rfl | rfl <;> rfl
      unfold TextPath
      rw [hbefore]
      decide
    obtain ⟨path, hpath, -⟩ := hiff.2 ⟨_, .below hbase hcontinues, htext, List.not_mem_nil⟩
    rw [hnone] at hpath
    cases hpath
  | @beside path rest hbase hrest hpath hsingle htext =>
    have hsite : SitePath base ('/' :: path) ('/' :: path) := by
      refine .rooted hsingle fun other _ hother heq => ?_
      rw [List.append_cancel_left (heq.symm.trans hpath)] at hother
      exact hrest hother
    obtain ⟨path, hlocal, -⟩ := hiff.2 ⟨_, hsite, htext, List.not_mem_nil⟩
    rw [hpath, localPath?_append_eq_none hbase (mt continues_of_slash hrest)] at hlocal
    cases hlocal
  | @host rest hoff htext =>
    have hlocal : localPath? base ('/' :: '/' :: rest) = some ('/' :: '/' :: rest) :=
      localPath?_eq_some_iff.2 (.inr ⟨hoff, rfl, rfl⟩)
    obtain ⟨path, hsite, -⟩ := hiff.1 ⟨_, hlocal, htext, List.not_mem_nil⟩
    rcases (sitePath_iff ..).1 hsite with ⟨hbase, -, heq⟩ | ⟨other, hsingle, -, heq, -⟩
    · exact hoff.elim hbase fun hoff => hoff ⟨path, heq.symm⟩
    · exact hsingle (congrArg List.head? (List.cons.inj heq).2).symm
  | @ending _ path hsite hlocal hending =>
    have hreported : (∃ other, localPath? base url = some other ∧ ¬ textEnding <:+ other ∧
        pageOf other ∉ []) ↔ ¬ textEnding <:+ path := by
      simp [hlocal]
    have hmissing : Missing base [] url ↔ ¬ TextPath path :=
      ⟨fun ⟨_, hother, htext, _⟩ => hsite.unique hother ▸ htext,
        fun htext => ⟨path, hsite, htext, List.not_mem_nil⟩⟩
    rw [hreported, hmissing] at hiff
    exact hending (not_iff_not.1 hiff)

/-- All other addresses are judged rightly, whatever pages are known. -/
theorem iff_of_not_misjudged {url : String} (h : ¬ Misjudged base url.toList) :
    isUnresolved base known url = true ↔ Missing base known url.toList := by
  rw [isUnresolved_iff]
  generalize url.toList = url at h
  constructor
  · rintro ⟨path, hlocal, htext, hpage⟩
    have hsite : SitePath base url path := by
      rcases localPath?_eq_some_iff.1 hlocal with ⟨hbase, rfl, hpath⟩ | ⟨hoff, rfl, hpath⟩
      · exact .below hbase (continues_of_slash hpath)
      · obtain ⟨rest, rfl⟩ := List.head?_eq_some_iff.1 hpath
        refine .rooted (fun hrest => ?_) fun other hbase _ heq => ?_
        · obtain ⟨rest, rfl⟩ := List.head?_eq_some_iff.1 hrest
          exact h (.host hoff htext)
        · exact hoff.elim hbase fun hoff => hoff ⟨other, heq.symm⟩
    refine ⟨path, hsite, fun hending => h ?_, hpage⟩
    exact .ending hsite hlocal fun hiff => htext (hiff.2 hending)
  · rintro ⟨path, hsite, htext, hpage⟩
    have hlocal : localPath? base url = some path := by
      rw [localPath?_eq_some_iff]
      cases hsite with
      | below hbase hpath =>
        rcases hpath.cases with hslash | ⟨mark, rest, rfl, hmark⟩
        · exact .inl ⟨hbase, rfl, hslash⟩
        · exact absurd (.bare hbase hmark) h
      | @rooted path hsingle hoff =>
        refine .inr ⟨?_, rfl, rfl⟩
        by_cases hbase : base = []
        · exact .inl hbase
        · refine .inr fun ⟨rest, hrest⟩ => h ?_
          exact .beside hbase (fun hcontinues => hoff rest hbase hcontinues hrest.symm) hrest.symm
            hsingle htext
    refine ⟨path, hlocal, fun hending => h ?_, hpage⟩
    exact .ending hsite hlocal fun hiff => htext (hiff.1 hending)

open Classical in
/-- For every set of known pages, a check reports exactly the links of a listing that lead to a
missing page, in their order, exactly if none of their addresses is of a kind that it misjudges. -/
theorem unresolved_eq_missing_iff (listing : Listing) (baseUrl : String) :
    (∀ known, unresolved listing baseUrl known = (links listing).filter fun link =>
        Missing (Project.dropSlashes baseUrl).toList known link.url.toList) ↔
      ∀ link ∈ links listing, ¬ Misjudged (Project.dropSlashes baseUrl).toList link.url.toList := by
  simp only [unresolved_eq_filter]
  constructor
  · intro h link hlink hmisjudged
    have hreported := congrArg (link ∈ ·) (h [])
    simp only [List.mem_filter, hlink, true_and, decide_eq_true_eq, eq_iff_iff] at hreported
    exact hmisjudged.not_iff hreported
  · intro h known
    refine List.filter_congr fun link hlink => ?_
    rw [Bool.eq_iff_iff, decide_eq_true_iff]
    exact iff_of_not_misjudged (h link hlink)

/-- An address of another host is reported, though it is on no site. -/
theorem unresolved_of_host :
    ∃ link ∈ unresolved
        ⟨"Corpus", none, [⟨"Docs", [⟨"Font", "//cdn.example/font", none⟩,
          ⟨"Full", "https://x.dev/llms-full.txt#top", none⟩]⟩]⟩ "https://x.dev" ["index"],
      link.url = "//cdn.example/font" ∧
        ¬ Missing "https://x.dev".toList ["index"] link.url.toList := by
  refine ⟨⟨"Docs", "Font", "//cdn.example/font"⟩, .head _, rfl, ?_⟩
  rintro ⟨path, hsite, -⟩
  rcases (sitePath_iff ..).1 hsite with ⟨-, -, heq⟩ | ⟨rest, hsingle, -, heq, -⟩
  · have hhead : some '/' = some 'h' := congrArg List.head? heq
    cases hhead
  · exact hsingle (congrArg List.head? (List.cons.inj heq).2).symm

end DocCorpus.LlmsText
