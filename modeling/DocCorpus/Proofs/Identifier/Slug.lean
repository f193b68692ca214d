/-
  Identifiers that the frontmatter gives. A slug loses the slashes at its ends and nothing else,
  while the target of a link ends at its first number sign or question mark. So the path of the page
  leads to a document with a slug exactly if the slug has neither (`Identifier.slug_resolves_iff`).
-/
import DocCorpus.Proofs.LinkTarget

namespace DocCorpus

/-! ## Targets that start with a slash -/

namespace LinkTarget

/-- No identifier that a target names holds a mark that starts a fragment or a query. -/
theorem endsPath_of_mem_normalizeChars {target : List Char} {c : Char}
    (h : c ∈ normalizeChars target) : endsPath c = false := by
  unfold normalizeChars at h
  dsimp only at h
  split at h
  · have hindex : "index".toList.all (fun c => !endsPath c) = true := by decide
    exact Bool.not_eq_true' _ ▸ List.all_eq_true.1 hindex c h
  · have hpath : c ∈ Text.before endsPath (Text.trim target) := by
      refine Decidable.not_not.1 fun hmem => Text.not_mem_strip (p := (· = '/')) hmem ?_
      exact h
    exact Bool.not_eq_true' _ ▸ List.all_eq_true.1 List.all_takeWhile c hpath

/-- A path from the root is no web address. -/
theorem not_isExternal_of_slash {target : String} {rest : List Char}
    (htarget : target.toList = '/' :: rest) : isExternal target = false := by
  unfold isExternal
  apply WebAddress.isAddress_eq_false
  have hstart : Text.trim target.toList = Text.dropEnd isBlank ('/' :: rest) := by
    rw [htarget]
    rfl
  rw [hstart]
  cases htrim : Text.dropEnd isBlank ('/' :: rest) with
  | nil => exact List.not_mem_nil
  | cons c trimmed =>
    have hslash : some '/' = some c := Text.dropEnd_head (congrArg List.head? htrim)
    rw [← Option.some.inj hslash]
    exact List.not_mem_nil

/-- A path from the root leads to a known document exactly if it names it. -/
theorem resolve?_eq_document_iff {known : List String} {id target : String} {rest : List Char}
    (htarget : target.toList = '/' :: rest) (hknown : id ∈ known) :
    resolve? known target = some (.document id) ↔ normalize target = id := by
  unfold resolve?
  rw [not_isExternal_of_slash htarget, if_neg Bool.false_ne_true]
  dsimp only
  constructor
  · intro h
    split at h
    · exact LinkTarget.document.inj (Option.some.inj h)
    · cases h
  · rintro rfl
    simp [hknown]

end LinkTarget

/-! ## Slugs -/

namespace Identifier

variable {id path slug : String}

theorem mem_normalize_iff {c : Char} (hc : c ≠ '/') :
    c ∈ (normalize slug).toList ↔ c ∈ slug.toList := by
  unfold normalize normalizeChars
  rw [String.toList_ofList]
  refine ⟨Function.mtr Text.not_mem_strip, fun h => ?_⟩
  obtain ⟨w, w', hs, hw, hw'⟩ := Text.exists_strip_append (· = '/') slug.toList
  rw [hs, List.mem_append, List.mem_append] at h
  rcases h with (h | h) | h
  · exact absurd (of_decide_eq_true (hw c h)) hc
  · exact h
  · exact absurd (of_decide_eq_true (hw' c h)) hc

/-- The paths of a page: its identifier between slashes, or the lone slash of the index. -/
theorem pagePath_cases (h : path ∈ ["/" ++ id ++ "/", LlmsText.documentUrl "" id]) :
    path.toList = ['/'] ++ id.toList ++ ['/'] ∨ path.toList = ['/'] ∧ id = "index" := by
  have hboth : ("/" ++ id ++ "/").toList = ['/'] ++ id.toList ++ ['/'] := by
    rw [String.toList_append, String.toList_append]
    rfl
  simp only [List.mem_cons, List.not_mem_nil, or_false] at h
  rcases h with rfl | rfl
  · exact .inl hboth
  · unfold LlmsText.documentUrl
    split
    · next hindex => exact .inr ⟨rfl, hindex⟩
    · rw [String.empty_append]
      exact .inl hboth

/-- The path of a page names the page, if nothing in the identifier ends the path. -/
theorem normalizeChars_pagePath (hid : normalize id = id) (hvisible : id ≠ "")
    (hmarks : ∀ c ∈ id.toList, LinkTarget.endsPath c = false)
    (hpath : path ∈ ["/" ++ id ++ "/", LlmsText.documentUrl "" id]) :
    LinkTarget.normalizeChars path.toList = id.toList := by
  have hslash : ∀ c ∈ ['/'], LinkTarget.endsPath c = false :=
    List.forall_mem_singleton.2 (by decide)
  have hslashes : ∀ c ∈ ['/'], decide (c = '/') = true := List.forall_mem_singleton.2 (by decide)
  rcases pagePath_cases hpath with hwritten | ⟨hwritten, rfl⟩
  · have hbare : LinkTarget.Bare path.toList := by
      rw [hwritten]
      refine ⟨List.append_ne_nil_of_right_ne_nil _ (List.cons_ne_nil _ _), ?_, ?_⟩
      · have hblank : isBlank '/' = false := by decide
        exact Text.trim_eq_self hblank hblank rfl List.getLast?_concat
      · exact List.forall_mem_append.2 ⟨List.forall_mem_append.2 ⟨hslash, hmarks⟩, hslash⟩
    apply hbare.normalizeChars_eq_id (mt String.toList_eq_nil_iff.1 hvisible)
    have hnormal := normalizeChars_toList hid
    unfold normalizeChars at hnormal ⊢
    rw [hwritten, Text.strip_append hslashes, Text.append_strip hslashes, hnormal]
  · rw [hwritten]
    rfl

/-- A slug ends no path exactly if it has no number sign and no question mark. -/
theorem forall_endsPath_iff :
    (∀ c ∈ (normalize slug).toList, LinkTarget.endsPath c = false) ↔
      '#' ∉ slug.toList ∧ '?' ∉ slug.toList := by
  constructor
  · intro hmarks
    refine ⟨fun hmem => ?_, fun hmem => ?_⟩
    · exact absurd (hmarks '#' ((mem_normalize_iff (by decide)).2 hmem)) (by decide)
    · exact absurd (hmarks '?' ((mem_normalize_iff (by decide)).2 hmem)) (by decide)
  · rintro ⟨hfragment, hquery⟩ c hc
    have hne : c ≠ '#' ∧ c ≠ '?' := by
      refine ⟨?_, ?_⟩
      · rintro rfl
        exact hfragment ((mem_normalize_iff (by decide)).1 hc)
      · rintro rfl
        exact hquery ((mem_normalize_iff (by decide)).1 hc)
    simp [LinkTarget.endsPath, hne]

/-- A document with a slug is identified by the slug, without the slashes at its ends. If it is
known, the path of its page, from the root or as an address without a base, leads to it exactly if
the slug has no number sign and no question mark. -/
theorem slug_resolves_iff {relative : Path} {data : Metadata}
    (hslug : data.getText? "slug" = some slug) (hvisible : normalize slug ≠ "") :
    resolve relative data = normalize slug ∧
    ∀ known : List String, resolve relative data ∈ known →
      ∀ path ∈ ["/" ++ resolve relative data ++ "/",
        LlmsText.documentUrl "" (resolve relative data)],
      LinkTarget.resolve? known path = some (.document (resolve relative data)) ↔
        '#' ∉ slug.toList ∧ '?' ∉ slug.toList := by
  have hresolve : resolve relative data = normalize slug := by
    unfold resolve
    rw [hslug, Option.map_some]
    exact if_neg hvisible
  refine ⟨hresolve, ?_⟩
  rw [hresolve]
  intro known hknown path hpath
  have hrooted : ∃ rest, path.toList = '/' :: rest := by
    rcases pagePath_cases hpath with hwritten | ⟨hwritten, -⟩
    · exact ⟨_, hwritten⟩
    · exact ⟨_, hwritten⟩
  obtain ⟨rest, hrest⟩ := hrooted
  rw [LinkTarget.resolve?_eq_document_iff hrest hknown, ← forall_endsPath_iff]
  constructor
  · intro hnormal c hc
    rw [← hnormal, LinkTarget.normalize, String.toList_ofList] at hc
    exact LinkTarget.endsPath_of_mem_normalizeChars hc
  · intro hmarks
    unfold LinkTarget.normalize
    rw [normalizeChars_pagePath (normalize_normalize slug) hvisible hmarks hpath,
      String.ofList_toList]

theorem slug_resolves_iff_spaced :
    (Metadata.mk [("slug", .text "/ c: sharp /")]).getText? "slug" = some "/ c: sharp /" ∧
    normalize "/ c: sharp /" ≠ "" ∧
    resolve ⟨"languages/csharp.md"⟩ ⟨[("slug", .text "/ c: sharp /")]⟩ = " c: sharp " ∧
    LinkTarget.resolve? [" c: sharp ", "index"] ("/" ++ " c: sharp " ++ "/") =
      some (.document " c: sharp ") := by
  have hslug : (Metadata.mk [("slug", .text "/ c: sharp /")]).getText? "slug" =
      some "/ c: sharp /" := rfl
  have hnormal : normalize "/ c: sharp /" = " c: sharp " := by decide +kernel
  have hvisible : normalize "/ c: sharp /" ≠ "" := by decide +kernel
  obtain ⟨hresolve, hlinked⟩ := @slug_resolves_iff _ ⟨"languages/csharp.md"⟩ _ hslug hvisible
  rw [hresolve, hnormal] at hlinked
  refine ⟨hslug, hvisible, hresolve.trans hnormal, ?_⟩
  exact (hlinked _ List.mem_cons_self _ List.mem_cons_self).2 ⟨by decide, by decide⟩

/-- A document with the slug `languages/c#` cannot be linked. -/
theorem slug_fragment_unresolved :
    resolve ⟨"csharp.md"⟩ ⟨[("slug", .text "languages/c#")]⟩ = "languages/c#" ∧
      LinkTarget.resolve? ["languages/c#"] "/languages/c#/" = none ∧
      LinkTarget.resolve? ["languages/c#"] (LlmsText.documentUrl "" "languages/c#") = none := by
  decide +kernel

end Identifier
end DocCorpus
