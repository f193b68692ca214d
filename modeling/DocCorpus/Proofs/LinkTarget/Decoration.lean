/-
  One page, linked in many ways. Around an identifier a target may have slashes, a fragment or a
  query, and blanks; whatever they are, it names the same page
  (`Decoration.Fits.normalizeChars_around`). Blanks inside the slashes are not taken, since an
  identifier may start or end with blanks. So what a target names, read as a target, names itself
  exactly if it has no blanks at its ends (`normalize_normalize_iff`).
-/
import DocCorpus.Proofs.Identifier.Slug

namespace DocCorpus.LinkTarget

/-! ## What a target names -/

/-- The part of a target that names the page: what stands before a fragment or a query, without
blanks around the target. -/
def pathOf (target : List Char) : List Char := Text.before endsPath (Text.trim target)

theorem normalizeChars_eq_ite (target : List Char) :
    normalizeChars target =
      if Identifier.normalizeChars (pathOf target) = [] then "index".toList
      else Identifier.normalizeChars (pathOf target) := by
  unfold normalizeChars
  dsimp only
  split
  · next hnil => exact (if_pos hnil).symm
  · next hvisible => exact (if_neg hvisible).symm

/-- A text without a mark that starts a fragment or a query and without slashes at its ends. -/
structure Clean (id : List Char) : Prop where
  chars : ∀ c ∈ id, endsPath c = false
  head : id.head? ≠ some '/'
  last : id.getLast? ≠ some '/'

variable {id : List Char}

theorem normalizeChars_ne_nil (target : List Char) : normalizeChars target ≠ [] := by
  rw [normalizeChars_eq_ite]
  split
  · decide
  · next hvisible => exact hvisible

theorem clean_normalizeChars (target : List Char) : Clean (normalizeChars target) := by
  have hchars : ∀ c ∈ normalizeChars target, endsPath c = false :=
    fun c hc => endsPath_of_mem_normalizeChars hc
  rw [normalizeChars_eq_ite] at hchars ⊢
  by_cases hnothing : Identifier.normalizeChars (pathOf target) = []
  · rw [if_pos hnothing] at hchars ⊢
    exact ⟨hchars, by decide, by decide⟩
  · rw [if_neg hnothing] at hchars ⊢
    exact ⟨hchars, fun hc => absurd (Text.head_strip hc) (by decide),
      fun hc => absurd (Text.last_strip hc) (by decide)⟩

/-- What a target can name names itself exactly if it has no blanks at its ends. -/
theorem Clean.normalizeChars_eq_self_iff (h : Clean id) (hvisible : id ≠ []) :
    normalizeChars id = id ↔ Text.trim id = id := by
  constructor
  · intro hself
    rw [normalizeChars_eq_ite] at hself
    split at hself
    · rw [← hself]
      decide
    · -- The identifier is found within its trimmed form, so trimming takes nothing.
      have hwithin : (Identifier.normalizeChars (pathOf id)).Sublist (Text.trim id) :=
        (Text.strip_sublist _ _).trans (List.takeWhile_sublist _)
      rw [hself] at hwithin
      exact (Text.strip_sublist isBlank id).eq_of_length_le hwithin.length_le
  · intro htrim
    have hbare : Bare id := ⟨hvisible, htrim, h.chars⟩
    exact hbare.normalizeChars_eq_id hvisible (Identifier.normalizeChars_of_ends h.head h.last)

/-! ## What is written around it -/

/-- A fragment or a query starts with its mark, so that only blanks behind it are taken. -/
theorem Appendix.trim_eq {appendix : List Char} (h : Appendix appendix) :
    Text.trim appendix = Text.trimEnd appendix := by
  have hstart : appendix.dropWhile isBlank = appendix := by
    refine Text.dropWhile_eq_self fun c hc => ?_
    have hmark := h c hc
    simp only [endsPath, Bool.or_eq_true, beq_iff_eq] at hmark
    rcases hmark with rfl | rfl
    · decide
    · decide
  rw [Text.trim, Text.strip, hstart]
  rfl

/-- What a target has around the identifier of a page: slashes, behind them a fragment or a query,
and blanks around all of it. -/
structure Decoration where
  front : List Char
  before : List Char
  behind : List Char
  appendix : List Char
  back : List Char
  front_blank : ∀ c ∈ front, isBlank c = true
  before_slash : ∀ c ∈ before, c = '/'
  behind_slash : ∀ c ∈ behind, c = '/'
  appendix_marked : Appendix appendix
  back_blank : ∀ c ∈ back, isBlank c = true

namespace Decoration

def path (d : Decoration) (id : List Char) : List Char := d.before ++ id ++ d.behind

def around (d : Decoration) (id : List Char) : List Char :=
  d.front ++ d.path id ++ d.appendix ++ d.back

/-- An identifier that can be told from what is written around it: a blank stands at its end only if
a slash keeps it from the blanks around the path. -/
structure Fits (d : Decoration) (id : List Char) : Prop extends Clean id where
  head_kept : d.before = [] → ∀ c, id.head? = some c → isBlank c = false
  last_kept : d.behind = [] → ∀ c, id.getLast? = some c → isBlank c = false

variable {d : Decoration}

theorem Fits.trim_path (h : d.Fits id) : Text.trim (d.path id) = d.path id := by
  have hslash : isBlank '/' = false := by decide
  refine Text.strip_eq_self (fun c hc => ?_) (fun c hc => ?_)
  · rw [path, List.head?_append, List.head?_append] at hc
    obtain hc | ⟨-, hc⟩ := Option.or_eq_some_iff.1 hc
    · obtain hc | ⟨hnone, hc⟩ := Option.or_eq_some_iff.1 hc
      · exact d.before_slash c (List.mem_of_head? hc) ▸ hslash
      · exact h.head_kept (List.head?_eq_none_iff.1 hnone) c hc
    · exact d.behind_slash c (List.mem_of_head? hc) ▸ hslash
  · rw [path, List.getLast?_append, List.getLast?_append] at hc
    obtain hc | ⟨hnone, hc⟩ := Option.or_eq_some_iff.1 hc
    · exact d.behind_slash c (List.mem_of_getLast? hc) ▸ hslash
    · obtain hc | ⟨-, hc⟩ := Option.or_eq_some_iff.1 hc
      · exact h.last_kept (List.getLast?_eq_none_iff.1 hnone) c hc
      · exact d.before_slash c (List.mem_of_getLast? hc) ▸ hslash

theorem Fits.bare (h : d.Fits id) (hvisible : d.path id ≠ []) : Bare (d.path id) where
  visible := hvisible
  trimmed := h.trim_path
  chars := by
    have hslash : endsPath '/' = false := by decide
    unfold path
    rw [List.forall_mem_append, List.forall_mem_append]
    exact ⟨⟨fun c hc => d.before_slash c hc ▸ hslash, h.chars⟩,
      fun c hc => d.behind_slash c hc ▸ hslash⟩

theorem Fits.normalizeChars_path (h : d.Fits id) : Identifier.normalizeChars (d.path id) = id := by
  have hslash : ∀ s : List Char, (∀ c ∈ s, c = '/') → ∀ c ∈ s, decide (c = '/') = true :=
    fun s hs c hc => decide_eq_true (hs c hc)
  unfold path
  rw [Identifier.normalizeChars, Text.strip_append (hslash _ d.behind_slash),
    Text.append_strip (hslash _ d.before_slash)]
  exact Identifier.normalizeChars_of_ends h.head h.last

/-- The path of a target is told from what is written around it. -/
theorem Fits.pathOf_around (h : d.Fits id) : pathOf (d.around id) = d.path id := by
  by_cases hnothing : d.path id = []
  · -- Without a path the target starts with its fragment or query, if it has one.
    have htrim : Text.trim (d.around id) = Text.trimEnd d.appendix := by
      unfold around
      rw [hnothing, List.append_nil, ← d.appendix_marked.trim_eq, Text.trim,
        Text.strip_append d.back_blank, Text.append_strip d.front_blank]
      rfl
    have hnone : ([] ++ Text.trimEnd d.appendix).takeWhile (fun c => !endsPath c) = [] :=
      d.appendix_marked.trimEnd.takeWhile_append fun c hc => by rw [hc]; rfl
    rw [pathOf, htrim, hnothing]
    exact hnone
  · have hbare := h.bare hnothing
    obtain ⟨rest, hrest, htrim⟩ := hbare.exists_trim d.front_blank d.appendix_marked d.back_blank
    unfold pathOf around Text.before
    rw [htrim, hrest.takeWhile_append fun c hc => by rw [hc]; rfl, List.takeWhile_eq_self_iff]
    intro c hc
    rw [hbare.chars c hc]
    rfl

/-- Whatever is written around an identifier, the target names it, or the index if there is
nothing to name. -/
theorem Fits.normalizeChars_around (h : d.Fits id) :
    normalizeChars (d.around id) = if id = [] then "index".toList else id := by
  rw [normalizeChars_eq_ite, h.pathOf_around, h.normalizeChars_path]

end Decoration

/-- A target names an identifier without a mark and without slashes at its ends. Read as a target,
this names itself exactly if it has no blanks at its ends. What is written around an identifier to
make the target does not change what it names. -/
theorem normalize_normalize_iff (target : String) :
    normalize target ≠ "" ∧ Clean (normalize target).toList ∧
    (normalize (normalize target) = normalize target ↔
      Text.trim (normalize target).toList = (normalize target).toList) ∧
    ∀ (id : List Char) (d : Decoration), d.Fits id → target.toList = d.around id →
      (normalize target).toList = if id = [] then "index".toList else id := by
  have htoList : ∀ s : String, (normalize s).toList = normalizeChars s.toList :=
    fun s => String.toList_ofList
  have hvisible : (normalize target).toList ≠ [] := htoList target ▸ normalizeChars_ne_nil _
  have hclean : Clean (normalize target).toList := htoList target ▸ clean_normalizeChars _
  refine ⟨mt String.toList_eq_nil_iff.2 hvisible, hclean, ?_, fun id d hfits htarget => ?_⟩
  · rw [← String.toList_inj, htoList (normalize target)]
    exact hclean.normalizeChars_eq_self_iff hvisible
  · rw [htoList, htarget, hfits.normalizeChars_around]

/-- What is written around `guides/x` in `\t//guides/x/?tab#top `. -/
def tabbed : Decoration where
  front := ['\t']
  before := ['/', '/']
  behind := ['/']
  appendix := "?tab#top".toList
  back := [' ']
  front_blank := List.forall_mem_singleton.2 (by decide)
  before_slash := List.forall_mem_cons.2 ⟨rfl, List.forall_mem_singleton.2 rfl⟩
  behind_slash := List.forall_mem_singleton.2 rfl
  appendix_marked := fun c hc => by
    obtain rfl : '?' = c := Option.some.inj hc
    decide
  back_blank := List.forall_mem_singleton.2 (by decide)

theorem normalize_normalize_iff_tabbed :
    tabbed.Fits "guides/x".toList ∧
    "\t//guides/x/?tab#top ".toList = tabbed.around "guides/x".toList ∧
    (normalize "\t//guides/x/?tab#top ").toList = "guides/x".toList ∧
    normalize (normalize "\t//guides/x/?tab#top ") = normalize "\t//guides/x/?tab#top " := by
  have hfits : tabbed.Fits "guides/x".toList := by
    refine ⟨⟨?_, by decide, by decide⟩, nofun, nofun⟩
    have hchars : "guides/x".toList.all (fun c => !endsPath c) = true := by decide
    exact fun c hc => Bool.not_eq_true' _ ▸ List.all_eq_true.1 hchars c hc
  have htarget : "\t//guides/x/?tab#top ".toList = tabbed.around "guides/x".toList := by decide
  obtain ⟨-, -, hself, hnames⟩ := normalize_normalize_iff "\t//guides/x/?tab#top "
  have hid := hnames _ tabbed hfits htarget
  rw [if_neg (by decide)] at hid
  refine ⟨hfits, htarget, hid, hself.2 ?_⟩
  rw [hid]
  decide

/-- Blanks inside the slashes stay, so that the path of a page whose slug starts with a blank leads
to it. Read as a target again, such an identifier loses them. -/
theorem normalize_blank_inside :
    Identifier.resolve ⟨"a.md"⟩ ⟨[("slug", .text " a")]⟩ = " a" ∧
      normalize "/ a/" = " a" ∧ normalize (normalize "/ a/") = "a" := by
  decide +kernel

end DocCorpus.LinkTarget
