/-
  Targets that name documents. A text without a colon before its first slash, number sign or
  question mark is no web address (`WebAddress.isAddress_eq_false`), and what is written around the
  path of a target does not change what the path names (`LinkTarget.Bare.normalizeChars_eq`). So the
  identifier that is made from the path of a file can be linked in every form of writing it
  (`Identifier.ofPath_resolves`).
-/
import DocCorpus.LinkTarget
import DocCorpus.LlmsText.Writer
import DocCorpus.Proofs.Identifier
import DocCorpus.Proofs.Text.Trimming

namespace DocCorpus

/-! ## Texts that are no addresses -/

namespace WebAddress

/-- Whether a character ends what may be the scheme of an address. -/
def endsScheme (c : Char) : Bool := c == '/' || c == '#' || c == '?'

/-- Only letters in lower case are made of others. -/
theorem toLower_eq_self {c : Char} (h : c.toLower.toNat < 'a'.toNat) : c.toLower = c := by
  unfold Char.toLower at h ⊢
  split at h
  · next hc =>
    have hlow : 65 ≤ c.val.toNat := UInt32.le_iff_toNat_le.1 hc.1
    have hhigh : c.val.toNat ≤ 90 := UInt32.le_iff_toNat_le.1 hc.2
    have hsum : (c.val + 32).toNat = c.val.toNat + 32 := by
      rw [UInt32.toNat_add, Nat.mod_eq_of_lt]
      · rfl
      · exact Nat.lt_of_le_of_lt (Nat.add_le_add_right hhigh 32) (by decide)
    have hlt : (c.val + 32).toNat < 97 := h
    omega
  · next hc => rw [dif_neg hc]

/-- What holds of none of the three characters holds of none that ends a scheme. -/
theorem endsScheme_eq_false {P : Char → Prop} (hmarks : ¬P '/' ∧ ¬P '#' ∧ ¬P '?') {c : Char}
    (h : P c) : endsScheme c = false := by
  rw [← Bool.not_eq_true]
  intro hc
  simp only [endsScheme, Bool.or_eq_true, beq_iff_eq] at hc
  rcases hc with (rfl | rfl) | rfl
  · exact hmarks.1 h
  · exact hmarks.2.1 h
  · exact hmarks.2.2 h

theorem endsScheme_toLower {c : Char} (h : endsScheme c.toLower = false) : endsScheme c = false :=
  endsScheme_eq_false (P := fun c => endsScheme c.toLower = false) (by decide) h

/-- A scheme with its colon is read up to a colon, and nothing before it ends a scheme. -/
theorem exists_colon_of_afterScheme? {s rest : List Char} (scheme : List Char)
    (hscheme : ∀ c ∈ scheme, endsScheme c = false)
    (h : afterScheme? (scheme ++ [':']) s = some rest) :
    ∃ front, s = front ++ ':' :: rest ∧ ∀ c ∈ front, endsScheme c = false := by
  induction scheme generalizing s with
  | nil =>
    match s with
    | [] => cases h
    | c :: s =>
      rw [List.nil_append, afterScheme?] at h
      split at h
      · next hc =>
        have hcolon : c = ':' := by
          rw [← toLower_eq_self (hc ▸ by decide : c.toLower.toNat < 'a'.toNat), ← hc]
        obtain rfl := Option.some.inj h
        exact ⟨[], by rw [hcolon]; rfl, nofun⟩
      · cases h
  | cons a scheme ih =>
    match s with
    | [] => cases h
    | c :: s =>
      rw [List.cons_append, afterScheme?] at h
      split at h
      · next hc =>
        obtain ⟨ha, hscheme⟩ := List.forall_mem_cons.1 hscheme
        obtain ⟨front, rfl, hfront⟩ := ih hscheme h
        have hends : endsScheme c = false := endsScheme_toLower (hc ▸ ha)
        exact ⟨c :: front, rfl, List.forall_mem_cons.2 ⟨hends, hfront⟩⟩
      · cases h

/-- Characters that are passed over do not end a scheme. -/
theorem exists_colon_of_filter {s front rest : List Char} {p : Char → Bool}
    (hp : ∀ c, p c = false → endsScheme c = false)
    (hs : s.filter p = front ++ ':' :: rest) (hfront : ∀ c ∈ front, endsScheme c = false) :
    ∃ front back, s = front ++ ':' :: back ∧ ∀ c ∈ front, endsScheme c = false := by
  obtain ⟨head, tail, rfl, hhead, htail⟩ := List.filter_eq_append_iff.1 hs
  obtain ⟨passed, back, rfl, hpassed, -, -⟩ := List.filter_eq_cons_iff.1 htail
  refine ⟨head ++ passed, back, (List.append_assoc ..).symm, List.forall_mem_append.2 ⟨?_, ?_⟩⟩
  · intro c hc
    by_cases hpc : p c = true
    · exact hfront c (hhead ▸ List.mem_filter.2 ⟨hc, hpc⟩)
    · exact hp c (Bool.not_eq_true _ ▸ hpc)
  · intro c hc
    exact hp c (Bool.not_eq_true _ ▸ hpassed c hc)

/-- A text with an authority has a colon, and no character before it ends a scheme. -/
theorem exists_colon_of_authority? {s authority : List Char} (h : authority? s = some authority) :
    ∃ front back, s = front ++ ':' :: back ∧ ∀ c ∈ front, endsScheme c = false := by
  have hcontrol : ∀ c : Char, c.toNat ≤ 0x20 → endsScheme c = false := fun c =>
    endsScheme_eq_false (P := fun c => c.toNat ≤ 0x20) (by decide)
  have hskipped : ∀ c : Char, (!isSkipped c) = false → endsScheme c = false := fun c =>
    endsScheme_eq_false (P := fun c => (!isSkipped c) = false) (by decide)
  obtain ⟨w, w', hs, hw, -⟩ := Text.exists_strip_append (fun c => c.toNat ≤ 0x20) s
  obtain ⟨rest, hrest, -⟩ := Option.map_eq_some_iff.1 h
  rw [Option.or_eq_some_iff] at hrest
  generalize Text.strip (fun c => decide (c.toNat ≤ 0x20)) s = inner at hs hrest
  have hscheme : ∃ front, inner.filter (fun c => !isSkipped c) = front ++ ':' :: rest ∧
      ∀ c ∈ front, endsScheme c = false := by
    rcases hrest with hhttps | ⟨-, hhttp⟩
    · exact exists_colon_of_afterScheme? "https".toList (by simp [endsScheme]) hhttps
    · exact exists_colon_of_afterScheme? "http".toList (by simp [endsScheme]) hhttp
  obtain ⟨front, hfilter, hfront⟩ := hscheme
  obtain ⟨front, back, rfl, hfront⟩ := exists_colon_of_filter hskipped hfilter hfront
  refine ⟨w ++ front, back ++ w', ?_, List.forall_mem_append.2 ⟨?_, hfront⟩⟩
  · rw [hs, List.append_assoc, List.append_assoc, List.append_assoc, List.cons_append]
  · exact fun c hc => hcontrol c (of_decide_eq_true (hw c hc))

/-- A text without a colon before the first character that ends a scheme is no address. -/
theorem isAddress_eq_false {s : List Char} (h : ':' ∉ s.takeWhile fun c => !endsScheme c) :
    isAddress s = false := by
  unfold isAddress
  cases hauthority : authority? s with
  | none => rfl
  | some authority =>
    obtain ⟨front, back, rfl, hfront⟩ := exists_colon_of_authority? hauthority
    apply absurd _ h
    rw [List.takeWhile_append_of_pos fun c hc => by rw [hfront c hc]; rfl]
    exact List.mem_append_right _ List.mem_cons_self

end WebAddress

/-! ## Decorated paths -/

namespace LinkTarget

/-- Whether a character starts a fragment or a query. -/
def endsPath (c : Char) : Bool := c == '#' || c == '?'

/-- Nothing, or a fragment or a query: what may follow the path of a target. -/
def Appendix (s : List Char) : Prop := ∀ c, s.head? = some c → endsPath c = true

/-- A path without blanks at its ends, a fragment or a query. -/
structure Bare (path : List Char) : Prop where
  visible : path ≠ []
  trimmed : Text.trim path = path
  chars : ∀ c ∈ path, endsPath c = false

variable {path front appendix back : List Char}

theorem Appendix.nil : Appendix [] := nofun

theorem Appendix.trimEnd (h : Appendix appendix) : Appendix (Text.trimEnd appendix) :=
  fun c hc => h c (Text.dropEnd_head hc)

/-- What stops at a fragment or a query does not go on after the path. -/
theorem Appendix.takeWhile_append (h : Appendix appendix) {p : Char → Bool}
    (hp : ∀ c, endsPath c = true → p c = false) :
    (path ++ appendix).takeWhile p = path.takeWhile p := by
  have hnone : appendix.takeWhile p = [] := by
    cases appendix with
    | nil => rfl
    | cons c rest =>
      have hstop : ¬p c = true := Bool.not_eq_true _ ▸ hp c (h c rfl)
      rw [List.takeWhile_cons_of_neg hstop]
  rw [List.takeWhile_append, hnone, List.append_nil]
  split
  · next hall => rw [List.IsPrefix.eq_of_length (List.takeWhile_prefix p) hall]
  · rfl

theorem bare_of_chars (hvisible : path ≠ [])
    (h : ∀ c ∈ path, isBlank c = false ∧ endsPath c = false) : Bare path where
  visible := hvisible
  trimmed := Text.strip_eq_self (fun c hc => (h c (List.mem_of_head? hc)).1)
    (fun c hc => (h c (List.mem_of_getLast? hc)).1)
  chars c hc := (h c hc).2

/-- Of what is written around a path, trimming leaves a fragment or a query. -/
theorem Bare.exists_trim (hpath : Bare path) (hfront : ∀ c ∈ front, isBlank c = true)
    (happendix : Appendix appendix) (hback : ∀ c ∈ back, isBlank c = true) :
    ∃ rest, Appendix rest ∧ Text.trim (front ++ path ++ appendix ++ back) = path ++ rest := by
  refine ⟨Text.trimEnd appendix, happendix.trimEnd, ?_⟩
  have hlast := List.getLast?_eq_some_getLast hpath.visible
  have hstart : (path ++ appendix).dropWhile isBlank = path ++ appendix := by
    refine Text.dropWhile_eq_self fun c hc => ?_
    rw [List.head?_append, List.head?_eq_some_head hpath.visible, Option.some_or] at hc
    apply Text.head_trim (s := path)
    rw [hpath.trimmed, List.head?_eq_some_head hpath.visible, hc]
  have hend : isBlank (path.getLast hpath.visible) = false := by
    apply Text.last_trim (s := path)
    rw [hpath.trimmed]
    exact hlast
  unfold Text.trim
  rw [Text.strip_append hback, List.append_assoc, Text.append_strip hfront, Text.strip, hstart,
    Text.dropEnd_append_of_last hlast hend]
  rfl

/-- What a path names: the text between the slashes at its ends, or the index if there is none. -/
theorem Bare.normalizeChars_decorated (hpath : Bare path) (hfront : ∀ c ∈ front, isBlank c = true)
    (happendix : Appendix appendix) (hback : ∀ c ∈ back, isBlank c = true) :
    normalizeChars (front ++ path ++ appendix ++ back) =
      match Identifier.normalizeChars path with
      | [] => "index".toList
      | id => id := by
  obtain ⟨rest, hrest, htrim⟩ := hpath.exists_trim hfront happendix hback
  have hbefore : Text.before endsPath (path ++ rest) = path := by
    unfold Text.before
    rw [hrest.takeWhile_append fun c hc => by rw [hc]; rfl, List.takeWhile_eq_self_iff]
    intro c hc
    rw [hpath.chars c hc]
    rfl
  unfold normalizeChars
  rw [htrim]
  change (match Identifier.normalizeChars (Text.before endsPath (path ++ rest)) with
    | [] => "index".toList
    | id => id) = _
  rw [hbefore]

theorem Bare.normalizeChars_path (hpath : Bare path) :
    normalizeChars path =
      match Identifier.normalizeChars path with
      | [] => "index".toList
      | id => id := by
  have hbare : normalizeChars ([] ++ path ++ [] ++ []) = _ :=
    hpath.normalizeChars_decorated nofun .nil nofun
  rw [List.nil_append, List.append_nil, List.append_nil] at hbare
  exact hbare

theorem Bare.normalizeChars_eq_id (hpath : Bare path) {id : List Char} (hvisible : id ≠ [])
    (hid : Identifier.normalizeChars path = id) : normalizeChars path = id := by
  obtain ⟨c, rest, rfl⟩ := List.exists_cons_of_ne_nil hvisible
  rw [hpath.normalizeChars_path, hid]

/-- What is written around a path does not change what it names. -/
theorem Bare.normalizeChars_eq (hpath : Bare path) (hfront : ∀ c ∈ front, isBlank c = true)
    (happendix : Appendix appendix) (hback : ∀ c ∈ back, isBlank c = true) :
    normalizeChars (front ++ path ++ appendix ++ back) = normalizeChars path := by
  rw [hpath.normalizeChars_decorated hfront happendix hback, hpath.normalizeChars_path]

/-- A path without a colon is no address, whatever is written around it. -/
theorem Bare.not_isAddress (hpath : Bare path) (hcolon : ':' ∉ path)
    (hfront : ∀ c ∈ front, isBlank c = true) (happendix : Appendix appendix)
    (hback : ∀ c ∈ back, isBlank c = true) :
    WebAddress.isAddress (Text.trim (front ++ path ++ appendix ++ back)) = false := by
  obtain ⟨rest, hrest, htrim⟩ := hpath.exists_trim hfront happendix hback
  have hstops : ∀ c, endsPath c = true → (!WebAddress.endsScheme c) = false := by
    intro c hc
    unfold WebAddress.endsScheme
    rw [Bool.or_assoc, show (c == '#' || c == '?') = true from hc, Bool.or_true]
    rfl
  rw [htrim]
  apply WebAddress.isAddress_eq_false
  rw [hrest.takeWhile_append hstops]
  exact fun hmem => hcolon ((List.takeWhile_prefix _).subset hmem)

/-- A target with a path that names a known document resolves to it. -/
theorem resolve?_eq_document {known : List String} {id target : String} (hpath : Bare path)
    (hcolon : ':' ∉ path) (hid : normalizeChars path = id.toList) (hknown : id ∈ known)
    (hfront : ∀ c ∈ front, isBlank c = true) (happendix : Appendix appendix)
    (hback : ∀ c ∈ back, isBlank c = true)
    (htarget : target.toList = front ++ path ++ appendix ++ back) :
    resolve? known target = some (.document id) := by
  have hexternal : isExternal target = false := by
    unfold isExternal
    rw [htarget]
    exact hpath.not_isAddress hcolon hfront happendix hback
  have hnormal : normalize target = id := by
    unfold normalize
    rw [htarget, hpath.normalizeChars_eq hfront happendix hback, hid, String.ofList_toList]
  unfold resolve?
  rw [hexternal, hnormal]
  simp [hknown]

end LinkTarget

/-! ## Identifiers of files -/

namespace Identifier

open LinkTarget (Bare Appendix)

variable {relative : Path} {id path : String}

/-- The ways to write the path to a document. -/
def writtenPaths (id : String) : List String :=
  [id, "/" ++ id, "/" ++ id ++ "/", LlmsText.documentUrl "" id]

/-- A written path is the identifier with slashes around it, or the lone slash of the index. -/
theorem writtenPaths_cases (h : path ∈ writtenPaths id) :
    (∃ w w', path.toList = w ++ id.toList ++ w' ∧ (∀ c ∈ w, c = '/') ∧ ∀ c ∈ w', c = '/') ∨
      path.toList = ['/'] ∧ id = "index" := by
  have hone : ∀ c ∈ ['/'], c = '/' := fun c hc => List.mem_singleton.1 hc
  have hboth : ("/" ++ id ++ "/").toList = ['/'] ++ id.toList ++ ['/'] := by
    rw [String.toList_append, String.toList_append]
    rfl
  unfold writtenPaths at h
  simp only [List.mem_cons, List.not_mem_nil, or_false] at h
  rcases h with rfl | rfl | rfl | rfl
  · exact .inl ⟨[], [], by rw [List.nil_append, List.append_nil], nofun, nofun⟩
  · refine .inl ⟨['/'], [], ?_, hone, nofun⟩
    rw [String.toList_append, List.append_nil]
    rfl
  · exact .inl ⟨['/'], ['/'], hboth, hone, hone⟩
  · unfold LlmsText.documentUrl
    split
    · next hindex => exact .inr ⟨rfl, hindex⟩
    · rw [String.empty_append]
      exact .inl ⟨['/'], ['/'], hboth, hone, hone⟩

/-- A written path to a file holds the characters of its identifier and slashes. -/
theorem mem_writtenPath (hpath : path ∈ writtenPaths (ofPath relative)) {c : Char}
    (hc : c ∈ path.toList) : c = '/' ∨ c ∈ (ofPath relative).toList := by
  rcases writtenPaths_cases hpath with ⟨w, w', hwritten, hw, hw'⟩ | ⟨hslash, -⟩
  · rw [hwritten, List.mem_append, List.mem_append] at hc
    rcases hc with (hc | hc) | hc
    · exact .inl (hw c hc)
    · exact .inr hc
    · exact .inl (hw' c hc)
  · rw [hslash] at hc
    exact .inl (List.mem_singleton.1 hc)

theorem bare_writtenPath (hpath : path ∈ writtenPaths (ofPath relative)) : Bare path.toList := by
  apply LinkTarget.bare_of_chars
  · rcases writtenPaths_cases hpath with ⟨w, w', hwritten, -⟩ | ⟨hslash, -⟩
    · intro hnil
      rw [hwritten, List.append_eq_nil_iff, List.append_eq_nil_iff] at hnil
      exact ofPath_ne_empty relative (String.toList_eq_nil_iff.1 hnil.1.2)
    · rw [hslash]
      exact List.cons_ne_nil _ _
  · intro c hc
    rcases mem_writtenPath hpath hc with rfl | hc
    · decide
    · have hfragment : c ≠ '#' :=
        ne_of_mem_of_not_mem hc (not_mem_ofPath (by decide) (by decide) relative)
      have hquery : c ≠ '?' :=
        ne_of_mem_of_not_mem hc (not_mem_ofPath (by decide) (by decide) relative)
      exact ⟨not_blank_of_mem_ofPath hc, by simp [LinkTarget.endsPath, hfragment, hquery]⟩

theorem normalizeChars_writtenPath (hpath : path ∈ writtenPaths (ofPath relative)) :
    LinkTarget.normalizeChars path.toList = (ofPath relative).toList := by
  rcases writtenPaths_cases hpath with ⟨w, w', hwritten, hw, hw'⟩ | ⟨hslash, hindex⟩
  · apply (bare_writtenPath hpath).normalizeChars_eq_id
      (mt String.toList_eq_nil_iff.1 (ofPath_ne_empty relative))
    have hnormal := normalizeChars_toList (normalize_ofPath relative)
    unfold normalizeChars at hnormal ⊢
    rw [hwritten, Text.strip_append fun c hc => decide_eq_true (hw' c hc),
      Text.append_strip fun c hc => decide_eq_true (hw c hc), hnormal]
  · rw [(bare_writtenPath hpath).normalizeChars_path, hslash, hindex]
    rfl

/-- The identifier of a file is not empty, has no slashes at its ends and no empty parts, and is
made of alphanumeric characters, hyphens, dots and slashes. If it is known, every way to write it
as a path, with blanks around and a fragment or a query after it, leads to the document. -/
theorem ofPath_resolves (relative : Path) :
    ofPath relative ≠ "" ∧
    (ofPath relative).toList.head? ≠ some '/' ∧ (ofPath relative).toList.getLast? ≠ some '/' ∧
    [] ∉ (ofPath relative).toList.splitOn '/' ∧
    (∀ c ∈ (ofPath relative).toList, isAlphanumeric c = true ∨ c = '-' ∨ c = '.' ∨ c = '/') ∧
    ∀ known : List String, ofPath relative ∈ known →
      ∀ path ∈ [ofPath relative, "/" ++ ofPath relative, "/" ++ ofPath relative ++ "/",
        LlmsText.documentUrl "" (ofPath relative)],
      ∀ front appendix back : String, (∀ c ∈ front.toList, isBlank c = true) →
        (appendix = "" ∨ appendix.toList.head? = some '#' ∨ appendix.toList.head? = some '?') →
        (∀ c ∈ back.toList, isBlank c = true) →
        LinkTarget.resolve? known (front ++ path ++ appendix ++ back) =
          some (.document (ofPath relative)) := by
  refine ⟨ofPath_ne_empty relative, head_ne_slash (normalize_ofPath relative),
    last_ne_slash (normalize_ofPath relative), ?_, ?_, ?_⟩
  · unfold ofPath
    rw [String.toList_ofList]
    exact nil_not_mem_splitOn _
  · intro c hc
    rcases mem_ofPath_cases hc with h | h | h | h
    · exact .inr (.inr (.inr h))
    · exact .inl h
    · exact .inr (.inl h)
    · exact .inr (.inr (.inl h))
  · intro known hknown path hpath front appendix back hfront happendix hback
    have hcolon : ':' ∉ path.toList := by
      intro hmem
      rcases mem_writtenPath hpath hmem with h | h
      · cases h
      · exact not_mem_ofPath (by decide) (by decide) relative h
    have hends : Appendix appendix.toList := by
      intro c hc
      rcases happendix with rfl | hfragment | hquery
      · cases hc
      · rw [← Option.some.inj (hfragment.symm.trans hc)]
        rfl
      · rw [← Option.some.inj (hquery.symm.trans hc)]
        rfl
    apply LinkTarget.resolve?_eq_document (bare_writtenPath hpath) hcolon
      (normalizeChars_writtenPath hpath) hknown hfront hends hback
    rw [String.toList_append, String.toList_append, String.toList_append]

theorem ofPath_resolves_written :
    (ofPath ⟨"guides/Adding_Steps.v2.md"⟩ = "guides/adding-steps.v2" ∧
      LinkTarget.resolve? ["guides/adding-steps.v2"]
          (" \n" ++ ("/" ++ "guides/adding-steps.v2" ++ "/") ++ "?q=a:b#c d" ++ "\t") =
        some (.document "guides/adding-steps.v2")) ∧
    ofPath ⟨"index.md"⟩ = "index" ∧
      LinkTarget.resolve? ["index"] ("" ++ LlmsText.documentUrl "" "index" ++ "#top" ++ " ") =
        some (.document "index") := by
  have hsteps : ofPath ⟨"guides/Adding_Steps.v2.md"⟩ = "guides/adding-steps.v2" := by decide +kernel
  have hindex : ofPath ⟨"index.md"⟩ = "index" := by decide +kernel
  obtain ⟨-, -, -, -, -, hresolves⟩ := ofPath_resolves ⟨"guides/Adding_Steps.v2.md"⟩
  obtain ⟨-, -, -, -, -, hresolvesIndex⟩ := ofPath_resolves ⟨"index.md"⟩
  rw [hsteps] at hresolves
  rw [hindex] at hresolvesIndex
  refine ⟨⟨hsteps, ?_⟩, hindex, ?_⟩
  · exact hresolves _ List.mem_cons_self _ (List.mem_of_getElem? (i := 2) rfl) " \n" "?q=a:b#c d"
      "\t" (List.all_eq_true.1 (by decide)) (.inr (.inr (by decide)))
      (List.all_eq_true.1 (by decide))
  · exact hresolvesIndex _ List.mem_cons_self _ (List.mem_of_getElem? (i := 3) rfl) "" "#top" " "
      (List.all_eq_true.1 (by decide)) (.inr (.inl (by decide))) (List.all_eq_true.1 (by decide))

end Identifier
end DocCorpus
