/-
  Nested asides of a minified body. A text of plain lines, fenced code and asides in asides is
  minified as it is without its asides (`minify_of_arranged`). What is left are the lines outside
  them, tidied: no line ends with blanks, and several lines of blanks outside code become one
  (`Tidied`).
-/
import DocCorpus.Proofs.Minify.Body

namespace DocCorpus.Minify

/-! ## Nested asides -/

/-- The lines between the marks of an aside: asides, and lines that neither open nor close one. -/
inductive Content : List (List Char) → Prop
  | nil : Content []
  | line {line : List Char} {rest : List (List Char)} (opens : opensAside line = false)
      (closes : closesAside line = false) (more : Content rest) : Content (line :: rest)
  | aside {opening closing : List Char} {inner rest : List (List Char)}
      (opens : opensAside opening = true) (content : Content inner)
      (closes : closesAside closing = true) (more : Content rest) :
      Content (opening :: (inner ++ closing :: rest))

/-- The lines of a text with plain lines, fenced code and asides, and those of them that stand
outside asides. -/
inductive Arranged : List (List Char) → List (List Char) → Prop
  | nil : Arranged [] []
  | plain {line : List Char} {rest kept : List (List Char)} (fence : isFence line = false)
      (opens : opensAside line = false) (more : Arranged rest kept) :
      Arranged (line :: rest) (line :: kept)
  | code {opening closing : List Char} {inner rest kept : List (List Char)}
      (fenced : Fenced opening inner closing) (more : Arranged rest kept) :
      Arranged (opening :: (inner ++ closing :: rest)) (opening :: (inner ++ closing :: kept))
  | aside {opening closing : List Char} {inner rest kept : List (List Char)}
      (opens : opensAside opening = true) (content : Content inner)
      (closes : closesAside closing = true) (more : Arranged rest kept) :
      Arranged (opening :: (inner ++ closing :: rest)) kept

variable {ls kept tidy inner rest : List (List Char)} {opening closing line : List Char}

/-- A line cannot both open and close an aside. -/
theorem not_opensAside_of_closesAside (h : closesAside line = true) :
    opensAside line = false := by
  rw [← Bool.not_eq_true, opensAside_iff]
  rintro ⟨rest, c, hrest, hhead, -⟩
  have htrim : Text.trimEnd (asideMark ++ rest) = asideMark := by
    rw [← hrest]
    exact of_decide_eq_true h
  have hlast : asideMark.getLast? = some ':' := rfl
  have hnil : Text.trimEnd rest = [] := by
    rw [Text.trimEnd, Text.dropEnd_append_of_last hlast (by decide)] at htrim
    exact List.append_cancel_left (htrim.trans (List.append_nil asideMark).symm)
  obtain ⟨w, hw, hblank⟩ := Text.exists_dropEnd_append isBlank rest
  have hrest' : rest = w := by
    rw [hw, show Text.dropEnd isBlank rest = [] from hnil]
    rfl
  rw [Text.trimStart, List.dropWhile_eq_nil_iff.2 (hrest' ▸ hblank)] at hhead
  cases hhead

theorem left_closing (h : closesAside closing = true) (outer : Nat) (rest : List (List Char)) :
    (Reading.aside outer).left (closing :: rest) = (Reading.closed outer).left rest := by
  rw [Reading.left_cons]
  simp [Reading.keeps, Reading.after, not_opensAside_of_closesAside h, h]

/-- Of what stands between the marks of an aside nothing is left, and the aside goes on. -/
theorem Content.left_append (h : Content inner) (outer : Nat) (rest : List (List Char)) :
    (Reading.aside outer).left (inner ++ rest) = (Reading.aside outer).left rest := by
  induction h generalizing outer rest with
  | nil => rfl
  | line opens closes more ih =>
    rw [List.cons_append, Reading.left_cons]
    simp [Reading.keeps, Reading.after, opens, closes, ih]
  | aside opens content closes more ih ih' =>
    rw [List.cons_append, List.append_assoc, List.cons_append, Reading.left_cons]
    simp [Reading.keeps, Reading.after, Reading.closed, opens, ih, left_closing closes, ih']

/-- What is left of a text are the lines outside its asides. -/
theorem Arranged.left_eq (h : Arranged ls kept) : Reading.text.left ls = kept := by
  induction h with
  | nil => rfl
  | plain fence opens more ih =>
    rw [Reading.left_cons]
    simp [Reading.keeps, Reading.after, fence, opens, ih]
  | code fenced more ih => rw [fenced.left_cons, ih]
  | aside opens content closes more ih =>
    rw [Reading.left_cons]
    simp [Reading.keeps, Reading.after, opens, not_isFence_of_opensAside opens,
      content.left_append, left_closing closes, Reading.closed, ih]

theorem Arranged.sublist (h : Arranged ls kept) : kept.Sublist ls := by
  rw [← h.left_eq]
  exact Reading.text.left_sublist ls

/-- The lines outside asides are a text without asides. -/
theorem Arranged.without_asides (h : Arranged ls kept) : Arranged kept kept := by
  induction h with
  | nil => exact .nil
  | plain fence opens more ih => exact .plain fence opens ih
  | code fenced more ih => exact .code fenced ih
  | aside opens content closes more ih => exact ih

section

variable {g : List Char → List Char} (hfence : ∀ line, isFence (g line) = isFence line)
  (hopens : ∀ line, opensAside (g line) = opensAside line)
  (hcloses : ∀ line, closesAside (g line) = closesAside line)

include hopens hcloses

theorem Content.map (h : Content inner) : Content (inner.map g) := by
  induction h with
  | nil => exact .nil
  | @line line rest opens closes more ih =>
    exact .line ((hopens line).trans opens) ((hcloses line).trans closes) ih
  | @aside opening closing inner rest opens content closes more ih ih' =>
    rw [List.map_cons, List.map_append, List.map_cons]
    exact .aside ((hopens opening).trans opens) ih ((hcloses closing).trans closes) ih'

include hfence

/-- What is done to lines without a change of what they mean is done to those that are kept. -/
theorem Arranged.map (h : Arranged ls kept) : Arranged (ls.map g) (kept.map g) := by
  induction h with
  | nil => exact .nil
  | @plain line rest kept fence opens more ih =>
    exact .plain ((hfence line).trans fence) ((hopens line).trans opens) ih
  | @code opening closing inner rest kept fenced more ih =>
    rw [List.map_cons, List.map_append, List.map_cons, List.map_cons, List.map_append,
      List.map_cons]
    exact .code (fenced.map hfence) ih
  | @aside opening closing inner rest kept opens content closes more ih =>
    rw [List.map_cons, List.map_append, List.map_cons]
    exact .aside ((hopens opening).trans opens) (content.map hopens hcloses)
      ((hcloses closing).trans closes) ih

end

theorem stripComments_eq_self {s : List Char} (h : ¬ commentStart <:+: s) :
    stripComments s = s := by
  have hself : mapPieces dropComments false [] (Text.pieces s) = [] ++ (Text.pieces s).flatten := by
    refine mapPieces_eq_self _ _ _ nofun fun part hpart => ?_
    rw [List.nil_append, Text.flatten_pieces] at hpart
    exact dropComments_eq_self fun hcomment => h (hcomment.start.trans hpart)
  rwa [List.nil_append, Text.flatten_pieces] at hself

/-! ## Tidied lines -/

/-- Lines, and what the passes for blanks leave of them: blanks at the ends of lines go, and of
several lines of blanks outside code one empty line is left. -/
inductive Tidied : List (List Char) → List (List Char) → Prop
  | nil : Tidied [] []
  | visible {line : List Char} {rest tidy : List (List Char)} (fence : isFence line = false)
      (shows : ∃ c ∈ line, isBlank c = false) (more : Tidied rest tidy) :
      Tidied (line :: rest) (Text.trimEnd line :: tidy)
  | code {opening closing : List Char} {inner rest tidy : List (List Char)}
      (fenced : Fenced opening inner closing) (more : Tidied rest tidy) :
      Tidied (opening :: (inner ++ closing :: rest))
        (Text.trimEnd opening :: (inner.map Text.trimEnd ++ Text.trimEnd closing :: tidy))
  | blanks {line : List Char} {gap rest tidy : List (List Char)}
      (blank : ∀ l ∈ line :: gap, ∀ c ∈ l, isBlank c = true)
      (ends : ∀ next, rest.head? = some next → ∃ c ∈ next, isBlank c = false)
      (more : Tidied rest tidy) : Tidied (line :: (gap ++ rest)) ([] :: tidy)

theorem trimEnd_of_blank (h : ∀ c ∈ line, isBlank c = true) : Text.trimEnd line = [] :=
  Text.dropEnd_append (s := []) h

theorem trimEnd_ne_nil (h : ∃ c ∈ line, isBlank c = false) : Text.trimEnd line ≠ [] := by
  obtain ⟨c, hc, hvisible⟩ := h
  exact List.ne_nil_of_mem (Text.mem_dropEnd hc hvisible)

theorem exists_visible_of_isFence (h : isFence line = true) : ∃ c ∈ line, isBlank c = false := by
  by_contra hnone
  have hblank : ∀ c ∈ line, isBlank c = true := fun c hc =>
    eq_true_of_ne_false fun hvisible => hnone ⟨c, hc, hvisible⟩
  rw [← isFence_trimEnd, trimEnd_of_blank hblank, isFence_nil] at h
  cases h

/-- Behind an empty line the next ones that are empty go. -/
theorem collapseFrom_gap {gap : List (List Char)} (h : ∀ l ∈ gap, l = [])
    (ls : List (List Char)) : collapseFrom false true (gap ++ ls) = collapseFrom false true ls := by
  induction gap with
  | nil => rfl
  | cons line gap ih =>
    obtain ⟨rfl, hgap⟩ := List.forall_mem_cons.1 h
    exact ih hgap

/-- Collapsing trimmed lines tidies them; behind an empty line this needs a visible one first. -/
theorem Tidied.collapseFrom_eq (h : Tidied ls tidy) (afterEmpty : Bool)
    (hstart : afterEmpty = true → ∀ first, ls.head? = some first →
      ∃ c ∈ first, isBlank c = false) :
    collapseFrom false afterEmpty (ls.map Text.trimEnd) = tidy := by
  induction h generalizing afterEmpty with
  | nil => rfl
  | @visible line rest tidy fence shows more ih =>
    rw [List.map_cons, collapseFrom_visible _ _ (trimEnd_ne_nil shows), isFence_trimEnd, fence,
      Bool.xor_false, ih false nofun]
  | @code opening closing inner rest tidy fenced more ih =>
    rw [List.map_cons, List.map_append, List.map_cons,
      (fenced.map isFence_trimEnd).collapseFrom_cons, ih false nofun]
  | @blanks line gap rest tidy blank ends more ih =>
    obtain ⟨hline, hgap⟩ := List.forall_mem_cons.1 blank
    have hempty : ∀ l ∈ gap.map Text.trimEnd, l = [] := by
      rintro l hl
      obtain ⟨l, hmem, rfl⟩ := List.mem_map.1 hl
      exact trimEnd_of_blank (hgap l hmem)
    cases afterEmpty with
    | true =>
      obtain ⟨c, hc, hvisible⟩ := hstart rfl line rfl
      rw [hline c hc] at hvisible
      cases hvisible
    | false =>
      rw [List.map_cons, List.map_append, trimEnd_of_blank hline, ← ih true fun _ => ends,
        ← collapseFrom_gap hempty]
      rfl

/-- A line of blanks before tidied lines opens a gap, or makes the first one longer. -/
theorem Tidied.exists_blank_cons (h : Tidied ls tidy) (hblank : ∀ c ∈ line, isBlank c = true) :
    ∃ tidy', Tidied (line :: ls) tidy' := by
  have hsingle : ∀ l ∈ [line], ∀ c ∈ l, isBlank c = true := List.forall_mem_singleton.2 hblank
  have hopen (hstart : ∀ first, ls.head? = some first → ∃ c ∈ first, isBlank c = false) :
      ∃ tidy', Tidied (line :: ls) tidy' := ⟨_, .blanks hsingle hstart h⟩
  cases h with
  | nil => exact hopen nofun
  | visible fence shows more => exact hopen fun first hfirst => Option.some.inj hfirst ▸ shows
  | code fenced more =>
    exact hopen fun first hfirst =>
      Option.some.inj hfirst ▸ exists_visible_of_isFence fenced.opens
  | blanks blank ends more =>
    rw [← List.cons_append]
    exact ⟨_, .blanks (List.forall_mem_cons.2 ⟨hblank, blank⟩) ends more⟩

/-- What is left of a text can be tidied, as its code is closed. -/
theorem Arranged.exists_tidied (h : Arranged ls kept) : ∃ tidy, Tidied kept tidy := by
  induction h with
  | nil => exact ⟨[], .nil⟩
  | @plain line rest kept fence opens more ih =>
    obtain ⟨tidy, htidy⟩ := ih
    by_cases hshows : ∃ c ∈ line, isBlank c = false
    · exact ⟨_, .visible fence hshows htidy⟩
    · exact htidy.exists_blank_cons fun c hc =>
        eq_true_of_ne_false fun hvisible => hshows ⟨c, hc, hvisible⟩
  | code fenced more ih =>
    obtain ⟨tidy, htidy⟩ := ih
    exact ⟨_, .code fenced htidy⟩
  | aside opens content closes more ih => exact ih

/-! ## The result -/

/-- Of a text without comments the lines outside asides are left. -/
theorem leftLines_of_arranged {s : List Char} (harranged : Arranged (Text.pieces s) kept)
    (hcomment : ¬ commentStart <:+: s) : leftLines s = kept.map Text.lineOf := by
  have hlines : Arranged (Text.lines s) (kept.map Text.lineOf) :=
    harranged.map isFence_lineOf opensAside_lineOf closesAside_lineOf
  unfold leftLines
  rw [stripComments_eq_self hcomment, hlines.left_eq]

/-- These lines make its minified body. -/
theorem body_of_arranged {s : List Char} (harranged : Arranged (Text.pieces s) kept)
    (hcomment : ¬ commentStart <:+: s) (htidy : Tidied (kept.map Text.lineOf) tidy) :
    body s = Text.trim (Text.unlines tidy) := by
  rw [body_eq, leftLines_of_arranged harranged hcomment, tidyLines,
    htidy.collapseFrom_eq false nofun]

/-- A text of plain lines, fenced code and nested asides, without comments, is minified as it is
without its asides: what is left before blanks are taken are the lines outside asides, and what is
left in the end are these lines tidied, without blanks at the ends of the text. -/
theorem minify_of_arranged {s : String} {kept : List (List Char)}
    (harranged : Arranged (Text.pieces s.toList) kept) (hcomment : ¬ commentStart <:+: s.toList) :
    minify s = minify (String.ofList kept.flatten) ∧
      stripAsides (stripComments s.toList) = Text.unlines (kept.map Text.lineOf) ∧
      ∃ tidy, Tidied (kept.map Text.lineOf) tidy ∧
        (minify s).toList = Text.trim (Text.unlines tidy) := by
  have hcut : Text.Cut kept := (Text.cut_pieces s.toList).sublist harranged.sublist
  have hpieces : Text.pieces kept.flatten = kept := Text.pieces_flatten hcut
  have hkept : ¬ commentStart <:+: kept.flatten := by
    have hmark : '\n' ∉ commentStart ∧ '\r' ∉ commentStart := by decide
    rw [infix_iff_lines hmark commentStart_ne_nil] at hcomment ⊢
    rintro ⟨line, hline, hinfix⟩
    refine hcomment ⟨line, ?_, hinfix⟩
    unfold Text.lines at hline ⊢
    rw [hpieces] at hline
    exact (harranged.sublist.map Text.lineOf).subset hline
  have hwithout : Arranged (Text.pieces kept.flatten) kept := by
    rw [hpieces]
    exact harranged.without_asides
  obtain ⟨tidy, htidy⟩ :=
    (harranged.map isFence_lineOf opensAside_lineOf closesAside_lineOf).exists_tidied
  have hbody := body_of_arranged harranged hcomment htidy
  refine ⟨?_, ?_, tidy, htidy, String.toList_ofList.trans hbody⟩
  · unfold minify
    rw [String.toList_ofList, hbody, body_of_arranged hwithout hkept htidy]
  · exact congrArg Text.unlines (leftLines_of_arranged harranged hcomment)

theorem minify_of_arranged_nested :
    Arranged
      (Text.pieces
        "In \n\n\t\n```\n:::a\n```\n ::: tip[A]\n```\n:::note\nx\n:::\ny\n:::\n:::\nEnd".toList)
      (["In \n", "\n", "\t\n", "```\n", ":::a\n", "```\n", ":::\n", "End"].map String.toList) ∧
    minify "In \n\n\t\n```\n:::a\n```\n ::: tip[A]\n```\n:::note\nx\n:::\ny\n:::\n:::\nEnd" =
      minify "In \n\n\t\n```\n:::a\n```\n:::\nEnd" ∧
    minify "In \n\n\t\n```\n:::a\n```\n:::\nEnd" = "In\n\n```\n:::a\n```\n:::\nEnd" := by
  have hpieces :
      Text.pieces
        "In \n\n\t\n```\n:::a\n```\n ::: tip[A]\n```\n:::note\nx\n:::\ny\n:::\n:::\nEnd".toList =
      "In \n".toList :: "\n".toList :: "\t\n".toList :: "```\n".toList ::
        ([":::a\n".toList] ++ "```\n".toList ::
        " ::: tip[A]\n".toList :: (("```\n".toList :: ":::note\n".toList :: (["x\n".toList] ++
          ":::\n".toList :: ["y\n".toList])) ++ ":::\n".toList ::
        [":::\n".toList, "End".toList])) := by
    decide +kernel
  have hcode : Fenced "```\n".toList [":::a\n".toList] "```\n".toList :=
    ⟨by decide +kernel, List.forall_mem_singleton.2 (by decide +kernel), by decide +kernel⟩
  have hinner : Content ["x\n".toList] := .line (by decide +kernel) (by decide +kernel) .nil
  have hafter : Content ["y\n".toList] := .line (by decide +kernel) (by decide +kernel) .nil
  have hcontent : Content ("```\n".toList :: ":::note\n".toList :: (["x\n".toList] ++
      ":::\n".toList :: ["y\n".toList])) :=
    .line (by decide +kernel) (by decide +kernel)
      (.aside (by decide +kernel) hinner (by decide +kernel) hafter)
  have hend : Arranged [":::\n".toList, "End".toList] [":::\n".toList, "End".toList] :=
    .plain (by decide +kernel) (by decide +kernel)
      (.plain (by decide +kernel) (by decide +kernel) .nil)
  have harranged : Arranged
      (Text.pieces
        "In \n\n\t\n```\n:::a\n```\n ::: tip[A]\n```\n:::note\nx\n:::\ny\n:::\n:::\nEnd".toList)
      (["In \n", "\n", "\t\n", "```\n", ":::a\n", "```\n", ":::\n", "End"].map
        String.toList) := by
    rw [hpieces]
    exact .plain (by decide +kernel) (by decide +kernel)
      (.plain (by decide +kernel) (by decide +kernel)
        (.plain (by decide +kernel) (by decide +kernel)
          (.code hcode (.aside (by decide +kernel) hcontent (by decide +kernel) hend))))
  have hflatten : minify (String.ofList
      (["In \n", "\n", "\t\n", "```\n", ":::a\n", "```\n", ":::\n", "End"].map
        String.toList).flatten) = minify "In \n\n\t\n```\n:::a\n```\n:::\nEnd" :=
    congrArg minify (by decide +kernel)
  exact ⟨harranged, (minify_of_arranged harranged (by decide +kernel)).1.trans hflatten,
    by decide +kernel⟩

end DocCorpus.Minify
