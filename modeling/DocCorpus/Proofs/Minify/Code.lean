/-
  Fenced code of a minified body. The pass that takes comments counts every fence, the one that
  takes asides only those outside asides. So code is kept, whatever stands in it and behind it,
  exactly behind a text with an even number of fences that ends outside asides and code
  (`holdsCode_iff`).
-/
import DocCorpus.Proofs.Minify.Body

namespace DocCorpus.Minify

variable {s front opening closing : List Char} {inner back : List (List Char)}

/-! ## Code that is kept -/

theorem wholeLines_stripComments (h : Text.WholeLines s) : Text.WholeLines (stripComments s) :=
  wholeLines_mapPieces (fun _ => wholeLines_dropComments) Text.wholeLines_nil false
    fun _ => Text.wholeLines_of_mem_pieces h

/-- Taking comments keeps code behind an even number of fences. -/
theorem pieces_stripComments (hcode : Fenced opening inner closing)
    (hfront : Text.WholeLines front) (houtside : codeAfter false (Text.pieces front) = false)
    (hs : Text.pieces s = Text.pieces front ++ opening :: (inner ++ closing :: back)) :
    Text.pieces (stripComments s) = Text.pieces (stripComments front) ++
      opening :: (inner ++ closing :: Text.pieces (mapPieces dropComments false [] back)) := by
  have hcut : Text.Cut (opening :: (inner ++ closing :: back)) :=
    (Text.cut_pieces s).sublist (hs ▸ List.sublist_append_right _ _)
  have hcut' : Text.Cut (inner ++ closing :: back) := hcut.sublist (List.sublist_cons_self _ _)
  have hwhole : Text.WholeLines (stripComments front) := wholeLines_stripComments hfront
  unfold stripComments mapOutsideCode at hwhole ⊢
  rw [hs, mapPieces_append_fence _ houtside hcode.opens, Text.pieces_append hwhole,
    pieces_append_mapPieces dropComments_nil hcut,
    pieces_mapPieces_code dropComments_nil hcode.one hcode.closes hcut']

/-- Code stands in lines as it is, but for the blanks at the ends of its lines and those before the
first line of all. -/
def HoldsCode (ls : List (List Char)) (opening : List Char) (inner : List (List Char))
    (closing : List Char) : Prop :=
  ∃ above below, ls = (above ++ Text.trimEnd opening ::
    (inner.map Text.trimEnd ++ Text.trimEnd closing :: below)).modifyHead Text.trimStart

theorem HoldsCode.mem_inner {ls : List (List Char)} {line : List Char}
    (h : HoldsCode ls opening inner closing) (hline : line ∈ inner) : Text.trimEnd line ∈ ls := by
  obtain ⟨above, below, rfl⟩ := h
  have hmem : Text.trimEnd line ∈ inner.map Text.trimEnd ++ Text.trimEnd closing :: below :=
    List.mem_append_left _ (List.mem_map_of_mem hline)
  cases above with
  | nil => exact List.mem_cons_of_mem _ hmem
  | cons first above =>
    exact List.mem_cons_of_mem _ (List.mem_append_right _ (List.mem_cons_of_mem _ hmem))

/-- Of code that is outside asides and other code every line is left. -/
theorem exists_leftLines_append (hcode : Fenced opening inner closing)
    (hfront : Text.WholeLines front) (houtside : codeAfter false (Text.pieces front) = false)
    (htext : Reading.ofLines (Text.lines (stripComments front)) = .text)
    (hs : Text.pieces s = Text.pieces front ++ opening :: (inner ++ closing :: back)) :
    ∃ rest, leftLines s = leftLines front ++
      Text.lineOf opening :: (inner.map Text.lineOf ++ Text.lineOf closing :: rest) := by
  have hpieces := pieces_stripComments hcode hfront houtside hs
  generalize Text.pieces (mapPieces dropComments false [] back) = rest at hpieces
  have hlines : Text.lines (stripComments s) = Text.lines (stripComments front) ++
      Text.lineOf opening ::
        (inner.map Text.lineOf ++ Text.lineOf closing :: rest.map Text.lineOf) := by
    unfold Text.lines
    rw [hpieces]
    simp only [List.map_append, List.map_cons]
  refine ⟨Reading.text.left (rest.map Text.lineOf), ?_⟩
  unfold leftLines
  rw [hlines, Reading.left_append, ← (hcode.map isFence_lineOf).left_cons]
  exact congrArg (fun r : Reading => _ ++ r.left _) htext

/-- Of code behind lines that end outside code every line is kept, but for the blanks at its end. -/
theorem Fenced.exists_tidyLines_append (h : Fenced opening inner closing)
    {ls : List (List Char)} (houtside : codeAfter false ls = false) (rest : List (List Char)) :
    ∃ below, tidyLines (ls ++ opening :: (inner ++ closing :: rest)) =
      tidyLines ls ++ Text.trimEnd opening ::
        (inner.map Text.trimEnd ++ Text.trimEnd closing :: below) := by
  have hkept : codeAfter false (ls.map Text.trimEnd) = false :=
    (codeAfter_map isFence_trimEnd false ls).trans houtside
  unfold tidyLines
  rw [List.map_append]
  obtain ⟨afterEmpty, hsplit⟩ := collapseFrom_append false false (ls.map Text.trimEnd) _
  rw [hsplit, hkept, List.map_cons, List.map_append, List.map_cons,
    (h.map isFence_trimEnd).collapseFrom_cons]
  exact ⟨_, rfl⟩

/-- Code behind an even number of fences, outside asides and other code, is kept behind what is
left of the text before it. -/
theorem exists_lines_body_eq (hcode : Fenced opening inner closing)
    (hfront : Text.WholeLines front) (houtside : codeAfter false (Text.pieces front) = false)
    (htext : Reading.ofLines (Text.lines (stripComments front)) = .text)
    (hs : Text.pieces s = Text.pieces front ++ opening :: (inner ++ closing :: back)) :
    ∃ below, Text.lines (body s) =
      ((tidyLines (leftLines front)).dropWhile List.isEmpty ++ Text.trimEnd opening ::
        (inner.map Text.trimEnd ++ Text.trimEnd closing :: below)).modifyHead Text.trimStart := by
  obtain ⟨rest, hleft⟩ := exists_leftLines_append hcode hfront houtside htext hs
  have hkept : codeAfter false (leftLines front) = false :=
    (Reading.text.codeAfter_left _).trans (congrArg Reading.inCode htext)
  obtain ⟨more, htidy⟩ := (hcode.map isFence_lineOf).exists_tidyLines_append hkept rest
  simp only [List.map_map, Function.comp_def, Text.trimEnd_lineOf] at htidy
  have htrim := hcode.map isFence_trimEnd
  rw [lines_body, bodyLines, hleft, htidy, trimLines_append (ne_nil_of_isFence htrim.opens)
    (ne_nil_of_isFence htrim.closes)]
  exact ⟨_, rfl⟩

/-! ## Code that is changed -/

/-- A line that opens an aside and holds a comment. -/
def asideComment (n : Nat) : List Char :=
  [':', ':', ':', 'a'] ++ (commentStart ++ (List.replicate n 'x' ++ (commentEnd ++ ['\n'])))

def fenceLine : List Char := fenceMark ++ ['\n']

theorem opensAside_asideComment (n : Nat) : opensAside (asideComment n) = true := rfl

theorem fenced_asideComment (n : Nat) : Fenced fenceLine [asideComment n] fenceLine :=
  ⟨by decide, List.forall_mem_singleton.2 (not_isFence_of_opensAside (opensAside_asideComment n)),
    by decide⟩

theorem dropComments_asideComment (n : Nat) :
    dropComments (asideComment n) = [':', ':', ':', 'a', '\n'] := by
  unfold asideComment
  rw [dropComments_append (by decide) (fun h => ?_) (by decide)]
  · rfl
  · have hx := List.eq_of_mem_replicate h
    cases hx

theorem exists_asideComment_eq (n : Nat) :
    ∃ text, asideComment n = text ++ ['\n'] ∧ '\n' ∉ text ∧ text.getLast? = some '>' ∧
      n < text.length := by
  refine ⟨[':', ':', ':', 'a'] ++ (commentStart ++ (List.replicate n 'x' ++ commentEnd)), ?_, ?_,
    ?_, ?_⟩
  · unfold asideComment
    simp only [List.append_assoc]
  · simp [commentStart, commentEnd]
  · simp [commentEnd, List.getLast?_cons, List.getLast?_append]
  · simp [commentEnd]
    omega

theorem pieces_append_asideComment (hfront : Text.WholeLines front) (n : Nat) :
    Text.pieces (front ++ (fenceLine ++ (asideComment n ++ fenceLine))) =
      Text.pieces front ++ [fenceLine, asideComment n, fenceLine] := by
  obtain ⟨text, heq, hone, -, -⟩ := exists_asideComment_eq n
  have hfence : Text.WholeLines fenceLine := Text.wholeLines_concat fenceMark
  rw [Text.pieces_append hfront, Text.pieces_append hfence, heq,
    Text.pieces_append (Text.wholeLines_concat text), Text.pieces_cons hone]
  rfl

theorem lt_length_trimEnd_asideComment (n : Nat) :
    n < (Text.trimEnd (asideComment n)).length := by
  obtain ⟨text, heq, -, hlast, hlength⟩ := exists_asideComment_eq n
  have hvisible : isBlank '>' = false := by decide
  unfold Text.trimEnd
  rw [heq, Text.dropEnd_append_of_last hlast hvisible, List.length_append]
  exact Nat.lt_add_right _ hlength

/-- In code that is taken for text, since the fences before it do not go by pairs, the comment is
taken. -/
theorem stripComments_asideComment {n : Nat}
    (hs : Text.pieces s = Text.pieces front ++ [fenceLine, asideComment n, fenceLine])
    (hinside : codeAfter false (Text.pieces front) = true) :
    stripComments s = stripComments front ++
      (fenceLine ++ ([':', ':', ':', 'a', '\n'] ++ fenceLine)) := by
  have hcode := fenced_asideComment n
  have hone := hcode.one _ List.mem_cons_self
  unfold stripComments mapOutsideCode
  rw [hs, mapPieces_append_code _ dropComments_nil hinside, mapPieces_inCode, hcode.opens,
    Bool.not_true, mapPieces_line _ _ hone, mapPieces_fence _ _ hcode.closes, List.nil_append,
    dropComments_asideComment, mapPieces, dropComments_nil, List.append_nil]

/-- In code that is not read as code the line is taken, since it opens an aside. -/
theorem mem_left_of_ne_text {r : Reading} (hr : r ≠ .text) {line : List Char} (n : Nat)
    (h : line ∈ r.left ([fenceLine, asideComment n, fenceLine].map Text.lineOf)) :
    line = fenceMark := by
  have hfence : Text.lineOf fenceLine = fenceMark := rfl
  have hopens : opensAside (Text.lineOf (asideComment n)) = true :=
    (opensAside_lineOf _).trans (opensAside_asideComment n)
  have hmark : isFence fenceMark = true := by decide
  have hmark' : opensAside fenceMark = false := not_opensAside_of_isFence hmark
  have hmark'' : closesAside fenceMark = false := by decide
  simp only [List.map_cons, List.map_nil, hfence, Reading.left_cons] at h
  cases r with
  | text => exact absurd rfl hr
  | code =>
    simpa [Reading.keeps, Reading.after, Reading.left_nil, hmark, hopens,
      not_isFence_of_opensAside hopens] using h
  | aside outer =>
    simp [Reading.keeps, Reading.after, Reading.left_nil, hmark', hmark'', hopens] at h

theorem length_stripComments_le (s : List Char) : (stripComments s).length ≤ s.length := by
  have hle := length_mapPieces_le dropComments [] length_dropComments_le false (Text.pieces s)
  rwa [Text.flatten_pieces, List.length_nil, Nat.zero_add] at hle

theorem length_le_of_mem_left {r : Reading} {line : List Char}
    (h : line ∈ r.left (Text.lines s)) : line.length ≤ s.length :=
  (Text.infix_of_mem_lines ((r.left_sublist _).subset h)).length_le

/-- The line is not left as it is where the fences before it do not go by pairs, or an aside or code
is open. -/
theorem length_le_of_mem_leftLines {n : Nat} (hfront : Text.WholeLines front)
    (hs : Text.pieces s = Text.pieces front ++ [fenceLine, asideComment n, fenceLine])
    (hbroken : codeAfter false (Text.pieces front) = false →
      Reading.ofLines (Text.lines (stripComments front)) ≠ .text)
    {line : List Char} (hline : line ∈ leftLines s) : line.length ≤ front.length + 13 := by
  have hlength := length_stripComments_le front
  unfold leftLines at hline
  cases hparity : codeAfter false (Text.pieces front) with
  | true =>
    have hle := length_le_of_mem_left hline
    rw [stripComments_asideComment hs hparity] at hle
    simp only [fenceLine, fenceMark, List.length_append, List.length_cons, List.length_nil] at hle
    omega
  | false =>
    have hpieces := pieces_stripComments (fenced_asideComment n) hfront hparity hs
    have hlines : Text.lines (stripComments s) = Text.lines (stripComments front) ++
        [fenceLine, asideComment n, fenceLine].map Text.lineOf := by
      unfold Text.lines
      rw [hpieces, mapPieces, dropComments_nil, ← List.map_append]
      rfl
    rw [hlines, Reading.left_append] at hline
    rcases List.mem_append.1 hline with hline | hline
    · exact (length_le_of_mem_left hline).trans (hlength.trans (Nat.le_add_right _ _))
    · obtain rfl := mem_left_of_ne_text (hbroken hparity) n hline
      simp [fenceMark]

/-- Behind whole lines all code is kept, whatever stands in it and behind it, exactly if they have
an even number of fences, those in asides included, and end outside asides and code once their
comments are taken. -/
theorem holdsCode_iff (hfront : Text.WholeLines front) :
    (∀ (s : String) (opening closing : List Char) (inner back : List (List Char)),
      Fenced opening inner closing →
      Text.pieces s.toList = Text.pieces front ++ opening :: (inner ++ closing :: back) →
      HoldsCode (Text.lines (minify s).toList) opening inner closing) ↔
    Even ((Text.lines front).countP isFence) ∧
      Reading.ofLines (Text.lines (stripComments front)) = .text := by
  have hparity : codeAfter false (Text.pieces front) = false ↔
      Even ((Text.lines front).countP isFence) := by
    rw [← codeAfter_eq_iff false, Text.lines, codeAfter_map isFence_lineOf]
  rw [← hparity]
  constructor
  · intro h
    by_contra hbroken
    -- The line is too long to be one of the lines that are left of what stands before it.
    have hpieces := pieces_append_asideComment hfront (front.length + 13)
    have hcode := fenced_asideComment (front.length + 13)
    have hholds := h (String.ofList _) _ _ _ [] hcode (by rw [String.toList_ofList]; exact hpieces)
    unfold minify at hholds
    rw [String.toList_ofList, String.toList_ofList] at hholds
    have hmem := hholds.mem_inner List.mem_cons_self
    obtain ⟨line, hline, hinfix⟩ := (thinned_body _).exists_mem hmem
    have hle := length_le_of_mem_leftLines hfront hpieces
      (fun hparity htext => hbroken ⟨hparity, htext⟩) hline
    have hlt := lt_length_trimEnd_asideComment (front.length + 13)
    have hinfix := hinfix.length_le
    omega
  · rintro ⟨houtside, htext⟩ s opening closing inner back hcode hs
    unfold minify
    rw [String.toList_ofList]
    obtain ⟨below, hbelow⟩ := exists_lines_body_eq hcode hfront houtside htext hs
    exact ⟨_, below, hbelow⟩

theorem holdsCode_iff_mixed :
    Text.WholeLines "a <!-- ::: -->\n```\nx\n```\n:::note\n:::\n".toList ∧
    HoldsCode (Text.lines (minify
      "a <!-- ::: -->\n```\nx\n```\n:::note\n:::\n  ``` \n\n\n<!-- y -->\n```\n:::\n").toList)
      "  ``` \n".toList ["\n".toList, "\n".toList, "<!-- y -->\n".toList] "```\n".toList := by
  have hfront : Text.WholeLines "a <!-- ::: -->\n```\nx\n```\n:::note\n:::\n".toList :=
    Text.wholeLines_concat "a <!-- ::: -->\n```\nx\n```\n:::note\n:::".toList
  have hcode : Fenced "  ``` \n".toList ["\n".toList, "\n".toList, "<!-- y -->\n".toList]
      "```\n".toList := ⟨by decide +kernel, by decide +kernel, by decide +kernel⟩
  exact ⟨hfront, (holdsCode_iff hfront).2 ⟨by decide +kernel, by decide +kernel⟩ _ _ _ _
    [":::\n".toList] hcode (by decide +kernel)⟩

/-- Code behind an aside with one fence loses its comments. -/
theorem not_holdsCode_behind_aside :
    Reading.ofLines (Text.lines ":::note\n```\n:::\n".toList) = .text ∧
    Fenced "```sh\n".toList ["# <!-- c -->\n".toList] "```\n".toList ∧
    Text.pieces ":::note\n```\n:::\n```sh\n# <!-- c -->\n```\n".toList =
      Text.pieces ":::note\n```\n:::\n".toList ++ "```sh\n".toList ::
        (["# <!-- c -->\n".toList] ++ "```\n".toList :: []) ∧
    minify ":::note\n```\n:::\n```sh\n# <!-- c -->\n```\n" = "```sh\n#\n```" ∧
    ¬ HoldsCode (Text.lines (minify ":::note\n```\n:::\n```sh\n# <!-- c -->\n```\n").toList)
      "```sh\n".toList ["# <!-- c -->\n".toList] "```\n".toList := by
  have hbody : minify ":::note\n```\n:::\n```sh\n# <!-- c -->\n```\n" = "```sh\n#\n```" := by
    decide +kernel
  refine ⟨by decide +kernel, ⟨by decide +kernel, by decide +kernel, by decide +kernel⟩,
    by decide +kernel, hbody, fun h => ?_⟩
  have hmem := h.mem_inner List.mem_cons_self
  rw [hbody] at hmem
  revert hmem
  decide +kernel

end DocCorpus.Minify
