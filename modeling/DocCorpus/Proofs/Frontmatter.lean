/-
  Blocks of frontmatter. A block reaches to the first line after its first that closes it
  (`cutAtClosing?_append`), so a text written with a block in front of a body is split into the
  metadata of the block and the body, whatever the body is (`split_write`). As an empty block has
  no first line, a line of the body that could close it is taken for its end
  (`split_emptyBlock_iff`).
-/
import DocCorpus.Frontmatter
import DocCorpus.Proofs.Outcome
import DocCorpus.Proofs.Text.Lines
import Mathlib

namespace DocCorpus.Frontmatter

/-! ## Fences -/

/-- A fence as a line: three hyphens with nothing but spaces and tabs behind them. -/
def IsMark (line : List Char) : Prop :=
  ∃ blanks, (∀ c ∈ blanks, c = ' ' ∨ c = '\t') ∧ line = "---".toList ++ blanks

theorem isMark_iff {line : List Char} :
    IsMark line ↔ ((Text.dropHead? "---".toList line).any fun blanks =>
      blanks.all fun c => c == ' ' || c == '\t') = true := by
  simp only [IsMark, Option.any_eq_true, Text.dropHead?_eq_some, List.all_eq_true, Bool.or_eq_true,
    beq_iff_eq, and_comm]

instance (line : List Char) : Decidable (IsMark line) := decidable_of_iff _ isMark_iff.symm

theorem IsMark.not_nil : ¬ IsMark [] := by
  decide

/-- A mark is a line of its own, however it ends. -/
theorem IsMark.ends {mark : List Char} (h : IsMark mark) (e : Text.LineEnd) : Text.Ends e mark := by
  obtain ⟨blanks, hblanks, rfl⟩ := h
  have hchars : ∀ c ∈ "---".toList ++ blanks, c = '-' ∨ c = ' ' ∨ c = '\t' := by
    refine List.forall_mem_append.2 ⟨fun c hc => .inl ?_, fun c hc => .inr (hblanks c hc)⟩
    simpa using hc
  refine ⟨fun hmem => ?_, fun _ hlast => ?_⟩
  · exact absurd (hchars '\n' hmem) (by decide)
  · exact absurd (hchars '\r' (List.mem_of_getLast? hlast)) (by decide)

theorem afterLineEnd?_eq_some_iff {s rest : List Char} :
    afterLineEnd? s = some rest ↔ ∃ e : Text.LineEnd, s = e.text ++ rest := by
  constructor
  · intro h
    unfold afterLineEnd? at h
    split at h
    · exact ⟨.lineFeed, congrArg ('\n' :: ·) (Option.some.inj h)⟩
    · exact ⟨.returnAndLineFeed, congrArg ('\r' :: '\n' :: ·) (Option.some.inj h)⟩
    · cases h
  · rintro ⟨e, rfl⟩
    cases e <;> rfl

theorem afterMark?_append {mark rest : List Char} (h : IsMark mark)
    (hrest : ∀ c, rest.head? = some c → c ≠ ' ' ∧ c ≠ '\t') :
    afterMark? (mark ++ rest) = some rest := by
  obtain ⟨blanks, hblanks, rfl⟩ := h
  have hdrop : Text.dropHead? "---".toList ("---".toList ++ blanks ++ rest) =
      some (blanks ++ rest) :=
    Text.dropHead?_eq_some.2 (List.append_assoc ..)
  unfold afterMark?
  rw [hdrop, Option.map_some, List.dropWhile_append_of_pos (by simpa using hblanks),
    Text.dropWhile_eq_self (by simpa using hrest)]

theorem exists_mark_of_afterMark? {s rest : List Char} (h : afterMark? s = some rest) :
    ∃ mark, IsMark mark ∧ s = mark ++ rest := by
  obtain ⟨tail, htail, rfl⟩ := Option.map_eq_some_iff.1 h
  refine ⟨"---".toList ++ tail.takeWhile (fun c => c == ' ' || c == '\t'), ⟨_, ?_, rfl⟩, ?_⟩
  · intro c hc
    simpa using List.all_eq_true.1 List.all_takeWhile c hc
  · rw [List.append_assoc, List.takeWhile_append_dropWhile]
    exact Text.dropHead?_eq_some.1 htail

theorem head?_lineEnd (e : Text.LineEnd) (rest : List Char) :
    ∀ c, (e.text ++ rest).head? = some c → c ≠ ' ' ∧ c ≠ '\t' := by
  cases e <;> rintro c h <;> cases h <;> decide

/-- What closes a block is a mark at the end of the text, or a mark and its line end. -/
theorem afterClosing?_eq_some_iff {s rest : List Char} :
    afterClosing? s = some rest ↔
      ∃ mark, IsMark mark ∧
        (s = mark ∧ rest = [] ∨ ∃ e : Text.LineEnd, s = mark ++ (e.text ++ rest)) := by
  unfold afterClosing?
  constructor
  · intro h
    split at h
    · next hafter =>
      obtain ⟨mark, hmark, rfl⟩ := exists_mark_of_afterMark? hafter
      exact ⟨mark, hmark, .inl ⟨List.append_nil mark, (Option.some.inj h).symm⟩⟩
    · next tail _ hafter =>
      obtain ⟨mark, hmark, rfl⟩ := exists_mark_of_afterMark? hafter
      obtain ⟨e, rfl⟩ := afterLineEnd?_eq_some_iff.1 h
      exact ⟨mark, hmark, .inr ⟨e, rfl⟩⟩
    · cases h
  · rintro ⟨mark, hmark, ⟨rfl, rfl⟩ | ⟨e, rfl⟩⟩
    · have hend : afterMark? (s ++ []) = some [] := afterMark?_append hmark nofun
      rw [List.append_nil] at hend
      rw [hend]
    · rw [afterMark?_append hmark (head?_lineEnd e rest)]
      cases e <;> rfl

/-! ## Line by line -/

variable {e e' : Text.LineEnd} {line mark yaml : List Char}

theorem afterClosing?_of_ends (h : Text.Ends e line) (rest : List Char) :
    afterClosing? (line ++ (e.text ++ rest)) = if IsMark line then some rest else none := by
  split
  · next hmark => exact afterClosing?_eq_some_iff.2 ⟨line, hmark, .inr ⟨e, rfl⟩⟩
  · next hnot =>
    refine Option.eq_none_iff_forall_ne_some.2 fun found hfound => ?_
    obtain ⟨mark, hmark, ⟨heq, -⟩ | ⟨e', heq⟩⟩ := afterClosing?_eq_some_iff.1 hfound
    · refine (hmark.ends .lineFeed).one (heq ▸ List.mem_append_right _ ?_)
      rw [Text.LineEnd.text_append]
      exact List.mem_append_right _ List.mem_cons_self
    · exact hnot ((h.unique (hmark.ends e') heq).1 ▸ hmark)

theorem afterClosing?_of_line (h : '\n' ∉ line) :
    afterClosing? line = if IsMark line then some [] else none := by
  split
  · next hmark => exact afterClosing?_eq_some_iff.2 ⟨line, hmark, .inl ⟨rfl, rfl⟩⟩
  · next hnot =>
    refine Option.eq_none_iff_forall_ne_some.2 fun found hfound => ?_
    obtain ⟨mark, hmark, ⟨rfl, -⟩ | ⟨e, rfl⟩⟩ := afterClosing?_eq_some_iff.1 hfound
    · exact hnot hmark
    · rw [Text.LineEnd.text_append] at h
      exact h (List.mem_append_right _ (List.mem_append_right _ List.mem_cons_self))

/-- A block does not end inside its first line. -/
theorem afterLineEnd?_of_ends {c : Char} (h : Text.Ends e (c :: line)) (rest : List Char) :
    afterLineEnd? (c :: (line ++ (e.text ++ rest))) = none := by
  refine Option.eq_none_iff_forall_ne_some.2 fun found hfound => ?_
  obtain ⟨e', heq⟩ := afterLineEnd?_eq_some_iff.1 hfound
  have hempty : Text.Ends e' [] := ⟨List.not_mem_nil, fun _ => nofun⟩
  exact absurd (h.unique hempty heq).1 (List.cons_ne_nil c line)

theorem cutAtClosing?_of_line (h : '\n' ∉ line) : cutAtClosing? line = none := by
  induction line with
  | nil => rfl
  | cons c line ih =>
    have hafter : afterLineEnd? (c :: line) = none := by
      refine Option.eq_none_iff_forall_ne_some.2 fun found hfound => ?_
      obtain ⟨e, heq⟩ := afterLineEnd?_eq_some_iff.1 hfound
      rw [Text.LineEnd.text_append] at heq
      exact h (heq ▸ List.mem_append_right _ List.mem_cons_self)
    rw [cutAtClosing?, hafter, ih fun hmem => h (List.mem_cons_of_mem c hmem)]
    rfl

/-- A block ends with its first line, if what follows closes it, and else where the text after that
line says. -/
theorem cutAtClosing?_of_ends (h : Text.Ends e line) (rest : List Char) :
    cutAtClosing? (line ++ (e.text ++ rest)) =
      match afterClosing? rest with
      | some body => some (line, body)
      | none => (cutAtClosing? rest).map fun (yaml, body) => (line ++ (e.text ++ yaml), body) := by
  induction line with
  | nil =>
    cases e <;> cases hrest : afterClosing? rest <;>
      simp [Text.LineEnd.text, cutAtClosing?, afterLineEnd?, hrest, Function.comp_def]
  | cons c line ih =>
    rw [List.cons_append, cutAtClosing?, afterLineEnd?_of_ends h, ih h.tail]
    cases afterClosing? rest with
    | some body => rfl
    | none => simp [Function.comp_def]

/-! ## Texts without a fence -/

/-- No line of the text is a fence. A carriage return before a line feed is not part of the line. -/
def Unfenced (s : List Char) : Prop := ∀ line ∈ Text.lines s, ¬ IsMark line

instance (s : List Char) : Decidable (Unfenced s) :=
  inferInstanceAs (Decidable (∀ line ∈ Text.lines s, ¬ IsMark line))

theorem unfenced_of_line (h : '\n' ∉ line) : Unfenced line ↔ ¬ IsMark line := by
  unfold Unfenced
  rw [Text.lines_of_line h]
  split
  · next hnil =>
    subst hnil
    exact iff_of_true (fun _ hmem => nomatch hmem) IsMark.not_nil
  · exact List.forall_mem_singleton

theorem unfenced_append (h : Text.Ends e line) {rest : List Char} :
    Unfenced (line ++ (e.text ++ rest)) ↔ ¬ IsMark line ∧ Unfenced rest := by
  unfold Unfenced
  rw [Text.lines_append h]
  exact List.forall_mem_cons

/-- Nothing closes a block before or in a text exactly if it has no fence. -/
theorem unfenced_iff (s : List Char) :
    Unfenced s ↔ afterClosing? s = none ∧ cutAtClosing? s = none := by
  induction s using Text.ended_induction with
  | line s h =>
    rw [unfenced_of_line h, afterClosing?_of_line h, cutAtClosing?_of_line h]
    simp
  | step e s t h ih =>
    rw [unfenced_append h, ih, afterClosing?_of_ends h, cutAtClosing?_of_ends h]
    cases afterClosing? t <;> simp

/-- No line of an unfenced text closes a block, its last one included. -/
theorem Unfenced.afterClosing?_append {s : List Char} (h : Unfenced s)
    (hlast : s.getLast? ≠ some '\r') (e : Text.LineEnd) (rest : List Char) :
    afterClosing? (s ++ (e.text ++ rest)) = none := by
  cases s using Text.ended_induction with
  | line s hone =>
    rw [afterClosing?_of_ends ⟨hone, fun _ => hlast⟩, if_neg ((unfenced_of_line hone).1 h)]
  | step e' s t hends _ =>
    rw [List.append_assoc, List.append_assoc, afterClosing?_of_ends hends,
      if_neg ((unfenced_append hends).1 h).1]

/-- An unfenced block ends where a fence follows it. -/
theorem cutAtClosing?_append (h : Unfenced yaml) (hlast : yaml.getLast? ≠ some '\r')
    (hmark : IsMark mark) (e e' : Text.LineEnd) (body : List Char) :
    cutAtClosing? (yaml ++ (e.text ++ (mark ++ (e'.text ++ body)))) = some (yaml, body) := by
  induction yaml using Text.ended_induction with
  | line s hone =>
    rw [cutAtClosing?_of_ends ⟨hone, fun _ => hlast⟩, afterClosing?_of_ends (hmark.ends e'),
      if_pos hmark]
  | step e₁ s t hends ih =>
    have ht : Unfenced t := ((unfenced_append hends).1 h).2
    have hlast : t.getLast? ≠ some '\r' := by
      intro hreturn
      rw [List.getLast?_append, List.getLast?_append, hreturn] at hlast
      exact hlast rfl
    rw [List.append_assoc, List.append_assoc, cutAtClosing?_of_ends hends,
      ht.afterClosing?_append hlast, ih ht hlast]
    rfl

/-! ## What is left of a text -/

theorem length_of_afterClosing? {s body : List Char} (h : afterClosing? s = some body) :
    body.length < s.length := by
  obtain ⟨mark, hmark, hs⟩ := afterClosing?_eq_some_iff.1 h
  have hpos : 0 < mark.length := by
    rw [List.length_pos_iff]
    rintro rfl
    exact IsMark.not_nil hmark
  rcases hs with ⟨rfl, rfl⟩ | ⟨e, rfl⟩
  · exact hpos
  · rw [List.length_append, List.length_append]
    omega

theorem length_of_cutAtClosing? {s body : List Char} (h : cutAtClosing? s = some (yaml, body)) :
    body.length < s.length := by
  induction s using Text.ended_induction generalizing yaml with
  | line s hone =>
    rw [cutAtClosing?_of_line hone] at h
    cases h
  | step e s t hends ih =>
    have hlt : body.length < t.length := by
      rw [cutAtClosing?_of_ends hends] at h
      split at h
      · next found hfound =>
        obtain ⟨-, rfl⟩ := Prod.mk.inj (Option.some.inj h)
        exact length_of_afterClosing? hfound
      · obtain ⟨⟨yaml', body'⟩, hcut, heq⟩ := Option.map_eq_some_iff.1 h
        obtain ⟨-, rfl⟩ := Prod.mk.inj heq
        exact ih hcut
    rw [List.length_append, List.length_append]
    omega

/-! ## Splitting -/

theorem split_eq_ok_iff {content : String} {yaml body : List Char}
    (hcut : cut? content.toList = some (yaml, body)) {data : Metadata} {rest : String} :
    split content = .ok (data, rest) ↔
      rest = String.ofList body ∧
        if yaml.all isBlank then data = .empty
        else Yaml.readMetadata (String.ofList yaml) = .ok data := by
  unfold split
  rw [hcut]
  dsimp only
  split
  · simp [and_comm, eq_comm]
  · cases Yaml.readMetadata (String.ofList yaml) <;> simp [and_comm, eq_comm]

theorem split_eq_error_iff {content : String} {yaml body : List Char}
    (hcut : cut? content.toList = some (yaml, body)) {failure : Failure} :
    split content = .error failure ↔
      yaml.all isBlank = false ∧ ∃ fault, Yaml.readMetadata (String.ofList yaml) = .error fault ∧
        failure = .parse (.frontmatter fault) := by
  unfold split
  rw [hcut]
  dsimp only
  split
  · next hblank => simp [hblank]
  · next hblank => cases Yaml.readMetadata (String.ofList yaml) <;> simp [hblank, eq_comm]

/-! ## Written blocks -/

/-- A fence with its line end. -/
structure Fence where
  mark : List Char
  lineEnd : Text.LineEnd
  isMark : IsMark mark

def Fence.text (f : Fence) : List Char := f.mark ++ f.lineEnd.text

/-- How a block is set in front of a body. -/
structure Frame where
  /-- Whether the text starts with a byte-order mark. -/
  byteOrderMark : Bool
  opening : Fence
  /-- The end of the last line of the block. -/
  lineEnd : Text.LineEnd
  closing : Fence

/-- The text that holds a block and a body. -/
def Frame.write (f : Frame) (yaml body : String) : String :=
  String.ofList ((if f.byteOrderMark then ['\ufeff'] else []) ++ f.opening.text ++ yaml.toList ++
    f.lineEnd.text ++ f.closing.text ++ body.toList)

theorem afterOpening?_append (opening : Fence) (byteOrderMark : Bool) (rest : List Char) :
    afterOpening? ((if byteOrderMark then ['\ufeff'] else []) ++ (opening.text ++ rest)) =
      some rest := by
  have hmark : afterMark? (opening.text ++ rest) = some (opening.lineEnd.text ++ rest) := by
    unfold Fence.text
    rw [List.append_assoc]
    exact afterMark?_append opening.isMark (head?_lineEnd _ _)
  have hafter : afterLineEnd? (opening.lineEnd.text ++ rest) = some rest :=
    afterLineEnd?_eq_some_iff.2 ⟨_, rfl⟩
  have hhead : (opening.text ++ rest).head? ≠ some '\ufeff' := by
    obtain ⟨blanks, -, hblanks⟩ := opening.isMark
    unfold Fence.text
    rw [hblanks]
    exact show some '-' ≠ some '\ufeff' by decide
  have hopening : (afterMark? (opening.text ++ rest)).bind afterLineEnd? = some rest := by
    rw [hmark]
    exact hafter
  unfold afterOpening?
  cases byteOrderMark with
  | true => exact hopening
  | false =>
    rw [if_neg Bool.false_ne_true, List.nil_append, if_neg hhead]
    exact hopening

theorem Frame.cut?_write (f : Frame) {yaml : String} (h : Unfenced yaml.toList)
    (hlast : yaml.toList.getLast? ≠ some '\r') (body : String) :
    cut? (f.write yaml body).toList = some (yaml.toList, body.toList) := by
  have hcut : cutAtClosing? (yaml.toList ++ (f.lineEnd.text ++ (f.closing.text ++ body.toList))) =
      some (yaml.toList, body.toList) := by
    unfold Fence.text
    rw [List.append_assoc]
    exact cutAtClosing?_append h hlast f.closing.isMark _ _ _
  unfold cut? Frame.write
  simp only [String.toList_ofList, List.append_assoc, afterOpening?_append, hcut]

/-- A text with a block in front of a body is split into just these, whatever the body is, if no
line of the block is a fence and its last one does not end with a carriage return. It fails exactly
if the block is not blank and is no metadata. -/
theorem split_write (f : Frame) {yaml : String} (h : Unfenced yaml.toList)
    (hlast : yaml.toList.getLast? ≠ some '\r') (body : String) :
    (∀ data rest, split (f.write yaml body) = .ok (data, rest) ↔
      rest = body ∧
        if yaml.toList.all isBlank then data = .empty else Yaml.readMetadata yaml = .ok data) ∧
    ∀ failure, split (f.write yaml body) = .error failure ↔
      yaml.toList.all isBlank = false ∧
        ∃ fault, Yaml.readMetadata yaml = .error fault ∧ failure = .parse (.frontmatter fault) := by
  have hcut := f.cut?_write h hlast body
  refine ⟨fun data rest => ?_, fun failure => ?_⟩
  · rw [split_eq_ok_iff hcut, String.ofList_toList, String.ofList_toList]
  · rw [split_eq_error_iff hcut, String.ofList_toList]

/-- A byte-order mark, fences of different widths, line ends of both kinds, and a body that starts
with another block. -/
def mixedFrame : Frame where
  byteOrderMark := true
  opening := ⟨"--- \t".toList, .returnAndLineFeed, by decide⟩
  lineEnd := .returnAndLineFeed
  closing := ⟨"---".toList, .lineFeed, by decide⟩

theorem split_write_mixed :
    Unfenced "title: X\n  ---".toList ∧
    "title: X\n  ---".toList.getLast? ≠ some '\r' ∧
    ∃ data, Yaml.readMetadata "title: X\n  ---" = .ok data ∧
      split "\ufeff--- \t\r\ntitle: X\n  ---\r\n---\n---\n---\r\nBody" =
        .ok (data, "---\n---\r\nBody") := by
  have h : Unfenced "title: X\n  ---".toList := by decide +kernel
  have hlast : "title: X\n  ---".toList.getLast? ≠ some '\r' := by decide +kernel
  have hok : (Yaml.readMetadata "title: X\n  ---").isOk = true := by cbv
  obtain ⟨data, hdata⟩ := Outcome.exists_of_isOk hok
  have hblank : "title: X\n  ---".toList.all isBlank = false := by decide +kernel
  have hwritten : mixedFrame.write "title: X\n  ---" "---\n---\r\nBody" =
      "\ufeff--- \t\r\ntitle: X\n  ---\r\n---\n---\n---\r\nBody" := by
    decide +kernel
  refine ⟨h, hlast, data, hdata, ?_⟩
  rw [← hwritten, (split_write mixedFrame h hlast _).1, if_neg (ne_true_of_eq_false hblank)]
  exact ⟨rfl, hdata⟩

/-! ## Empty blocks -/

/-- The two lines of an empty block and the text after them. -/
def emptyBlock (body : String) : String := "---\n---\n" ++ body

/-- A fence that follows an empty block is taken for its end. -/
theorem cut?_emptyBlock (body : String) :
    cut? (emptyBlock body).toList =
      match afterClosing? body.toList with
      | some rest => some ("---".toList, rest)
      | none =>
        match cutAtClosing? body.toList with
        | some (yaml, rest) => some ("---\n".toList ++ yaml, rest)
        | none => some ([], body.toList) := by
  have hmark : IsMark "---".toList := ⟨[], nofun, rfl⟩
  have hends : Text.Ends .lineFeed "---".toList := hmark.ends .lineFeed
  have htext : (emptyBlock body).toList =
      (if false then ['\ufeff'] else []) ++ ((Fence.mk "---".toList .lineFeed hmark).text ++
        ("---".toList ++ (Text.LineEnd.lineFeed.text ++ body.toList))) := by
    simp [emptyBlock, Fence.text, Text.LineEnd.text]
  unfold cut?
  rw [htext, afterOpening?_append]
  dsimp only
  rw [cutAtClosing?_of_ends hends, afterClosing?_of_ends hends, if_pos hmark]
  cases afterClosing? body.toList with
  | some rest => rfl
  | none => cases cutAtClosing? body.toList <;> rfl

/-- An empty block is read as one exactly if no line of the body is a fence. -/
theorem split_emptyBlock_iff (body : String) :
    split (emptyBlock body) = .ok (.empty, body) ↔ Unfenced body.toList := by
  rw [unfenced_iff]
  constructor
  · intro h
    have hkeeps : ∀ {yaml rest : List Char}, cut? (emptyBlock body).toList = some (yaml, rest) →
        ¬ rest.length < body.toList.length := by
      intro yaml rest hcut
      have hbody := ((split_eq_ok_iff hcut).1 h).1
      rw [hbody, String.toList_ofList]
      exact Nat.lt_irrefl _
    have hcut := cut?_emptyBlock body
    cases hclosing : afterClosing? body.toList with
    | some rest =>
      rw [hclosing] at hcut
      exact absurd (length_of_afterClosing? hclosing) (hkeeps hcut)
    | none =>
      cases hparts : cutAtClosing? body.toList with
      | some parts =>
        rw [hclosing, hparts] at hcut
        exact absurd (length_of_cutAtClosing? hparts) (hkeeps hcut)
      | none => exact ⟨rfl, rfl⟩
  · rintro ⟨hclosing, hparts⟩
    have hcut := cut?_emptyBlock body
    rw [hclosing, hparts] at hcut
    exact (split_eq_ok_iff hcut).2 ⟨String.ofList_toList.symm, rfl⟩

/-- A thematic break in the body makes the text before it a block, here one that is no metadata. -/
theorem split_emptyBlock_break :
    split ("---\n---\n" ++ "Intro\n\n---\n\nMore\n") ≠
      .ok (.empty, "Intro\n\n---\n\nMore\n") := by
  have hfails : (split ("---\n---\n" ++ "Intro\n\n---\n\nMore\n")).isOk = false := by
    decide +kernel
  intro h
  rw [h] at hfails
  cases hfails

end DocCorpus.Frontmatter
