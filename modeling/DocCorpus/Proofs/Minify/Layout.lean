/-
  How a text falls into lines outside fenced code and code. There is one way to cut its lines into
  runs that have no fences and the code behind them (`Layout.lines_injective`,
  `Layout.exists_lines_eq`). A function applied to the text outside code takes each of these runs,
  be it empty, and leaves the lines of the code where they are (`mapOutsideCode_eq_mapped`).
-/
import DocCorpus.Proofs.Minify.Chunks

namespace DocCorpus.Minify

/-! ## Layouts -/

/-- Lines as runs without fences and the code behind each run. Code that is not closed goes on to
the end. -/
inductive Layout
  | last (run : List (List Char)) (plain : ∀ line ∈ run, isFence line = false)
  | unclosed (run : List (List Char)) (plain : ∀ line ∈ run, isFence line = false)
      (opening : List Char) (opens : isFence opening = true)
      (inner : List (List Char)) (one : ∀ line ∈ inner, isFence line = false)
  | code (run : List (List Char)) (plain : ∀ line ∈ run, isFence line = false)
      (opening : List Char) (inner : List (List Char)) (closing : List Char)
      (fenced : Fenced opening inner closing) (rest : Layout)

namespace Layout

def lines : Layout → List (List Char)
  | last run _ => run
  | unclosed run _ opening _ inner _ => run ++ opening :: inner
  | code run _ opening inner closing _ rest =>
    run ++ opening :: (inner ++ closing :: rest.lines)

/-- The lines put together with `f` applied to the text of each run. The run behind code that is
not closed is empty. -/
def mapped (f : List Char → List Char) : Layout → List Char
  | last run _ => f run.flatten
  | unclosed run _ opening _ inner _ => f run.flatten ++ (opening ++ (inner.flatten ++ f []))
  | code run _ opening inner closing _ rest =>
    f run.flatten ++ (opening ++ (inner.flatten ++ (closing ++ rest.mapped f)))

/-- A layout of a text: its lines are those of the text, with their ends. -/
structure Of (layout : Layout) (s : List Char) : Prop where
  cut : Text.Cut layout.lines
  text : layout.lines.flatten = s

variable {layout layout' : Layout} {s : List Char}

theorem of_iff : layout.Of s ↔ layout.lines = Text.pieces s := by
  constructor
  · rintro ⟨hcut, rfl⟩
    exact (Text.pieces_flatten hcut).symm
  · intro h
    exact ⟨h ▸ Text.cut_pieces s, h ▸ Text.flatten_pieces s⟩

end Layout

/-! ## One layout for all lines -/

section

variable {ls run run' back back' : List (List Char)} {opening opening' : List Char}

/-- Lines have no fence, or a first one. -/
theorem exists_first_fence (ls : List (List Char)) :
    (∀ line ∈ ls, isFence line = false) ∨
      ∃ run opening back, ls = run ++ opening :: back ∧ (∀ line ∈ run, isFence line = false) ∧
        isFence opening = true := by
  cases h : ls.find? isFence with
  | none =>
    left
    intro line hline
    exact Bool.not_eq_true _ ▸ List.find?_eq_none.1 h line hline
  | some opening =>
    right
    obtain ⟨hopening, run, back, rfl, hrun⟩ := List.find?_eq_some_iff_append.1 h
    exact ⟨run, opening, back, rfl, fun line hline => Bool.not_eq_true' _ ▸ hrun line hline,
      hopening⟩

theorem append_fence_ne (hplain : ∀ line ∈ ls, isFence line = false)
    (hopening : isFence opening = true) : run ++ opening :: back ≠ ls := by
  rintro rfl
  have hnone := hplain opening (List.mem_append_right _ List.mem_cons_self)
  rw [hopening] at hnone
  cases hnone

/-- The first fence of some lines tells what stands before and behind it. -/
theorem append_fence_inj (hrun : ∀ line ∈ run, isFence line = false)
    (hrun' : ∀ line ∈ run', isFence line = false) (hopening : isFence opening = true)
    (hopening' : isFence opening' = true) (h : run ++ opening :: back = run' ++ opening' :: back') :
    run = run' ∧ opening = opening' ∧ back = back' := by
  obtain ⟨more, rfl, hmore⟩ | ⟨more, rfl, hmore⟩ := List.append_eq_append_iff.1 h
  · cases more with
    | nil => simpa using hmore
    | cons line more =>
      obtain ⟨rfl, -⟩ := List.cons.inj hmore
      exact (append_fence_ne hrun' hopening rfl).elim
  · cases more with
    | nil => simpa [eq_comm] using hmore
    | cons line more =>
      obtain ⟨rfl, -⟩ := List.cons.inj hmore
      exact (append_fence_ne hrun hopening' rfl).elim

end

namespace Layout

theorem lines_injective : Function.Injective lines := by
  intro layout
  induction layout with
  | last run plain =>
    intro layout' h
    cases layout' with
    | last => simpa [lines] using h
    | unclosed _ _ _ opens => exact absurd h.symm (append_fence_ne plain opens)
    | code _ _ _ _ _ fenced => exact absurd h.symm (append_fence_ne plain fenced.opens)
  | unclosed run plain opening opens inner one =>
    intro layout' h
    cases layout' with
    | last _ plain' => exact absurd h (append_fence_ne plain' opens)
    | unclosed _ plain' _ opens' =>
      obtain ⟨rfl, rfl, rfl⟩ := append_fence_inj plain plain' opens opens' h
      rfl
    | code _ plain' _ _ _ fenced =>
      obtain ⟨-, -, hinner⟩ := append_fence_inj plain plain' opens fenced.opens h
      exact absurd hinner.symm (append_fence_ne one fenced.closes)
  | code run plain opening inner closing fenced rest ih =>
    intro layout' h
    cases layout' with
    | last _ plain' => exact absurd h (append_fence_ne plain' fenced.opens)
    | unclosed _ plain' _ opens' _ one' =>
      obtain ⟨-, -, hinner⟩ := append_fence_inj plain plain' fenced.opens opens' h
      exact absurd hinner (append_fence_ne one' fenced.closes)
    | code _ plain' _ _ _ fenced' _ =>
      obtain ⟨rfl, rfl, hinner⟩ := append_fence_inj plain plain' fenced.opens fenced'.opens h
      obtain ⟨rfl, rfl, hrest⟩ :=
        append_fence_inj fenced.one fenced'.one fenced.closes fenced'.closes hinner
      obtain rfl := ih hrest
      rfl

/-- All lines have a layout. -/
theorem exists_lines_eq (ls : List (List Char)) : ∃ layout : Layout, layout.lines = ls := by
  -- One step passes a run and the code behind it, so the induction is on the number of lines.
  induction hlength : ls.length using Nat.strong_induction_on generalizing ls with
  | _ n ih =>
    subst hlength
    obtain hplain | ⟨run, opening, back, rfl, hplain, hopens⟩ := exists_first_fence ls
    · exact ⟨last ls hplain, rfl⟩
    · obtain hone | ⟨inner, closing, more, rfl, hone, hcloses⟩ := exists_first_fence back
      · exact ⟨unclosed run hplain opening hopens back hone, rfl⟩
      · have hshorter : more.length < (run ++ opening :: (inner ++ closing :: more)).length := by
          simp only [List.length_append, List.length_cons]
          omega
        obtain ⟨rest, rfl⟩ := ih _ hshorter more rfl
        exact ⟨code run hplain opening inner closing ⟨hopens, hone, hcloses⟩ rest, rfl⟩

end Layout

/-! ## The text outside code -/

section

variable (f : List Char → List Char) (pending : List Char)

theorem mapPieces_run {run : List (List Char)} (h : ∀ line ∈ run, isFence line = false)
    (rest : List (List Char)) :
    mapPieces f false pending (run ++ rest) = mapPieces f false (pending ++ run.flatten) rest := by
  induction run generalizing pending with
  | nil => rw [List.nil_append, List.flatten_nil, List.append_nil]
  | cons line run ih =>
    obtain ⟨hline, hrun⟩ := List.forall_mem_cons.1 h
    rw [List.cons_append, mapPieces_line f pending hline, ih _ hrun, List.flatten_cons,
      List.append_assoc]

theorem mapPieces_inner {inner : List (List Char)} (h : ∀ line ∈ inner, isFence line = false)
    (rest : List (List Char)) :
    mapPieces f true pending (inner ++ rest) = inner.flatten ++ mapPieces f true pending rest := by
  induction inner with
  | nil => rfl
  | cons line inner ih =>
    obtain ⟨hline, hinner⟩ := List.forall_mem_cons.1 h
    rw [List.cons_append, mapPieces_inCode, hline, Bool.not_false, ih hinner, List.flatten_cons,
      List.append_assoc]

/-- Behind a run the function takes what is pending, up to the fence that opens code. -/
theorem mapPieces_run_fence {run : List (List Char)} (h : ∀ line ∈ run, isFence line = false)
    {opening : List Char} (hopening : isFence opening = true) (rest : List (List Char)) :
    mapPieces f false [] (run ++ opening :: rest) =
      f run.flatten ++ (opening ++ mapPieces f true [] rest) := by
  rw [mapPieces_run f [] h, List.nil_append, mapPieces_fence f _ hopening]

theorem mapPieces_lines (layout : Layout) :
    mapPieces f false [] layout.lines = layout.mapped f := by
  induction layout with
  | last run plain =>
    have hrun := mapPieces_run f [] plain []
    rwa [List.append_nil] at hrun
  | unclosed run plain opening opens inner one =>
    have hinner := mapPieces_inner f [] one []
    rw [List.append_nil] at hinner
    rw [Layout.lines, mapPieces_run_fence f plain opens, hinner]
    rfl
  | code run plain opening inner closing fenced rest ih =>
    rw [Layout.lines, mapPieces_run_fence f plain fenced.opens, mapPieces_inner f [] fenced.one,
      mapPieces_inCode, fenced.closes, Bool.not_true, ih]
    rfl

end

/-- A text has one layout. What is applied to the text outside fenced code takes the runs of this
layout, and every line of the code stays as it is between them. Where nothing is changed in the
runs, nothing is changed in the text. -/
theorem mapOutsideCode_eq_mapped (s : List Char) :
    ∃ layout : Layout, (∀ other : Layout, other.Of s ↔ other = layout) ∧
      (∀ f, mapOutsideCode f s = layout.mapped f) ∧ mapOutsideCode id s = s := by
  obtain ⟨layout, hlines⟩ := Layout.exists_lines_eq (Text.pieces s)
  have hmapped : ∀ f, mapOutsideCode f s = layout.mapped f := by
    intro f
    rw [mapOutsideCode, ← hlines, mapPieces_lines]
  have hid : mapOutsideCode id s = [] ++ (Text.pieces s).flatten :=
    mapPieces_eq_self id [] false nofun fun _ _ => rfl
  refine ⟨layout, fun other => ?_, hmapped, ?_⟩
  · rw [Layout.of_iff, ← hlines, Layout.lines_injective.eq_iff]
  · rw [hid, List.nil_append, Text.flatten_pieces]

end DocCorpus.Minify
