/-
  A function applied to the text outside fenced code. Whether a line stands in code is told by the
  number of fences before it (`codeAfter_eq_iff`). Up to a fence that opens code, and up to one
  that closes it, the text is mapped on its own (`mapPieces_append_fence`,
  `pieces_mapPieces_code`). If the function makes no fences, the runs of the mapped text are the
  mapped runs (`runTexts_mapOutsideCode`).
-/
import DocCorpus.Proofs.Minify.Fence
import Mathlib.Algebra.Group.Nat.Even

namespace DocCorpus.Minify

/-! ## In code or outside -/

/-- Whether a text stands in code behind some lines, read from the fences alone. -/
def codeAfter (inCode : Bool) (ls : List (List Char)) : Bool :=
  ls.foldl (fun inCode line => inCode ^^ isFence line) inCode

theorem codeAfter_cons (inCode : Bool) (line : List Char) (ls : List (List Char)) :
    codeAfter inCode (line :: ls) = codeAfter (inCode ^^ isFence line) ls := rfl

theorem codeAfter_map {g : List Char → List Char} (hg : ∀ line, isFence (g line) = isFence line)
    (inCode : Bool) (ls : List (List Char)) :
    codeAfter inCode (ls.map g) = codeAfter inCode ls := by
  induction ls generalizing inCode with
  | nil => rfl
  | cons line ls ih => rw [List.map_cons, codeAfter_cons, codeAfter_cons, hg, ih]

/-- A text that stood outside code does so again behind an even number of fences. -/
theorem codeAfter_eq_iff (inCode : Bool) (ls : List (List Char)) :
    codeAfter inCode ls = inCode ↔ Even (ls.countP isFence) := by
  induction ls generalizing inCode with
  | nil => exact ⟨fun _ => ⟨0, rfl⟩, fun _ => rfl⟩
  | cons line ls ih =>
    rw [codeAfter_cons]
    cases h : isFence line with
    | true =>
      rw [List.countP_cons_of_pos h, Nat.even_add_one, ← ih !inCode, Bool.xor_true]
      cases inCode <;> cases codeAfter _ ls <;> simp
    | false =>
      rw [List.countP_cons_of_neg (by rw [h]; exact Bool.false_ne_true), ← ih inCode,
        Bool.xor_false]

/-! ## Up to a fence -/

section

variable (f : List Char → List Char) (pending : List Char)
variable {piece : List Char}

theorem mapPieces_line (h : isFence piece = false) (rest : List (List Char)) :
    mapPieces f false pending (piece :: rest) = mapPieces f false (pending ++ piece) rest := by
  simp [mapPieces, h]

theorem mapPieces_fence (h : isFence piece = true) (rest : List (List Char)) :
    mapPieces f false pending (piece :: rest) =
      f pending ++ (piece ++ mapPieces f true [] rest) := by
  simp [mapPieces, h]

theorem mapPieces_inCode (piece : List Char) (rest : List (List Char)) :
    mapPieces f true pending (piece :: rest) =
      piece ++ mapPieces f (!isFence piece) pending rest := rfl

/-- What is mapped of a text before other pieces does not depend on them. In code nothing is
pending. -/
theorem exists_mapPieces_append (inCode : Bool) (hpending : inCode = true → pending = [])
    (ps : List (List Char)) :
    ∃ mapped pending', (codeAfter inCode ps = true → pending' = []) ∧
      ∀ rest, mapPieces f inCode pending (ps ++ rest) =
        mapped ++ mapPieces f (codeAfter inCode ps) pending' rest := by
  induction ps generalizing inCode pending with
  | nil => exact ⟨[], pending, hpending, fun _ => rfl⟩
  | cons p ps ih =>
    simp only [List.cons_append, codeAfter_cons]
    cases inCode with
    | true =>
      rw [Bool.true_xor]
      obtain ⟨mapped, pending', hnone, heq⟩ := ih pending (!isFence p) fun _ => hpending rfl
      refine ⟨p ++ mapped, pending', hnone, fun rest => ?_⟩
      rw [mapPieces_inCode, heq, List.append_assoc]
    | false =>
      rw [Bool.false_xor]
      cases hp : isFence p with
      | true =>
        obtain ⟨mapped, pending', hnone, heq⟩ := ih [] true fun _ => rfl
        refine ⟨f pending ++ (p ++ mapped), pending', hnone, fun rest => ?_⟩
        rw [mapPieces_fence f pending hp, heq, List.append_assoc, List.append_assoc]
      | false =>
        obtain ⟨mapped, pending', hnone, heq⟩ := ih (pending ++ p) false nofun
        exact ⟨mapped, pending', hnone, fun rest => by rw [mapPieces_line f pending hp, heq]⟩

variable {ps : List (List Char)}

/-- The text before a fence that opens code is mapped as if it ended there. -/
theorem mapPieces_append_fence (houtside : codeAfter false ps = false)
    (hpiece : isFence piece = true) (rest : List (List Char)) :
    mapPieces f false [] (ps ++ piece :: rest) =
      mapPieces f false [] ps ++ (piece ++ mapPieces f true [] rest) := by
  obtain ⟨mapped, pending', -, heq⟩ := exists_mapPieces_append f [] false nofun ps
  rw [houtside] at heq
  have hend := heq []
  rw [List.append_nil] at hend
  rw [heq, hend, mapPieces_fence f pending' hpiece, mapPieces, List.append_assoc]

/-- A text that ends in code is mapped on its own, if the function keeps the empty text. -/
theorem mapPieces_append_code (hf : f [] = []) (hcode : codeAfter false ps = true)
    (rest : List (List Char)) :
    mapPieces f false [] (ps ++ rest) = mapPieces f false [] ps ++ mapPieces f true [] rest := by
  obtain ⟨mapped, pending', hnone, heq⟩ := exists_mapPieces_append f [] false nofun ps
  obtain rfl := hnone hcode
  rw [hcode] at heq
  have hend := heq []
  rw [List.append_nil, mapPieces, hf, List.append_nil] at hend
  rw [heq, hend]

/-- A function that keeps every part of a text keeps the text. -/
theorem mapPieces_eq_self (inCode : Bool) {ps : List (List Char)}
    (hpending : inCode = true → pending = [])
    (hf : ∀ part, part <:+: pending ++ ps.flatten → f part = part) :
    mapPieces f inCode pending ps = pending ++ ps.flatten := by
  induction ps generalizing inCode pending with
  | nil =>
    rw [List.flatten_nil, List.append_nil] at hf ⊢
    exact hf pending List.infix_rfl
  | cons p ps ih =>
    rw [List.flatten_cons] at hf ⊢
    cases inCode with
    | true =>
      obtain rfl := hpending rfl
      rw [mapPieces_inCode, ih [] _ (fun _ => rfl)]
      · rfl
      · exact fun part hpart => hf part (hpart.trans (List.suffix_append p _).isInfix)
    | false =>
      cases hp : isFence p with
      | true =>
        rw [mapPieces_fence f pending hp, hf pending (List.prefix_append _ _).isInfix,
          ih [] true (fun _ => rfl)]
        · rfl
        · intro part hpart
          refine hf part (hpart.trans ?_)
          rw [← List.append_assoc]
          exact (List.suffix_append _ _).isInfix
      | false =>
        rw [mapPieces_line f pending hp, ih _ false nofun, List.append_assoc]
        rwa [List.append_assoc]

theorem length_mapPieces_le (hf : ∀ s, (f s).length ≤ s.length) (inCode : Bool)
    (ps : List (List Char)) :
    (mapPieces f inCode pending ps).length ≤ pending.length + ps.flatten.length := by
  induction ps generalizing inCode pending with
  | nil => exact hf pending
  | cons p ps ih =>
    rw [List.flatten_cons, List.length_append]
    cases inCode with
    | true =>
      have hrest := ih pending (!isFence p)
      rw [mapPieces_inCode, List.length_append]
      omega
    | false =>
      cases hp : isFence p with
      | true =>
        have hrest := ih [] true
        have hpending := hf pending
        rw [mapPieces_fence f pending hp, List.length_append, List.length_append]
        rw [List.length_nil] at hrest
        omega
      | false =>
        have hrest := ih (pending ++ p) false
        rw [mapPieces_line f pending hp]
        rw [List.length_append] at hrest
        omega

end

/-! ## Whole lines -/

section

variable {f : List Char → List Char}

/-- A function that keeps the end of the last line does so on the text outside code. -/
theorem wholeLines_mapPieces (hf : ∀ s, Text.WholeLines s → Text.WholeLines (f s))
    {pending : List Char} (hpending : Text.WholeLines pending) (inCode : Bool)
    {ps : List (List Char)} (hps : ∀ p ∈ ps, Text.WholeLines p) :
    Text.WholeLines (mapPieces f inCode pending ps) := by
  induction ps generalizing inCode pending with
  | nil => exact hf pending hpending
  | cons p ps ih =>
    obtain ⟨hp, hps⟩ := List.forall_mem_cons.1 hps
    cases inCode with
    | true => exact Text.wholeLines_append hp (ih hpending _ hps)
    | false =>
      cases hfence : isFence p with
      | true =>
        rw [mapPieces_fence f pending hfence]
        exact Text.wholeLines_append (hf pending hpending)
          (Text.wholeLines_append hp (ih Text.wholeLines_nil _ hps))
      | false =>
        rw [mapPieces_line f pending hfence]
        exact ih (Text.wholeLines_append hpending hp) _ hps

/-! ## Runs of the mapped text -/

/-- The texts of the runs. -/
def runTexts (inCode : Bool) (ps : List (List Char)) : List (List Char) :=
  (runs inCode ps).map List.flatten

variable {p pending : List Char} {ls ps : List (List Char)}

theorem runTexts_code (p : List Char) (ps : List (List Char)) :
    runTexts true (p :: ps) = runTexts (!isFence p) ps := rfl

theorem runTexts_fence (h : isFence p = true) (ps : List (List Char)) :
    runTexts false (p :: ps) = [] :: runTexts true ps := by
  unfold runTexts
  rw [runs_fence h]
  rfl

theorem runTexts_line (h : isFence p = false) (ps : List (List Char)) :
    runTexts false (p :: ps) = (runTexts false ps).modifyHead (p ++ ·) := by
  obtain ⟨run, more, heq⟩ := exists_runs_eq_cons false ps
  unfold runTexts
  rw [runs_line h, heq]
  rfl

theorem modifyHead_nil_append (ls : List (List Char)) : ls.modifyHead ([] ++ ·) = ls := by
  cases ls <;> rfl

/-- Lines that are no fences go to the first run. -/
theorem runTexts_append (h : ∀ p ∈ ls, isFence p = false) (ps : List (List Char)) :
    runTexts false (ls ++ ps) = (runTexts false ps).modifyHead (ls.flatten ++ ·) := by
  induction ls with
  | nil => exact (modifyHead_nil_append _).symm
  | cons p ls ih =>
    obtain ⟨hp, hls⟩ := List.forall_mem_cons.1 h
    rw [List.cons_append, runTexts_line hp, ih hls, List.modifyHead_modifyHead, List.flatten_cons]
    simp only [Function.comp_def, List.append_assoc]

/-- A piece is cut from the mapped text behind it. -/
theorem pieces_append_mapPieces (hnil : f [] = []) (hcut : Text.Cut (p :: ps)) (inCode : Bool) :
    Text.pieces (p ++ mapPieces f inCode [] ps) =
      p :: Text.pieces (mapPieces f inCode [] ps) := by
  have hp : Text.pieces p = [p] := (hcut.pieces p List.mem_cons_self).pieces_eq
  cases ps with
  | nil =>
    rw [mapPieces, hnil, List.append_nil, hp]
    rfl
  | cons q ps =>
    have hwhole : Text.WholeLines p := (List.pairwise_cons.1 hcut.ended).1 q List.mem_cons_self
    rw [Text.pieces_append hwhole, hp]
    rfl

/-- Code up to the fence that closes it is cut as it was. -/
theorem pieces_mapPieces_code (hnil : f [] = []) {inner back : List (List Char)}
    {closing : List Char} (hinner : ∀ p ∈ inner, isFence p = false)
    (hclosing : isFence closing = true) (hcut : Text.Cut (inner ++ closing :: back)) :
    Text.pieces (mapPieces f true [] (inner ++ closing :: back)) =
      inner ++ closing :: Text.pieces (mapPieces f false [] back) := by
  induction inner with
  | nil => rw [List.nil_append, mapPieces_inCode, hclosing, pieces_append_mapPieces hnil hcut]; rfl
  | cons p inner ih =>
    obtain ⟨hp, hinner⟩ := List.forall_mem_cons.1 hinner
    rw [List.cons_append] at hcut ⊢
    have hrest := hcut.sublist (List.sublist_cons_self p _)
    rw [mapPieces_inCode, hp, pieces_append_mapPieces hnil hcut, Bool.not_false, ih hinner hrest]
    rfl

theorem modifyHead_runTexts_fence (h : isFence p = true) (ps : List (List Char)) :
    (runTexts false (p :: ps)).modifyHead (pending ++ ·) = pending :: runTexts true ps := by
  rw [runTexts_fence h, List.modifyHead_cons, List.append_nil]

theorem modifyHead_runTexts_line (h : isFence p = false) (ps : List (List Char)) :
    (runTexts false (p :: ps)).modifyHead (pending ++ ·) =
      (runTexts false ps).modifyHead (pending ++ p ++ ·) := by
  rw [runTexts_line h, List.modifyHead_modifyHead]
  simp only [Function.comp_def, List.append_assoc]

/-- Where the mapped runs have no fences, they are the runs of the mapped text, also with a text
that is pending before the first one. -/
theorem runTexts_mapPieces (hnil : f [] = [])
    (hwhole : ∀ s, Text.WholeLines s → Text.WholeLines (f s)) (inCode : Bool)
    (hcut : Text.Cut ps) (hpending : inCode = true → pending = [])
    (hends : ps ≠ [] → Text.WholeLines pending)
    (hfences : ∀ text ∈ (runTexts inCode ps).modifyHead (pending ++ ·),
      ∀ p ∈ Text.pieces (f text), isFence p = false) :
    runTexts inCode (Text.pieces (mapPieces f inCode pending ps)) =
      ((runTexts inCode ps).modifyHead (pending ++ ·)).map f := by
  induction ps generalizing inCode pending with
  | nil =>
    have htexts : (runTexts inCode []).modifyHead (pending ++ ·) = [pending] :=
      congrArg (· :: []) (List.append_nil pending)
    rw [htexts] at hfences ⊢
    cases inCode with
    | true =>
      rw [hpending rfl, mapPieces, hnil, List.map_singleton, hnil]
      rfl
    | false =>
      have hlast := runTexts_append (hfences pending List.mem_cons_self) []
      rw [List.append_nil, Text.flatten_pieces] at hlast
      rw [mapPieces, hlast]
      exact congrArg (· :: []) (List.append_nil (f pending))
  | cons p ps ih =>
    have hps := hcut.sublist (List.sublist_cons_self p ps)
    have hrest : ∀ inCode, (∀ text ∈ runTexts inCode ps, ∀ p ∈ Text.pieces (f text),
        isFence p = false) →
        runTexts inCode (Text.pieces (mapPieces f inCode [] ps)) = (runTexts inCode ps).map f := by
      intro inCode htexts
      rw [← modifyHead_nil_append (runTexts inCode ps)] at htexts ⊢
      exact ih inCode hps (fun _ => rfl) (fun _ => Text.wholeLines_nil) htexts
    cases inCode with
    | true =>
      obtain rfl := hpending rfl
      rw [modifyHead_nil_append, runTexts_code] at hfences ⊢
      rw [mapPieces_inCode, pieces_append_mapPieces hnil hcut, runTexts_code, hrest _ hfences]
    | false =>
      have hpending' := hends (List.cons_ne_nil p ps)
      cases hp : isFence p with
      | true =>
        rw [modifyHead_runTexts_fence hp] at hfences ⊢
        obtain ⟨hfirst, hmore⟩ := List.forall_mem_cons.1 hfences
        rw [mapPieces_fence f pending hp, Text.pieces_append (hwhole pending hpending'),
          pieces_append_mapPieces hnil hcut, runTexts_append hfirst, Text.flatten_pieces,
          modifyHead_runTexts_fence hp, hrest true hmore, List.map_cons]
      | false =>
        rw [modifyHead_runTexts_line hp] at hfences ⊢
        rw [mapPieces_line f pending hp]
        refine ih false hps nofun (fun hne => ?_) hfences
        obtain ⟨q, more, rfl⟩ := List.exists_cons_of_ne_nil hne
        exact Text.wholeLines_append hpending'
          ((List.pairwise_cons.1 hcut.ended).1 q List.mem_cons_self)

/-- Where the mapped runs have no fences, they are the runs of the mapped text. -/
theorem runTexts_mapOutsideCode (hnil : f [] = [])
    (hwhole : ∀ s, Text.WholeLines s → Text.WholeLines (f s)) {s : List Char}
    (hfences : ∀ text ∈ runTexts false (Text.pieces s),
      ∀ p ∈ Text.pieces (f text), isFence p = false) :
    runTexts false (Text.pieces (mapOutsideCode f s)) =
      (runTexts false (Text.pieces s)).map f := by
  rw [← modifyHead_nil_append (runTexts false (Text.pieces s))] at hfences ⊢
  exact runTexts_mapPieces hnil hwhole false (Text.cut_pieces s) nofun
    (fun _ => Text.wholeLines_nil) hfences

end

end DocCorpus.Minify
