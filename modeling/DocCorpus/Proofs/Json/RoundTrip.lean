/-
  Written trees read back. A `Passage` is a text together with the lexemes it consists of and the
  source that these make, whatever follows; passages are joined into arrays and objects as the
  writer joins their texts. The text of a tree is such a passage if its integers fit 64 bits and
  its floats read back (`Tree.Legible`), and the source stands for the tree again (`ofText_pretty`).
-/
import DocCorpus.Json.Reader
import DocCorpus.Proofs.Json.Lexeme

namespace DocCorpus.Json

open Lexeme (all first?)

/-! ## Texts and lexemes -/

/-- Before anything that ends it, the text is scanned as the lexemes. -/
def Spells (text : List Char) (lexemes : List Lexeme) : Prop :=
  ∀ rest, Ends rest → all (text ++ rest) = lexemes ++ all rest

theorem spells_of_first? {c : Char} {s : List Char} {lexeme : Lexeme}
    (hc : Lexeme.isSpace c = false)
    (h : ∀ rest, Ends rest → first? (c :: s ++ rest) = some (lexeme, rest)) :
    Spells (c :: s) [lexeme] := fun rest hr =>
  Lexeme.all_of_first? hc (h rest hr)

theorem all_mark {c : Char} (hc : c ∈ ['[', ']', '{', '}', ',', ':']) (rest : List Char) :
    all (c :: rest) = .mark c :: all rest := by
  simp only [List.mem_cons, List.not_mem_nil, or_false] at hc
  rcases hc with rfl | rfl | rfl | rfl | rfl | rfl <;>
    exact Lexeme.all_of_first? (by decide) rfl

theorem all_newline (level : Nat) (rest : List Char) : all (newline level ++ rest) = all rest :=
  Lexeme.all_append_of_isSpace (by simp [newline, Lexeme.isSpace]) rest

theorem all_string (s : String) (rest : List Char) :
    all (string s ++ rest) = .string (some s) :: all rest := by
  have hfirst := Lexeme.first?_string s rest
  rw [string, List.cons_append] at hfirst ⊢
  exact Lexeme.all_of_first? (by decide) hfirst

/-- Parts set apart by commas between two marks. -/
def enclosed (opening closing : Char) : List (List Lexeme) → List Lexeme
  | [] => [.mark opening, .mark closing]
  | item :: rest =>
    .mark opening :: (item ++ rest.flatMap (fun item => .mark ',' :: item) ++ [.mark closing])

theorem ends_newline (level : Nat) (rest : List Char) : Ends (newline level ++ rest) :=
  ends_cons _ (by decide)

/-- What follows the first item of a bracketed text. -/
theorem all_items {closing : Char} (hclosing : closing ∈ ['[', ']', '{', '}', ',', ':']) (level : Nat)
    (rest : List Char) (parts : List (List Char × List Lexeme)) (h : ∀ p ∈ parts, Spells p.1 p.2) :
    let following := (parts.map Prod.fst).flatMap (fun item => ',' :: (newline (level + 1) ++ item))
      ++ (newline level ++ closing :: rest)
    Ends following ∧ all following =
      (parts.map Prod.snd).flatMap (fun item => .mark ',' :: item) ++ .mark closing :: all rest := by
  induction parts with
  | nil =>
    refine ⟨ends_newline level _, ?_⟩
    simpa only [List.map_nil, List.flatMap_nil, List.nil_append, all_newline] using
      all_mark hclosing rest
  | cons part parts ih =>
    obtain ⟨hends, hall⟩ := ih fun p hp => h p (List.mem_cons_of_mem _ hp)
    refine ⟨ends_cons _ (by decide), ?_⟩
    simp only [List.map_cons, List.flatMap_cons, List.cons_append, List.append_assoc]
    rw [all_mark (by simp), all_newline, h part List.mem_cons_self _ hends, hall]

theorem spells_bracketed (opening closing : Char)
    (hopening : opening ∈ ['[', ']', '{', '}', ',', ':'])
    (hclosing : closing ∈ ['[', ']', '{', '}', ',', ':']) (level : Nat)
    (parts : List (List Char × List Lexeme)) (h : ∀ p ∈ parts, Spells p.1 p.2) :
    Spells (bracketed .pretty level opening closing (parts.map Prod.fst))
      (enclosed opening closing (parts.map Prod.snd)) := by
  intro rest _
  cases parts with
  | nil =>
    simp only [List.map_nil, bracketed, enclosed, List.cons_append, List.nil_append]
    rw [all_mark hopening, all_mark hclosing]
  | cons part parts =>
    obtain ⟨hends, hall⟩ := all_items hclosing level rest parts fun p hp =>
      h p (List.mem_cons_of_mem _ hp)
    simp only [List.map_cons, bracketed, enclosed, Layout.pretty, List.cons_append,
      List.append_assoc, List.nil_append] at hends hall ⊢
    rw [all_mark hopening, all_newline, h part List.mem_cons_self _ hends, hall]

/-! ## Lexemes and sources -/

/-- With fuel for every lexeme, the lexemes are read as the source, whatever follows them. -/
def Parses (lexemes : List Lexeme) (source : Source) : Prop :=
  ∀ fuel rest, 2 * lexemes.length ≤ fuel → Source.ofLexemes fuel (lexemes ++ rest) = (source, rest)

theorem parses_of_lexeme {lexeme : Lexeme} {source : Source}
    (h : ∀ fuel rest, Source.ofLexemes (fuel + 1) (lexeme :: rest) = (source, rest)) :
    Parses [lexeme] source := by
  intro fuel rest hfuel
  obtain ⟨fuel, rfl⟩ := Nat.exists_eq_add_one_of_ne_zero (n := fuel)
    (by simp only [List.length_singleton] at hfuel; omega)
  exact h fuel rest

/-- No value starts with a closing mark. -/
theorem Parses.head_ne {lexemes : List Lexeme} {source : Source} (h : Parses lexemes source)
    {c : Char} (hc : c = ']' ∨ c = '}') (rest : List Lexeme) : lexemes ≠ .mark c :: rest := by
  rintro rfl
  have hread := h (2 * (rest.length + 1) + 1) [.null] (by simp)
  rcases hc with rfl | rfl <;> simp [Source.ofLexemes] at hread

theorem Parses.ne_nil {lexemes : List Lexeme} {source : Source} (h : Parses lexemes source) :
    lexemes ≠ [] := by
  rintro rfl
  have hread := h 1 [.mark ']', .null] (by simp)
  simp [Source.ofLexemes] at hread

theorem itemsOf_parts (fuel : Nat) (rest : List Lexeme) (part : List Lexeme × Source)
    (parts : List (List Lexeme × Source)) (h : ∀ p ∈ part :: parts, Parses p.1 p.2)
    (hfuel : 2 * (part.1 ++ (parts.map Prod.fst).flatMap (fun item => .mark ',' :: item)).length + 1
      ≤ fuel) :
    Source.itemsOf fuel
        (part.1 ++ ((parts.map Prod.fst).flatMap (fun item => .mark ',' :: item) ++
          .mark ']' :: rest)) =
      (part.2 :: parts.map Prod.snd, rest) := by
  induction parts generalizing part fuel with
  | nil =>
    obtain ⟨fuel, rfl⟩ := Nat.exists_eq_add_one_of_ne_zero (n := fuel) (by omega)
    simp only [List.map_nil, List.flatMap_nil, List.append_nil] at hfuel
    simp only [List.map_nil, List.flatMap_nil, List.nil_append, Source.itemsOf]
    rw [h part List.mem_cons_self fuel _ (by omega)]
    rfl
  | cons next parts ih =>
    obtain ⟨fuel, rfl⟩ := Nat.exists_eq_add_one_of_ne_zero (n := fuel) (by omega)
    simp only [List.map_cons, List.flatMap_cons, List.length_append, List.length_cons,
      List.cons_append] at hfuel
    simp only [List.map_cons, List.flatMap_cons, List.cons_append, List.append_assoc,
      Source.itemsOf]
    rw [h part List.mem_cons_self fuel _ (by omega)]
    simp only
    rw [ih fuel next (fun p hp => h p (List.mem_cons_of_mem _ hp))
      (by simp only [List.length_append]; omega)]

theorem parses_array (parts : List (List Lexeme × Source)) (h : ∀ p ∈ parts, Parses p.1 p.2) :
    Parses (enclosed '[' ']' (parts.map Prod.fst)) (.array (parts.map Prod.snd)) := by
  intro fuel rest hfuel
  cases parts with
  | nil =>
    obtain ⟨fuel, rfl⟩ := Nat.exists_eq_add_one_of_ne_zero (n := fuel)
      (by simp only [List.map_nil, enclosed, List.length_cons, List.length_nil] at hfuel; omega)
    rfl
  | cons part parts =>
    obtain ⟨fuel, rfl⟩ := Nat.exists_eq_add_one_of_ne_zero (n := fuel)
      (by simp only [List.map_cons, enclosed, List.length_cons] at hfuel; omega)
    obtain ⟨lexeme, tail, hpart⟩ := List.exists_cons_of_ne_nil (h part List.mem_cons_self).ne_nil
    have hhead : lexeme ≠ .mark ']' := by
      rintro rfl
      exact (h part List.mem_cons_self).head_ne (.inl rfl) tail hpart
    have hitems := itemsOf_parts fuel rest part parts h (by
      simp only [List.map_cons, enclosed, List.length_cons, List.length_append,
        List.length_nil] at hfuel ⊢
      omega)
    simp only [hpart, List.map_cons, enclosed, List.cons_append, List.append_assoc,
      List.nil_append] at hitems ⊢
    rw [Source.ofLexemes.eq_def]
    simp [hhead, hitems]

/-- The lexemes of a member. -/
def memberLexemes (member : String × List Lexeme) : List Lexeme :=
  .string (some member.1) :: .mark ':' :: member.2

theorem membersOf_parts (fuel : Nat) (rest : List Lexeme) (part : String × List Lexeme × Source)
    (parts : List (String × List Lexeme × Source)) (h : ∀ p ∈ part :: parts, Parses p.2.1 p.2.2)
    (hfuel : 2 * (memberLexemes (part.1, part.2.1) ++
      (parts.map fun p => memberLexemes (p.1, p.2.1)).flatMap (fun item => .mark ',' :: item)).length
        ≤ fuel) :
    Source.membersOf fuel
        (memberLexemes (part.1, part.2.1) ++
          ((parts.map fun p => memberLexemes (p.1, p.2.1)).flatMap (fun item => .mark ',' :: item) ++
            .mark '}' :: rest)) =
      ((some part.1, part.2.2) :: parts.map fun p => (some p.1, p.2.2), rest) := by
  induction parts generalizing part fuel with
  | nil =>
    simp only [memberLexemes, List.map_nil, List.flatMap_nil, List.append_nil,
      List.length_cons] at hfuel
    obtain ⟨fuel, rfl⟩ := Nat.exists_eq_add_one_of_ne_zero (n := fuel) (by omega)
    simp only [memberLexemes, List.map_nil, List.flatMap_nil, List.nil_append, List.cons_append,
      Source.membersOf]
    rw [h part List.mem_cons_self fuel _ (by omega)]
    rfl
  | cons next parts ih =>
    simp only [memberLexemes, List.map_cons, List.flatMap_cons, List.length_append,
      List.length_cons, List.cons_append] at hfuel
    obtain ⟨fuel, rfl⟩ := Nat.exists_eq_add_one_of_ne_zero (n := fuel) (by omega)
    have hrest := ih fuel next (fun p hp => h p (List.mem_cons_of_mem _ hp)) (by
      simp only [memberLexemes, List.length_append, List.length_cons, List.cons_append]
      omega)
    simp only [memberLexemes, List.map_cons, List.flatMap_cons, List.cons_append,
      List.append_assoc, Source.membersOf] at hrest ⊢
    rw [h part List.mem_cons_self fuel _ (by omega)]
    simp only
    rw [hrest]

theorem parses_object (parts : List (String × List Lexeme × Source))
    (h : ∀ p ∈ parts, Parses p.2.1 p.2.2) :
    Parses (enclosed '{' '}' (parts.map fun p => memberLexemes (p.1, p.2.1)))
      (.object (parts.map fun p => (some p.1, p.2.2))) := by
  intro fuel rest hfuel
  cases parts with
  | nil =>
    simp only [List.map_nil, enclosed, List.length_cons] at hfuel
    obtain ⟨fuel, rfl⟩ := Nat.exists_eq_add_one_of_ne_zero (n := fuel) (by omega)
    rfl
  | cons part parts =>
    simp only [List.map_cons, enclosed, List.length_cons, List.length_append,
      List.length_nil] at hfuel
    obtain ⟨fuel, rfl⟩ := Nat.exists_eq_add_one_of_ne_zero (n := fuel) (by omega)
    have hmembers := membersOf_parts fuel rest part parts h (by
      simp only [List.length_append]
      omega)
    simp only [List.map_cons, enclosed, memberLexemes, List.cons_append, List.append_assoc,
      List.nil_append] at hmembers ⊢
    rw [Source.ofLexemes.eq_def]
    simp [hmembers]

/-! ## Passages -/

/-- A text that is read as a source, whatever follows it. -/
structure Passage where
  text : List Char
  lexemes : List Lexeme
  source : Source
  spells : Spells text lexemes
  parses : Parses lexemes source

namespace Passage

/-- A text of one lexeme. -/
def ofLexeme (c : Char) (s : List Char) (lexeme : Lexeme) (source : Source)
    (hc : Lexeme.isSpace c = false)
    (hfirst : ∀ rest, Ends rest → first? (c :: s ++ rest) = some (lexeme, rest))
    (hsource : ∀ fuel rest, Source.ofLexemes (fuel + 1) (lexeme :: rest) = (source, rest)) :
    Passage :=
  ⟨c :: s, [lexeme], source, spells_of_first? hc hfirst, parses_of_lexeme hsource⟩

/-- Passages as the items of an array. -/
def array (level : Nat) (items : List Passage) : Passage where
  text := bracketed .pretty level '[' ']' (items.map text)
  lexemes := enclosed '[' ']' (items.map lexemes)
  source := .array (items.map source)
  spells := by
    have h := spells_bracketed '[' ']' (by simp) (by simp) level
      (items.map fun p => (p.text, p.lexemes)) (by
        intro part hpart
        obtain ⟨p, -, rfl⟩ := List.mem_map.1 hpart
        exact p.spells)
    simpa only [List.map_map, Function.comp_def] using h
  parses := by
    have h := parses_array (items.map fun p => (p.lexemes, p.source)) (by
      intro part hpart
      obtain ⟨p, -, rfl⟩ := List.mem_map.1 hpart
      exact p.parses)
    simpa only [List.map_map, Function.comp_def] using h

/-- Passages as the members of an object. -/
def object (level : Nat) (members : List (String × Passage)) : Passage where
  text := bracketed .pretty level '{' '}'
    (members.map fun m => string m.1 ++ ':' :: Layout.pretty.afterColon ++ m.2.text)
  lexemes := enclosed '{' '}' (members.map fun m => memberLexemes (m.1, m.2.lexemes))
  source := .object (members.map fun m => (some m.1, m.2.source))
  spells := by
    have h := spells_bracketed '{' '}' (by simp) (by simp) level
      (members.map fun m => (string m.1 ++ ':' :: Layout.pretty.afterColon ++ m.2.text,
        memberLexemes (m.1, m.2.lexemes))) (by
        intro part hpart
        obtain ⟨⟨key, p⟩, -, rfl⟩ := List.mem_map.1 hpart
        intro rest hr
        simp only [Layout.pretty, memberLexemes, List.cons_append, List.append_assoc,
          List.nil_append]
        rw [all_string, all_mark (by simp), Lexeme.all_of_isSpace (by decide), p.spells rest hr])
    simpa only [List.map_map, Function.comp_def] using h
  parses := by
    have h := parses_object (members.map fun m => (m.1, m.2.lexemes, m.2.source)) (by
      intro part hpart
      obtain ⟨⟨key, p⟩, -, rfl⟩ := List.mem_map.1 hpart
      exact p.parses)
    simpa only [List.map_map, Function.comp_def] using h

/-- A whole text is read as the source of its passage. -/
theorem ofText_eq (p : Passage) :
    Source.ofText (String.ofList (p.text ++ ['\n'])) = (p.source, true) := by
  have hall : all (p.text ++ ['\n']) = p.lexemes ++ [] := p.spells ['\n'] (ends_cons _ (by decide))
  simp only [Source.ofText, String.toList_ofList, hall]
  rw [p.parses _ [] (by simp)]
  rfl

end Passage

/-! ## Floats -/

/-- The exported text of the number reads back as that number. -/
def ReadsBack (x : Binary64) : Prop :=
  read? (String.ofList (DecimalStyle.exported.text x)) = some (.float x)

/-- Whether a tree is the number. -/
def isFloat (x : Binary64) : Tree → Bool
  | .float y => y = x
  | _ => false

theorem isFloat_iff {x : Binary64} {t : Tree} : isFloat x t = true ↔ t = .float x := by
  cases t <;> simp [isFloat]

instance (x : Binary64) : Decidable (ReadsBack x) :=
  decidable_of_iff
    ((read? (String.ofList (DecimalStyle.exported.text x))).any (isFloat x) = true) (by
      unfold ReadsBack
      rw [Option.any_eq_true]
      simp only [isFloat_iff, exists_eq_right])

theorem mem_significant {c : Char} {ds : List Char} (h : c ∈ DecimalStyle.significant ds) :
    c = '0' ∨ c ∈ ds := by
  unfold DecimalStyle.significant at h
  split at h
  · exact .inl (by simpa using h)
  · rename_i kept _
    rw [List.mem_reverse] at h
    exact .inr (List.mem_reverse.1 ((List.dropWhile_suffix _).mem h))

theorem mem_positionalText {c : Char} {ds : List Char} {e : Int}
    (h : c ∈ DecimalStyle.positionalText ds e) : c = '0' ∨ c = '.' ∨ c ∈ ds := by
  unfold DecimalStyle.positionalText at h
  split at h
  · simp only [List.mem_cons, List.mem_append, List.mem_replicate] at h
    grind
  · simp only [List.mem_cons, List.mem_append, List.mem_replicate] at h
    rcases h with (h | h) | h | h
    · exact .inr (.inr (List.mem_of_mem_take h))
    · exact .inl h.2
    · exact .inr (.inl h)
    · split at h
      · exact .inl (by simpa using h)
      · exact .inr (.inr (List.mem_of_mem_drop h))

theorem mem_scientificText {c : Char} {ds : List Char} {e : Int}
    (h : c ∈ DecimalStyle.scientificText ds e) :
    c ∈ ['.', 'e', '+', '-'] ∨ c ∈ ds ∨ c ∈ Nat.toDigits 10 e.natAbs := by
  have hsign : (if e < 0 then '-' else '+') ∈ ['.', 'e', '+', '-'] := by split <;> simp
  generalize (if e < 0 then '-' else '+') = sign at h hsign
  unfold DecimalStyle.scientificText at h
  split at h <;> grind

theorem isSpace_of_isDigit {c : Char} (h : c.isDigit = true) : Lexeme.isSpace c = false := by
  cases hc : Lexeme.isSpace c with
  | false => rfl
  | true =>
    simp only [Lexeme.isSpace, Bool.or_eq_true, beq_iff_eq] at hc
    rcases hc with ((rfl | rfl) | rfl) | rfl <;> exact absurd h (by decide)

theorem isSpace_of_mem_toDigits {c : Char} {n : Nat} (h : c ∈ Nat.toDigits 10 n) :
    Lexeme.isSpace c = false :=
  isSpace_of_isDigit (Nat.isDigit_of_mem_toDigits (by decide) (by decide) h)

theorem isSpace_of_mem_magnitudeText {c : Char} {style : DecimalStyle} {m : Nat} {q : Int}
    (h : c ∈ style.magnitudeText m q) : Lexeme.isSpace c = false := by
  unfold DecimalStyle.magnitudeText at h
  split at h
  · simp only [List.mem_cons, List.not_mem_nil, or_false] at h
    rcases h with rfl | rfl | rfl <;> decide
  · have hds : ∀ c ∈ DecimalStyle.significant (Nat.toDigits 10 (Shortest.digits m q).1),
        Lexeme.isSpace c = false := by
      intro c hc
      rcases mem_significant hc with rfl | hc
      · decide
      · exact isSpace_of_mem_toDigits hc
    simp only at h
    split at h
    · rcases mem_positionalText h with rfl | rfl | h
      · decide
      · decide
      · exact hds c h
    · rcases mem_scientificText h with h | h | h
      · simp only [List.mem_cons, List.not_mem_nil, or_false] at h
        rcases h with rfl | rfl | rfl | rfl <;> decide
      · exact hds c h
      · exact isSpace_of_mem_toDigits h

/-- No space stands in the exported text of a number. -/
theorem isSpace_of_mem_text {c : Char} {x : Binary64} (h : c ∈ DecimalStyle.exported.text x) :
    Lexeme.isSpace c = false := by
  have hnames : ['N', 'a', 'N', '-', 'i', 'n', 'f'].all (fun c => !Lexeme.isSpace c) = true := by
    decide
  have hname : c ∈ ['N', 'a', 'N', '-', 'i', 'n', 'f'] → Lexeme.isSpace c = false := by
    intro hc
    rw [← Bool.not_eq_true']
    exact List.all_eq_true.1 hnames c hc
  unfold DecimalStyle.text at h
  split at h
  · exact hname (List.mem_append_left ['-', 'i', 'n', 'f'] h)
  · exact hname (List.mem_append_right ['N', 'a', 'N', '-'] h)
  · exact hname (List.mem_append_right ['N', 'a', 'N'] h)
  · exact isSpace_of_mem_magnitudeText h
  · rcases List.mem_cons.1 h with rfl | h
    · decide
    · exact isSpace_of_mem_magnitudeText h

/-- The source of a tree, by the form of the tree. -/
theorem source_of_tree? {source : Source} {t : Tree} (h : source.tree? = some t) :
    match t with
    | .null => source = .null
    | .boolean b => source = .boolean b
    | .integer n => ∃ m, source = .number m ∧ m.value? = some (.integer n)
    | .float x => ∃ m, source = .number m ∧ m.value? = some (.float x)
    | .text s => source = .string (some s)
    | .list items => ∃ sources, source = .array sources ∧ Source.itemTrees? sources = some items
    | .table members =>
      ∃ sources, source = .object sources ∧ Source.memberTrees? sources = some members := by
  unfold Source.tree? at h
  cases source with
  | null | boolean =>
    obtain rfl := Option.some.inj h
    rfl
  | string content =>
    obtain ⟨s, rfl, rfl⟩ := Option.map_eq_some_iff.1 h
    rfl
  | array sources =>
    obtain ⟨items, hitems, rfl⟩ := Option.map_eq_some_iff.1 h
    exact ⟨sources, rfl, hitems⟩
  | object sources =>
    obtain ⟨members, hmembers, rfl⟩ := Option.map_eq_some_iff.1 h
    exact ⟨sources, rfl, hmembers⟩
  | broken => exact nomatch h
  | number n =>
    cases hn : n.value? with
    | none => simp [hn] at h
    | some value =>
      cases value with
      | integer | float =>
        simp only [hn, Option.some.injEq] at h
        subst h
        exact ⟨n, rfl, hn⟩

theorem sources_of_itemTrees? {sources : List Source} {ts : List Tree}
    (h : Source.itemTrees? sources = some ts) :
    match ts with
    | [] => sources = []
    | t :: ts => ∃ source others, sources = source :: others ∧ source.tree? = some t ∧
        Source.itemTrees? others = some ts := by
  cases sources with
  | nil =>
    obtain rfl := Option.some.inj h
    rfl
  | cons source others =>
    simp only [Source.itemTrees?, Option.bind_eq_bind, Option.bind_eq_some_iff] at h
    obtain ⟨t, ht, ts', hts, hcons⟩ := h
    obtain rfl := Option.some.inj hcons
    exact ⟨source, others, rfl, ht, hts⟩

theorem sources_of_memberTrees? {sources : List (Option String × Source)}
    {ts : List (String × Tree)} (h : Source.memberTrees? sources = some ts) :
    match ts with
    | [] => sources = []
    | (key, t) :: ts => ∃ source others, sources = (some key, source) :: others ∧
        source.tree? = some t ∧ Source.memberTrees? others = some ts := by
  cases sources with
  | nil =>
    obtain rfl := Option.some.inj h
    rfl
  | cons member others =>
    obtain ⟨_ | key, source⟩ := member
    · exact nomatch h
    · simp only [Source.memberTrees?, Option.bind_eq_bind, Option.bind_eq_some_iff] at h
      obtain ⟨t, ht, ts', hts, hcons⟩ := h
      obtain rfl := Option.some.inj hcons
      exact ⟨source, others, rfl, ht, hts⟩

theorem eq_of_ofLexemes_number {fuel : Nat} {lexemes rest : List Lexeme} {n : Numeral}
    (h : Source.ofLexemes fuel lexemes = (.number n, rest)) : lexemes = .number n :: rest := by
  cases fuel with
  | zero => simp [Source.ofLexemes] at h
  | succ fuel =>
    rw [Source.ofLexemes.eq_def] at h
    simp only at h
    split at h <;> simp_all

/-- A number that reads back is one lexeme of that value, whatever ends it. -/
theorem exists_numeral_of_readsBack {x : Binary64} (h : ReadsBack x) :
    ∃ c s n, DecimalStyle.exported.text x = c :: s ∧ Lexeme.isSpace c = false ∧
      n.value? = some (.float x) ∧
      ∀ rest, Ends rest → first? (c :: s ++ rest) = some (.number n, rest) := by
  have hspace := fun c => isSpace_of_mem_text (c := c) (x := x)
  unfold ReadsBack read? Source.ofText at h
  rw [String.toList_ofList] at h
  generalize DecimalStyle.exported.text x = text at h hspace
  simp only at h
  split at h
  case h_2 => exact nomatch h
  rename_i source hsource
  obtain ⟨hsource, hrest⟩ := Prod.mk.inj hsource
  obtain ⟨n, rfl, hvalue⟩ := source_of_tree? h
  have hall : all text = [.number n] := by
    rw [← List.isEmpty_iff.1 hrest]
    exact eq_of_ofLexemes_number (Prod.ext hsource rfl)
  cases text with
  | nil => simp [all, Lexeme.scan] at hall
  | cons c s =>
    have hc : Lexeme.isSpace c = false := hspace c (by simp)
    have hdrop : (c :: s).dropWhile Lexeme.isSpace = c :: s := by simp [hc]
    simp only [all, List.length_cons, Lexeme.scan, hdrop] at hall
    split at hall
    · simp at hall
    · rename_i lexeme r hfirst
      obtain ⟨rfl, hscan⟩ : lexeme = .number n ∧ Lexeme.scan s.length r = [] := by
        simpa using hall
      obtain ⟨t, ht⟩ := Lexeme.suffix_first?_number hfirst
      have hr : r = [] := by
        cases r with
        | nil => rfl
        | cons d r =>
          have hd : Lexeme.isSpace d = false := hspace d (by rw [← ht]; simp)
          have hlen := Lexeme.length_first? hfirst
          have hdrop := Lexeme.dropWhile_of_scan_eq_nil (Nat.le_of_lt_succ hlen) hscan
          simp [hd] at hdrop
      subst hr
      exact ⟨c, s, n, rfl, hc, hvalue, fun rest hends =>
        Lexeme.first?_number_append hends hfirst⟩

/-! ## Trees -/

mutual

/-- Integers fit 64 bits and floats read back, at any depth. -/
def Legible : Tree → Prop
  | .integer n => -(Nat.pow 2 63 : Nat) ≤ n ∧ n < (Numeral.wordBound : Nat)
  | .float x => ReadsBack x
  | .list items => LegibleItems items
  | .table members => LegibleMembers members
  | .null | .boolean _ | .text _ => True

def LegibleItems : List Tree → Prop
  | [] => True
  | item :: rest => Legible item ∧ LegibleItems rest

def LegibleMembers : List (String × Tree) → Prop
  | [] => True
  | (_, value) :: rest => Legible value ∧ LegibleMembers rest

end

mutual

/-- The text of a legible tree is read as a source of that tree. -/
theorem exists_passage (level : Nat) : ∀ t : Tree, Legible t →
    ∃ p : Passage, p.text = write .pretty level t ∧ p.source.tree? = some t
  | .null, _ =>
    ⟨.ofLexeme 'n' _ .null .null (by decide) (fun _ _ => rfl) (fun _ _ => rfl), rfl, rfl⟩
  | .boolean true, _ =>
    ⟨.ofLexeme 't' _ (.boolean true) (.boolean true) (by decide) (fun _ _ => rfl)
      (fun _ _ => rfl), rfl, rfl⟩
  | .boolean false, _ =>
    ⟨.ofLexeme 'f' _ (.boolean false) (.boolean false) (by decide) (fun _ _ => rfl)
      (fun _ _ => rfl), rfl, rfl⟩
  | .integer n, h => by
    simp only [Legible] at h
    have hfirst : ∀ rest, Ends rest → first? (integer n ++ rest) = some (.number (.ofInt n), rest) :=
      fun rest hr => Lexeme.first?_integer hr n
    obtain ⟨c, s, hcs, hc⟩ : ∃ c s, integer n = c :: s ∧ Lexeme.isSpace c = false := by
      obtain ⟨c, ds, hcs⟩ := List.exists_cons_of_ne_nil
        (Nat.toDigits_ne_nil (b := 10) (n := n.natAbs))
      unfold integer
      split
      · exact ⟨'-', _, rfl, by decide⟩
      · exact ⟨c, ds, hcs, isSpace_of_mem_toDigits (n := n.natAbs) (by simp [hcs])⟩
    rw [hcs] at hfirst
    refine ⟨.ofLexeme c s _ (.number (.ofInt n)) hc hfirst (fun _ _ => rfl), hcs.symm, ?_⟩
    simp [Passage.ofLexeme, Source.tree?, Numeral.value?_ofInt h.1 h.2]
  | .float x, h => by
    obtain ⟨c, s, n, htext, hc, hvalue, hfirst⟩ := exists_numeral_of_readsBack h
    refine ⟨.ofLexeme c s _ (.number n) hc hfirst (fun _ _ => rfl), htext.symm, ?_⟩
    simp [Passage.ofLexeme, Source.tree?, hvalue]
  | .text s, _ =>
    ⟨.ofLexeme '"' _ _ (.string (some s)) (by decide) (fun rest _ => Lexeme.first?_string s rest)
      (fun _ _ => rfl), rfl, rfl⟩
  | .list items, h => by
    obtain ⟨ps, htexts, htrees⟩ := exists_passages (level + 1) items h
    refine ⟨.array level ps, ?_, ?_⟩
    · simp [Passage.array, write, htexts]
    · simp [Passage.array, Source.tree?, htrees]
  | .table members, h => by
    obtain ⟨ms, htexts, htrees⟩ := exists_memberPassages (level + 1) members h
    refine ⟨.object level ms, ?_, ?_⟩
    · simp [Passage.object, write, ← htexts]
    · simp [Passage.object, Source.tree?, htrees]

theorem exists_passages (level : Nat) : ∀ items : List Tree, LegibleItems items →
    ∃ ps : List Passage, ps.map Passage.text = writeItems .pretty level items ∧
      Source.itemTrees? (ps.map Passage.source) = some items
  | [], _ => ⟨[], rfl, rfl⟩
  | item :: rest, h => by
    obtain ⟨p, htext, htree⟩ := exists_passage level item h.1
    obtain ⟨ps, htexts, htrees⟩ := exists_passages level rest h.2
    refine ⟨p :: ps, ?_, ?_⟩
    · rw [List.map_cons, htext, htexts, writeItems]
    · simp [Source.itemTrees?, htree, htrees]

theorem exists_memberPassages (level : Nat) : ∀ members : List (String × Tree),
    LegibleMembers members → ∃ ms : List (String × Passage),
      (ms.map fun m => string m.1 ++ ':' :: Layout.pretty.afterColon ++ m.2.text) =
        writeMembers .pretty level members ∧
      Source.memberTrees? (ms.map fun m => (some m.1, m.2.source)) = some members
  | [], _ => ⟨[], rfl, rfl⟩
  | (key, value) :: rest, h => by
    obtain ⟨p, htext, htree⟩ := exists_passage level value h.1
    obtain ⟨ms, htexts, htrees⟩ := exists_memberPassages level rest h.2
    refine ⟨(key, p) :: ms, ?_, ?_⟩
    · simp only [List.map_cons, htext, writeMembers, ← htexts, List.append_assoc,
        List.cons_append]
    · simp [Source.memberTrees?, htree, htrees]

end

/-- The text of a legible tree, ended by a line feed, is one value: a source of that tree. -/
theorem ofText_pretty {t : Tree} (h : Legible t) :
    ∃ source, Source.ofText (pretty t ++ "\n") = (source, true) ∧ source.tree? = some t := by
  obtain ⟨p, htext, htree⟩ := exists_passage 0 t h
  refine ⟨p.source, ?_, htree⟩
  rw [← p.ofText_eq, htext, String.ofList_append]
  rfl

end DocCorpus.Json
