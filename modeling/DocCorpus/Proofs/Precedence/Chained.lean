/-
  Promotions in front of others. Patterns that go before the promotions of a listing take the items
  that they match to its front and leave the rest as it is without them (`arrange_chain`). For the
  promotions of a set this is `promotions_of_set_first`.
-/
import DocCorpus.Proofs.Members
import DocCorpus.Proofs.Precedence.Blocks

namespace DocCorpus

/-- A list is its items with a property and then its others, if no other stands before one of
these. -/
theorem filter_append_filter_not {α : Type} {p : α → Bool} {l : List α}
    (h : l.Pairwise fun a b => p b = true → p a = true) :
    l.filter p ++ l.filter (fun a => !p a) = l := by
  induction l with
  | nil => rfl
  | cons a l ih =>
    obtain ⟨hfirst, hl⟩ := List.pairwise_cons.1 h
    by_cases ha : p a = true
    · rw [List.filter_cons_of_pos ha, List.filter_cons_of_neg (by simp [ha]), List.cons_append,
        ih hl]
    · have hrest : ∀ b ∈ l, ¬ p b = true := fun b hb hpb => ha (hfirst b hb hpb)
      have hnone : l.filter p = [] := List.filter_eq_nil_iff.2 hrest
      rw [List.filter_cons_of_neg ha, hnone, List.nil_append]
      refine List.filter_eq_self.2 (List.forall_mem_cons.2 ⟨?_, fun b hb => ?_⟩)
      · simp [ha]
      · simp [hrest b hb]

namespace Precedence

variable {α : Type} {rules other : Precedence} {id : α → String}

/-! ## Rules that agree -/

theorem arrange_eq_self {items : List α} (h : Ordered rules id items) :
    rules.arrange id items = items :=
  eq_of_placed (ordered_arrange items) h fun place => placed_arrange place items

/-- Rules that do not differ about the items of a list arrange it in the same way. -/
theorem arrange_congr {items : List α}
    (h : ∀ a ∈ items, ∀ b ∈ items, (rules.place (id a)).precedes (rules.place (id b)) =
      (other.place (id a)).precedes (other.place (id b))) :
    rules.arrange id items = other.arrange id items := by
  have hmem : ∀ {a}, a ∈ other.arrange id items → a ∈ items :=
    fun ha => (arrange_perm other id items).mem_iff.1 ha
  refine eq_of_placed (ordered_arrange items) ?_ fun place => ?_
  · have hother : Ordered other id (other.arrange id items) := ordered_arrange items
    refine hother.imp_of_mem fun ha hb hprecedes => ?_
    rw [h _ (hmem ha) _ (hmem hb)]
    exact hprecedes
  · have hplaced : Ordered other id (placed rules id place items) := by
      refine List.pairwise_of_forall_mem_list fun a ha b hb => ?_
      obtain ⟨ha, hplacea⟩ := mem_placed.1 ha
      obtain ⟨hb, hplaceb⟩ := mem_placed.1 hb
      rw [← h a ha b hb, hplacea, hplaceb]
      exact Place.precedes_refl place
    calc placed rules id place (rules.arrange id items)
        = placed rules id place items := placed_arrange place items
      _ = other.arrange id (placed rules id place items) := (arrange_eq_self hplaced).symm
      _ = placed rules id place (other.arrange id items) := (filter_arrange _ items).symm

end Precedence

/-! ## Promotions in front -/

namespace Place

/-- The place behind `n` promotions that are put in front. -/
def behind (n : Nat) : Place → Place
  | .promoted rank => .promoted (rank + n)
  | .unmoved => .unmoved
  | .demoted rank => .demoted rank

theorem precedes_behind (n : Nat) (a b : Place) :
    (a.behind n).precedes (b.behind n) = a.precedes b := by
  cases a <;> cases b <;> simp [behind, precedes]

theorem not_behind_precedes {n rank : Nat} (h : rank < n) (a : Place) :
    ¬ (a.behind n).precedes (.promoted rank) = true := by
  cases a with
  | promoted later =>
    have hlater : ¬ later + n ≤ rank := by omega
    simp [behind, precedes, hlater]
  | unmoved => exact Bool.false_ne_true
  | demoted later => exact Bool.false_ne_true

end Place

namespace Precedence

section

variable {own promote demote : PatternSet} {x : String}

theorem place_own {rank : Nat} (h : own.firstMatch? x = some rank) (demote : PatternSet) :
    place ⟨own, demote⟩ x = .promoted rank := by
  unfold place
  rw [h]

theorem place_chain_of_match (promote demote : PatternSet) (h : own.isMatch x = true) :
    place ⟨own.chain promote, demote⟩ x = place ⟨own, .empty⟩ x := by
  obtain ⟨rank, hrank⟩ := Option.isSome_iff_exists.1 h
  have hchain : (own.chain promote).firstMatch? x = some rank := by
    rw [PatternSet.firstMatch?_chain, hrank, Option.some_or]
  rw [place_own hchain, place_own hrank]

theorem place_chain_of_not_match (promote demote : PatternSet) (h : own.isMatch x = false) :
    place ⟨own.chain promote, demote⟩ x = (place ⟨promote, demote⟩ x).behind own.size := by
  have hnone : own.firstMatch? x = none := by
    rw [← Option.not_isSome_iff_eq_none, Bool.not_eq_true]
    exact h
  unfold place
  dsimp only
  rw [PatternSet.firstMatch?_chain, hnone, Option.none_or]
  cases promote.firstMatch? x with
  | some rank => rfl
  | none => cases demote.firstMatch? x <;> rfl

/-- What the patterns in front match stands before everything else. -/
theorem isMatch_of_precedes {y : String} (promote demote : PatternSet) (hy : own.isMatch y = true)
    (h : (place ⟨own.chain promote, demote⟩ x).precedes (place ⟨own.chain promote, demote⟩ y)
      = true) : own.isMatch x = true := by
  obtain ⟨rank, hrank⟩ := Option.isSome_iff_exists.1 hy
  by_contra hx
  rw [Bool.not_eq_true] at hx
  rw [place_chain_of_not_match promote demote hx, place_chain_of_match promote demote hy,
    place_own hrank] at h
  exact Place.not_behind_precedes (PatternSet.firstMatch?_eq_some_iff.1 hrank).lt_size _ h

/-- With patterns in front, a list is arranged in two parts: what they match, by them alone, and
the rest by the rules without them. -/
theorem arrange_chain (own promote demote : PatternSet) (id : α → String) (items : List α) :
    arrange ⟨own.chain promote, demote⟩ id items =
      arrange ⟨own, .empty⟩ id (items.filter fun a => own.isMatch (id a)) ++
        arrange ⟨promote, demote⟩ id (items.filter fun a => !own.isMatch (id a)) := by
  have hordered : Ordered ⟨own.chain promote, demote⟩ id
      (arrange ⟨own.chain promote, demote⟩ id items) :=
    ordered_arrange items
  have hfront : (arrange ⟨own.chain promote, demote⟩ id items).Pairwise
      fun a b => own.isMatch (id b) = true → own.isMatch (id a) = true :=
    hordered.imp fun hprecedes hb => isMatch_of_precedes promote demote hb hprecedes
  rw [← filter_append_filter_not hfront, filter_arrange, filter_arrange]
  congr 1
  · refine arrange_congr fun a ha b hb => ?_
    have ha : own.isMatch (id a) = true := (List.mem_filter.1 ha).2
    have hb : own.isMatch (id b) = true := (List.mem_filter.1 hb).2
    rw [place_chain_of_match promote demote ha, place_chain_of_match promote demote hb]
  · refine arrange_congr fun a ha b hb => ?_
    have ha : own.isMatch (id a) = false := Bool.not_eq_eq_eq_not.1 (List.mem_filter.1 ha).2
    have hb : own.isMatch (id b) = false := Bool.not_eq_eq_eq_not.1 (List.mem_filter.1 hb).2
    rw [place_chain_of_not_match promote demote ha, place_chain_of_not_match promote demote hb, Place.precedes_behind]

end

end Precedence

/-! ## Promotions of a set -/

namespace Organizer

variable {project : Project} {section_ : LlmsSection} {o : Organizer}

/-- The promotions that are declared for one set alone. -/
def ownPromotions (section_ : LlmsSection) (declaration : SetDeclaration) : PatternSet :=
  .ofPatterns ((section_.setPromote.get? declaration.label).getD [])

/-- Declarations are accepted without their promotions by set too. -/
theorem ofDeclarations_without_promotions (h : ofDeclarations project section_ = .ok o) :
    ∃ plain, ofDeclarations project { section_ with setPromote := .empty } = .ok plain := by
  obtain ⟨hlabels, hslugs, -, -⟩ := ofDeclarations_eq_ok_iff.1 h
  exact ⟨_, ofDeclarations_eq_ok_iff.2 ⟨hlabels, hslugs, rfl, rfl⟩⟩

theorem members_organizeSet (h : ofDeclarations project section_ = .ok o)
    (documents : List Document) (declaration : SetDeclaration) :
    (o.organizeSet documents (compiled section_ declaration)).members =
      (Precedence.arrange
        ⟨(ownPromotions section_ declaration).chain (.ofPatterns section_.promote),
          .ofPatterns section_.demote⟩ Document.id
        (documents.filter fun d =>
          (PatternSet.ofPatterns declaration.patterns).isMatch d.id)).map .ofDocument := by
  obtain ⟨-, -, -, rfl⟩ := ofDeclarations_eq_ok_iff.1 h
  rfl

/-- Patterns before the promotions of a listing arrange what they match, and leave the rest to the
other rules. So a set lists first what its own promotions match, in their order, and then its other
members, as it would list them without promotions of its own. -/
theorem promotions_of_set_first :
    (∀ {α : Type} (own promote demote : PatternSet) (id : α → String) (items : List α),
      Precedence.arrange ⟨own.chain promote, demote⟩ id items =
        Precedence.arrange ⟨own, .empty⟩ id (items.filter fun a => own.isMatch (id a)) ++
          Precedence.arrange ⟨promote, demote⟩ id
            (items.filter fun a => !own.isMatch (id a))) ∧
    ∀ {project : Project} {section_ : LlmsSection} {o : Organizer},
      ofDeclarations project section_ = .ok o →
      ∀ (documents : List Document), ∀ declaration ∈ section_.sets,
        ∃ plain set set',
          ofDeclarations project { section_ with setPromote := .empty } = .ok plain ∧
          (o.organize documents).set declaration.label = .ok set ∧
          (plain.organize documents).set declaration.label = .ok set' ∧
          set.members =
            (Precedence.arrange ⟨ownPromotions section_ declaration, .empty⟩ Document.id
              (documents.filter fun d =>
                (ownPromotions section_ declaration).isMatch d.id &&
                  (PatternSet.ofPatterns declaration.patterns).isMatch d.id)).map .ofDocument ++
            set'.members.filter fun e => !(ownPromotions section_ declaration).isMatch e.id := by
  refine ⟨Precedence.arrange_chain, fun {project section_ o} h documents declaration hdeclared => ?_⟩
  obtain ⟨plain, hplain⟩ := ofDeclarations_without_promotions h
  refine ⟨plain, _, _, hplain, set_organize h documents hdeclared,
    set_organize hplain documents hdeclared, ?_⟩
  have hmembers : (plain.organizeSet documents
      (compiled { section_ with setPromote := .empty } declaration)).members =
      (Precedence.arrange ⟨.ofPatterns section_.promote, .ofPatterns section_.demote⟩ Document.id
        (documents.filter fun d =>
          (PatternSet.ofPatterns declaration.patterns).isMatch d.id)).map .ofDocument :=
    members_organizeSet hplain documents declaration
  rw [members_organizeSet h, hmembers, Precedence.arrange_chain, List.map_append, List.filter_map,
    List.filter_filter]
  congr 1
  exact congrArg (List.map ManifestEntry.ofDocument) (Precedence.filter_arrange _ _).symm

/-- A set with two promotions of its own, one of which a common promotion overlaps. -/
def scopedSection : LlmsSection :=
  { Configuration.default.llms with
    promote := ["languages", "languages/n*"]
    demote := ["languages/python"]
    sets := [⟨"Guides", "", ["guides/**"]⟩, ⟨"Languages", "", ["languages/**"]⟩]
    setPromote := .ofList [("Languages", ["languages/python", "languages/node"])] }

def languageDocuments : List Document :=
  ["languages/ruby", "languages/node", "languages/nim", "index", "languages/python", "languages"].map
    fun id => ⟨id, .empty, ""⟩

theorem promotions_of_set_first_languages :
    ∃ o, ofDeclarations ⟨"P", none, none, ""⟩ scopedSection = .ok o ∧
      SetDeclaration.mk "Languages" "" ["languages/**"] ∈ scopedSection.sets ∧
      ∃ plain set set',
        ofDeclarations ⟨"P", none, none, ""⟩ { scopedSection with setPromote := .empty } =
          .ok plain ∧
        (o.organize languageDocuments).set "Languages" = .ok set ∧
        (plain.organize languageDocuments).set "Languages" = .ok set' ∧
        set.members =
          (Precedence.arrange ⟨.ofPatterns ["languages/python", "languages/node"], .empty⟩ Document.id
            (languageDocuments.filter fun d =>
              (PatternSet.ofPatterns ["languages/python", "languages/node"]).isMatch d.id &&
                (PatternSet.ofPatterns ["languages/**"]).isMatch d.id)).map .ofDocument ++
          set'.members.filter fun e =>
            !(PatternSet.ofPatterns ["languages/python", "languages/node"]).isMatch e.id := by
  have hok : (ofDeclarations ⟨"P", none, none, ""⟩ scopedSection).isOk = true := by decide +kernel
  obtain ⟨o, ho⟩ := Outcome.exists_of_isOk hok
  have hdeclared : SetDeclaration.mk "Languages" "" ["languages/**"] ∈ scopedSection.sets :=
    List.mem_cons_of_mem _ List.mem_cons_self
  exact ⟨o, ho, hdeclared, promotions_of_set_first.2 ho languageDocuments _ hdeclared⟩

end Organizer
end DocCorpus
