/-
  Configurations read back from the trees that they are written as. What is left out when written is
  what holds where nothing is declared, section by section, and no entry of a sidebar is taken for
  one of another kind (`SidebarItem.ofTree?_of_reordered`). So the configuration that is read is the
  one that was written, whatever becomes of the order of members (`Configuration.ofTree_toTree`).
-/
import DocCorpus.Proofs.Record

namespace DocCorpus

open RecordField (Apart apart_of_set)
open RecordType (Fills readsAs_read)
open DocCorpus.Tree (ReadsAs readsAs_text readsAs_flag readsAs_list readsAs_table)

/-! ## Sidebar -/

namespace SidebarItem

variable {members members' : List (String × Tree)} {t : Tree}

theorem groupItems?_eq (members : List (String × Tree)) :
    groupItems? members = (members.lookup "items").bind listItems? := by
  induction members with
  | nil => rfl
  | cons m members ih =>
    obtain ⟨key, value⟩ := m
    rw [groupItems?, List.lookup_cons]
    by_cases hkey : key = "items"
    · rw [if_pos hkey, hkey, beq_self_eq_true]
      rfl
    · rw [if_neg hkey, beq_eq_false_iff_ne.2 (Ne.symm hkey)]
      exact ih

/-- The order of the members of an entry does not matter. -/
theorem ofTree?_of_perm (hperm : members.Perm members') (hkeys : (members.map Prod.fst).Nodup) :
    ofTree? (.table members') = ofTree? (.table members) := by
  have hlookup : ∀ key, members'.lookup key = members.lookup key :=
    fun key => (Table.lookup_of_perm hperm hkeys).symm
  show ofMembers? members' (groupItems? members') = ofMembers? members (groupItems? members)
  simp only [ofMembers?, textMember?, groupItems?_eq, hlookup]

theorem exists_of_reordered (h : (Tree.table members).Reordered t)
    (hkeys : (members.map Prod.fst).Nodup) :
    ∃ between, List.Forall₂ Tree.SameMember members between ∧
      ofTree? t = ofTree? (.table between) := by
  obtain ⟨between, members', rfl, hsame, hbetween, hperm⟩ := h.exists_table
  exact ⟨between, hbetween, ofTree?_of_perm hperm (hsame ▸ hkeys)⟩

mutual

/-- An entry that is written as a tree is read from it as the same kind of entry. -/
theorem ofTree?_of_reordered : ∀ (item : SidebarItem) {t : Tree}, item.toTree.Reordered t →
    ofTree? t = some item
  | .link label target, t, h => by
    obtain ⟨between, hbetween, ht⟩ :=
      exists_of_reordered h (show ["label", "link"].Nodup by decide)
    obtain ⟨⟨_, _⟩, _, ⟨rfl, hlabel⟩, hrest, rfl⟩ := List.forall₂_cons_left_iff.1 hbetween
    obtain ⟨⟨_, _⟩, _, ⟨rfl, htarget⟩, hnil, rfl⟩ := List.forall₂_cons_left_iff.1 hrest
    cases hnil
    cases hlabel
    cases htarget
    exact ht
  | .group label items, t, h => by
    obtain ⟨between, hbetween, ht⟩ :=
      exists_of_reordered h (show ["label", "items"].Nodup by decide)
    obtain ⟨⟨_, _⟩, _, ⟨rfl, hlabel⟩, hrest, rfl⟩ := List.forall₂_cons_left_iff.1 hbetween
    obtain ⟨⟨_, _⟩, _, ⟨rfl, hitems⟩, hnil, rfl⟩ := List.forall₂_cons_left_iff.1 hrest
    cases hnil
    cases hlabel
    obtain ⟨trees, rfl, htrees⟩ := hitems.exists_list
    have hall : groupItems? [("label", .text label), ("items", .list trees)] = some items :=
      allItems?_of_reordered items htrees
    rw [ht, ofTree?, hall]
    rfl
  | .reference name, t, h => by
    obtain ⟨between, hbetween, ht⟩ := exists_of_reordered h (show ["group"].Nodup by decide)
    obtain ⟨⟨_, _⟩, _, ⟨rfl, hname⟩, hnil, rfl⟩ := List.forall₂_cons_left_iff.1 hbetween
    cases hnil
    cases hname
    exact ht

theorem allItems?_of_reordered : ∀ (items : List SidebarItem) {trees : List Tree},
    List.Forall₂ Tree.Reordered (itemTrees items) trees → allItems? trees = some items
  | [], _, h => by
    cases h
    rfl
  | item :: items, _, h => by
    obtain ⟨tree, trees, htree, htrees, rfl⟩ := List.forall₂_cons_left_iff.1 h
    rw [allItems?, ofTree?_of_reordered item htree, allItems?_of_reordered items htrees]
    rfl

end

theorem readsAs_toTree (item : SidebarItem) : ReadsAs ofTree item.toTree item := by
  intro t h
  rw [ofTree, ofTree?_of_reordered item h]

theorem itemTrees_eq_map (items : List SidebarItem) : itemTrees items = items.map toTree := by
  induction items with
  | nil => rfl
  | cons item items ih => rw [itemTrees, ih, List.map_cons]

theorem readsAs_itemTrees (items : List SidebarItem) :
    ReadsAs (Tree.readList ofTree) (.list (itemTrees items)) items := by
  rw [itemTrees_eq_map]
  exact readsAs_list readsAs_toTree items

end SidebarItem

/-! ## Sections -/

theorem Tree.readsAs_ofTexts (texts : List String) :
    ReadsAs (readList readText) (.ofTexts texts) texts :=
  readsAs_list readsAs_text texts

namespace SidebarGroup

/-- The fields set different parts of the record. -/
theorem apart_fields : recordType.fields.Pairwise Apart := by
  simp only [recordType, List.pairwise_cons, List.forall_mem_cons, List.not_mem_nil,
    false_implies, implies_true, List.Pairwise.nil, and_true]
  exact apart_of_set (by decide) fun _ _ _ => rfl

theorem readsAs_toTree (surplus : Surplus) (g : SidebarGroup) :
    ReadsAs (recordType.read surplus) g.toTree g :=
  readsAs_read apart_fields
    (.member (readsAs_text g.label) (.member (SidebarItem.readsAs_itemTrees g.items) (.nil g)))
    surplus

end SidebarGroup

namespace SiteSection

theorem apart_fields : recordType.fields.Pairwise Apart := by
  simp only [recordType, List.pairwise_cons, List.forall_mem_cons, List.not_mem_nil,
    false_implies, implies_true, List.Pairwise.nil, and_true]
  and_intros
  all_goals exact apart_of_set (by decide) fun _ _ _ => rfl

theorem readsAs_toTree (surplus : Surplus) (s : SiteSection) :
    ReadsAs (recordType.read surplus) s.toTree s := by
  refine readsAs_read apart_fields ?_ surplus
  simp only [List.append_assoc]
  rw [← List.append_nil (Tree.optionalText "edit_link_base" s.editLinkBase)]
  -- field by field; in the end nothing of the blank section is left
  exact .member (readsAs_text s.title) <| .optionalText rfl <| .optionalText rfl <|
    .unless Table.eq_empty rfl (readsAs_table readsAs_text s.social) <|
    .optionalText rfl <| .nil s

end SiteSection

namespace ContentSection

theorem apart_fields : recordType.fields.Pairwise Apart := by
  simp only [recordType, List.pairwise_cons, List.forall_mem_cons, List.not_mem_nil,
    false_implies, implies_true, List.Pairwise.nil, and_true]
  exact apart_of_set (by decide) fun _ _ _ => rfl

theorem readsAs_toTree (surplus : Surplus) (s : ContentSection) :
    ReadsAs (recordType.read surplus) s.toTree s :=
  readsAs_read apart_fields
    (.member (readsAs_text s.dir) <| .member (Tree.readsAs_ofTexts s.extensions) <| .nil s) surplus

end ContentSection

namespace SetDeclaration

theorem apart_fields : recordType.fields.Pairwise Apart := by
  simp only [recordType, List.pairwise_cons, List.forall_mem_cons, List.not_mem_nil,
    false_implies, implies_true, List.Pairwise.nil, and_true]
  and_intros
  all_goals exact apart_of_set (by decide) fun _ _ _ => rfl

theorem readsAs_toTree (surplus : Surplus) (s : SetDeclaration) :
    ReadsAs (recordType.read surplus) s.toTree s :=
  readsAs_read apart_fields
    (.member (readsAs_text s.label) <| .member (readsAs_text s.description) <|
      .member (Tree.readsAs_ofTexts s.patterns) <| .nil s) surplus

end SetDeclaration

namespace ExternalLink

theorem apart_fields : recordType.fields.Pairwise Apart := by
  simp only [recordType, List.pairwise_cons, List.forall_mem_cons, List.not_mem_nil,
    false_implies, implies_true, List.Pairwise.nil, and_true]
  and_intros
  all_goals exact apart_of_set (by decide) fun _ _ _ => rfl

theorem readsAs_toTree (surplus : Surplus) (l : ExternalLink) :
    ReadsAs (recordType.read surplus) l.toTree l :=
  readsAs_read apart_fields
    (.member (readsAs_text l.label) <| .member (readsAs_text l.url) <|
      .member (readsAs_text l.description) <| .nil l) surplus

end ExternalLink

namespace LlmsSection

theorem apart_fields (surplus : Surplus) : (recordType surplus).fields.Pairwise Apart := by
  simp only [recordType, List.pairwise_cons, List.forall_mem_cons, List.not_mem_nil,
    false_implies, implies_true, List.Pairwise.nil, and_true]
  and_intros
  all_goals exact apart_of_set (by decide) fun _ _ _ => rfl

theorem readsAs_toTree (surplus : Surplus) (s : LlmsSection) :
    ReadsAs ((recordType surplus).read surplus) s.toTree s := by
  refine readsAs_read (apart_fields surplus) ?_ surplus
  simp only [List.append_assoc]
  exact .optionalText rfl <| .optionalText rfl <| .optionalText rfl <|
    .member (Tree.readsAs_ofTexts s.promote) <| .member (Tree.readsAs_ofTexts s.demote) <|
    .member (Tree.readsAs_ofTexts s.exclude) <|
    .member (readsAs_list (SetDeclaration.readsAs_toTree surplus) s.sets) <|
    .unless Table.eq_empty rfl (readsAs_table Tree.readsAs_ofTexts s.setPromote) <|
    .member (readsAs_list (ExternalLink.readsAs_toTree surplus) s.optionalLinks) <| .nil s

end LlmsSection

namespace ExportSection

theorem apart_fields : recordType.fields.Pairwise Apart := by
  simp only [recordType, List.pairwise_cons, List.forall_mem_cons, List.not_mem_nil,
    false_implies, implies_true, List.Pairwise.nil, and_true]
  exact apart_of_set (by decide) fun _ _ _ => rfl

theorem readsAs_toTree (surplus : Surplus) (s : ExportSection) :
    ReadsAs (recordType.read surplus) s.toTree s :=
  readsAs_read apart_fields
    (.member (readsAs_text s.secretEnv) <| .member (readsAs_flag s.requireSecret) <| .nil s) surplus

end ExportSection

theorem ServerSection.readsAs_toTree (surplus : Surplus) (s : ServerSection) :
    ReadsAs (recordType.read surplus) s.toTree s :=
  readsAs_read (List.pairwise_singleton _ _) (.member (readsAs_text s.bind) <| .nil s) surplus

/-! ## Configurations -/

namespace Configuration

theorem apart_fields (surplus : Surplus) : (recordType surplus).fields.Pairwise Apart := by
  simp only [recordType, List.pairwise_cons, List.forall_mem_cons, List.not_mem_nil,
    false_implies, implies_true, List.Pairwise.nil, and_true]
  and_intros
  all_goals exact apart_of_set (by decide) fun _ _ _ => rfl

theorem readsAs_toTree (surplus : Surplus) (c : Configuration) :
    ReadsAs (ofTree surplus) c.toTree c := by
  refine readsAs_read (apart_fields surplus) ?_ surplus
  rw [List.append_assoc, ← List.append_nil (if c.sidebarGroups.isEmpty then [] else _)]
  exact .member (c.site.readsAs_toTree surplus) <| .member (c.content.readsAs_toTree surplus) <|
    .member (c.llms.readsAs_toTree surplus) <| .member (c.access.readsAs_toTree surplus) <|
    .member (c.server.readsAs_toTree surplus) <|
    .unless List.isEmpty_iff.1 rfl (SidebarItem.readsAs_itemTrees c.sidebar) <|
    .unless Table.eq_empty rfl
      (readsAs_table (SidebarGroup.readsAs_toTree surplus) c.sidebarGroups) <| .nil c

/-- The tree that a configuration is written as is read as that configuration, and so is every tree
that differs from it in the order of members only. -/
theorem ofTree_toTree (surplus : Surplus) (c : Configuration) :
    ofTree surplus c.toTree = .ok c ∧ ∀ t, c.toTree.Reordered t → ofTree surplus t = .ok c :=
  ⟨readsAs_toTree surplus c c.toTree (.refl c.toTree), readsAs_toTree surplus c⟩

/-- A configuration that promotes nothing, with a group in the sidebar and a reference in it. -/
def nested : Configuration :=
  { default with
    llms := { default.llms with promote := [] }
    sidebar := [.group "Guides" [.link "Intro" "/intro/", .reference "shared"]]
    sidebarGroups := Table.empty.insert "shared" ⟨"Shared", []⟩ }

theorem ofTree_toTree_nested : ∃ members, nested.toTree = .table members ∧
    members.map Prod.fst =
      ["site", "content", "llms", "export", "server", "sidebar", "sidebar_groups"] ∧
    ofTree .ignored (.table members.reverse) = .ok nested := by
  refine ⟨_, rfl, rfl, (ofTree_toTree .ignored nested).2 _ (.table rfl ?_ ?_)⟩
  · exact List.forall₂_same.2 fun t _ => .refl t
  · exact (List.reverse_perm _).symm

end Configuration

end DocCorpus
