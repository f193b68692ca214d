/-
  What stands in the texts for a document, a link, a set. Each text is told by its parts: which
  words are there, which blanks were taken, which part is left out when it has nothing to show.
  For one document or link there is one such text, and it is the one that is written
  (`documentText_iff`, `linkText_iff`). So a set file holds a text for each document of the set
  (`setFileText_bundle`), and the section of a set a line for each (`sectionText_setBlock`).
-/
import DocCorpus.LlmsText.Writer
import DocCorpus.Proofs.Text.Trimming
import Mathlib.Data.List.Forall2

namespace DocCorpus.LlmsText

/-! ## Texts that may have nothing to show -/

/-- A text as it is shown behind and before some marks: trimmed, and with its marks left out where
it has only blanks. -/
inductive Shows (before after s : String) : String → Prop
  | blank (nothing : Text.Trimmed s.toList []) : Shows before after s ""
  | visible {t : String} (trimmed : Text.Trimmed s.toList t.toList) (something : t ≠ "") :
      Shows before after s (before ++ t ++ after)

theorem trimmed_trimText (s : String) : Text.Trimmed s.toList (trimText s).toList :=
  Text.trimmed_iff.2 String.toList_ofList

theorem eq_trimText {s t : String} (h : Text.Trimmed s.toList t.toList) : t = trimText s := by
  rw [trimText, ← Text.trimmed_iff.1 h, String.ofList_toList]

theorem visible?_eq_none_iff {s : String} : visible? s = none ↔ Text.Trimmed s.toList [] := by
  have hnil : Text.Trimmed s.toList [] ↔ trimText s = "" := by
    rw [Text.trimmed_iff, ← String.toList_eq_nil_iff, trimText, String.toList_ofList, eq_comm]
  rw [hnil]
  simp [visible?]

theorem visible?_eq_some_iff {s t : String} :
    visible? s = some t ↔ Text.Trimmed s.toList t.toList ∧ t ≠ "" := by
  constructor
  · intro h
    unfold visible? at h
    dsimp only at h
    split at h
    · cases h
    · next hne =>
      obtain rfl := Option.some.inj h
      exact ⟨trimmed_trimText s, hne⟩
  · rintro ⟨htrimmed, hne⟩
    obtain rfl := eq_trimText htrimmed
    exact if_neg hne

variable {before after text : String}

/-- A missing text shows as little as an empty one. -/
theorem shows_iff {s : Option String} :
    Shows before after (s.getD "") text ↔
      text = (s.bind visible?).elim "" fun t => before ++ t ++ after := by
  have hempty : visible? "" = none := visible?_eq_none_iff.2 (Text.trimmed_iff.2 rfl)
  have hbind : s.bind visible? = visible? (s.getD "") := by
    cases s with
    | none => exact hempty.symm
    | some s => rw [Option.bind_some, Option.getD_some]
  rw [hbind]
  generalize s.getD "" = s
  constructor
  · rintro (hnothing | ⟨htrimmed, hsomething⟩)
    · rw [visible?_eq_none_iff.2 hnothing]
      rfl
    · rw [visible?_eq_some_iff.2 ⟨htrimmed, hsomething⟩]
      rfl
  · rintro rfl
    cases hvisible : visible? s with
    | none => exact .blank (visible?_eq_none_iff.1 hvisible)
    | some t =>
      obtain ⟨htrimmed, hsomething⟩ := visible?_eq_some_iff.1 hvisible
      exact .visible htrimmed hsomething

/-! ## Documents -/

/-- A document in a set file: a line with its title, its description as a quotation, its body. -/
def DocumentText (d : Document) (text : String) : Prop :=
  ∃ quotation body, Shows "\n> " "\n" (d.description?.getD "") quotation ∧
    Shows "\n" "\n" d.body body ∧ text = "\n# " ++ d.displayTitle ++ "\n" ++ quotation ++ body

theorem documentText_iff {d : Document} : DocumentText d text ↔ text = document trimText d := by
  have hbody : ((some d.body).bind visible?).elim "" (fun t => "\n" ++ t ++ "\n") =
      if trimText d.body = "" then "" else "\n" ++ trimText d.body ++ "\n" := by
    rw [Option.bind_some]
    unfold visible?
    dsimp only
    split <;> rfl
  have hwritten : document trimText d = "\n# " ++ d.displayTitle ++ "\n" ++
      (d.description?.bind visible?).elim "" (fun t => "\n> " ++ t ++ "\n") ++
      ((some d.body).bind visible?).elim "" (fun t => "\n" ++ t ++ "\n") := by
    rw [hbody]
    unfold document
    cases d.description?.bind visible? <;> rfl
  rw [hwritten]
  constructor
  · rintro ⟨quotation, body, hquotation, hbody, rfl⟩
    rw [shows_iff.1 hquotation, shows_iff (s := some d.body) |>.1 hbody]
  · rintro rfl
    exact ⟨_, _, shows_iff.2 rfl, shows_iff (s := some d.body) |>.2 rfl, rfl⟩

/-- The file of a set: its first line names the set and the project, then come its documents. -/
def SetFileText (project label : String) (members : List Document) (text : String) : Prop :=
  ∃ documents, List.Forall₂ DocumentText members documents ∧
    text = "<SYSTEM>This is the developer documentation for " ++ label ++ " in " ++ project ++
      ".</SYSTEM>\n" ++ String.join documents

theorem setFileText_bundle (project label : String) (members : List Document) :
    SetFileText project label members (bundle
      ("This is the developer documentation for " ++ label ++ " in " ++ project ++ ".")
      trimText members) := by
  refine ⟨members.map (document trimText), ?_, ?_⟩
  · rw [List.forall₂_map_right_iff, List.forall₂_same]
    exact fun d _ => documentText_iff.2 rfl
  · have hopen : "<SYSTEM>This is the developer documentation for " =
        "<SYSTEM>" ++ "This is the developer documentation for " := by decide
    have hclose : ".</SYSTEM>\n" = "." ++ "</SYSTEM>\n" := by decide
    unfold bundle
    rw [hopen, hclose]
    simp only [String.append_assoc]

/-! ## Links -/

/-- A line with a link and, after a colon, what is said about it. -/
def LinkText (label url : String) (about : Option String) (line : String) : Prop :=
  ∃ notes, Shows ": " "" (about.getD "") notes ∧
    line = "- [" ++ label ++ "](" ++ url ++ ")" ++ notes ++ "\n"

theorem linkText_iff {label url : String} {about : Option String} :
    LinkText label url about text ↔ text = linkLine label url about := by
  have hwritten : linkLine label url about = "- [" ++ label ++ "](" ++ url ++ ")" ++
      (about.bind visible?).elim "" (fun t => ": " ++ t ++ "") ++ "\n" := by
    have hclose : "): " = ")" ++ ": " := by decide
    have hend : ")\n" = ")" ++ "\n" := by decide
    unfold linkLine
    cases about.bind visible? with
    | none =>
      rw [hend]
      simp only [Option.elim_none, String.append_assoc, String.append_empty]
    | some t =>
      rw [hclose]
      simp only [Option.elim_some, String.append_assoc, String.append_empty]
  rw [hwritten]
  constructor
  · rintro ⟨notes, hnotes, rfl⟩
    rw [shows_iff.1 hnotes]
  · rintro rfl
    exact ⟨_, shows_iff.2 rfl, rfl⟩

/-- The address of a page: the start page has that of the site. -/
inductive PageUrl (base : String) : String → String → Prop
  | start : PageUrl base "index" (base ++ "/")
  | page {id : String} (inner : id ≠ "index") : PageUrl base id (base ++ "/" ++ id ++ "/")

theorem pageUrl_documentUrl (base id : String) : PageUrl base id (documentUrl base id) := by
  unfold documentUrl
  split
  · next hid =>
    subst hid
    exact .start
  · next hid => exact .page hid

/-- A document in the section of a set: a link to its page, with its description. -/
def MemberText (base : String) (d : Document) (line : String) : Prop :=
  ∃ url, PageUrl base d.id url ∧ LinkText d.displayTitle url d.description? line

/-- The section of a set in the index: its label as a heading, its description, a line for each
document. -/
def SectionText (base : String) (declaration : SetDeclaration) (members : List Document)
    (text : String) : Prop :=
  ∃ intro lines, Shows "" "\n\n" declaration.description intro ∧
    List.Forall₂ (MemberText base) members lines ∧
    text = "## " ++ declaration.label ++ "\n\n" ++ intro ++ String.join lines

theorem sectionText_setBlock {base : String} {declaration : SetDeclaration} {s : ManifestSet}
    {members : List Document} (hlabel : s.label = declaration.label)
    (hdescription : s.description = declaration.description)
    (hlisted : s.members = members.map .ofDocument) :
    SectionText base declaration members (setBlock base s) := by
  refine ⟨_, members.map fun d => linkLine d.displayTitle (documentUrl base d.id) d.description?,
    shows_iff (s := some declaration.description) |>.2 rfl, ?_, ?_⟩
  · rw [List.forall₂_map_right_iff, List.forall₂_same]
    exact fun d _ => ⟨_, pageUrl_documentUrl base d.id, linkText_iff.2 rfl⟩
  · unfold setBlock
    rw [hlabel, hdescription, hlisted, List.map_map, Option.bind_some]
    cases visible? declaration.description with
    | none => rfl
    | some t =>
      dsimp only [Option.elim_some]
      rw [String.empty_append]
      rfl

end DocCorpus.LlmsText
