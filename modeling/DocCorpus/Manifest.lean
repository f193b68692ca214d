/-
  The organized view of a collection: the project, the declared sets with their members in order,
  and the external links. An `Organizer` holds the compiled and checked declarations.
-/
import DocCorpus.Configuration
import DocCorpus.Document
import DocCorpus.Precedence
import DocCorpus.Tree

namespace DocCorpus

/-- What the listings say about the project. -/
structure Project where
  name : String
  description : Option String
  details : Option String
  /-- What document links start with; no slash at its end. -/
  baseUrl : String

namespace Project

/-- The text without slashes at its end. -/
def dropSlashes (url : String) : String := String.ofList (Text.dropEnd (· = '/') url.toList)

def ofConfiguration (c : Configuration) : Project where
  name := c.projectName
  description := c.projectDescription
  details := c.llms.details
  baseUrl := dropSlashes (c.site.siteUrl.getD "")

end Project

/-- A document as listed in a set. -/
structure ManifestEntry where
  id : String
  title : String
  description : Option String

def ManifestEntry.ofDocument (d : Document) : ManifestEntry := ⟨d.id, d.displayTitle, d.description?⟩

structure ManifestSet where
  label : String
  /-- The label in the form of a file name. -/
  slug : String
  description : String
  patterns : List String
  members : List ManifestEntry
  slug_eq : slug = Label.slug label

structure Manifest where
  project : Project
  sets : List ManifestSet
  links : List ExternalLink

namespace Manifest

/-- The set with a label. -/
def set (m : Manifest) (label : String) : Except Failure ManifestSet :=
  match m.sets.find? (·.label = label) with
  | some s => .ok s
  | none => .error (.unknownSet label)

def setBySlug? (m : Manifest) (slug : String) : Option ManifestSet :=
  m.sets.find? (·.slug = slug)

end Manifest

/-! ## Organizing -/

/-- A declared set with its patterns compiled. -/
structure CompiledSet where
  declaration : SetDeclaration
  slug : String
  members : PatternSet
  /-- The patterns promoted in this set, and then those promoted everywhere. -/
  promote : PatternSet
  slug_eq : slug = Label.slug declaration.label

structure Organizer where
  project : Project
  sets : List CompiledSet
  rules : Precedence
  exclude : PatternSet
  links : List ExternalLink

namespace Organizer

/-- The declarations with their slugs, compiled. A label that repeats, or whose slug repeats, is
a failure. -/
def compileSets (s : LlmsSection) (labels slugs : List String) :
    List SetDeclaration → Except Failure (List CompiledSet)
  | [] => .ok []
  | declaration :: rest =>
    let slug := Label.slug declaration.label
    if labels.contains declaration.label then
      .error (.validation (.repeatedSetLabel declaration.label))
    else if slugs.contains slug then
      .error (.validation (.collidingSetLabel declaration.label slug))
    else do
      let ownPromote := (s.setPromote.get? declaration.label).getD []
      let compiled : CompiledSet := {
        declaration, slug
        members := .ofPatterns declaration.patterns
        promote := (PatternSet.ofPatterns ownPromote).chain (.ofPatterns s.promote)
        slug_eq := rfl }
      let others ← compileSets s (declaration.label :: labels) (slug :: slugs) rest
      return compiled :: others

/-- The first key of the promotions by set that no set has as its label. -/
def strayPromotion? (s : LlmsSection) : Option String :=
  s.setPromote.keys.find? fun label => !(s.sets.map SetDeclaration.label).contains label

def ofDeclarations (project : Project) (s : LlmsSection) : Except Failure Organizer := do
  let sets ← compileSets s [] [] s.sets
  match strayPromotion? s with
  | some label => .error (.unknownSet label)
  | none =>
    .ok {
      project, sets
      rules := ⟨.ofPatterns s.promote, .ofPatterns s.demote⟩
      exclude := .ofPatterns s.exclude
      links := s.optionalLinks }

def ofConfiguration (c : Configuration) : Except Failure Organizer :=
  ofDeclarations (.ofConfiguration c) c.llms

/-- The members of a set among the documents, in their order. -/
def organizeSet (o : Organizer) (documents : List Document) (s : CompiledSet) : ManifestSet where
  label := s.declaration.label
  slug := s.slug
  description := s.declaration.description
  patterns := s.declaration.patterns
  members :=
    (Precedence.arrange ⟨s.promote, o.rules.demote⟩ Document.id
      (documents.filter fun d => s.members.isMatch d.id)).map .ofDocument
  slug_eq := s.slug_eq

def organize (o : Organizer) (documents : List Document) : Manifest :=
  ⟨o.project, o.sets.map (o.organizeSet documents), o.links⟩

/-- The documents that are not excluded, in their order. -/
def orderDocuments (o : Organizer) (documents : List Document) : List Document :=
  o.rules.arrange Document.id (documents.filter fun d => !o.exclude.isMatch d.id)

end Organizer

/-! ## Value trees -/

namespace Project

def toTree (p : Project) : Tree :=
  .table ([("name", .text p.name)] ++ Tree.optionalText "description" p.description ++
    Tree.optionalText "details" p.details ++ [("base_url", .text p.baseUrl)])

end Project

namespace ManifestEntry

def toTree (e : ManifestEntry) : Tree :=
  .table ([("id", .text e.id), ("title", .text e.title)] ++
    Tree.optionalText "description" e.description)

end ManifestEntry

namespace ManifestSet

def toTree (s : ManifestSet) : Tree :=
  .table [("label", .text s.label), ("slug", .text s.slug), ("description", .text s.description),
    ("patterns", .list (s.patterns.map .text)),
    ("members", .list (s.members.map ManifestEntry.toTree))]

end ManifestSet

namespace Manifest

def toTree (m : Manifest) : Tree :=
  .table [("project", m.project.toTree), ("sets", .list (m.sets.map ManifestSet.toTree)),
    ("links", .list (m.links.map ExternalLink.toTree))]

end Manifest
end DocCorpus
