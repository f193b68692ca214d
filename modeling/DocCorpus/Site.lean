/-
  A site: a configuration whose set declarations are compiled and checked, and the policy of its
  export. From one snapshot of the collection it renders its sidebar, its texts and all artifacts.
-/
import DocCorpus.Artifacts
import DocCorpus.Export
import DocCorpus.Manifest
import DocCorpus.Policy
import DocCorpus.Sidebar

namespace DocCorpus

structure Site where
  config : Configuration
  organizer : Organizer
  policy : ExportPolicy

namespace Site

def ofConfiguration (config : Configuration) (policy : ExportPolicy) : Except Failure Site := do
  let organizer ← Organizer.ofConfiguration config
  return ⟨config, organizer, policy⟩

/-- The site with the export secret of an environment. -/
def inEnvironment (config : Configuration) (env : List (String × String)) :
    Except Failure Site := do
  let secret ← config.exportSecret env
  ofConfiguration config ⟨secret⟩

def identifiers (documents : List Document) : List String := documents.map Document.id

def manifest (s : Site) (documents : List Document) : Manifest := s.organizer.organize documents

def navigation (s : Site) (documents : List Document) : Except Failure Navigation :=
  Navigation.ofDeclaration s.config.sidebar s.config.sidebarGroups (identifiers documents)

/-! ## Texts -/

def indexText (s : Site) (documents : List Document) : String :=
  LlmsText.index (s.manifest documents)

def fullText (s : Site) (documents : List Document) : String :=
  LlmsText.full s.organizer.project (s.organizer.orderDocuments documents)

def smallText (s : Site) (documents : List Document) : String :=
  LlmsText.small s.organizer.project (s.organizer.orderDocuments documents)

/-- The file of the set with a slug, if there is such a set. -/
def setText? (s : Site) (documents : List Document) (slug : String) : Option String :=
  let manifest := s.manifest documents
  (manifest.setBySlug? slug).map fun set => LlmsText.setFile manifest.project set documents

/-! ## Artifacts -/

/-- The file of the export. -/
def exportName : String := "docs.json"

def artifacts (s : Site) (documents : List Document) : Except Failure (List Artifact) := do
  let manifest := s.manifest documents
  let exported ← Export.serialize documents
  return [
    .ofText exportName exported,
    .ofText LlmsText.indexName (LlmsText.index manifest),
    .ofText LlmsText.fullName (s.fullText documents),
    .ofText LlmsText.smallName (s.smallText documents)] ++
    manifest.sets.map fun set =>
      .ofText (LlmsText.setPath set.slug) (LlmsText.setFile manifest.project set documents)

/-- What a build made. -/
structure BuildSummary where
  documents : Nat
  sets : Nat
  report : ArtifactReport

/-- Writes all artifacts of a collection into a directory. Nothing is written unless the collection
can be read, its sidebar holds and everything renders. -/
def build (s : Site) (collection : Except Failure (List Document)) (out : Path) (time : String) :
    Disk BuildSummary := do
  let documents ← collection
  let _ ← s.navigation documents
  let artifacts ← s.artifacts documents
  let report ← Artifacts.write out time artifacts
  return ⟨documents.length, s.config.llms.sets.length, report⟩

end Site
end DocCorpus
