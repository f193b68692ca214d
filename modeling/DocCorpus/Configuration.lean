/-
  The configuration of a site: what it is called, where its content lives, how its documents are
  organized, who may read its export, and its sidebar.
-/
import DocCorpus.Failure
import DocCorpus.Path
import DocCorpus.Table
import DocCorpus.Tree

namespace DocCorpus

/-- An entry of the sidebar as declared. -/
inductive SidebarItem
  | link (label target : String)
  | group (label : String) (items : List SidebarItem)
  /-- A group declared elsewhere, by its name. -/
  | reference (name : String)

/-- A group of sidebar entries that others may refer to. -/
structure SidebarGroup where
  label : String
  items : List SidebarItem

structure SiteSection where
  title : String
  description : Option String
  siteUrl : Option String
  social : Table String
  editLinkBase : Option String

structure ContentSection where
  dir : String
  extensions : List String

/-- A set of documents: those whose identifier matches one of the patterns. -/
structure SetDeclaration where
  label : String
  description : String
  patterns : List String

structure ExternalLink where
  label : String
  url : String
  description : String

def ExternalLink.toTree (l : ExternalLink) : Tree :=
  .table [("label", .text l.label), ("url", .text l.url), ("description", .text l.description)]

/-- How the collection is organized for language models. -/
structure LlmsSection where
  projectName : Option String
  description : Option String
  details : Option String
  promote : List String
  demote : List String
  exclude : List String
  sets : List SetDeclaration
  /-- Patterns promoted in one set only, by the label of the set. -/
  setPromote : Table (List String)
  optionalLinks : List ExternalLink

structure ExportSection where
  /-- The environment variable that holds the secret. -/
  secretEnv : String
  requireSecret : Bool

structure ServerSection where
  bind : String

structure Configuration where
  site : SiteSection
  content : ContentSection
  llms : LlmsSection
  access : ExportSection
  server : ServerSection
  sidebar : List SidebarItem
  sidebarGroups : Table SidebarGroup

namespace Configuration

/-- The file that holds a configuration by default. -/
def fileName : String := "docsets.toml"

/-- What holds where nothing is declared. -/
def default : Configuration where
  site := ⟨"Documentation", none, none, .empty, none⟩
  content := ⟨"src/content/docs", ["md", "mdx"]⟩
  llms := ⟨none, none, none, ["index*"], [], [], [], .empty, []⟩
  access := ⟨"EXPORT_ENDPOINT_PASSWORD", false⟩
  server := ⟨"127.0.0.1:4321"⟩
  sidebar := []
  sidebarGroups := .empty

def projectName (c : Configuration) : String := c.llms.projectName.getD c.site.title

def projectDescription (c : Configuration) : Option String :=
  c.llms.description.or c.site.description

/-- The content directory, relative to the directory of the configuration file. -/
def contentDir (c : Configuration) (file : Path) : Path :=
  let dir : Path := ⟨c.content.dir⟩
  if dir.isAbsolute then dir
  else
    match file.parent? with
    | some parent => parent.join dir
    | none => dir

/-- The export secret in an environment. A secret that is unset or empty is none; where one is
required that is a failure. -/
def exportSecret (c : Configuration) (env : List (String × String)) :
    Except Failure (Option String) :=
  match env.lookup c.access.secretEnv with
  | some secret =>
    if secret ≠ "" then .ok (some secret)
    else if c.access.requireSecret then .error (.config (.secretMissing c.access.secretEnv))
    else .ok none
  | none =>
    if c.access.requireSecret then .error (.config (.secretMissing c.access.secretEnv))
    else .ok none

end Configuration
end DocCorpus
