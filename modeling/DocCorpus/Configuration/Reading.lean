/-
  Configurations read from value trees and written as such. A part that is left out has its
  default; a part that holds nothing is left out when written.
-/
import DocCorpus.Configuration
import DocCorpus.Record

namespace DocCorpus

/-! ## Sidebar -/

namespace SidebarItem

/-- A text among the members of a table. -/
def textMember? (members : List (String × Tree)) (key : String) : Option String :=
  match members.lookup key with
  | some (.text s) => some s
  | _ => none

/-- The entry that a table declares: a link goes before a group, and a group before a reference. -/
def ofMembers? (members : List (String × Tree)) (items : Option (List SidebarItem)) :
    Option SidebarItem :=
  match textMember? members "label", textMember? members "link", items with
  | some label, some target, _ => some (.link label target)
  | some label, none, some items => some (.group label items)
  | _, _, _ => (textMember? members "group").map .reference

mutual

def ofTree? : Tree → Option SidebarItem
  | .table members => ofMembers? members (groupItems? members)
  | _ => none

/-- The entries under the member `items`, if each is one. -/
def groupItems? : List (String × Tree) → Option (List SidebarItem)
  | [] => none
  | (key, value) :: rest => if key = "items" then listItems? value else groupItems? rest

def listItems? : Tree → Option (List SidebarItem)
  | .list items => allItems? items
  | _ => none

def allItems? : List Tree → Option (List SidebarItem)
  | [] => some []
  | item :: rest => do
    let head ← ofTree? item
    let tail ← allItems? rest
    return head :: tail

end

def ofTree (t : Tree) : Except ShapeFault SidebarItem :=
  match ofTree? t with
  | some item => .ok item
  | none => .error (.noVariant "NavDeclaration")

mutual

def toTree : SidebarItem → Tree
  | .link label target => .table [("label", .text label), ("link", .text target)]
  | .group label items => .table [("label", .text label), ("items", .list (itemTrees items))]
  | .reference name => .table [("group", .text name)]

def itemTrees : List SidebarItem → List Tree
  | [] => []
  | item :: rest => item.toTree :: itemTrees rest

end

end SidebarItem

/-- Texts as a tree. -/
def Tree.ofTexts (texts : List String) : Tree := .list (texts.map .text)

/-! ## Fields -/

namespace RecordField

variable {α : Type}

/-- A field that may be left out. -/
def optionally {β : Type} (name : String) (value : Tree → Except ShapeFault β)
    (set : α → β → α) : RecordField α :=
  ⟨name, true, fun t record => (value t).map (set record)⟩

/-- A field that has to be there. -/
def required {β : Type} (name : String) (value : Tree → Except ShapeFault β)
    (set : α → β → α) : RecordField α :=
  ⟨name, false, fun t record => (value t).map (set record)⟩

end RecordField

open RecordField (optionally required)

/-! ## Sections -/

def SidebarGroup.recordType : RecordType SidebarGroup where
  name := "NavGroupDeclaration"
  fields := [
    required "label" Tree.readText fun g label => { g with label },
    optionally "items" (Tree.readList SidebarItem.ofTree) fun g items => { g with items }]
  blank := ⟨"", []⟩

def SidebarGroup.toTree (g : SidebarGroup) : Tree :=
  .table [("label", .text g.label), ("items", .list (SidebarItem.itemTrees g.items))]

def SiteSection.recordType : RecordType SiteSection where
  name := "SiteMeta"
  fields := [
    optionally "title" Tree.readText fun s title => { s with title },
    optionally "description" Tree.readText? fun s description => { s with description },
    optionally "site_url" Tree.readText? fun s siteUrl => { s with siteUrl },
    optionally "social" (Tree.readTable Tree.readText) fun s social => { s with social },
    optionally "edit_link_base" Tree.readText? fun s editLinkBase => { s with editLinkBase }]
  blank := Configuration.default.site

def SiteSection.toTree (s : SiteSection) : Tree :=
  .table ([("title", .text s.title)] ++
    Tree.optionalText "description" s.description ++
    Tree.optionalText "site_url" s.siteUrl ++
    (if s.social.isEmpty then []
      else [("social", .table (s.social.entries.map fun (key, url) => (key, .text url)))]) ++
    Tree.optionalText "edit_link_base" s.editLinkBase)

def ContentSection.recordType : RecordType ContentSection where
  name := "ContentConfig"
  fields := [
    optionally "dir" Tree.readText fun s dir => { s with dir },
    optionally "extensions" (Tree.readList Tree.readText) fun s extensions =>
      { s with extensions }]
  blank := Configuration.default.content

def ContentSection.toTree (s : ContentSection) : Tree :=
  .table [("dir", .text s.dir), ("extensions", .ofTexts s.extensions)]

def SetDeclaration.recordType : RecordType SetDeclaration where
  name := "SetDeclaration"
  fields := [
    required "label" Tree.readText fun s label => { s with label },
    optionally "description" Tree.readText fun s description => { s with description },
    optionally "paths" (Tree.readList Tree.readText) fun s patterns => { s with patterns }]
  blank := ⟨"", "", []⟩

def SetDeclaration.toTree (s : SetDeclaration) : Tree :=
  .table [("label", .text s.label), ("description", .text s.description),
    ("paths", .ofTexts s.patterns)]

def ExternalLink.recordType : RecordType ExternalLink where
  name := "ExternalLink"
  fields := [
    required "label" Tree.readText fun l label => { l with label },
    required "url" Tree.readText fun l url => { l with url },
    optionally "description" Tree.readText fun l description => { l with description }]
  blank := ⟨"", "", ""⟩

def LlmsSection.recordType (surplus : Surplus) : RecordType LlmsSection where
  name := "LlmsConfig"
  fields := [
    optionally "project_name" Tree.readText? fun s projectName => { s with projectName },
    optionally "description" Tree.readText? fun s description => { s with description },
    optionally "details" Tree.readText? fun s details => { s with details },
    optionally "promote" (Tree.readList Tree.readText) fun s promote => { s with promote },
    optionally "demote" (Tree.readList Tree.readText) fun s demote => { s with demote },
    optionally "exclude" (Tree.readList Tree.readText) fun s exclude => { s with exclude },
    optionally "sets" (Tree.readList (SetDeclaration.recordType.read surplus)) fun s sets =>
      { s with sets },
    optionally "set_promote" (Tree.readTable (Tree.readList Tree.readText)) fun s setPromote =>
      { s with setPromote },
    optionally "optional_links" (Tree.readList (ExternalLink.recordType.read surplus))
      fun s optionalLinks => { s with optionalLinks }]
  blank := Configuration.default.llms

def LlmsSection.toTree (s : LlmsSection) : Tree :=
  .table (
    Tree.optionalText "project_name" s.projectName ++
    Tree.optionalText "description" s.description ++
    Tree.optionalText "details" s.details ++
    [("promote", .ofTexts s.promote), ("demote", .ofTexts s.demote),
      ("exclude", .ofTexts s.exclude), ("sets", .list (s.sets.map SetDeclaration.toTree))] ++
    (if s.setPromote.isEmpty then []
      else [("set_promote",
        .table (s.setPromote.entries.map fun (label, patterns) => (label, .ofTexts patterns)))]) ++
    [("optional_links", .list (s.optionalLinks.map ExternalLink.toTree))])

def ExportSection.recordType : RecordType ExportSection where
  name := "ExportConfig"
  fields := [
    optionally "secret_env" Tree.readText fun s secretEnv => { s with secretEnv },
    optionally "require_secret" Tree.readFlag fun s requireSecret => { s with requireSecret }]
  blank := Configuration.default.access

def ExportSection.toTree (s : ExportSection) : Tree :=
  .table [("secret_env", .text s.secretEnv), ("require_secret", .boolean s.requireSecret)]

def ServerSection.recordType : RecordType ServerSection where
  name := "ServerConfig"
  fields := [optionally "bind" Tree.readText fun s bind => { s with bind }]
  blank := Configuration.default.server

def ServerSection.toTree (s : ServerSection) : Tree := .table [("bind", .text s.bind)]

/-! ## Configurations -/

namespace Configuration

def recordType (surplus : Surplus) : RecordType Configuration where
  name := "SiteConfig"
  fields := [
    optionally "site" (SiteSection.recordType.read surplus) fun c site => { c with site },
    optionally "content" (ContentSection.recordType.read surplus) fun c content =>
      { c with content },
    optionally "llms" ((LlmsSection.recordType surplus).read surplus) fun c llms =>
      { c with llms },
    optionally "export" (ExportSection.recordType.read surplus) fun c access => { c with access },
    optionally "server" (ServerSection.recordType.read surplus) fun c server => { c with server },
    optionally "sidebar" (Tree.readList SidebarItem.ofTree) fun c sidebar => { c with sidebar },
    optionally "sidebar_groups" (Tree.readTable (SidebarGroup.recordType.read surplus))
      fun c sidebarGroups => { c with sidebarGroups }]
  blank := default

/-- The configuration that a tree holds. -/
def ofTree (surplus : Surplus) (t : Tree) : Except ShapeFault Configuration :=
  (recordType surplus).read surplus t

def toTree (c : Configuration) : Tree :=
  .table (
    [("site", c.site.toTree), ("content", c.content.toTree), ("llms", c.llms.toTree),
      ("export", c.access.toTree), ("server", c.server.toTree)] ++
    (if c.sidebar.isEmpty then [] else [("sidebar", .list (SidebarItem.itemTrees c.sidebar))]) ++
    (if c.sidebarGroups.isEmpty then []
      else [("sidebar_groups",
        .table (c.sidebarGroups.entries.map fun (name, group) => (name, group.toTree)))]))

end Configuration
end DocCorpus
