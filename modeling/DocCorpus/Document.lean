/-
  A document of the collection: an identifier, metadata and a body.
-/
import DocCorpus.Identifier

namespace DocCorpus

structure Document where
  id : String
  data : Metadata
  body : String

namespace Document

/-- A document under its normalized identifier. -/
def make (id : String) (data : Metadata) (body : String) : Document :=
  ⟨Identifier.normalize id, data, body⟩

def title? (d : Document) : Option String := d.data.getText? "title"

def description? (d : Document) : Option String := d.data.getText? "description"

/-- The title for listings: the title in the metadata, else one made from the identifier. -/
def displayTitle (d : Document) : String := d.title?.getD (Identifier.title d.id)

end Document
end DocCorpus
