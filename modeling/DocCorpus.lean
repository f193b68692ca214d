import DocCorpus.Text.Blank
import DocCorpus.Text.Lines
import DocCorpus.Text.Split
import DocCorpus.Text.Letter
import DocCorpus.Text.Quoted
import DocCorpus.Number.Binary64
import DocCorpus.Number.Decimal
import DocCorpus.Number.Digit
import DocCorpus.Number.Shortest
import DocCorpus.Document
import DocCorpus.Export
import DocCorpus.Json.Reader
import DocCorpus.Snapshot
import DocCorpus.Yaml.Reader
import DocCorpus.Frontmatter
import DocCorpus.Collection
import DocCorpus.Glob
import DocCorpus.Precedence
import DocCorpus.Minify
import DocCorpus.Table
import DocCorpus.Toml.Reader
import DocCorpus.Toml.Writer
import DocCorpus.Configuration
import DocCorpus.Configuration.Reading
import DocCorpus.Configuration.File
import DocCorpus.LlmsText.Writer
import DocCorpus.LlmsText.Reader
import DocCorpus.Navigation
import DocCorpus.Sidebar
import DocCorpus.Policy
import DocCorpus.Sha256
import DocCorpus.FileTree
import DocCorpus.FileTree.Change
import DocCorpus.Artifacts
import DocCorpus.Site
import DocCorpus.Endpoint
import DocCorpus.SocketAddress
import DocCorpus.CommandLine.Execution
import DocCorpus.Main
import DocCorpus.Proofs.Snapshot
import DocCorpus.Proofs.Navigation
import DocCorpus.Proofs.Glob.Alignment
import DocCorpus.Proofs.LlmsText.Index
import DocCorpus.Proofs.Artifacts.Rebuilding
import DocCorpus.Proofs.Builder.Unfolding
import DocCorpus.Proofs.Endpoint.Access
import DocCorpus.Proofs.Endpoint.Agreement
import DocCorpus.Proofs.Members
import DocCorpus.Proofs.Site.Failure
import DocCorpus.Proofs.LlmsText.Resolution
import DocCorpus.Proofs.Json.Numeral
import DocCorpus.Proofs.Snapshot.Canonical
import DocCorpus.Proofs.Precedence.Blocks
import DocCorpus.Proofs.Collection.Listing
import DocCorpus.Proofs.Configuration
import DocCorpus.Proofs.Precedence.Chained
import DocCorpus.Proofs.Site.Sets
import DocCorpus.Proofs.Frontmatter
import DocCorpus.Proofs.Glob.Globstar
import DocCorpus.Proofs.Identifier
import DocCorpus.Proofs.LlmsText.Removal
import DocCorpus.Proofs.Site.SetFiles
import DocCorpus.Proofs.Metadata.Insertion
import DocCorpus.Proofs.Identifier.Slug
import DocCorpus.Proofs.Minify.Code
import DocCorpus.Proofs.Minify.Remainder
import DocCorpus.Proofs.Minify.Blanks
import DocCorpus.Proofs.Artifacts.Survival
import DocCorpus.Proofs.Artifacts.Confinement
import DocCorpus.Proofs.Identifier.Title
import DocCorpus.Proofs.LinkTarget.Decoration
import DocCorpus.Proofs.Minify.Layout
import DocCorpus.Proofs.Minify.Nested
