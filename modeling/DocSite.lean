import DocSite.CommandLine.Arguments
import DocSite.CommandLine.Run
import DocSite.Doclet.Basic
import DocSite.Doclet.Dump
import DocSite.Doclet.Field
import DocSite.Doclet.Order
import DocSite.Doclet.Query
import DocSite.Doclet.Reader
import DocSite.Doclet.Store
import DocSite.Fault
import DocSite.Files.Content
import DocSite.Files.Path
import DocSite.Files.Tree
import DocSite.Groups
import DocSite.Html
import DocSite.Link.Address
import DocSite.Link.InlineTag
import DocSite.Link.Markup
import DocSite.Link.PageName
import DocSite.Link.Registry
import DocSite.Main
import DocSite.Nav.Build
import DocSite.Nav.Menu
import DocSite.Nav.Section
import DocSite.Nav.Sidebar
import DocSite.Nav.Tree
import DocSite.Number.Double
import DocSite.Number.Integer
import DocSite.Number.Shortest
import DocSite.Page.Assets
import DocSite.Page.Container
import DocSite.Page.Parts
import DocSite.Page.Theme
import DocSite.Proofs.Text.Lowercase
import DocSite.Publish.Names
import DocSite.Publish.Site
import DocSite.Settings.Basic
import DocSite.Settings.Layers
import DocSite.Signature
import DocSite.Source.Listing
import DocSite.Source.Path
import DocSite.Table
import DocSite.Text.CodePage.Basic
import DocSite.Text.CodePage.Cyrillic
import DocSite.Text.CodePage.Dos
import DocSite.Text.CodePage.Ebcdic
import DocSite.Text.CodePage.Iso8859
import DocSite.Text.CodePage.Mac
import DocSite.Text.CodePage.Windows
import DocSite.Text.Encoding
import DocSite.Text.Encoding.Basic
import DocSite.Text.Encoding.Escaped
import DocSite.Text.Encoding.Names
import DocSite.Text.Encoding.Utf7
import DocSite.Text.Encoding.Utf8
import DocSite.Text.Encoding.Wide
import DocSite.Text.Letter
import DocSite.Text.Lower
import DocSite.Text.MultiByte.Basic
import DocSite.Text.MultiByte.Big5
import DocSite.Text.MultiByte.Chinese
import DocSite.Text.MultiByte.Gb2312
import DocSite.Text.MultiByte.Japanese
import DocSite.Text.MultiByte.Jis0208
import DocSite.Text.MultiByte.Jis0212
import DocSite.Text.MultiByte.JisExtra
import DocSite.Text.MultiByte.Korean
import DocSite.Text.MultiByte.Ks1001
import DocSite.Text.Percent
import DocSite.Text.Quoted
import DocSite.Text.Split
import DocSite.Text.Tables
import DocSite.Tutorial.Basic
import DocSite.Tutorial.Shelf
import DocSite.Type.Linker
import DocSite.Type.Token
import DocSite.Value.Basic
import DocSite.Value.Display
import DocSite.Value.Json
import DocSite.Value.Merge
import DocSite.Value.Yaml
import DocSite.Proofs.Link.PageName
import DocSite.Proofs.Link.Step
import DocSite.Proofs.Link.Assignment
import DocSite.Proofs.Link.Address
import DocSite.Proofs.Link.Hosting
import DocSite.Proofs.Link.Conflict
import DocSite.Proofs.Link.Sound
import DocSite.Proofs.Tutorial.Names
import DocSite.Proofs.Files.Tree
import DocSite.Proofs.Publish.Pages
import DocSite.Proofs.Publish.Phases
import DocSite.Proofs.Publish.Setup
import DocSite.Proofs.Publish.Run
import DocSite.Proofs.Publish.PagesApart
import DocSite.Proofs.Link.Within
import DocSite.Proofs.Page.Within
import DocSite.Proofs.Link.Leads
import DocSite.Proofs.Nav.Within
import DocSite.Proofs.Publish.Linked
import DocSite.Proofs.Publish.Hosts
import DocSite.Proofs.Publish.LinksClosed
import DocSite.Proofs.Link.Stable
import DocSite.Proofs.Link.Ids
import DocSite.Proofs.Link.OwnPage
import DocSite.Proofs.Link.Composed
import DocSite.Proofs.Publish.Headings
import DocSite.Proofs.Publish.Containers
import DocSite.Proofs.Nav.Listed
import DocSite.Proofs.Link.Nested
import DocSite.Proofs.Nav.Nested
import DocSite.Proofs.Doclet.Sorted
import DocSite.Proofs.Doclet.Unplaced
import DocSite.Proofs.Nav.Unplaced
import DocSite.Proofs.Page.Unplaced
import DocSite.Proofs.Publish.DumpOrder
import DocSite.Proofs.Text.Trim
import DocSite.Proofs.Link.InlineTag
import DocSite.Proofs.Files.Alike
import DocSite.Proofs.Publish.Schedule
import DocSite.Proofs.Publish.BelowRoot
import DocSite.Proofs.Publish.Reads
import DocSite.Proofs.Publish.Refused
import DocSite.Proofs.Type.Alike
import DocSite.Proofs.Publish.Signatures
import DocSite.Proofs.Link.InPlace
import DocSite.Proofs.Publish.GlobalsPage
import DocSite.Proofs.Publish.Renamed
import DocSite.Proofs.Nav.Filter
import DocSite.Proofs.Publish.Faults
import DocSite.Proofs.Publish.Stopped
import DocSite.Proofs.Type.Tokens
import DocSite.Proofs.Link.Anchor
import DocSite.Proofs.Type.Linked
import DocSite.Proofs.Link.Captions
import DocSite.Proofs.Text.Percent
import DocSite.Proofs.Link.ReadBack
import DocSite.Proofs.Nav.Prefixes
import DocSite.Proofs.Nav.Groups
import DocSite.Proofs.Nav.Grouped
import DocSite.Proofs.Link.Tags
import DocSite.Proofs.Nav.Rendered
import DocSite.Proofs.Type.Whole
import DocSite.Proofs.Doclet.Ordered
import DocSite.Proofs.Tutorial.Walk
import DocSite.Proofs.Settings.Filled
import DocSite.Proofs.Value.Keyed
import DocSite.Proofs.Value.Same
import DocSite.Proofs.Value.Merge
import DocSite.Proofs.Value.Alike
import DocSite.Proofs.Settings.Layers
import DocSite.Proofs.Text.Lists
import DocSite.Proofs.Link.Displayed
import DocSite.Proofs.Type.Signature
import DocSite.Proofs.Link.Trail
import DocSite.Proofs.Tutorial.Listed
import DocSite.Proofs.Tutorial.Reached
import DocSite.Proofs.Source.Shortened
import DocSite.Proofs.Publish.OwnListings
import DocSite.Proofs.Doclet.StableSort
