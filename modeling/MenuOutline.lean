import MenuOutline.FileSystem.Disk
import MenuOutline.Json.Reader
import MenuOutline.Link
import MenuOutline.Main
import MenuOutline.Proofs.Outline.Depth
import MenuOutline.Proofs.Outline.Place
import MenuOutline.Proofs.PageTree.Records
import MenuOutline.Proofs.Pairing
import MenuOutline.Proofs.Pairing.Shape
import MenuOutline.Proofs.Pairing.Levels
import MenuOutline.Proofs.Report.Warnings
import MenuOutline.Proofs.Slug.Valid
import MenuOutline.Proofs.Slug.Variable
import MenuOutline.Proofs.CamelCase
import MenuOutline.Proofs.Menu.Parses
import MenuOutline.Proofs.Menu.Items
import MenuOutline.Proofs.Page.WellFormed
import MenuOutline.Proofs.PageTree.Items
import MenuOutline.Proofs.Line.Plain
import MenuOutline.Proofs.Menu.RoundTrip
import MenuOutline.Proofs.Manifest.Neutral
import MenuOutline.Proofs.Text.Decomposition
import MenuOutline.Proofs.Page.Spelling
import MenuOutline.Proofs.Menu.Spelling
import MenuOutline.Proofs.Section.Reading
import MenuOutline.Proofs.Section.Partition
import MenuOutline.Proofs.Menu.Comments
import MenuOutline.Proofs.Dictionary.Keys
import MenuOutline.Proofs.Page.File
import MenuOutline.Proofs.Manifest.Lists
import MenuOutline.Proofs.Manifest.Links
import MenuOutline.Proofs.Code.Token
import MenuOutline.Proofs.Dictionary.Blocks
import MenuOutline.Proofs.Route.Table
import MenuOutline.Proofs.Route.Paths
import MenuOutline.Proofs.Markup.Token
import MenuOutline.Proofs.Markup.Nodes
import MenuOutline.Proofs.Navigation.Template
import MenuOutline.Proofs.Navigation.Items
import MenuOutline.Proofs.Command.Agreement
import MenuOutline.Proofs.Command.Checks
import MenuOutline.Proofs.Except
import MenuOutline.Proofs.Datum.Merge
import MenuOutline.Proofs.Datum.Record
import MenuOutline.Proofs.Datum.Reordered
import MenuOutline.Proofs.Dictionary.Reading
import MenuOutline.Proofs.Manifest.Reading
import MenuOutline.Proofs.Settings.Sections
import MenuOutline.Proofs.Settings.Overlay
import MenuOutline.Proofs.Datum.Paths
import MenuOutline.Proofs.Text.Separated
import MenuOutline.Proofs.Settings.Flags
import MenuOutline.Proofs.FileSystem.Disk
import MenuOutline.Proofs.Command.Effects
import MenuOutline.Proofs.Menu.Depth
import MenuOutline.Proofs.Menu.Strict
import MenuOutline.Proofs.Section.Cut
import MenuOutline.Proofs.Menu.Cut
import MenuOutline.Proofs.Menu.Layout
import MenuOutline.Proofs.Line.Written
import MenuOutline.Proofs.Line.Slug
import MenuOutline.Proofs.Line.Label
import MenuOutline.Proofs.Slug.Parts
import MenuOutline.Proofs.Slug.Fixed
import MenuOutline.Proofs.Text.Order
import MenuOutline.Proofs.Text.Equivalence
import MenuOutline.Proofs.Text.Words
import MenuOutline.Proofs.CamelCase.Words
import MenuOutline.Proofs.Page.Names
import MenuOutline.Proofs.Slug.Letters
import MenuOutline.Proofs.Slug.Sound
import MenuOutline.Proofs.Slug.Case
import MenuOutline.Proofs.Project.Details
import MenuOutline.Proofs.Project.HostName
import MenuOutline.Proofs.Menu.Dropped
import MenuOutline.Proofs.Report.Numbers
import MenuOutline.Proofs.Report.Counts
import MenuOutline.Proofs.Text.Exchange
import MenuOutline.Proofs.Link
import MenuOutline.Proofs.Outline.Walk
import MenuOutline.Proofs.Page.Variable
import MenuOutline.Proofs.Slug.Grammar
