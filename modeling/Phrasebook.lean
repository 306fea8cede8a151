import Phrasebook.Calendar.Basic
import Phrasebook.Calendar.Format
import Phrasebook.Calendar.Iso
import Phrasebook.Calendar.Pattern
import Phrasebook.Calendar.Skeleton
import Phrasebook.Calendar.Timestamp
import Phrasebook.Calendar.Zone
import Phrasebook.Catalog
import Phrasebook.Configuration
import Phrasebook.Conventions.Baltic
import Phrasebook.Conventions.Basic
import Phrasebook.Conventions.Culture
import Phrasebook.Conventions.EastAsian
import Phrasebook.Conventions.English
import Phrasebook.Conventions.Germanic
import Phrasebook.Conventions.Indic
import Phrasebook.Conventions.Mediterranean
import Phrasebook.Conventions.Romance
import Phrasebook.Conventions.Semitic
import Phrasebook.Conventions.Slavic
import Phrasebook.Conventions.Southeast
import Phrasebook.Conventions.Territory
import Phrasebook.Conventions.Turkic
import Phrasebook.Entry
import Phrasebook.Error
import Phrasebook.Files.Arb
import Phrasebook.Files.Format
import Phrasebook.Files.Ini
import Phrasebook.Files.Lines
import Phrasebook.Files.Nested
import Phrasebook.Files.Objects
import Phrasebook.Files.Options
import Phrasebook.Files.Resources
import Phrasebook.Files.Rows
import Phrasebook.Files.Table
import Phrasebook.Files.Toml
import Phrasebook.Json.Reader
import Phrasebook.Json.Value
import Phrasebook.Locale.Identifier
import Phrasebook.Locale.Known
import Phrasebook.Locale.Likely
import Phrasebook.Locale.LikelyRegions
import Phrasebook.Locale.Name
import Phrasebook.Number.Count
import Phrasebook.Number.Decimal
import Phrasebook.Number.Digits
import Phrasebook.Number.Double
import Phrasebook.Number.Format
import Phrasebook.Number.Pattern
import Phrasebook.Number.Plural
import Phrasebook.Pairs
import Phrasebook.Project
import Phrasebook.Proofs.Calendar.Cultures
import Phrasebook.Proofs.Calendar.Fields
import Phrasebook.Proofs.Calendar.Timestamp
import Phrasebook.Proofs.Configuration
import Phrasebook.Proofs.Conventions
import Phrasebook.Proofs.Files.ArbOrder
import Phrasebook.Proofs.Files.ArbStatements
import Phrasebook.Proofs.Files.Built
import Phrasebook.Proofs.Files.Documents
import Phrasebook.Proofs.Files.IniDocument
import Phrasebook.Proofs.Files.IniLines
import Phrasebook.Proofs.Files.Lines
import Phrasebook.Proofs.Files.NestedViews
import Phrasebook.Proofs.Files.PairLines
import Phrasebook.Proofs.Files.ResourceEntries
import Phrasebook.Proofs.Files.RowPlaces
import Phrasebook.Proofs.Files.Setups
import Phrasebook.Proofs.Files.TableEntries
import Phrasebook.Proofs.Files.Tally
import Phrasebook.Proofs.Files.TomlDocument
import Phrasebook.Proofs.Files.TomlStrings
import Phrasebook.Proofs.Files.Views
import Phrasebook.Proofs.Locale.Fallback
import Phrasebook.Proofs.Locale.Spelling
import Phrasebook.Proofs.Locale.Tags
import Phrasebook.Proofs.Number.Context
import Phrasebook.Proofs.Number.Cultures
import Phrasebook.Proofs.Number.Digits
import Phrasebook.Proofs.Number.Double
import Phrasebook.Proofs.Number.DoubleText
import Phrasebook.Proofs.Number.FixedPatterns
import Phrasebook.Proofs.Number.Patterns
import Phrasebook.Proofs.Outcome
import Phrasebook.Proofs.Pairs
import Phrasebook.Proofs.Render.Arguments
import Phrasebook.Proofs.Render.Concatenation
import Phrasebook.Proofs.Render.Declarations
import Phrasebook.Proofs.Render.Escapes
import Phrasebook.Proofs.Render.Formatting
import Phrasebook.Proofs.Render.Hexadecimal
import Phrasebook.Proofs.Render.Nodes
import Phrasebook.Proofs.Render.Numbers
import Phrasebook.Proofs.Render.Plain
import Phrasebook.Proofs.Render.Scope
import Phrasebook.Proofs.Render.Temporals
import Phrasebook.Proofs.Resolver.Action
import Phrasebook.Proofs.Resolver.Answer
import Phrasebook.Proofs.Resolver.Backfill
import Phrasebook.Proofs.Resolver.Candidates
import Phrasebook.Proofs.Resolver.Failing
import Phrasebook.Proofs.Resolver.Faithful
import Phrasebook.Proofs.Resolver.Flags
import Phrasebook.Proofs.Resolver.Forgetting
import Phrasebook.Proofs.Resolver.History
import Phrasebook.Proofs.Resolver.Loads
import Phrasebook.Proofs.Resolver.Memory
import Phrasebook.Proofs.Resolver.Moves
import Phrasebook.Proofs.Resolver.Order
import Phrasebook.Proofs.Resolver.Provenance
import Phrasebook.Proofs.Resolver.Questions
import Phrasebook.Proofs.Resolver.Reference
import Phrasebook.Proofs.Resolver.Replacements
import Phrasebook.Proofs.Resolver.Search
import Phrasebook.Proofs.Resolver.Since
import Phrasebook.Proofs.Resolver.Sound
import Phrasebook.Proofs.Resolver.Steps
import Phrasebook.Proofs.Resolver.Transparency
import Phrasebook.Proofs.Resolver.Walk
import Phrasebook.Proofs.Rows
import Phrasebook.Proofs.Template.Agreement
import Phrasebook.Proofs.Template.Apart
import Phrasebook.Proofs.Template.Balance
import Phrasebook.Proofs.Template.Composite
import Phrasebook.Proofs.Template.Head
import Phrasebook.Proofs.Template.Inversion
import Phrasebook.Proofs.Template.Literal
import Phrasebook.Proofs.Template.Located
import Phrasebook.Proofs.Template.Names
import Phrasebook.Proofs.Template.Outcomes
import Phrasebook.Proofs.Template.Passage
import Phrasebook.Proofs.Template.Print
import Phrasebook.Proofs.Template.Reading
import Phrasebook.Proofs.Template.RoundTrip
import Phrasebook.Proofs.Template.Scope
import Phrasebook.Proofs.Template.Tiling
import Phrasebook.Proofs.Template.Unreadable
import Phrasebook.Proofs.Text.Ascii
import Phrasebook.Proofs.Text.Capitals
import Phrasebook.Proofs.Text.Classes
import Phrasebook.Proofs.Text.Cursor
import Phrasebook.Proofs.Text.Escape
import Phrasebook.Proofs.Text.Escapings
import Phrasebook.Proofs.Text.Fold
import Phrasebook.Proofs.Text.Hexadecimal
import Phrasebook.Proofs.Text.LineColumn
import Phrasebook.Proofs.Text.Lines
import Phrasebook.Proofs.Text.Numerals
import Phrasebook.Proofs.Text.Parts
import Phrasebook.Proofs.Text.Position
import Phrasebook.Proofs.Text.Runs
import Phrasebook.Proofs.Tree
import Phrasebook.Proofs.Tree.Growth
import Phrasebook.Proofs.Tree.Places
import Phrasebook.Proofs.Tree.Tour
import Phrasebook.Registry
import Phrasebook.Render.Composite
import Phrasebook.Render.Declared
import Phrasebook.Render.Message
import Phrasebook.Render.Style
import Phrasebook.Render.Value
import Phrasebook.Resolver.Basic
import Phrasebook.Resolver.Hooks
import Phrasebook.Resolver.Load
import Phrasebook.Resolver.Memory
import Phrasebook.Resolver.Resolve
import Phrasebook.Settings
import Phrasebook.Source.Basic
import Phrasebook.Source.Disk
import Phrasebook.Source.Path
import Phrasebook.Template.Arguments
import Phrasebook.Template.Fault
import Phrasebook.Template.Mode
import Phrasebook.Template.Node
import Phrasebook.Template.Reader
import Phrasebook.Template.Scan
import Phrasebook.Text.Basic
import Phrasebook.Text.Case
import Phrasebook.Text.Cursor
import Phrasebook.Text.Escape
import Phrasebook.Text.Position
import Phrasebook.Text.Quoted
import Phrasebook.Text.Utf8
import Phrasebook.Tree
import Phrasebook.Unicode.CaseContext
import Phrasebook.Unicode.CaseMaps
import Phrasebook.Unicode.Letters
import Phrasebook.Unicode.Numerals
import Phrasebook.Unicode.Printing
import Phrasebook.Unicode.Properties
import Phrasebook.Unicode.Ranges
import Phrasebook.Value
import Phrasebook.Xml.Element
import Phrasebook.Xml.Markup
import Phrasebook.Xml.Names
import Phrasebook.Xml.Namespace
import Phrasebook.Xml.Reader
