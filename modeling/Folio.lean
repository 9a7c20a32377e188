import Folio.AttributeBlock
import Folio.Command.Arguments
import Folio.Command.Host
import Folio.Command.Report
import Folio.Command.Run
import Folio.Command.Workspace
import Folio.Config.Basic
import Folio.Config.Options
import Folio.Config.Reading
import Folio.Config.Reference
import Folio.Decimal.Binary64
import Folio.Decimal.Layout
import Folio.Decimal.Shortest
import Folio.Engine
import Folio.Environment
import Folio.FrontMatter
import Folio.Html.Builder
import Folio.Html.Element
import Folio.Html.Lexeme
import Folio.Html.Markup
import Folio.Html.Mode
import Folio.Html.NamedCharacter
import Folio.Html.Render
import Folio.Html.Tree
import Folio.Json.Printer
import Folio.Json.Value
import Folio.Linkify
import Folio.Log
import Folio.Main
import Folio.Markdown.Assembly
import Folio.Markdown.Autolink
import Folio.Markdown.Blocks
import Folio.Markdown.Document
import Folio.Markdown.Emphasis
import Folio.Markdown.Entity
import Folio.Markdown.Event
import Folio.Markdown.Html
import Folio.Markdown.Inlines
import Folio.Markdown.Line
import Folio.Markdown.Marker
import Folio.Markdown.Reference
import Folio.Markdown.Table
import Folio.Outline
import Folio.Pipeline
import Folio.Plugin.Anchors
import Folio.Plugin.Assets
import Folio.Plugin.Attributes
import Folio.Plugin.Basic
import Folio.Plugin.Builtin
import Folio.Plugin.Script
import Folio.Plugin.Terms
import Folio.Proofs.AddressCuts
import Folio.Proofs.AddressEnds
import Folio.Proofs.AddressOpenings
import Folio.Proofs.AddressScan
import Folio.Proofs.AddressTrim
import Folio.Proofs.Addresses
import Folio.Proofs.Assembling
import Folio.Proofs.AssemblyBalance
import Folio.Proofs.AttachedBlocks
import Folio.Proofs.AttributeGrammar
import Folio.Proofs.AttributeNames
import Folio.Proofs.AttributePass
import Folio.Proofs.AttributeReading
import Folio.Proofs.BalancedRules
import Folio.Proofs.BraceReferences
import Folio.Proofs.Bracket
import Folio.Proofs.CachedText
import Folio.Proofs.CheckedPages
import Folio.Proofs.CleanedPages
import Folio.Proofs.CommandRuns
import Folio.Proofs.DefaultPlugins
import Folio.Proofs.DeferredQueue
import Folio.Proofs.DefinedPages
import Folio.Proofs.DefinitionLines
import Folio.Proofs.DefinitionPass
import Folio.Proofs.DelimiterOverlaps
import Folio.Proofs.DetectedLinks
import Folio.Proofs.DistinctNames
import Folio.Proofs.ElementBlocks
import Folio.Proofs.ElementIds
import Folio.Proofs.Escaping
import Folio.Proofs.EventShape
import Folio.Proofs.FenceLanguages
import Folio.Proofs.FreshSlugs
import Folio.Proofs.HeadingIds
import Folio.Proofs.HeadingPass
import Folio.Proofs.HeadingShape
import Folio.Proofs.HiddenTokens
import Folio.Proofs.Histories
import Folio.Proofs.HtmlInTexts
import Folio.Proofs.ImageAssets
import Folio.Proofs.Imbalances
import Folio.Proofs.Levels
import Folio.Proofs.LinkPass
import Folio.Proofs.LinkedRuns
import Folio.Proofs.Lookups
import Folio.Proofs.LosslessAssembly
import Folio.Proofs.LowerCase
import Folio.Proofs.MailboxLinks
import Folio.Proofs.Mailboxes
import Folio.Proofs.MarkupPieces
import Folio.Proofs.Nesting
import Folio.Proofs.NormalForm
import Folio.Proofs.OutlineTrees
import Folio.Proofs.Outlines
import Folio.Proofs.PageChanges
import Folio.Proofs.PageContent
import Folio.Proofs.PageTags
import Folio.Proofs.Pages
import Folio.Proofs.ParsedTerms
import Folio.Proofs.Partners
import Folio.Proofs.Policies
import Folio.Proofs.RawTags
import Folio.Proofs.ReceivedBlocks
import Folio.Proofs.RecordedFiles
import Folio.Proofs.ReferencePairs
import Folio.Proofs.ReferencePass
import Folio.Proofs.RenderRules
import Folio.Proofs.Rendering
import Folio.Proofs.RepeatedLinking
import Folio.Proofs.RepeatedNames
import Folio.Proofs.Revisions
import Folio.Proofs.RunElements
import Folio.Proofs.RunTokens
import Folio.Proofs.SanitizedPages
import Folio.Proofs.SelfLinks
import Folio.Proofs.ShapedAssembly
import Folio.Proofs.ShownLinks
import Folio.Proofs.SlugSet
import Folio.Proofs.SlugTexts
import Folio.Proofs.SourceBlocks
import Folio.Proofs.StageOrder
import Folio.Proofs.StarLinks
import Folio.Proofs.StartTags
import Folio.Proofs.StrippedBlocks
import Folio.Proofs.TableOfContents
import Folio.Proofs.TableTokens
import Folio.Proofs.TagTexts
import Folio.Proofs.TermElements
import Folio.Proofs.TermPass
import Folio.Proofs.TermReferences
import Folio.Proofs.TextSearch
import Folio.Proofs.TitleRemoval
import Folio.Proofs.TokenReading
import Folio.Proofs.WorkspaceRuns
import Folio.Sanitize.Clean
import Folio.Sanitize.Policy
import Folio.Sanitize.Url
import Folio.Slug
import Folio.Text.CaseTable
import Folio.Text.Character
import Folio.Text.Letter
import Folio.Text.Mark
import Folio.Text.Number
import Folio.Text.Printable
import Folio.Text.Punctuation
import Folio.Text.Ranges
import Folio.Text.Search
import Folio.Title
import Folio.Token.Basic
import Folio.Token.Label
import Folio.Token.Pairing
import Folio.Toml.Document
import Folio.Toml.Scalar
import Folio.Toml.Value
import Folio.Workbench
import Folio.Yaml.Event
import Folio.Yaml.Lexer
import Folio.Yaml.Place
import Folio.Yaml.Scalar
import Folio.Yaml.Value
