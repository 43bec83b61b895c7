import ResponsiveImages.CommandLine.Arguments
import ResponsiveImages.CommandLine.Run
import ResponsiveImages.Css.Alignment
import ResponsiveImages.Css.AtBody
import ResponsiveImages.Css.AtHead
import ResponsiveImages.Css.Atom
import ResponsiveImages.Css.AtomReading
import ResponsiveImages.Css.Background
import ResponsiveImages.Css.Box
import ResponsiveImages.Css.Calculation
import ResponsiveImages.Css.CalculationReading
import ResponsiveImages.Css.Color
import ResponsiveImages.Css.ColorNames
import ResponsiveImages.Css.ColorReading
import ResponsiveImages.Css.ColorSpace
import ResponsiveImages.Css.Component
import ResponsiveImages.Css.Condition
import ResponsiveImages.Css.ContainerCondition
import ResponsiveImages.Css.Descriptor
import ResponsiveImages.Css.Grid
import ResponsiveImages.Css.GridTemplate
import ResponsiveImages.Css.Image
import ResponsiveImages.Css.Kept
import ResponsiveImages.Css.MediaCondition
import ResponsiveImages.Css.MediaTest
import ResponsiveImages.Css.Motion
import ResponsiveImages.Css.Numeral
import ResponsiveImages.Css.Position
import ResponsiveImages.Css.Property
import ResponsiveImages.Css.PropertyTable
import ResponsiveImages.Css.Quantity
import ResponsiveImages.Css.Reader
import ResponsiveImages.Css.Registration
import ResponsiveImages.Css.RuleBody
import ResponsiveImages.Css.SelectorReading
import ResponsiveImages.Css.Selectors
import ResponsiveImages.Css.Shape
import ResponsiveImages.Css.Spelled
import ResponsiveImages.Css.StyleAttribute
import ResponsiveImages.Css.SupportCondition
import ResponsiveImages.Css.Token
import ResponsiveImages.Css.Transform
import ResponsiveImages.Css.Typography
import ResponsiveImages.Css.UnicodeRange
import ResponsiveImages.Css.Value
import ResponsiveImages.Css.Verbatim
import ResponsiveImages.Css.Writing
import ResponsiveImages.Decimal.Reading
import ResponsiveImages.Decimal.Shortest
import ResponsiveImages.Directive.Clause
import ResponsiveImages.Directive.Declaration
import ResponsiveImages.Directive.Options
import ResponsiveImages.Directive.Ratio
import ResponsiveImages.Directive.Rule
import ResponsiveImages.Directive.Suffix
import ResponsiveImages.Document.Attributes
import ResponsiveImages.Document.Basic
import ResponsiveImages.Document.Builder
import ResponsiveImages.Document.Index
import ResponsiveImages.Document.Lifetime
import ResponsiveImages.Document.Markup
import ResponsiveImages.Html.BodyRules
import ResponsiveImages.Html.CharacterNames
import ResponsiveImages.Html.Construction
import ResponsiveImages.Html.Reading
import ResponsiveImages.Html.Reference
import ResponsiveImages.Html.TableRules
import ResponsiveImages.Html.Token
import ResponsiveImages.Live.Matcher
import ResponsiveImages.Live.Script
import ResponsiveImages.Live.Source
import ResponsiveImages.Live.Start
import ResponsiveImages.Live.Synchronizer
import ResponsiveImages.Live.Trial
import ResponsiveImages.Main
import ResponsiveImages.Media.Feature
import ResponsiveImages.Media.Query
import ResponsiveImages.Media.Viewport
import ResponsiveImages.Page.Config
import ResponsiveImages.Page.Injection
import ResponsiveImages.Page.Process
import ResponsiveImages.Page.Scan
import ResponsiveImages.Proofs.RisingEdges
import ResponsiveImages.Proofs.NestedCalls
import ResponsiveImages.Proofs.TextPieces
import ResponsiveImages.Selector.Basic
import ResponsiveImages.Selector.Matching
import ResponsiveImages.Stylesheet.Cascade
import ResponsiveImages.Stylesheet.Compact
import ResponsiveImages.Stylesheet.Computed
import ResponsiveImages.Stylesheet.Normalized
import ResponsiveImages.Stylesheet.Rule
import ResponsiveImages.Stylesheet.SheetRule
import ResponsiveImages.Text.Alphabetic
import ResponsiveImages.Text.Basic
import ResponsiveImages.Text.Casing
import ResponsiveImages.Text.Nesting
import ResponsiveImages.Proofs.QueryText
import ResponsiveImages.Proofs.SelectorText
import ResponsiveImages.Proofs.Cascade
import ResponsiveImages.Proofs.ElementStyle
import ResponsiveImages.Proofs.Edits
import ResponsiveImages.Proofs.ScannedPage
import ResponsiveImages.Proofs.FallbackMode
import ResponsiveImages.Proofs.Isolation
import ResponsiveImages.Proofs.Lifetimes
import ResponsiveImages.Proofs.LiveImages
import ResponsiveImages.Proofs.SyncHistory
import ResponsiveImages.Proofs.TrialHistory
import ResponsiveImages.Proofs.RestatedTests
import ResponsiveImages.Proofs.FallbackPrecedence
import ResponsiveImages.Proofs.RestatedDirectives
import ResponsiveImages.Proofs.StartLedger
import ResponsiveImages.Proofs.InjectedSheet
import ResponsiveImages.Proofs.Writes
import ResponsiveImages.Proofs.ProcessedPage
import ResponsiveImages.Proofs.TopLevelPieces
import ResponsiveImages.Proofs.PrintedQueries
import ResponsiveImages.Proofs.Numbering
import ResponsiveImages.Proofs.Rescan
import ResponsiveImages.Proofs.QueryGrammar
import ResponsiveImages.Proofs.CallbackPlaces
import ResponsiveImages.Proofs.FiringOrder
import ResponsiveImages.Proofs.ParentLinks
import ResponsiveImages.Proofs.BuiltDocument
import ResponsiveImages.Proofs.AncestorChains
import ResponsiveImages.Proofs.StrongestRule
import ResponsiveImages.Proofs.HeldRoot
import ResponsiveImages.Proofs.DirectiveIsolation
import ResponsiveImages.Proofs.ExpandedRatios
import ResponsiveImages.Proofs.BraceBlocks
import ResponsiveImages.Proofs.SuffixedNames
import ResponsiveImages.Proofs.NormalDoubles
import ResponsiveImages.Proofs.DoubleRounding
import ResponsiveImages.Proofs.RoundedDecimals
import ResponsiveImages.Proofs.ShortestDecimals
import ResponsiveImages.Proofs.EmTests
import ResponsiveImages.Proofs.ResolvedSources
import ResponsiveImages.Proofs.SiblingInsertion
import ResponsiveImages.Proofs.TextChunks
import ResponsiveImages.Proofs.StyleTokens
import ResponsiveImages.Proofs.PrintedAddresses
import ResponsiveImages.Proofs.ReorderedSelectors
import ResponsiveImages.Proofs.DocumentOrder
import ResponsiveImages.Proofs.JoinedQueries
import ResponsiveImages.Proofs.FirstBlock
import ResponsiveImages.Proofs.EditedAttributes
