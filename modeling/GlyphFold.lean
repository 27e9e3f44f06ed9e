import GlyphFold.Builtin
import GlyphFold.Calendar
import GlyphFold.CommandLine.Run
import GlyphFold.Document.Json
import GlyphFold.Fold
import GlyphFold.Glob
import GlyphFold.Ignore.Filter
import GlyphFold.Main
import GlyphFold.ProjectFile
import GlyphFold.Proofs.ActiveTable
import GlyphFold.Proofs.BuiltinGlobs
import GlyphFold.Proofs.BuiltinTable
import GlyphFold.Proofs.CheckedWalks
import GlyphFold.Proofs.DocumentRoundTrip
import GlyphFold.Proofs.DocumentVariants
import GlyphFold.Proofs.EditedGlyphs
import GlyphFold.Proofs.ExportedTables
import GlyphFold.Proofs.FilePlaces
import GlyphFold.Proofs.FoldLines
import GlyphFold.Proofs.IgnoredPaths
import GlyphFold.Proofs.LanguageSections
import GlyphFold.Proofs.LayeredSettings
import GlyphFold.Proofs.LinesAndColumns
import GlyphFold.Proofs.ListedAndRendered
import GlyphFold.Proofs.LocalFailures
import GlyphFold.Proofs.LongestMatch
import GlyphFold.Proofs.MatchingRules
import GlyphFold.Proofs.NestedRanges
import GlyphFold.Proofs.PairedQuotes
import GlyphFold.Proofs.ProjectRoots
import GlyphFold.Proofs.RegionOrder
import GlyphFold.Proofs.RegionRoundTrip
import GlyphFold.Proofs.RegisteredConditions
import GlyphFold.Proofs.RenderedText
import GlyphFold.Proofs.ReportCounts
import GlyphFold.Proofs.RootedTrees
import GlyphFold.Proofs.ScannedFiles
import GlyphFold.Proofs.SeparatedText
import GlyphFold.Proofs.SkippedRegions
import GlyphFold.Proofs.SpacedTokens
import GlyphFold.Proofs.Subtrees
import GlyphFold.Proofs.SummaryColors
import GlyphFold.Proofs.SummaryRankings
import GlyphFold.Proofs.TableHistory
import GlyphFold.Proofs.TableReplay
import GlyphFold.Proofs.TextOccurrences
import GlyphFold.Proofs.TreeMode
import GlyphFold.Proofs.UndoneEdits
import GlyphFold.Proofs.WholeWords
import GlyphFold.QuotedSpans
import GlyphFold.Region.Json
import GlyphFold.Render
import GlyphFold.Report.Format
import GlyphFold.Resolver
import GlyphFold.Scan.Host
import GlyphFold.Scan.Scanner
import GlyphFold.Text.IdentifierRanges
