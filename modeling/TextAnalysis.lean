import TextAnalysis.Text
import TextAnalysis.Text.Bytes
import TextAnalysis.Text.LetterCase
import TextAnalysis.Text.Quoted
import TextAnalysis.Binary64
import TextAnalysis.Binary64.Shortest
import TextAnalysis.Binary64.Literal
import TextAnalysis.Pattern
import TextAnalysis.Pattern.Reader
import TextAnalysis.PatternEngine
import TextAnalysis.Pattern.Engine
import TextAnalysis.PathPattern.Search
import TextAnalysis.Positions
import TextAnalysis.Error
import TextAnalysis.Token.Valued
import TextAnalysis.Token.Revised
import TextAnalysis.Sequence.Workspace
import TextAnalysis.Tokenizer.Substrings
import TextAnalysis.Metric
import TextAnalysis.Tokenizer.Delimiters
import TextAnalysis.Tokenizer.FixedLength
import TextAnalysis.Tokenizer.Keys
import TextAnalysis.TextParser
import TextAnalysis.Numeral.Reduction
import TextAnalysis.Numeral.Registry
import TextAnalysis.Numeral.VocabularyFile
import TextAnalysis.CommandLine.Run
import TextAnalysis.Main
import TextAnalysis.Proofs.Reduction.Facing
import TextAnalysis.Proofs.Reduction.Gaps
import TextAnalysis.Proofs.Reduction.Meanings
import TextAnalysis.Proofs.Reduction.Rounds
import TextAnalysis.Proofs.Reduction.Runs
import TextAnalysis.Proofs.English.RoundTrip
import TextAnalysis.Proofs.English.Soundness
import TextAnalysis.Proofs.Cursors.Actions
import TextAnalysis.Proofs.Cursors.Effects
import TextAnalysis.Proofs.Cursors.InPlace
import TextAnalysis.Proofs.Cursors.Places
import TextAnalysis.Proofs.Cursors.Images
import TextAnalysis.Proofs.Cursors.Editor
import TextAnalysis.Proofs.Cursors.Observed
import TextAnalysis.Proofs.Workspaces.Runs
import TextAnalysis.Proofs.Workspaces.Safety
import TextAnalysis.Proofs.Workspaces.Merges
import TextAnalysis.Proofs.Workspaces.Staleness
import TextAnalysis.Proofs.Cursors.Refinement
import TextAnalysis.Proofs.Cursors.Tours
import TextAnalysis.Proofs.Cursors.Sides
import TextAnalysis.Proofs.Cursors.Searches
import TextAnalysis.Proofs.Agreement
import TextAnalysis.Proofs.Reading
import TextAnalysis.Proofs.Metric.Edits
import TextAnalysis.Proofs.Metric.Layouts
import TextAnalysis.Proofs.Metric.Tables
import TextAnalysis.Proofs.Metric.Damerau
import TextAnalysis.Proofs.Metric.Filling
import TextAnalysis.Proofs.Metric.Levenshtein
import TextAnalysis.Proofs.Metric.Rows
import TextAnalysis.Proofs.Metric.Alignment
import TextAnalysis.Proofs.Metric.Blocks
import TextAnalysis.Proofs.Binary64
import TextAnalysis.Proofs.Tolerance
import TextAnalysis.Proofs.Folding
import TextAnalysis.Proofs.Tokenizers.Pieces
import TextAnalysis.Proofs.Tokenizers.Substrings
import TextAnalysis.Proofs.Tokenizers.Keys
import TextAnalysis.Proofs.Offsets
import TextAnalysis.Proofs.Tokenizers.Lossless
import TextAnalysis.Proofs.Metric.Ordering
import TextAnalysis.Proofs.Metric.Contract
import TextAnalysis.Proofs.Removals
import TextAnalysis.Proofs.Stages
import TextAnalysis.Proofs.Reduction.Reduced
import TextAnalysis.Proofs.Reduction.History
import TextAnalysis.Proofs.Registries.Runs
import TextAnalysis.Proofs.Registries.Locales
import TextAnalysis.Proofs.Tokenizers.Scanning
import TextAnalysis.Proofs.Tokenizers.Nearest
import TextAnalysis.Proofs.Compositions
import TextAnalysis.Proofs.Pipelines
import TextAnalysis.Proofs.Tokenizers.Collecting
import TextAnalysis.Proofs.Tokenizers.Enumerating
import TextAnalysis.Proofs.Tokenizers.Reporting
import TextAnalysis.Proofs.Casing
import TextAnalysis.Proofs.Vocabularies.Checks
import TextAnalysis.Proofs.Vocabularies.Building
import TextAnalysis.Proofs.Vocabularies.Modifiers
import TextAnalysis.Proofs.Dictionaries.Best
import TextAnalysis.Proofs.Dictionaries.Indexed
import TextAnalysis.Proofs.Patterns.Machines
import TextAnalysis.Proofs.Patterns.Searches
import TextAnalysis.Proofs.Patterns.Engines
import TextAnalysis.Proofs.Patterns.CaseVariants
import TextAnalysis.Proofs.Patterns.CharSets
import TextAnalysis.Proofs.Patterns.Choices
import TextAnalysis.Proofs.Patterns.Readers
import TextAnalysis.Proofs.Patterns.Classes
import TextAnalysis.Proofs.Patterns.Steps
import TextAnalysis.Proofs.Patterns.Nesting
import TextAnalysis.Proofs.Dictionaries.Caches
import TextAnalysis.Proofs.Patterns.Wrapping
import TextAnalysis.Proofs.Lines
import TextAnalysis.Proofs.Reduction.Preference
import TextAnalysis.Proofs.Nests
