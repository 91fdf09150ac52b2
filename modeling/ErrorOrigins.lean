import ErrorOrigins.Main
import ErrorOrigins.Proofs.Merging
import ErrorOrigins.Proofs.Rebuilding
import ErrorOrigins.Proofs.History
import ErrorOrigins.Proofs.Isolation
import ErrorOrigins.Proofs.Go.Grammar
import ErrorOrigins.Proofs.ErrorIndex
import ErrorOrigins.Proofs.Go.Returns
import ErrorOrigins.Proofs.Go.ErrorPosition
import ErrorOrigins.Proofs.Go.ReturnAddresses
import ErrorOrigins.Proofs.ByteOrder
import ErrorOrigins.Proofs.Components
import ErrorOrigins.Proofs.Selecting
import ErrorOrigins.Proofs.TargetOrder
import ErrorOrigins.Proofs.PackageTree
import ErrorOrigins.Proofs.TreeFiles
import ErrorOrigins.Proofs.Runs
import ErrorOrigins.Proofs.EventBlocks
import ErrorOrigins.Proofs.MergedCounts
import ErrorOrigins.Proofs.Go.Comments
import ErrorOrigins.Proofs.Marker
import ErrorOrigins.Proofs.Parents
import ErrorOrigins.Proofs.Spelling
import ErrorOrigins.Proofs.PackageSearch
import ErrorOrigins.Proofs.PackageRoots
import ErrorOrigins.Proofs.Directive
import ErrorOrigins.Proofs.Decoding
import ErrorOrigins.Proofs.CallChain
import ErrorOrigins.Proofs.LoadErrors
import ErrorOrigins.Proofs.Go.Tidy
import ErrorOrigins.Proofs.Go.Reading
import ErrorOrigins.Proofs.Go.Lexemes
import ErrorOrigins.Proofs.Go.TypePhrases
import ErrorOrigins.Proofs.Go.ExpressionPhrases
import ErrorOrigins.Proofs.Go.StatementPhrases
import ErrorOrigins.Proofs.Go.DeclarationPhrases
import ErrorOrigins.Proofs.Go.Wording
import ErrorOrigins.Proofs.ReportLines
import ErrorOrigins.Proofs.ClauseSpelling
import ErrorOrigins.Proofs.DotSlash
import ErrorOrigins.Proofs.Locations
import ErrorOrigins.Proofs.Pruning
