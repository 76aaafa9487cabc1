import Flowline.Main
import Flowline.Proofs.Lines
import Flowline.Proofs.ScanState
import Flowline.Proofs.Tiling
import Flowline.Proofs.Deployments
import Flowline.Proofs.Holders
import Flowline.Proofs.Resetting
import Flowline.Proofs.Reading
import Flowline.Proofs.Tokens
import Flowline.Proofs.SymbolNames
import Flowline.Proofs.Renaming
import Flowline.Proofs.AppGrammar
import Flowline.Proofs.StreamGrammar
import Flowline.Proofs.TaskGrammar
import Flowline.Proofs.Recognition
import Flowline.Proofs.ErrorPlace
import Flowline.Proofs.Lookahead
import Flowline.Proofs.ErrorColumn
import Flowline.Proofs.ReadBack
import Flowline.Proofs.LensEnvironment
import Flowline.Proofs.Freshness
import Flowline.Proofs.Columns
import Flowline.Proofs.TrailingBlanks
import Flowline.Proofs.BodyAlone
import Flowline.Proofs.Nesting
import Flowline.Proofs.NamePrefix
import Flowline.Proofs.ManifestMerge
import Flowline.Proofs.TextSync
import Flowline.Proofs.LensParameters
import Flowline.Proofs.Ownership
import Flowline.Proofs.MetadataSpans
import Flowline.Proofs.FoldNesting
import Flowline.Proofs.Completion
import Flowline.Proofs.TaskLint
import Flowline.Proofs.Offsets
import Flowline.Proofs.OutlineOrder
import Flowline.Proofs.InnermostSymbol
import Flowline.Proofs.Closing
import Flowline.Proofs.ScanConsistency
