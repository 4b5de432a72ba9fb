import TemplateCompiler.Stored
import TemplateCompiler.Token.Types
import TemplateCompiler.Proofs.SettledStreams
import TemplateCompiler.Proofs.Nesting
import TemplateCompiler.Proofs.Decoding
import TemplateCompiler.Proofs.Printing
import TemplateCompiler.Proofs.Safety
import TemplateCompiler.Proofs.Bodies
import TemplateCompiler.Proofs.LineEnds
import TemplateCompiler.Proofs.Delivery
import TemplateCompiler.Proofs.Reuse
import TemplateCompiler.Proofs.Trimming
import TemplateCompiler.Proofs.MarkerChoice
import TemplateCompiler.Proofs.TypeNumbers
import TemplateCompiler.Proofs.ReadingListings
import TemplateCompiler.Proofs.StoredForms
import TemplateCompiler.Proofs.BalancedReads
import TemplateCompiler.Proofs.HeaderSearch
import TemplateCompiler.Proofs.BranchChoice
import TemplateCompiler.Proofs.BranchTexts
import TemplateCompiler.Proofs.ByteSearch
import TemplateCompiler.Proofs.Guarded.Attempts
import TemplateCompiler.Proofs.BodyEnds
import TemplateCompiler.Proofs.Termination
import TemplateCompiler.Proofs.LineRows
import TemplateCompiler.Proofs.Resolution
