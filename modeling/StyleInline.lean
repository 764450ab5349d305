import StyleInline.FileSystem.Disk
import StyleInline.Plugin
import StyleInline.Proofs.Ancestors
import StyleInline.Proofs.Anchoring
import StyleInline.Proofs.Contract
import StyleInline.Proofs.Dangling
import StyleInline.Proofs.Exactness
import StyleInline.Proofs.Expansion
import StyleInline.Proofs.FailingVisit
import StyleInline.Proofs.Idempotence
import StyleInline.Proofs.Indentation
import StyleInline.Proofs.Initialization
import StyleInline.Proofs.Invalidation
import StyleInline.Proofs.Meaning
import StyleInline.Proofs.MemoryWrites
import StyleInline.Proofs.Normalization
import StyleInline.Proofs.Occurrences
import StyleInline.Proofs.Overwriting
import StyleInline.Proofs.Protocol
import StyleInline.Proofs.RawTexts
import StyleInline.Proofs.Registration
import StyleInline.Proofs.Resolution
import StyleInline.Proofs.Selection
import StyleInline.Proofs.StylesheetReads
import StyleInline.Proofs.Unprocessed
import StyleInline.Proofs.Verbatim
import StyleInline.Proofs.VisitorReuse
import StyleInline.Proofs.WorkerSharing
import StyleInline.Session
import StyleInline.Substitution.Whole
