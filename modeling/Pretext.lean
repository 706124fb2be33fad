import Pretext.Document.Settings
import Pretext.Outline.Collection
import Pretext.Proofs.Block.Attaching
import Pretext.Proofs.Collection.Padding
import Pretext.Proofs.Document.Rows
import Pretext.Proofs.Masked.Partition
import Pretext.Proofs.Masked.Policy
import Pretext.Proofs.Random.Bytes
import Pretext.Proofs.Random.Separation
import Pretext.Proofs.Random.Streams
import Pretext.Proofs.Vocabulary.Boundaries
import Pretext.Proofs.Vocabulary.Numbering
import Pretext.Proofs.Vocabulary.RoundTrip
import Pretext.Proofs.Word.Folding
