import TaggedStream.Extension.Sample
import TaggedStream.Stream
import TaggedStream.Wire.Queue
import TaggedStream.Value.Equality
import TaggedStream.Proofs.TwosComplement
import TaggedStream.Proofs.Utf8
import TaggedStream.Proofs.Acceptance
import TaggedStream.Proofs.RoundTrip
import TaggedStream.Proofs.Refusal
import TaggedStream.Proofs.Ending
import TaggedStream.Proofs.Extensions
import TaggedStream.Proofs.Normalisation
import TaggedStream.Proofs.Threshold
import TaggedStream.Proofs.Truncation
import TaggedStream.Proofs.Laziness
import TaggedStream.Proofs.Reduction
import TaggedStream.Proofs.Promises
import TaggedStream.Proofs.Conservation
import TaggedStream.Proofs.Concatenation
import TaggedStream.Proofs.Innermost
import TaggedStream.Proofs.Extent
import TaggedStream.Proofs.Bookkeeping
import TaggedStream.Proofs.Copying
import TaggedStream.Proofs.Dialogue
import TaggedStream.Proofs.Positions
import TaggedStream.Proofs.DecimalText
import TaggedStream.Proofs.CalendarPayloads
import TaggedStream.Proofs.ByteStreams
import TaggedStream.Proofs.Uncountables
import TaggedStream.Proofs.Registrations
import TaggedStream.Proofs.Integers
import TaggedStream.Proofs.Blobs
