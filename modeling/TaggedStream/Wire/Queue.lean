import TaggedStream.Channel.Source
import TaggedStream.Wire.Reader
import TaggedStream.Wire.Writer

/-!
Plain byte strings under the primitive layer: what is put goes to the end, and what is taken comes
from the front.
-/

namespace TaggedStream

/-- Steps on a byte string. -/
abbrev QueueM := EStateM StreamError (List UInt8)

namespace QueueM

instance : ByteSink QueueM where
  put _ slice := modify (· ++ slice)
  refuse := throw

instance : ByteSource QueueM where
  takeExact op size := fun bytes =>
    match (Source.slice bytes).takeExact size with
    | (.ok taken, source) => .ok taken source.rest
    | (.error cause, source) => .error (.io op size cause) source.rest
  refuse := throw

end QueueM

end TaggedStream
