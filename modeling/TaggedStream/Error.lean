import TaggedStream.Oid
import TaggedStream.Text.Utf8
import TaggedStream.Value.Description

/-!
Errors are causes. What went wrong is a constructor with the facts; the words for it are written
once, by the `message` functions. A fault may hold a value, which is described over the store at the
time when the message is asked for.
-/

namespace TaggedStream

/-- A value was not of the kind that a conversion asks for. The value is kept. -/
structure ConversionError where
  expected : String
  found : Value

/-- The words for a failed conversion. -/
def ConversionError.message (store : Store) (e : ConversionError) : String :=
  "expected " ++ e.expected ++ ", found " ++ e.found.describe store

/-- What contradicts the identifier of a value. -/
inductive Fault where
  /-- A count above the largest that a prefix can hold. -/
  | lengthTooLong (length : Nat)
  /-- A prefix with its sign bit set. -/
  | negativeLength (length : Int32)
  | notBoolean (byte : UInt8)
  | notScalar (code : UInt32)
  | illFormedText (fault : Text.Utf8.Fault)
  /-- An integer of no bytes. -/
  | emptyInteger
  | zeroDenominator
  | invalidPattern
  | nanosOutOfRange (nanos : Int32)
  | timestampOutOfRange (seconds : Int64) (nanos : Int32)
  | nanoOfDayOutOfRange (nanos : Int64)
  | offsetOutOfRange (seconds : Int32)
  | dayOutOfRange (day : Int64)
  | instantOutOfRange (wall : Timestamp) (offset : UtcOffset)
  | durationOutOfRange (seconds : Int64) (nanos : Int32)
  /-- A time that would be read back as the midnight or the second after it. -/
  | leapSecond (time : TimeOfDay)
  /-- The stream ended in front of a value. -/
  | missingValue
  /-- The stream ended in front of the count of a chunk. -/
  | missingTerminator
  | tooDeep (levels : Nat)
  | notMap (found : Value)
  | notThrowable (found : Value)
  /-- A handler could not convert a value that it read. -/
  | conversion (error : ConversionError)
  /-- A handler read a value that it cannot take. -/
  | unwanted (found : Value)
  /-- A handler's own words. -/
  | refused (reason : String)

/-- The words for a fault. -/
def Fault.message (store : Store) : Fault → String
  | .lengthTooLong length => "length " ++ toString length ++ " does not fit the wire format"
  | .negativeLength length => "negative length " ++ toString length
  | .notBoolean byte => toString byte.toNat ++ " is not a boolean"
  | .notScalar code => "0x" ++ Text.hex code.toNat ++ " is not a unicode scalar value"
  | .illFormedText fault => "invalid utf-8: " ++ fault.message
  | .emptyInteger => "empty integer payload"
  | .zeroDenominator => "zero denominator"
  | .invalidPattern => "invalid pattern"
  | .nanosOutOfRange nanos => "nanosecond field " ++ toString nanos ++ " out of range"
  | .timestampOutOfRange seconds nanos =>
    "timestamp " ++ toString seconds ++ "s " ++ toString nanos ++ "ns out of range"
  | .nanoOfDayOutOfRange nanos => "nano of day " ++ toString nanos ++ " out of range"
  | .offsetOutOfRange seconds => "offset " ++ toString seconds ++ "s out of range"
  | .dayOutOfRange day => "epoch day " ++ toString day ++ " out of range"
  | .instantOutOfRange wall offset => wall.spacedText ++ " at " ++ offset.text ++ " out of range"
  | .durationOutOfRange seconds nanos =>
    "duration " ++ toString seconds ++ "s " ++ toString nanos ++ "ns out of range"
  | .leapSecond time => "leap second " ++ time.text ++ " has no nano-of-day"
  | .missingValue => "stream ended where a value was expected"
  | .missingTerminator => "stream ended before the chunk terminator"
  | .tooDeep levels => "values nested deeper than " ++ toString levels ++ " levels"
  | .notMap found => "expected a map, found " ++ found.describe store
  | .notThrowable found => "expected a throwable, found " ++ found.describe store
  | .conversion error => error.message store
  | .unwanted found => found.describe store
  | .refused reason => reason

/-- Why a stream could not be written or read. -/
inductive StreamError where
  /-- The operation `op` on `size` bytes failed. -/
  | io (op : String) (size : Nat) (cause : IoCause)
  /-- No handler writes objects of a type, and placeholders are off. -/
  | unsupportedType (typeName : String)
  /-- Neither the catalogue nor the registry knows an identifier. -/
  | unknownOid (oid : Oid)
  /-- A deferred value did not come. -/
  | deferred (failure : DeferredFailure)
  /-- What follows an identifier contradicts it. -/
  | malformed (oid : Oid) (fault : Fault)
  /-- A handler was to be registered for an identifier of the catalogue. -/
  | oidConflict (oid : Oid)

instance : Inhabited StreamError := ⟨.unknownOid 0⟩

namespace StreamError

/-- An identifier as messages show it. -/
def oidText (oid : Oid) : String := "0x" ++ Text.hexPadded 4 oid.toNat

/-- The words for an error. -/
def message (store : Store) : StreamError → String
  | .io op size cause =>
    "i/o failure during " ++ op ++ " (" ++ toString size ++ " bytes): " ++ cause.text
  | .unsupportedType typeName => "no encoder registered for type `" ++ typeName ++ "`"
  | .unknownOid oid => "unknown oid " ++ oidText oid
  | .deferred failure => "deferred value failed to resolve: " ++ failure.message
  | .malformed oid fault =>
    "malformed payload for oid " ++ oidText oid ++ ": " ++ fault.message store
  | .oidConflict oid => "oid " ++ oidText oid ++ " is reserved for a built-in type"

/-- The words for the error behind an error, if there is one. -/
def cause? : StreamError → Option String
  | .io _ _ cause => some cause.text
  | .deferred failure => some failure.message
  | _ => none

/-- Whether a read met the end of its source. -/
def isEndOfInput : StreamError → Bool
  | .io _ _ cause => cause.endOfInput
  | _ => false

end StreamError

end TaggedStream
