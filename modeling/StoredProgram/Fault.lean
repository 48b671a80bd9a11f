import StoredProgram.Calendar
import StoredProgram.Text.Quoted

/-! Why a request is turned down, with the wording of each cause. -/

namespace StoredProgram

inductive Fault where
  | memorySize
  | numeral (e : Numeral.Error)
  | malformedBytes (bs : List UInt8)
  | tooFewItems (count : Nat)
  | tooManyItems
  | nanAsInteger
  | infinityAsInteger
  | wrongKind
  | missingMember
  | rootKind (kind : String)
  | notAnInteger (shown : String)
  | memoryNotPositive (shown : String)
  | speedRange (low high : String)
  | speedNotPositive (shown : String)
  | incompleteProgram (shown : String)
  | unknownProgram (shown : String)
  | sessionSpeed (shown : String)
  | document
  | documentLookup (shown : String)
  | notAFloat (text : List Text.Point)
  | emptyNumeral
  | codePoint
  | codePointOverflow
  | floatOverflow
  | calendar (e : Calendar.Error)
  | encoding
  | noSuchFile
  | nesting
  deriving DecidableEq

inductive Fault.Kind where
  | value
  | lookup
  | type
  | member
  | overflow
  | index
  | document
  | encoding
  | file
  | nesting
  deriving DecidableEq

namespace Fault

def kind : Fault → Kind
  | .wrongKind => .type
  | .missingMember => .member
  | .infinityAsInteger | .codePointOverflow | .floatOverflow => .overflow
  | .unknownProgram _ | .documentLookup _ => .lookup
  | .emptyNumeral => .index
  | .document => .document
  | .encoding => .encoding
  | .noSuchFile => .file
  | .nesting => .nesting
  | _ => .value

def quotationLimit : Nat := 200

def quotation (text : List Text.Point) : String := String.ofList (Text.quoted text)

def cutQuotation (text : List Text.Point) : String :=
  String.ofList ((Text.quoted text).take quotationLimit)

def cutBytes (bs : List UInt8) : String :=
  String.ofList ((Text.quotedBytes (bs.take quotationLimit)).take quotationLimit)

def limitMessage : String :=
  s!"Exceeds the limit ({Numeral.digitLimit} digits) for integer string conversion"

def limitAdvice : String := "; use sys.set_int_max_str_digits() to increase the limit"

def numeralMessage : Numeral.Error → String
  | .malformed base text => s!"invalid literal for int() with base {base}: {cutQuotation text}"
  | .tooManyDigits n => limitMessage ++ s!": value has {n} digits" ++ limitAdvice
  | .unwritable => limitMessage ++ limitAdvice

/-- Kinds other than values and look-ups have no wording. -/
def message : Fault → String
  | .memorySize => "Memory size must be a positive integer."
  | .numeral e => numeralMessage e
  | .malformedBytes bs => s!"invalid literal for int() with base 10: {cutBytes bs}"
  | .tooFewItems n => s!"not enough values to unpack (expected 2, got {n})"
  | .tooManyItems => "too many values to unpack (expected 2)"
  | .nanAsInteger => "cannot convert float NaN to integer"
  | .rootKind k => s!"Config root must be a mapping, got {k}"
  | .notAnInteger s => s!"Invalid integer format: {s}"
  | .memoryNotPositive s => s!"memory_size must be positive: {s}"
  | .speedRange lo hi => s!"Invalid speed range: {lo}-{hi}"
  | .speedNotPositive s => s!"execution_speed must be positive: {s}"
  | .incompleteProgram s => s!"Program entry requires 'name' and 'code': {s}"
  | .unknownProgram s => s!"Unknown example program: {s}"
  | .sessionSpeed s => s!"Execution speed must be a positive integer: {s}"
  | .documentLookup s => s
  | .notAFloat s => s!"could not convert string to float: {quotation s}"
  | .codePoint => "chr() arg not in range(0x110000)"
  | .calendar e => e.message
  | .wrongKind | .missingMember | .infinityAsInteger | .codePointOverflow | .floatOverflow
  | .emptyNumeral | .document | .encoding | .noSuchFile | .nesting => ""

end Fault

end StoredProgram
