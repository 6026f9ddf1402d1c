import TopicListeners.Dictionary
import TopicListeners.Numeral.Binary

/-!
# Payload values and faults

The JSON values that a payload can hold, the members of an object in the order of their keys' bytes
and each key once. Of a payload that cannot be read there is a reason and a place: a line, and a
number of bytes in it, both counted over the part of the payload that the fault is blamed on.
-/

namespace TopicListeners.Payload

/-! ## Values -/

/-- A JSON value. Numbers without fraction and exponent that fit 64 bits are whole, all others
double-precision. -/
inductive Value
  | null
  | flag (b : Bool)
  | whole (n : Int)
  | real (x : Numeral.Double)
  | text (s : String)
  | array (items : List Value)
  | object (members : List (String × Value))

/-- The members of an object, in the order of their keys. -/
abbrev Members := Dictionary Value

/-! ## Faults -/

/-- What is wrong with a payload. -/
inductive Reason
  | endInValue
  | endInString
  | endInArray
  | endInObject
  | valueExpected
  | wordExpected
  | colonExpected
  | commaOrBracketExpected
  | commaOrBraceExpected
  | keyExpected
  | trailingComma
  | trailingCharacters
  | nestedTooDeep
  | invalidNumber
  | numberOutOfRange
  | controlCharacter
  | invalidEscape
  | loneSurrogate
  | endOfEscape
  | invalidText
deriving DecidableEq, Repr

namespace Reason

/-- The wording of a reason. -/
def message : Reason → String
  | endInValue => "EOF while parsing a value"
  | endInString => "EOF while parsing a string"
  | endInArray => "EOF while parsing a list"
  | endInObject => "EOF while parsing an object"
  | valueExpected => "expected value"
  | wordExpected => "expected ident"
  | colonExpected => "expected `:`"
  | commaOrBracketExpected => "expected `,` or `]`"
  | commaOrBraceExpected => "expected `,` or `\x7d`"
  | keyExpected => "key must be a string"
  | trailingComma => "trailing comma"
  | trailingCharacters => "trailing characters"
  | nestedTooDeep => "recursion limit exceeded"
  | invalidNumber => "invalid number"
  | numberOutOfRange => "number out of range"
  | controlCharacter => "control character (\\u0000-\\u001F) found while parsing a string"
  | invalidEscape => "invalid escape"
  | loneSurrogate => "lone leading surrogate in hex escape"
  | endOfEscape => "unexpected end of hex escape"
  | invalidText => "invalid unicode code point"

/-- Whether the payload ended too early. -/
def isEnd : Reason → Bool
  | endInValue | endInString | endInArray | endInObject => true
  | _ => false

end Reason

/-- A reason and its place. -/
structure Fault where
  reason : Reason
  line : Nat
  column : Nat
deriving DecidableEq, Repr

namespace Fault

/-- The line feed. -/
def lineFeed : UInt8 := 10

/-- A fault at the end of the given bytes. -/
def locate (reason : Reason) (bytes : List UInt8) : Fault :=
  ⟨reason, bytes.count lineFeed + 1, (bytes.reverse.takeWhile (· != lineFeed)).length⟩

/-- The wording of a fault. -/
def message (f : Fault) : String :=
  f.reason.message ++ " at line " ++ toString f.line ++ " column " ++ toString f.column

end Fault

end TopicListeners.Payload
