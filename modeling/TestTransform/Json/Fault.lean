/-
Why a JSON text is refused, and where.

A syntax fault is found while scanning; a data fault when the text is well formed but does not
have the shape a typed reading expects. A fault found in a text carries the line (from 1) and
the column (bytes since the last line feed) where the reader stood; its message then ends with
`at line L column C`.
-/
import TestTransform.Json.Write
import TestTransform.Text.Shown

namespace TestTransform
namespace Json

inductive SyntaxFault where
  | eofInList
  | eofInObject
  | eofInString
  | eofInValue
  | expectedColon
  | expectedListCommaOrEnd
  | expectedObjectCommaOrEnd
  | expectedIdent
  | expectedValue
  | invalidEscape
  | invalidNumber
  | numberOutOfRange
  | invalidCodePoint
  | controlInString
  | keyNotString
  | loneSurrogate
  | trailingComma
  | trailingCharacters
  | unexpectedEndOfHexEscape
  | recursionLimit
deriving DecidableEq, Repr

def SyntaxFault.message : SyntaxFault → String
  | .eofInList => "EOF while parsing a list"
  | .eofInObject => "EOF while parsing an object"
  | .eofInString => "EOF while parsing a string"
  | .eofInValue => "EOF while parsing a value"
  | .expectedColon => "expected `:`"
  | .expectedListCommaOrEnd => "expected `,` or `]`"
  | .expectedObjectCommaOrEnd => "expected `,` or `\x7d`"
  | .expectedIdent => "expected ident"
  | .expectedValue => "expected value"
  | .invalidEscape => "invalid escape"
  | .invalidNumber => "invalid number"
  | .numberOutOfRange => "number out of range"
  | .invalidCodePoint => "invalid unicode code point"
  | .controlInString => "control character (\\u0000-\\u001F) found while parsing a string"
  | .keyNotString => "key must be a string"
  | .loneSurrogate => "lone leading surrogate in hex escape"
  | .trailingComma => "trailing comma"
  | .trailingCharacters => "trailing characters"
  | .unexpectedEndOfHexEscape => "unexpected end of hex escape"
  | .recursionLimit => "recursion limit exceeded"

/-- What a typed reading found where it expected something else. -/
inductive Found where
  | null
  | bool (b : Bool)
  | unsigned (n : Nat)
  | signed (n : Int)
  | float (bits : UInt64)
  | str (s : String)
  | seq
  | map
deriving DecidableEq, Repr

def Found.ofValue : Value → Found
  | .null => .null
  | .bool b => .bool b
  | .num (.nat n) => .unsigned n
  | .num (.neg n) => .signed n
  | .num (.float b) => .float b
  | .str s => .str s
  | .arr _ => .seq
  | .obj _ => .map

/-- A float as a found value is written like a float value, with `NaN` and `inf` for the
values that have no decimal. -/
def Found.floatText (bits : UInt64) : String :=
  match Decimal.Binary64.decode bits with
  | some _ => Json.floatText bits
  | none =>
    if bits &&& 0x000FFFFFFFFFFFFF != 0 then "NaN"
    else if bits.toNat ≥ Nat.pow 2 63 then "-inf" else "inf"

def Found.describe : Found → String
  | .null => "null"
  | .bool b => "boolean `" ++ (if b then "true" else "false") ++ "`"
  | .unsigned n => "integer `" ++ toString n ++ "`"
  | .signed n => "integer `" ++ toString n ++ "`"
  | .float bits => "floating point `" ++ Found.floatText bits ++ "`"
  | .str s => "string " ++ Text.shown s
  | .seq => "sequence"
  | .map => "map"

inductive DataFault where
  | invalidType (found : Found) (expected : String)
  | invalidValue (found : Found) (expected : String)
  | invalidLength (length : Nat) (expected : String)
  | missingField (name : String)
  | duplicateField (name : String)
  | noVariant (name : String)
  /-- a keyword outside a closed list of them -/
  | unknownVariant (given : String) (expected : List String)
  | custom (message : String)
deriving DecidableEq, Repr

/-- A name between backticks, as fault messages quote names. -/
def ticked (s : String) : String := "`" ++ s ++ "`"

/-- The names a keyword could have been: one, two joined by `or`, or `one of` a list. -/
def oneOf : List String → String
  | [] => "there are no variants"
  | [a] => ticked a
  | [a, b] => ticked a ++ " or " ++ ticked b
  | names => "one of " ++ ", ".intercalate (names.map ticked)

def DataFault.message : DataFault → String
  | .invalidType f e => "invalid type: " ++ f.describe ++ ", expected " ++ e
  | .invalidValue f e => "invalid value: " ++ f.describe ++ ", expected " ++ e
  | .invalidLength n e => "invalid length " ++ toString n ++ ", expected " ++ e
  | .missingField n => "missing field `" ++ n ++ "`"
  | .duplicateField n => "duplicate field `" ++ n ++ "`"
  | .noVariant n => "data did not match any variant of untagged enum " ++ n
  | .unknownVariant g es => "unknown variant " ++ ticked g ++ ", expected " ++ oneOf es
  | .custom m => m

inductive Fault where
  | malformed (f : SyntaxFault)
  | data (f : DataFault)
deriving DecidableEq, Repr

def Fault.message : Fault → String
  | .malformed f => f.message
  | .data f => f.message

structure Position where
  line : Nat
  column : Nat
deriving DecidableEq, Repr

structure Error where
  fault : Fault
  position : Option Position
deriving DecidableEq, Repr

def Error.message (e : Error) : String :=
  match e.position with
  | some p => e.fault.message ++ " at line " ++ toString p.line ++ " column " ++ toString p.column
  | none => e.fault.message

def Error.ofData (f : DataFault) : Error := ⟨.data f, none⟩

end Json
end TestTransform
