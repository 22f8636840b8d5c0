/-
Reading JSON text, byte by byte.

Readers take the index of the next unread byte and return the index after what they consumed.
Blanks are space, tab, line feed and carriage return. Integers that fit an unsigned 64-bit
word, and negative ones that fit a signed one, stay integers; every other number becomes the
binary64 value of its significand scaled by a power of ten, and a number too large for that is
refused. Nesting of lists and objects is limited to 127 levels. Strings must pair their
surrogate escapes.

A failure is either placed (it carries its line and column) or pending: a data fault raised
inside a list or an object is placed only after the reader has skipped to the end of that
container, at the position where it then stands.
-/
import TestTransform.Json.Fault

namespace TestTransform
namespace Json

def byteAt (s : ByteArray) (i : Nat) : Option UInt8 :=
  if h : i < s.size then some s[i] else none

/-- Line (from 1) and column (bytes since the last line feed) before the byte at `i`. -/
def positionAt (s : ByteArray) (i : Nat) : Position :=
  (s.extract 0 i).toList.foldl
    (fun p b => if b == 10 then ⟨p.line + 1, 0⟩ else ⟨p.line, p.column + 1⟩) ⟨1, 0⟩

inductive Failure where
  | placed (e : Error)
  | pending (f : DataFault) (index : Nat)
deriving Repr

/-- A syntax fault at the reader's position `i`. -/
def faultAt (s : ByteArray) (i : Nat) (f : SyntaxFault) : Failure :=
  .placed ⟨.malformed f, some (positionAt s i)⟩

/-- A syntax fault at the byte the reader looks at: one past `i`. -/
def faultAfter (s : ByteArray) (i : Nat) (f : SyntaxFault) : Failure :=
  .placed ⟨.malformed f, some (positionAt s (min s.size (i + 1)))⟩

/-- A data fault placed where the reader stands. -/
def dataAt (s : ByteArray) (i : Nat) (f : DataFault) : Failure :=
  .placed ⟨.data f, some (positionAt s i)⟩

/-- Places a pending fault at `i`. -/
def Failure.placeAt (s : ByteArray) (i : Nat) : Failure → Failure
  | .placed e => .placed e
  | .pending f _ => dataAt s i f

def Failure.toError : Failure → Error
  | .placed e => e
  | .pending f _ => ⟨.data f, none⟩

abbrev Reading (α : Type) := Except Failure (α × Nat)

def isBlank (b : UInt8) : Bool := b == 0x20 || b == 0x0A || b == 0x09 || b == 0x0D

def isDigit (b : UInt8) : Bool := 0x30 ≤ b && b ≤ 0x39

def skipBlank (s : ByteArray) (i : Nat) : Nat :=
  if h : i < s.size then
    if isBlank s[i] then skipBlank s (i + 1) else i
  else i
termination_by s.size - i

/-- The rest of a keyword whose first byte was read: each byte is taken, then compared. -/
def readIdent (s : ByteArray) (i : Nat) : List UInt8 → Except Failure Nat
  | [] => .ok i
  | b :: bs =>
    match byteAt s i with
    | none => .error (faultAt s i .eofInValue)
    | some c => if c == b then readIdent s (i + 1) bs else .error (faultAt s (i + 1) .expectedIdent)

def bytesOf (s : String) : List UInt8 := s.toUTF8.toList

/-! ## Strings -/

def hexValue (b : UInt8) : Option Nat :=
  if isDigit b then some (b.toNat - 0x30)
  else if 0x61 ≤ b && b ≤ 0x66 then some (b.toNat - 0x61 + 10)
  else if 0x41 ≤ b && b ≤ 0x46 then some (b.toNat - 0x41 + 10)
  else none

/-- Four hexadecimal digits from `i`: a code unit and the index after it. The four bytes are
taken before any is checked, so a bad digit is reported after the fourth. -/
def readHex4 (s : ByteArray) (i : Nat) : Reading Nat :=
  if i + 4 > s.size then .error (faultAt s s.size .eofInString)
  else
    match go 4 i 0 with
    | some n => .ok (n, i + 4)
    | none => .error (faultAt s (i + 4) .invalidEscape)
where
  go : Nat → Nat → Nat → Option Nat
    | 0, _, n => some n
    | k + 1, i, n => ((byteAt s i).bind hexValue).bind (fun v => go k (i + 1) (n * 16 + v))

def pushCodePoint (acc : ByteArray) (n : Nat) : ByteArray :=
  acc ++ (Char.ofNat n).toString.toUTF8

/-- The character of a `\u` escape whose first code unit starts at `i`; a leading surrogate
must be followed by the escape of a trailing one. -/
def readUnicode (s : ByteArray) (i : Nat) (acc : ByteArray) : Except Failure (ByteArray × Nat) := do
  let (n, k) ← readHex4 s i
  if 0xDC00 ≤ n && n ≤ 0xDFFF then throw (faultAt s k .loneSurrogate)
  else if n < 0xD800 || n > 0xDBFF then pure (pushCodePoint acc n, k)
  else
    match byteAt s k with
    | none => throw (faultAt s s.size .eofInString)
    | some b =>
      if b != 0x5C then throw (faultAt s (k + 1) .unexpectedEndOfHexEscape)
      else
        match byteAt s (k + 1) with
        | none => throw (faultAt s s.size .eofInString)
        | some u =>
          if u != 0x75 then throw (faultAt s (k + 2) .unexpectedEndOfHexEscape)
          else
            let (n2, k2) ← readHex4 s (k + 2)
            if n2 < 0xDC00 || n2 > 0xDFFF then throw (faultAt s k2 .loneSurrogate)
            else pure (pushCodePoint acc ((n - 0xD800) * 0x400 + (n2 - 0xDC00) + 0x10000), k2)

/-- The escape whose letter is at `i`. A lenient reading checks a `\u` escape's digits only. -/
def readEscape (s : ByteArray) (lenient : Bool) (i : Nat) (acc : ByteArray) : Reading ByteArray :=
  match byteAt s i with
  | none => .error (faultAt s i .eofInString)
  | some c =>
    if c == 0x22 then .ok (acc.push 0x22, i + 1)
    else if c == 0x5C then .ok (acc.push 0x5C, i + 1)
    else if c == 0x2F then .ok (acc.push 0x2F, i + 1)
    else if c == 0x62 then .ok (acc.push 0x08, i + 1)
    else if c == 0x66 then .ok (acc.push 0x0C, i + 1)
    else if c == 0x6E then .ok (acc.push 0x0A, i + 1)
    else if c == 0x72 then .ok (acc.push 0x0D, i + 1)
    else if c == 0x74 then .ok (acc.push 0x09, i + 1)
    else if c == 0x75 then
      if lenient then (readHex4 s (i + 1)).map (fun r => (acc, r.2)) else readUnicode s (i + 1) acc
    else .error (faultAt s (i + 1) .invalidEscape)

def readStringBody (s : ByteArray) (lenient : Bool) : Nat → Nat → ByteArray → Reading ByteArray
  | 0, i, _ => .error (faultAt s i .eofInString)
  | fuel + 1, i, acc =>
    match byteAt s i with
    | none => .error (faultAt s s.size .eofInString)
    | some b =>
      if b == 0x22 then .ok (acc, i + 1)
      else if b == 0x5C then
        match readEscape s lenient (i + 1) acc with
        | .ok (acc, j) => readStringBody s lenient fuel j acc
        | .error e => .error e
      else if b < 0x20 then .error (faultAt s (if lenient then i else i + 1) .controlInString)
      else readStringBody s lenient fuel (i + 1) (acc.push b)

/-- The string whose opening quote is just before `i`. -/
def readString (s : ByteArray) (i : Nat) (lenient : Bool) : Reading String :=
  match readStringBody s lenient (s.size + 1) i ByteArray.empty with
  | .ok (bytes, j) => .ok ((String.fromUTF8? bytes).getD "", j)
  | .error e => .error e

/-! ## Numbers -/

def u64Max : Nat := Nat.pow 2 64 - 1

def i32Max : Int := Int.pow 2 31 - 1

def powerOfTen (k : Nat) : Float := Float.ofBits (Decimal.Binary64.powerOfTen k)

/-- `f · 10^exponent` by one product or quotient with a power of ten up to 10^308, dividing
by 10^308 first while the exponent is below -308. -/
def scaleByTen : Nat → Float → Int → Except SyntaxFault Float
  | 0, f, _ => .ok f
  | fuel + 1, f, e =>
    if e.natAbs ≤ 308 then
      if e ≥ 0 then
        let g := f * powerOfTen e.natAbs
        if g.isInf then .error .numberOutOfRange else .ok g
      else .ok (f / powerOfTen e.natAbs)
    else if f == 0 then .ok f
    else if e ≥ 0 then .error .numberOutOfRange
    else scaleByTen fuel (f / powerOfTen 308) (e + 308)

/-- The float `±significand · 10^exponent`, or a fault placed at `i`. -/
def floatOfParts (s : ByteArray) (i : Nat) (positive : Bool) (significand : Nat) (exponent : Int) :
    Reading Number :=
  match scaleByTen 8 significand.toUInt64.toFloat exponent with
  | .ok f => .ok (.float (if positive then f else -f).toBits, i)
  | .error fault => .error (faultAt s i fault)

def digitValue (b : UInt8) : Nat := b.toNat - 0x30

def clampI32 (n : Int) : Int := if n > i32Max then i32Max else if n < -i32Max - 1 then -i32Max - 1 else n

def skipDigits (s : ByteArray) (i : Nat) : Nat :=
  if h : i < s.size then
    if isDigit s[i] then skipDigits s (i + 1) else i
  else i
termination_by s.size - i

/-- An exponent whose `e` or `E` is at `i`. -/
def readExponent (s : ByteArray) (i : Nat) (positive : Bool) (significand : Nat) (start : Int) :
    Reading Number :=
  let i := i + 1
  let (positiveExp, i) :=
    match byteAt s i with
    | some 0x2B => (true, i + 1)
    | some 0x2D => (false, i + 1)
    | _ => (true, i)
  match byteAt s i with
  | none => .error (faultAt s i .eofInValue)
  | some b =>
    if !isDigit b then .error (faultAt s (i + 1) .invalidNumber)
    else go positiveExp (s.size + 1) (i + 1) (digitValue b)
where
  go (positiveExp : Bool) : Nat → Nat → Int → Reading Number
    | 0, i, _ => .error (faultAt s i .invalidNumber)
    | fuel + 1, i, exp =>
      match byteAt s i with
      | some b =>
        if isDigit b then
          let exp' := exp * 10 + digitValue b
          if exp' > i32Max then
            -- too many exponent digits: zero for a zero significand or a negative exponent
            if significand != 0 && positiveExp then .error (faultAt s (i + 1) .numberOutOfRange)
            else
              let j := skipDigits s (i + 1)
              .ok (.float (if positive then (0 : Float) else -(0 : Float)).toBits, j)
          else go positiveExp fuel (i + 1) exp'
        else finish positiveExp i exp
      | none => finish positiveExp i exp
  finish (positiveExp : Bool) (i : Nat) (exp : Int) : Reading Number :=
    floatOfParts s i positive significand (clampI32 (if positiveExp then start + exp else start - exp))

/-- Digits after a decimal point at `i`. -/
def readFraction (s : ByteArray) (i : Nat) (positive : Bool) (significand : Nat) (before : Int) :
    Reading Number :=
  go (s.size + 1) (i + 1) significand 0
where
  go : Nat → Nat → Nat → Int → Reading Number
    | 0, i, _, _ => .error (faultAt s i .invalidNumber)
    | fuel + 1, i, m, after =>
      match byteAt s i with
      | some b =>
        if isDigit b then
          if m * 10 + digitValue b > u64Max then
            -- further digits cannot change the significand and are skipped
            let j := skipDigits s i
            match byteAt s j with
            | some 0x65 | some 0x45 => readExponent s j positive m (before + after)
            | _ => floatOfParts s j positive m (before + after)
          else go fuel (i + 1) (m * 10 + digitValue b) (after - 1)
        else done i m after
      | none => done i m after
  done (i : Nat) (m : Nat) (after : Int) : Reading Number :=
    if after == 0 then
      match byteAt s i with
      | some _ => .error (faultAfter s i .invalidNumber)
      | none => .error (faultAfter s i .eofInValue)
    else
      match byteAt s i with
      | some 0x65 | some 0x45 => readExponent s i positive m (before + after)
      | _ => floatOfParts s i positive m (before + after)

/-- What follows the digits of an integer at `i`. -/
def afterInteger (s : ByteArray) (i : Nat) (positive : Bool) (m : Nat) : Reading Number :=
  match byteAt s i with
  | some 0x2E => readFraction s i positive m 0
  | some 0x65 | some 0x45 => readExponent s i positive m 0
  | _ =>
    if positive then .ok (.nat m, i)
    else if 0 < m && m ≤ Nat.pow 2 63 then .ok (.neg (-(m : Int)), i)
    else .ok (.float (-(m.toUInt64.toFloat)).toBits, i)

/-- An integer too long for 64 bits: its further digits only raise the exponent. -/
def readLongInteger (s : ByteArray) (positive : Bool) (m : Nat) : Nat → Nat → Int → Reading Number
  | 0, i, _ => .error (faultAt s i .invalidNumber)
  | fuel + 1, i, exp =>
    match byteAt s i with
    | some b =>
      if isDigit b then readLongInteger s positive m fuel (i + 1) (exp + 1)
      else if b == 0x2E then readFraction s i positive m exp
      else if b == 0x65 || b == 0x45 then readExponent s i positive m exp
      else floatOfParts s i positive m exp
    | none => floatOfParts s i positive m exp

def readIntegerDigits (s : ByteArray) (positive : Bool) : Nat → Nat → Nat → Reading Number
  | 0, i, _ => .error (faultAt s i .invalidNumber)
  | fuel + 1, i, m =>
    match byteAt s i with
    | some b =>
      if isDigit b then
        if m * 10 + digitValue b > u64Max then readLongInteger s positive m (s.size + 1) i 0
        else readIntegerDigits s positive fuel (i + 1) (m * 10 + digitValue b)
      else afterInteger s i positive m
    | none => afterInteger s i positive m

/-- A number whose first digit is at `i` (after the minus sign of a negative one). -/
def readNumber (s : ByteArray) (i : Nat) (positive : Bool) : Reading Number :=
  match byteAt s i with
  | none => .error (faultAt s i .eofInValue)
  | some b =>
    if b == 0x30 then
      match byteAt s (i + 1) with
      | some d => if isDigit d then .error (faultAfter s (i + 1) .invalidNumber)
                  else afterInteger s (i + 1) positive 0
      | none => afterInteger s (i + 1) positive 0
    else if isDigit b then readIntegerDigits s positive (s.size + 1) (i + 1) (digitValue b)
    else .error (faultAt s (i + 1) .invalidNumber)

/-! ## Lists and objects -/

/-- Before the next item of a list: `none` at the closing bracket (left unread), or the index
where the next item starts. -/
def nextItem (s : ByteArray) (i : Nat) (first : Bool) : Except Failure (Option Nat × Nat) :=
  let i := skipBlank s i
  match byteAt s i with
  | none => .error (faultAfter s i .eofInList)
  | some 0x5D => .ok (none, i)
  | some b =>
    if b == 0x2C && !first then
      let j := skipBlank s (i + 1)
      match byteAt s j with
      | some 0x5D => .error (faultAfter s j .trailingComma)
      | some _ => .ok (some j, j)
      | none => .error (faultAfter s j .eofInValue)
    else if first then .ok (some i, i)
    else .error (faultAfter s i .expectedListCommaOrEnd)

/-- Before the next member of an object: `none` at the closing brace (left unread), or the
index of the opening quote of the next key. -/
def nextKey (s : ByteArray) (i : Nat) (first : Bool) : Except Failure (Option Nat × Nat) :=
  let i := skipBlank s i
  match byteAt s i with
  | none => .error (faultAfter s i .eofInObject)
  | some 0x7D => .ok (none, i)
  | some b =>
    let (j, ok) :=
      if b == 0x2C && !first then (skipBlank s (i + 1), true)
      else (i, first)
    if !ok then .error (faultAfter s i .expectedObjectCommaOrEnd)
    else
      match byteAt s j with
      | some 0x22 => .ok (some j, j)
      | some 0x7D => .error (faultAfter s j .trailingComma)
      | some _ => .error (faultAfter s j .keyNotString)
      | none => .error (faultAfter s j .eofInValue)

def readColon (s : ByteArray) (i : Nat) : Except Failure Nat :=
  let i := skipBlank s i
  match byteAt s i with
  | some 0x3A => .ok (i + 1)
  | some _ => .error (faultAfter s i .expectedColon)
  | none => .error (faultAfter s i .eofInObject)

/-- The end of a list whose items were read: the index after it, and a fault if it is not a
closing bracket. The index is where the reader stands either way. -/
def endList (s : ByteArray) (i : Nat) : Nat × Option Failure :=
  let i := skipBlank s i
  match byteAt s i with
  | some 0x5D => (i + 1, none)
  | some 0x2C =>
    let j := skipBlank s (i + 1)
    match byteAt s j with
    | some 0x5D => (j, some (faultAfter s j .trailingComma))
    | _ => (j, some (faultAfter s j .trailingCharacters))
  | some _ => (i, some (faultAfter s i .trailingCharacters))
  | none => (i, some (faultAfter s i .eofInList))

def endObject (s : ByteArray) (i : Nat) : Nat × Option Failure :=
  let i := skipBlank s i
  match byteAt s i with
  | some 0x7D => (i + 1, none)
  | some 0x2C => (i, some (faultAfter s i .trailingComma))
  | some _ => (i, some (faultAfter s i .trailingCharacters))
  | none => (i, some (faultAfter s i .eofInObject))

/-- Closes a container read by `body`: on success the closing token must follow; on failure
the reader still skips to the closing token, and a pending fault is placed there. -/
def closeWith (s : ByteArray) (close : ByteArray → Nat → Nat × Option Failure) {α : Type}
    (body : Reading α) : Reading α :=
  match body with
  | .ok (a, j) =>
    match close s j with
    | (k, none) => .ok (a, k)
    | (_, some e) => .error e
  | .error (.pending f j) => .error (dataAt s (close s j).1 f)
  | .error e => .error e

def recursionLimit : Nat := 128

/-- The items of a list after its `[`, each read by `read`, up to its closing `]`; `count`
bounds the items left. -/
def readItems (s : ByteArray) (read : Nat → Reading Value) : Nat → Nat → Bool → List Value →
    Reading Value
  | 0, i, _, _ => .error (faultAt s i .recursionLimit)
  | count + 1, i, first, acc =>
    match nextItem s i first with
    | .error e => .error e
    | .ok (none, j) => .ok (.arr acc.reverse, j)
    | .ok (some j, _) =>
      match read j with
      | .ok (v, k) => readItems s read count k false (v :: acc)
      | .error e => .error e

/-- The members of an object after its `{`, each value read by `read`, up to its closing `}`;
`count` bounds the members left. -/
def readMembers (s : ByteArray) (lenient : Bool) (read : Nat → Reading Value) :
    Nat → Nat → Bool → List (String × Value) → Reading Value
  | 0, i, _, _ => .error (faultAt s i .recursionLimit)
  | count + 1, i, first, acc =>
    match nextKey s i first with
    | .error e => .error e
    | .ok (none, j) => .ok (.obj acc.reverse, j)
    | .ok (some j, _) =>
      match readString s (j + 1) lenient with
      | .error e => .error e
      | .ok (key, k) =>
        match readColon s k with
        | .error e => .error e
        | .ok k =>
          match read k with
          | .ok (v, k) => readMembers s lenient read count k false ((key, v) :: acc)
          | .error e => .error e

/-- A whole value at `i`, objects kept in the order and with the duplicates they were written
with. `depth` counts the levels of nesting still allowed; a lenient reading (of a value that
is skipped) has no limit and checks escapes less. -/
def readRaw (s : ByteArray) (lenient : Bool) : Nat → Nat → Nat → Reading Value
  | 0, _, i => .error (faultAt s i .recursionLimit)
  | fuel + 1, depth, i =>
    let i := skipBlank s i
    match byteAt s i with
    | none => .error (faultAfter s i .eofInValue)
    | some b =>
      if b == 0x6E then (readIdent s (i + 1) (bytesOf "ull")).map (fun j => (.null, j))
      else if b == 0x74 then (readIdent s (i + 1) (bytesOf "rue")).map (fun j => (.bool true, j))
      else if b == 0x66 then (readIdent s (i + 1) (bytesOf "alse")).map (fun j => (.bool false, j))
      else if b == 0x2D then (readNumber s (i + 1) false).map (fun r => (.num r.1, r.2))
      else if isDigit b then (readNumber s i true).map (fun r => (.num r.1, r.2))
      else if b == 0x22 then (readString s (i + 1) lenient).map (fun r => (.str r.1, r.2))
      else if b == 0x5B then
        if !lenient && depth ≤ 1 then .error (faultAfter s i .recursionLimit)
        else closeWith s endList
          (readItems s (readRaw s lenient fuel (depth - 1)) (s.size + 1) (i + 1) true [])
      else if b == 0x7B then
        if !lenient && depth ≤ 1 then .error (faultAfter s i .recursionLimit)
        else closeWith s endObject
          (readMembers s lenient (readRaw s lenient fuel (depth - 1)) (s.size + 1) (i + 1) true [])
      else .error (faultAfter s i .expectedValue)

mutual
/-- Objects sorted by key with the last of equal keys kept, all the way down. -/
def Value.normalize : Value → Value
  | .arr xs => .arr (Value.normalizeItems xs)
  | .obj ms => .obj (Value.sortMembers (Value.normalizeMembers ms))
  | v => v

def Value.normalizeItems : List Value → List Value
  | [] => []
  | x :: xs => x.normalize :: Value.normalizeItems xs

def Value.normalizeMembers : List (String × Value) → List (String × Value)
  | [] => []
  | (k, x) :: ms => (k, x.normalize) :: Value.normalizeMembers ms
end

def fuelFor (s : ByteArray) : Nat := 2 * s.size + 16

/-- Nothing but blanks may follow the value read. -/
def expectEnd (s : ByteArray) (i : Nat) : Except Error Unit :=
  let i := skipBlank s i
  match byteAt s i with
  | some _ => .error (faultAfter s i .trailingCharacters).toError
  | none => .ok ()

/-- The value of a whole JSON text, objects sorted by key with the last duplicate kept. -/
def Value.read (text : String) : Except Error Value :=
  let s := text.toUTF8
  match readRaw s false (fuelFor s) recursionLimit 0 with
  | .error e => .error e.toError
  | .ok (v, i) => (expectEnd s i).map (fun _ => v.normalize)

end Json
end TestTransform
