/-
Typed reading of JSON: a shape says what a text or a value must hold, and reading by the
shape either yields a decoded tree of that shape or says what did not fit.

Records are read from objects, member by member: a member names a field by its name or an
alias, may name it only once, and members naming no field are skipped (or, in a flattened
record, kept aside as a map). A field that is missing takes its default when it has one (an
absent optional, `false`, an empty list or map); otherwise the record is refused. A record may
also be read from a list holding its fields in order. An alternative tries its shapes in
order and takes the first that fits the whole value.

Reading a text follows the text from left to right and stops at the first fault, so that of a
shape fault and a later syntax fault the shape fault is reported; a fault raised inside a list
or an object is placed where the reader stands after skipping to its closing bracket.
-/
import TestTransform.Json.Read

namespace TestTransform
namespace Json

mutual
inductive Shape where
  /-- any value, kept as read -/
  | any
  /-- a string; `expected` names it in faults -/
  | text (expected : String)
  | flag
  /-- an unsigned number below 2^32 -/
  | u32
  /-- `null` or the inner shape -/
  | optional (inner : Shape)
  | seq (item : Shape)
  /-- an object with string keys -/
  | dict (item : Shape)
  | record (name : String) (fields : List Field)
  /-- a record that keeps members naming no field -/
  | flattened (name : String) (fields : List Field)
  | oneOf (name : String) (variants : List Shape)
  /-- a string accepted by `check`, which gives the decoded text or the fault's message -/
  | keyword (check : String → Except String String)

inductive Field where
  | mk (name : String) (aliases : List String) (shape : Shape) (required : Bool)
end

namespace Field

def name : Field → String
  | .mk n _ _ _ => n

def shape : Field → Shape
  | .mk _ _ s _ => s

def required : Field → Bool
  | .mk _ _ _ r => r

def names : Field → List String
  | .mk n as _ _ => n :: as

/-- A field taking its default when missing. -/
def optional (name : String) (shape : Shape) : Field := .mk name [] shape false

def needed (name : String) (shape : Shape) : Field := .mk name [] shape true

end Field

inductive Decoded where
  | value (v : Value)
  | absent
  | present (d : Decoded)
  | items (ds : List Decoded)
  | entries (es : List (String × Decoded))
  | record (fields : List Decoded) (rest : List (String × Value))
  | variant (index : Nat) (d : Decoded)
deriving Inhabited

/-- What a missing field of this shape decodes to. -/
def Shape.missing : Shape → Decoded
  | .flag => .value (.bool false)
  | .seq _ => .items []
  | .dict _ => .entries []
  | .any => .value .null
  | _ => .absent

def fieldIndex (fields : List Field) (key : String) : Option Nat :=
  fields.findIdx? (fun f => f.names.contains key)

def Found.ofNumber : Number → Found
  | .nat n => .unsigned n
  | .neg n => .signed n
  | .float b => .float b

def structName (name : String) : String := "struct " ++ name

/-- Missing fields take their defaults; the first missing field without one is refused. -/
def fillFields (fields : List Field) (slots : List (Option Decoded)) : Except DataFault (List Decoded) :=
  (fields.zip slots).mapM (fun (f, slot) =>
    match slot with
    | some d => .ok d
    | none => if f.required then .error (.missingField f.name) else .ok f.shape.missing)

def setSlot (slots : List (Option Decoded)) (k : Nat) (d : Decoded) : List (Option Decoded) :=
  slots.set k (some d)

/-! ## Reading values -/

/-- Decoded entries of a map, sorted by key with the last of equal keys kept. -/
def sortEntries (es : List (String × Decoded)) : List (String × Decoded) :=
  (Table.ofList es).entries

/-- An object read as a record by `decode`: each member whose key names a field fills that
field's slot, a field named twice is refused, and the other members are kept, normalized and
sorted, when `keepRest` is set. -/
def decodeMembers (decode : Shape → Value → Except DataFault Decoded) (fields : List Field)
    (keepRest : Bool) (ms : List (String × Value)) : Except DataFault Decoded := do
  let (slots, rest) ← ms.foldlM (fun (acc : List (Option Decoded) × List (String × Value))
      (kx : String × Value) =>
    let (k, x) := kx
    match fieldIndex fields k with
    | some idx =>
      match acc.1.getD idx none with
      | some _ => .error (.duplicateField ((fields.getD idx (.optional "" .any)).name))
      | none => (decode (fields.getD idx (.optional "" .any)).shape x).map
          (fun d => (setSlot acc.1 idx d, acc.2))
    | none => .ok (acc.1, if keepRest then (k, x) :: acc.2 else acc.2))
    (fields.map (fun _ => none), [])
  let filled ← fillFields fields slots
  pure (.record filled (Value.sortMembers (rest.reverse.map (fun (k, x) => (k, x.normalize)))))

/-- An array read as a record by `decode`, its items in the order of the fields. -/
def decodeItems (decode : Shape → Value → Except DataFault Decoded) (name : String)
    (fields : List Field) (xs : List Value) : Except DataFault Decoded := do
  let expecting := structName name ++ " with " ++ toString fields.length ++ " elements"
  let ds ← (fields.zip (List.range fields.length)).mapM (fun (f, k) =>
    match xs[k]? with
    | some x => decode f.shape x
    | none => if f.required then .error (.invalidLength k expecting) else .ok f.shape.missing)
  if xs.length > fields.length then .error (.invalidLength xs.length "fewer elements in array")
  else pure (.record ds [])

def decodeTree : Nat → Shape → Value → Except DataFault Decoded
  | 0, _, _ => .error (.custom "recursion limit exceeded")
  | fuel + 1, shape, v =>
    match shape, v with
    | .any, v => .ok (.value v.normalize)
    | .text _, .str t => .ok (.value (.str t))
    | .text e, v => .error (.invalidType (Found.ofValue v) e)
    | .flag, .bool b => .ok (.value (.bool b))
    | .flag, v => .error (.invalidType (Found.ofValue v) "a boolean")
    | .u32, .num (.nat n) =>
      if n < Nat.pow 2 32 then .ok (.value (.num (.nat n))) else .error (.invalidValue (.unsigned n) "u32")
    | .u32, .num (.neg n) => .error (.invalidValue (.signed n) "u32")
    | .u32, v => .error (.invalidType (Found.ofValue v) "u32")
    | .optional _, .null => .ok .absent
    | .optional inner, v => (decodeTree fuel inner v).map .present
    | .seq item, .arr xs => (xs.mapM (decodeTree fuel item)).map .items
    | .seq _, v => .error (.invalidType (Found.ofValue v) "a sequence")
    | .dict item, .obj ms =>
      (ms.mapM (fun (kx : String × Value) => (decodeTree fuel item kx.2).map (fun d => (kx.1, d)))).map
        (fun es => .entries es)
    | .dict _, v => .error (.invalidType (Found.ofValue v) "a map")
    | .record _ fields, .obj ms => decodeMembers (decodeTree fuel) fields false ms
    | .record name fields, .arr xs => decodeItems (decodeTree fuel) name fields xs
    | .record name _, v => .error (.invalidType (Found.ofValue v) (structName name))
    | .flattened _ fields, .obj ms => decodeMembers (decodeTree fuel) fields true ms
    | .flattened name _, v => .error (.invalidType (Found.ofValue v) (structName name))
    | .oneOf name variants, v =>
      match (variants.zip (List.range variants.length)).findSome? (fun (sh, k) =>
          match decodeTree fuel sh v with
          | .ok d => some (Decoded.variant k d)
          | .error _ => none) with
      | some d => .ok d
      | none => .error (.noVariant name)
    | .keyword check, .str t =>
      match check t with
      | .ok t' => .ok (.value (.str t'))
      | .error m => .error (.custom m)
    | .keyword _, v => .error (.invalidType (Found.ofValue v) "a string")

/-- Reads `v` by `shape`, as a value already read is read again into a type. -/
def Shape.decode (shape : Shape) (v : Value) : Except DataFault Decoded :=
  decodeTree (v.weight + 64) shape v

/-! ## Reading texts -/

/-- The fault of finding, at `i`, a value of another kind than `expected`: a scalar is read
first and the fault placed after it; a list or an object is faulted where it starts. -/
def invalidHere (s : ByteArray) (i : Nat) (expected : String) : Failure :=
  let after (r : Except Failure Nat) (found : Found) : Failure :=
    match r with
    | .ok j => dataAt s j (.invalidType found expected)
    | .error e => e
  match byteAt s i with
  | some 0x6E => after (readIdent s (i + 1) (bytesOf "ull")) .null
  | some 0x74 => after (readIdent s (i + 1) (bytesOf "rue")) (.bool true)
  | some 0x66 => after (readIdent s (i + 1) (bytesOf "alse")) (.bool false)
  | some 0x2D =>
    match readNumber s (i + 1) false with
    | .ok (n, j) => dataAt s j (.invalidType (Found.ofNumber n) expected)
    | .error e => e
  | some 0x22 =>
    match readString s (i + 1) false with
    | .ok (t, j) => dataAt s j (.invalidType (.str t) expected)
    | .error e => e
  | some 0x5B => dataAt s i (.invalidType .seq expected)
  | some 0x7B => dataAt s i (.invalidType .map expected)
  | some b =>
    if isDigit b then
      match readNumber s i true with
      | .ok (n, j) => dataAt s j (.invalidType (Found.ofNumber n) expected)
      | .error e => e
    else faultAfter s i .expectedValue
  | none => faultAfter s i .expectedValue

/-- The items of a sequence after its `[`, each read by `read` as `item`, up to its
closing `]`; `count` bounds the items left. -/
def readShapeItems (s : ByteArray) (read : Shape → Nat → Reading Decoded) (item : Shape) :
    Nat → Nat → Bool → List Decoded → Reading Decoded
  | 0, i, _, _ => .error (faultAt s i .recursionLimit)
  | count + 1, i, first, acc =>
    match nextItem s i first with
    | .error e => .error e
    | .ok (none, j) => .ok (.items acc.reverse, j)
    | .ok (some j, _) =>
      match read item j with
      | .ok (d, k) => readShapeItems s read item count k false (d :: acc)
      | .error e => .error e

/-- The entries of a map after its `{`, each value read by `read` as `item`, up to its
closing `}`; `count` bounds the entries left. -/
def readShapeEntries (s : ByteArray) (read : Shape → Nat → Reading Decoded) (item : Shape) :
    Nat → Nat → Bool → List (String × Decoded) → Reading Decoded
  | 0, i, _, _ => .error (faultAt s i .recursionLimit)
  | count + 1, i, first, acc =>
    match nextKey s i first with
    | .error e => .error e
    | .ok (none, j) => .ok (.entries acc.reverse, j)
    | .ok (some j, _) =>
      match readString s (j + 1) false with
      | .error e => .error e
      | .ok (key, k) =>
        match readColon s k with
        | .error e => .error e
        | .ok k =>
          match read item k with
          | .ok (d, k) => readShapeEntries s read item count k false ((key, d) :: acc)
          | .error e => .error e

/-- A record written as a list after its `[`, each field read by `read` in order; missing
trailing fields take their defaults unless required. -/
def readRecordItems (s : ByteArray) (read : Shape → Nat → Reading Decoded) (name : String)
    (total : Nat) : List Field → Nat → Bool → List Decoded → Reading Decoded
  | [], i, _, acc => .ok (.record acc.reverse [], i)
  | f :: fs, i, first, acc =>
    match nextItem s i first with
    | .error e => .error e
    | .ok (none, j) =>
      if f.required then
        .error (.pending (.invalidLength acc.length
          (structName name ++ " with " ++ toString total ++ " elements")) j)
      else readRecordItems s read name total fs j first (f.shape.missing :: acc)
    | .ok (some j, _) =>
      match read f.shape j with
      | .ok (d, k) => readRecordItems s read name total fs k false (d :: acc)
      | .error e => .error e

/-- A record written as an object after its `{`: each member whose key names a field is read
by `read` into that field's slot, a field named twice is refused, and every other member is
read as a raw value `depth` levels deep, kept when `keepRest` is set; `count` bounds the
members left. -/
def readRecordMembers (s : ByteArray) (read : Shape → Nat → Reading Decoded) (depth : Nat)
    (fields : List Field) (keepRest : Bool) : Nat → Nat → Bool →
      List (Option Decoded) → List (String × Value) → Reading Decoded
  | 0, i, _, _, _ => .error (faultAt s i .recursionLimit)
  | count + 1, i, first, slots, rest =>
    match nextKey s i first with
    | .error e => .error e
    | .ok (none, j) =>
      match fillFields fields slots with
      | .ok ds =>
        .ok (.record ds (Value.sortMembers (rest.reverse.map (fun (k, x) => (k, x.normalize)))), j)
      | .error f => .error (.pending f j)
    | .ok (some j, _) =>
      match readString s (j + 1) false with
      | .error e => .error e
      | .ok (key, k) =>
        match fieldIndex fields key with
        | some idx =>
          match slots.getD idx none with
          | some _ => .error (.pending (.duplicateField (fields.getD idx (.optional "" .any)).name) k)
          | none =>
            match readColon s k with
            | .error e => .error e
            | .ok k =>
              match read (fields.getD idx (.optional "" .any)).shape k with
              | .ok (d, k) => readRecordMembers s read depth fields keepRest count k false
                  (setSlot slots idx d) rest
              | .error e => .error e
        | none =>
          match readColon s k with
          | .error e => .error e
          | .ok k =>
            match readRaw s (!keepRest) (fuelFor s) depth k with
            | .ok (v, k) => readRecordMembers s read depth fields keepRest count k false slots
                (if keepRest then (key, v) :: rest else rest)
            | .error e => .error e

def readShape (s : ByteArray) : Nat → Nat → Shape → Nat → Reading Decoded
  | 0, _, _, i => .error (faultAt s i .recursionLimit)
  | fuel + 1, depth, shape, i =>
    let i := skipBlank s i
    match shape with
    | .any => (readRaw s false (fuelFor s) depth i).map (fun (v, j) => (.value v.normalize, j))
    | .text expected =>
      match byteAt s i with
      | none => .error (faultAfter s i .eofInValue)
      | some 0x22 => (readString s (i + 1) false).map (fun (t, j) => (.value (.str t), j))
      | some _ => .error (invalidHere s i expected)
    | .flag =>
      match byteAt s i with
      | none => .error (faultAfter s i .eofInValue)
      | some 0x74 => (readIdent s (i + 1) (bytesOf "rue")).map (fun j => (.value (.bool true), j))
      | some 0x66 => (readIdent s (i + 1) (bytesOf "alse")).map (fun j => (.value (.bool false), j))
      | some _ => .error (invalidHere s i "a boolean")
    | .u32 =>
      match byteAt s i with
      | none => .error (faultAfter s i .eofInValue)
      | some b =>
        if b == 0x2D || isDigit b then
          match readNumber s (if b == 0x2D then i + 1 else i) (b != 0x2D) with
          | .ok (.nat n, j) =>
            if n < Nat.pow 2 32 then .ok (.value (.num (.nat n)), j)
            else .error (dataAt s j (.invalidValue (.unsigned n) "u32"))
          | .ok (.neg n, j) => .error (dataAt s j (.invalidValue (.signed n) "u32"))
          | .ok (.float f, j) => .error (dataAt s j (.invalidType (.float f) "u32"))
          | .error e => .error e
        else .error (invalidHere s i "u32")
    | .optional inner =>
      match byteAt s i with
      | some 0x6E => (readIdent s (i + 1) (bytesOf "ull")).map (fun j => (.absent, j))
      | _ => (readShape s fuel depth inner i).map (fun (d, j) => (.present d, j))
    | .seq item =>
      match byteAt s i with
      | none => .error (faultAfter s i .eofInValue)
      | some 0x5B =>
        if depth ≤ 1 then .error (faultAfter s i .recursionLimit)
        else closeWith s endList
          (readShapeItems s (readShape s fuel (depth - 1)) item (s.size + 1) (i + 1) true [])
      | some _ => .error (invalidHere s i "a sequence")
    | .dict item =>
      match byteAt s i with
      | none => .error (faultAfter s i .eofInValue)
      | some 0x7B =>
        if depth ≤ 1 then .error (faultAfter s i .recursionLimit)
        else closeWith s endObject
          (readShapeEntries s (readShape s fuel (depth - 1)) item (s.size + 1) (i + 1) true [])
      | some _ => .error (invalidHere s i "a map")
    | .record name fields =>
      match byteAt s i with
      | none => .error (faultAfter s i .eofInValue)
      | some 0x5B =>
        if depth ≤ 1 then .error (faultAfter s i .recursionLimit)
        else closeWith s endList
          (readRecordItems s (readShape s fuel (depth - 1)) name fields.length fields (i + 1) true [])
      | some 0x7B =>
        if depth ≤ 1 then .error (faultAfter s i .recursionLimit)
        else closeWith s endObject (readRecordMembers s (readShape s fuel (depth - 1))
          (depth - 1) fields false (s.size + 1) (i + 1) true (fields.map (fun _ => none)) [])
      | some _ => .error (invalidHere s i (structName name))
    | .flattened name fields =>
      match byteAt s i with
      | none => .error (faultAfter s i .eofInValue)
      | some 0x7B =>
        if depth ≤ 1 then .error (faultAfter s i .recursionLimit)
        else closeWith s endObject (readRecordMembers s (readShape s fuel (depth - 1))
          (depth - 1) fields true (s.size + 1) (i + 1) true (fields.map (fun _ => none)) [])
      | some _ => .error (invalidHere s i (structName name))
    | .oneOf name variants =>
      match readRaw s false (fuelFor s) depth i with
      | .error e => .error e
      | .ok (v, j) =>
        match (Shape.oneOf name variants).decode v with
        | .ok d => .ok (d, j)
        | .error f => .error (.pending f j)
    | .keyword check =>
      match byteAt s i with
      | none => .error (faultAfter s i .eofInValue)
      | some 0x22 =>
        match readString s (i + 1) false with
        | .ok (t, j) =>
          match check t with
          | .ok t' => .ok (.value (.str t'), j)
          | .error m => .error (.pending (.custom m) j)
        | .error e => .error e
      | some _ => .error (invalidHere s i "a string")

/-- Reads a whole text by `shape`; only blanks may follow. -/
def Shape.readText (shape : Shape) (text : String) : Except Error Decoded :=
  let s := text.toUTF8
  match readShape s (fuelFor s + 64) recursionLimit shape 0 with
  | .error e => .error e.toError
  | .ok (d, i) => (expectEnd s i).map (fun _ => d)

/-! ## Decoded trees -/

namespace Decoded

def field (d : Decoded) (k : Nat) : Decoded :=
  match d with
  | .record fs _ => fs.getD k .absent
  | _ => .absent

def rest : Decoded → List (String × Value)
  | .record _ r => r
  | _ => []

/-- The inner tree of a present optional; `none` when absent. -/
def present? : Decoded → Option Decoded
  | .absent => none
  | .present d => some d
  | d => some d

def value? : Decoded → Option Value
  | .value v => some v
  | .present d => d.value?
  | _ => none

def str? (d : Decoded) : Option String := d.value?.bind Value.asString?

def bool? (d : Decoded) : Option Bool := d.value?.bind Value.asBool?

def boolD (d : Decoded) : Bool := d.bool?.getD false

def nat? (d : Decoded) : Option Nat :=
  match d.value? with
  | some (.num (.nat n)) => some n
  | _ => none

def itemList : Decoded → List Decoded
  | .items ds => ds
  | .present d => d.itemList
  | _ => []

/-- The entries of a map in the order of the document, equal keys included. -/
def documentEntries : Decoded → List (String × Decoded)
  | .entries es => es
  | .present d => d.documentEntries
  | _ => []

/-- The entries of a map with text keys: sorted by key, the last of equal keys kept. -/
def entryList (d : Decoded) : List (String × Decoded) := sortEntries d.documentEntries

def strs (d : Decoded) : List String := d.itemList.filterMap str?

end Decoded

end Json
end TestTransform
