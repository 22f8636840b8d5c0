/-
JSON values as configuration files, caches and requests hold them.

A number keeps the reading it was given: an unsigned integer below 2^64, a negative integer
not below -2^63, or a binary64 float kept as its bit pattern. An object is a list of members;
objects built by reading keep their members sorted by key with the last duplicate winning,
which is the order in which they are written back.
-/
import TestTransform.Data.Table

namespace TestTransform
namespace Json

inductive Number where
  | nat (n : Nat)
  | neg (n : Int)
  | float (bits : UInt64)
deriving DecidableEq, Repr, Inhabited

inductive Value where
  | null
  | bool (b : Bool)
  | num (n : Number)
  | str (s : String)
  | arr (items : List Value)
  | obj (members : List (String × Value))
deriving Repr, Inhabited

namespace Number

/-- Both zeros of binary64 compare equal, as floats do. -/
def same : Number → Number → Bool
  | .nat a, .nat b => a == b
  | .neg a, .neg b => a == b
  | .float a, .float b => a == b || (a &&& 0x7FFFFFFFFFFFFFFF == 0 && b &&& 0x7FFFFFFFFFFFFFFF == 0)
  | _, _ => false

end Number

namespace Value

mutual
def same : Value → Value → Bool
  | .null, .null => true
  | .bool a, .bool b => a == b
  | .num a, .num b => a.same b
  | .str a, .str b => a == b
  | .arr xs, .arr ys => sameItems xs ys
  | .obj xs, .obj ys => sameMembers xs ys
  | _, _ => false

def sameItems : List Value → List Value → Bool
  | [], [] => true
  | x :: xs, y :: ys => same x y && sameItems xs ys
  | _, _ => false

def sameMembers : List (String × Value) → List (String × Value) → Bool
  | [], [] => true
  | (k, x) :: xs, (l, y) :: ys => k == l && same x y && sameMembers xs ys
  | _, _ => false
end

instance : BEq Value := ⟨same⟩

mutual
/-- The number of nodes of a value. -/
def weight : Value → Nat
  | .arr xs => weightItems xs + 1
  | .obj ms => weightMembers ms + 1
  | _ => 1

def weightItems : List Value → Nat
  | [] => 0
  | x :: xs => weight x + weightItems xs

def weightMembers : List (String × Value) → Nat
  | [] => 0
  | (_, x) :: ms => weight x + weightMembers ms
end

def ofNat (n : Nat) : Value := .num (.nat n)

def ofStrings (xs : List String) : Value := .arr (xs.map .str)

def ofOption {α : Type} (f : α → Value) : Option α → Value
  | none => .null
  | some a => f a

/-- The member of `key`; the last one when a key repeats. -/
def get? (v : Value) (key : String) : Option Value :=
  match v with
  | .obj ms => (ms.reverse.find? (·.1 == key)).map (·.2)
  | _ => none

def getD (v : Value) (key : String) (dflt : Value) : Value := (v.get? key).getD dflt

def isNull : Value → Bool
  | .null => true
  | _ => false

def asString? : Value → Option String
  | .str s => some s
  | _ => none

def asBool? : Value → Option Bool
  | .bool b => some b
  | _ => none

def asArray? : Value → Option (List Value)
  | .arr xs => some xs
  | _ => none

def asObject? : Value → Option (List (String × Value))
  | .obj ms => some ms
  | _ => none

/-- Members sorted by key, the last of equal keys kept: the form of a read object. -/
def sortMembers (ms : List (String × Value)) : List (String × Value) :=
  (Table.ofList ms).entries

/-- Sets `key` in an object, keeping members sorted. -/
def insertMember (ms : List (String × Value)) (key : String) (v : Value) :
    List (String × Value) :=
  Table.insertInto key v ms

end Value

end Json
end TestTransform
