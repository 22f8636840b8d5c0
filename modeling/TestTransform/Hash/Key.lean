/-
Hashes that name cached things.

A text is hashed by its UTF-8 bytes; a JSON value by its compact text. A cache key hashes a
sequence of parts, each written as its length in eight little-endian bytes followed by its
bytes, so that no two different sequences of parts give the same stream.
-/
import TestTransform.Hash.Blake3
import TestTransform.Json.Write

namespace TestTransform
namespace Hash

def ofBytes (bytes : List UInt8) : String := Blake3.hex (Blake3.digest bytes)

def ofText (s : String) : String := ofBytes s.toUTF8.toList

def ofValue (v : Json.Value) : String := ofText v.compact

/-- `n` as eight little-endian bytes. -/
def lengthBytes (n : Nat) : List UInt8 := (List.range 8).map (fun i => (n / Nat.pow 256 i % 256).toUInt8)

/-- The stream a sequence of parts is hashed as. -/
def keyStream (parts : List (List UInt8)) : List UInt8 :=
  parts.flatMap (fun p => lengthBytes p.length ++ p)

def ofParts (parts : List String) : String := ofBytes (keyStream (parts.map (·.toUTF8.toList)))

/-- The name of the file that holds the recorded imports of test files. -/
def graphFileName : String := ofText "tsjest-resolved-modules1"

end Hash
end TestTransform
