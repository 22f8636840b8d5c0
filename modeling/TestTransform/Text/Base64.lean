/-
Base64 with the standard alphabet and `=` padding: every three bytes become four characters
of six bits each, and a last group of one or two bytes becomes two or three characters and
padding.
-/
namespace TestTransform
namespace Text

def base64Alphabet : String := "ABCDEFGHIJKLMNOPQRSTUVWXYZabcdefghijklmnopqrstuvwxyz0123456789+/"

/-- The character of a six-bit value. -/
def base64Char (n : Nat) : Char := (base64Alphabet.toList)[n % 64]?.getD 'A'

def base64Group : List Nat → List Char
  | [a, b, c] =>
    let n := a * 65536 + b * 256 + c
    [base64Char (n / 262144), base64Char (n / 4096), base64Char (n / 64), base64Char n]
  | [a, b] =>
    let n := a * 65536 + b * 256
    [base64Char (n / 262144), base64Char (n / 4096), base64Char (n / 64), '=']
  | [a] =>
    let n := a * 65536
    [base64Char (n / 262144), base64Char (n / 4096), '=', '=']
  | _ => []

/-- The bytes in groups of three, the last group shorter when the count is no multiple of
three. -/
def triples : List Nat → List (List Nat)
  | a :: b :: c :: rest => [a, b, c] :: triples rest
  | [] => []
  | rest => [rest]

def base64Bytes (bytes : List Nat) : String :=
  String.ofList ((triples bytes).flatMap base64Group)

/-- The base64 text of a string's UTF-8 bytes. -/
def base64 (s : String) : String := base64Bytes (s.toUTF8.toList.map UInt8.toNat)

end Text
end TestTransform
