/-
Strings as diagnostic texts show them: between double quotes, with the quote, the backslash,
NUL, tab, carriage return and line feed written as two-character escapes, grapheme extenders
and characters that are not printable written as `\u{hex}`, and every other character as
itself.
-/
import TestTransform.Unicode.Char

namespace TestTransform
namespace Text

def hexDigits (n : Nat) : String :=
  String.ofList (Nat.toDigits 16 n)

/-- Characters that are written as a code point escape rather than as themselves. -/
def unprintable (c : Char) : Bool := Unicode.isGraphemeExtend c || !Unicode.isPrintable c

def shownChar (c : Char) : String :=
  match c with
  | '\x00' => "\\0"
  | '\t' => "\\t"
  | '\r' => "\\r"
  | '\n' => "\\n"
  | '\\' => "\\\\"
  | '"' => "\\\""
  | c => if unprintable c then "\\u" ++ "\x7b" ++ hexDigits c.toNat ++ "\x7d" else c.toString

/-- `s` between double quotes with its special characters escaped. -/
def shown (s : String) : String :=
  "\"" ++ String.join (s.toList.map shownChar) ++ "\""

end Text
end TestTransform
