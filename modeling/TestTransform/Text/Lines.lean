/-
Lines of a text, the pieces between the occurrences of a separator, and the number a run of
digits writes.

A line ends at a line feed, and a carriage return just before that line feed belongs to the
ending; the last line needs no ending, and a text that ends with a line feed has no empty line
after it. A carriage return alone ends nothing. Occurrences of a separator are found from the
left without overlap, so a text with `n` of them has `n + 1` pieces.
-/
namespace TestTransform
namespace Text

/-- A piece that a line feed ended, without the carriage return of a CR LF ending. -/
def dropReturn (piece : String) : String :=
  if piece.endsWith "\r" then String.ofList piece.toList.dropLast else piece

/-- The pieces between line feeds, each ended piece without its carriage return, and the
last piece only when it is not empty. -/
def linesOfPieces : List String → List String
  | [] => []
  | [last] => if last.isEmpty then [] else [last]
  | piece :: rest => dropReturn piece :: linesOfPieces rest

/-- The lines of `s`, in order. -/
def lines (s : String) : List String := linesOfPieces ((s.toList.splitOn '\n').map String.ofList)

example : lines "" = [] := by cbv

/-- The pieces of `cs` between the occurrences of the nonempty `sep`, from the left; `piece`
holds, reversed, what the current piece has so far, and `fuel` bounds the characters left. -/
def splitChars (sep : List Char) : Nat → List Char → List Char → List (List Char)
  | 0, piece, rest => [piece.reverse ++ rest]
  | _ + 1, piece, [] => [piece.reverse]
  | fuel + 1, piece, c :: rest =>
    if !sep.isEmpty && sep.isPrefixOf (c :: rest) then
      piece.reverse :: splitChars sep fuel [] ((c :: rest).drop sep.length)
    else splitChars sep fuel (c :: piece) rest

/-- The pieces of `s` between the occurrences of the nonempty `sep`, from the left. -/
def split (s sep : String) : List String :=
  (splitChars sep.toList (s.length + 1) [] s.toList).map String.ofList

example : split "a as b" " as " = ["a", "b"] := by decide +kernel

/-- `s` with each occurrence of the nonempty `pat` replaced by `rep`, from the left. -/
def replace (s pat rep : String) : String := rep.intercalate (split s pat)

/-- Whether the nonempty `pat` occurs in `s`. -/
def occurs (pat s : String) : Bool := 1 < (split s pat).length

/-- The number that a nonempty run of decimal digits writes; none for any other text. -/
def digitsValue? (s : String) : Option Nat :=
  if !s.isEmpty && s.toList.all Char.isDigit then
    some (s.toList.foldl (fun n c => 10 * n + (c.toNat - '0'.toNat)) 0)
  else none

end Text
end TestTransform
