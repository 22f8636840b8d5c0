/-
Shell-style path patterns: globs.

A glob is read into tokens: literal characters, `?` for one character, `*` for a run of them,
`**` as a whole path component for any number of components, bracketed classes (`[!...]` or
`[^...]` negated, `a-z` a range) and braces with alternatives separated by commas, which may
nest. A backslash makes the next character literal.

A glob matches a path when its tokens match the path's bytes from first to last. Unless the
separator is literal, `*` and `?` also match `/`.
-/
import TestTransform.Pattern.Regex.Search
import TestTransform.Path

namespace TestTransform
namespace Pattern

inductive GlobToken where
  | literal (c : Char)
  /-- `?` -/
  | any
  /-- `*` -/
  | zeroOrMore
  /-- `**/` at the start: nothing, or any run that ends in a separator -/
  | recursivePrefix
  /-- `/**` at the end: a separator and anything after it -/
  | recursiveSuffix
  /-- `/**/` inside: one separator, or a run between two -/
  | recursiveZeroOrMore
  | cls (negated : Bool) (ranges : List (Char × Char))
  | alternates (branches : List (List GlobToken))
deriving Repr, Inhabited

inductive GlobFault where
  | unclosedClass
  | invalidRange (lo hi : Char)
  | unopenedAlternates
  | unclosedAlternates
  | danglingEscape
deriving DecidableEq, Repr

def GlobFault.message : GlobFault → String
  | .unclosedClass => "unclosed character class; missing ']'"
  | .invalidRange lo hi => "invalid range; '" ++ lo.toString ++ "' > '" ++ hi.toString ++ "'"
  | .unopenedAlternates =>
    "unopened alternate group; missing '\x7b' (maybe escape '\x7d' with '[\x7d]'?)"
  | .unclosedAlternates =>
    "unclosed alternate group; missing '\x7d' (maybe escape '\x7b' with '[\x7b]'?)"
  | .danglingEscape => "dangling '\\'"

/-- A glob that could not be read, with the reason. -/
structure GlobError where
  glob : String
  fault : GlobFault
deriving Repr

def GlobError.message (e : GlobError) : String :=
  "error parsing glob '" ++ e.glob ++ "': " ++ e.fault.message

/-- The state of reading a glob: the characters left, the last two read, and the branches
being built, the newest first, each with its tokens newest first. `openings` holds, for each
open brace, innermost first, how many branches there were when it opened. -/
structure GlobReader where
  rest : List Char
  prev : Option Char
  cur : Option Char
  branches : List (List GlobToken)
  openings : List Nat

namespace GlobReader

def start (glob : String) : GlobReader := ⟨glob.toList, none, none, [[]], []⟩

def bump (r : GlobReader) : Option Char × GlobReader :=
  match r.rest with
  | [] => (none, { r with prev := r.cur, cur := none })
  | c :: cs => (some c, { r with rest := cs, prev := r.cur, cur := some c })

def peek (r : GlobReader) : Option Char := r.rest.head?

/-- Drops the next character; used where it is known. -/
def skip (r : GlobReader) : GlobReader := (r.bump).2

def push (r : GlobReader) (t : GlobToken) : Except GlobFault GlobReader :=
  match r.branches with
  | b :: bs => .ok { r with branches := (t :: b) :: bs }
  | [] => .error .unopenedAlternates

def pop (r : GlobReader) : Except GlobFault (GlobToken × GlobReader) :=
  match r.branches with
  | (t :: b) :: bs => .ok (t, { r with branches := b :: bs })
  | _ => .error .unopenedAlternates

def hasTokens (r : GlobReader) : Except GlobFault Bool :=
  match r.branches with
  | b :: _ => .ok !b.isEmpty
  | [] => .error .unopenedAlternates

def inAlternates (r : GlobReader) : Bool := r.branches.length ≥ 2

def openAlternates (r : GlobReader) : GlobReader :=
  { r with openings := r.branches.length :: r.openings, branches := [] :: r.branches }

/-- A closing brace: the branches opened since the matching brace become one token. -/
def closeAlternates (r : GlobReader) : Except GlobFault GlobReader :=
  match r.openings with
  | [] => .error .unopenedAlternates
  | opened :: outer =>
    let inner := r.branches.take (r.branches.length - opened)
    let r := { r with branches := r.branches.drop (r.branches.length - opened), openings := outer }
    r.push (.alternates (inner.reverse.map List.reverse))

def comma (r : GlobReader) : Except GlobFault GlobReader :=
  if r.openings.isEmpty then r.push (.literal ',')
  else .ok { r with branches := [] :: r.branches }

def escape (r : GlobReader) : Except GlobFault GlobReader :=
  match r.bump with
  | (none, _) => .error .danglingEscape
  | (some c, r) => r.push (.literal c)

def twoStars (r : GlobReader) : Except GlobFault GlobReader := do
  (← r.push .zeroOrMore).push .zeroOrMore

/-- After a `*`: a single star, or a double star that is a whole component (at the start, at
the end, or between separators) and so crosses components. A double star inside a component
is two single ones. -/
def star (r : GlobReader) : Except GlobFault GlobReader := do
  let prev := r.prev
  if r.peek != some '*' then return ← r.push .zeroOrMore
  let r := r.skip
  if !(← r.hasTokens) then
    match r.peek with
    | some c =>
      if c != '/' then return ← r.twoStars
      else return (← r.push .recursivePrefix).skip
    | none => return ← r.push .recursivePrefix
  if prev != some '/' && (!r.inAlternates || (prev != some ',' && prev != some '\x7b')) then
    return ← r.twoStars
  let (suffix, r) ← match r.peek with
    | none => pure (true, r.skip)
    | some c =>
      if (c == ',' || c == '\x7d') && r.inAlternates then pure (true, r)
      else if c == '/' then pure (false, r.skip)
      else return ← r.twoStars
  let (last, r) ← r.pop
  match last with
  | .recursivePrefix => r.push .recursivePrefix
  | .recursiveSuffix => r.push .recursiveSuffix
  | _ => r.push (if suffix then .recursiveSuffix else .recursiveZeroOrMore)

/-- The ranges read so far with the last one ending at `hi` instead. -/
def extendRange (ranges : List (Char × Char)) (hi : Char) : Except GlobFault (List (Char × Char)) :=
  match ranges with
  | (lo, _) :: rs => if hi < lo then .error (.invalidRange lo hi) else .ok ((lo, hi) :: rs)
  | [] => .ok [(hi, hi)]

/-- The members of a class up to its closing bracket, newest first. A `]` or `-` first is a
member, a `-` between two members makes a range, and a `-` last is a member. -/
def classItems : Nat → GlobReader → List (Char × Char) → Bool → Bool →
    Except GlobFault (List (Char × Char) × GlobReader)
  | 0, _, _, _, _ => .error .unclosedClass
  | fuel + 1, r, ranges, first, inRange =>
    match r.bump with
    | (none, _) => .error .unclosedClass
    | (some ']', r) =>
      if first then classItems fuel r ((']', ']') :: ranges) false inRange
      else .ok ((if inRange then ('-', '-') :: ranges else ranges), r)
    | (some '-', r) =>
      if first then classItems fuel r (('-', '-') :: ranges) false inRange
      else if inRange then do
        classItems fuel r (← extendRange ranges '-') false false
      else classItems fuel r ranges false true
    | (some c, r) =>
      if inRange then do classItems fuel r (← extendRange ranges c) false false
      else classItems fuel r ((c, c) :: ranges) false false

def bracket (r : GlobReader) : Except GlobFault GlobReader := do
  let (negated, r) := match r.peek with
    | some '!' | some '^' => (true, r.skip)
    | _ => (false, r)
  let (ranges, r) ← classItems (r.rest.length + 1) r [] true false
  r.push (.cls negated ranges.reverse)

/-- Reads the rest of the glob, one character and what it starts at a time. -/
def run : Nat → GlobReader → Except GlobFault GlobReader
  | 0, r => .ok r
  | fuel + 1, r =>
    match r.bump with
    | (none, r) => .ok r
    | (some c, r) => do
      let r ← match c with
        | '?' => r.push .any
        | '*' => r.star
        | '[' => r.bracket
        | '\x7b' => pure r.openAlternates
        | '\x7d' => r.closeAlternates
        | ',' => r.comma
        | '\\' => r.escape
        | c => r.push (.literal c)
      run fuel r

end GlobReader

/-- The tokens of a glob, or why it cannot be read. -/
def GlobToken.parse (glob : String) : Except GlobError (List GlobToken) :=
  match GlobReader.run (glob.length + 1) (GlobReader.start glob) with
  | .error f => .error ⟨glob, f⟩
  | .ok r =>
    match r.branches with
    | [b] => .ok b.reverse
    | _ => .error ⟨glob, .unclosedAlternates⟩

/-! ## Matching over bytes -/

namespace Glob

open Regex

/-- A path's bytes, each as the character of that number, which is what globs match. -/
def bytesOf (s : String) : Array Char := s.toUTF8.toList.toArray.map (fun b => Char.ofNat b.toNat)

def byteNode (b : UInt8) : Node := .set (CharClass.single (Char.ofNat b.toNat))

def separator : CharClass := CharClass.single '/'

/-- Any byte, or any but the separator. -/
def anyByte (literalSeparator : Bool) : CharClass :=
  if literalSeparator then separator.negate else CharClass.any

def many (cls : CharClass) : Node := .repetition (.set cls) 0 none true

/-- The bytes of a class member written out: a character stands for each of its bytes, and a
range runs from the last byte of its start to the first byte of its end. -/
def rangeBytes (r : Char × Char) : List (Nat × Nat) :=
  let lo := r.1.toString.toUTF8.toList.map UInt8.toNat
  let hi := r.2.toString.toUTF8.toList.map UInt8.toNat
  if r.1 == r.2 then lo.map (fun b => (b, b))
  else
    let a := lo.getLastD 0
    let b := hi.headD 0
    (lo.dropLast.map (fun x => (x, x))) ++ (if a ≤ b then [(a, b)] else []) ++
      (hi.drop 1).map (fun x => (x, x))

mutual
/-- The pattern of one token, or `none` when it stands for nothing (braces whose branches are
all empty). -/
def tokenNode (sep : Bool) : GlobToken → Option Node
  | .literal c => some (.concat (c.toString.toUTF8.toList.map byteNode))
  | .any => some (.set (anyByte sep))
  | .zeroOrMore => some (many (anyByte sep))
  | .recursivePrefix =>
    some (.alternate [.repetition (.set separator) 0 (some 1) true,
      .concat [many CharClass.any, .set separator]])
  | .recursiveSuffix => some (.concat [.set separator, many CharClass.any])
  | .recursiveZeroOrMore =>
    some (.alternate [.set separator, .concat [.set separator, many CharClass.any, .set separator]])
  | .cls negated ranges =>
    let cls := CharClass.ofRanges (ranges.flatMap rangeBytes)
    some (.set (if negated then cls.negate else cls))
  | .alternates branches =>
    match branchNodes sep branches with
    | [] => none
    | ns => some (.alternate ns)

def tokensNodes (sep : Bool) : List GlobToken → List Node
  | [] => []
  | t :: ts =>
    match tokenNode sep t with
    | some n => n :: tokensNodes sep ts
    | none => tokensNodes sep ts

/-- The non-empty branches of braces. -/
def branchNodes (sep : Bool) : List (List GlobToken) → List Node
  | [] => []
  | b :: bs =>
    match tokensNodes sep b with
    | [] => branchNodes sep bs
    | ns => .concat ns :: branchNodes sep bs
end

/-- The pattern of a whole glob, anchored at both ends; a lone `**` matches everything. -/
def node (sep : Bool) (tokens : List GlobToken) : Node :=
  let body := match tokens with
    | [.recursivePrefix] => many CharClass.any
    | ts => .concat (tokensNodes sep ts)
  .concat [.look .startText, body, .look .endText]

end Glob

/-- A readable glob, ready to match paths. -/
structure Glob where
  source : String
  program : Regex.Program
deriving Inhabited

namespace Glob

def compile (glob : String) (literalSeparator : Bool) : Except GlobError Glob := do
  let tokens ← GlobToken.parse glob
  pure ⟨glob, Regex.Program.ofNode (node literalSeparator tokens) 0⟩

def isMatch (g : Glob) (p : Path) : Bool :=
  (Regex.searchFrom g.program (bytesOf p.text) 0).isSome

end Glob

/-- Globs of which a path must match one. -/
abbrev GlobSet := List Glob

/-- Reads every glob, stopping at the first that cannot be read. -/
def GlobSet.compile (globs : List String) (literalSeparator : Bool) :
    Except (String × GlobError) GlobSet :=
  globs.mapM (fun g => (Glob.compile g literalSeparator).mapError (fun e => (g, e)))

def GlobSet.isMatch (set : GlobSet) (p : Path) : Bool := set.any (·.isMatch p)

end Pattern
end TestTransform
