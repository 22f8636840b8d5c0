import TestTransform.Json.Commented
import Mathlib.Data.List.Chain

/-
JSON with comments and trailing commas, as a conservative extension of JSON.

A JSON text is seen as its tokens, each after the blanks before it (`Spaced`); the token
sequences of JSON values are given by a grammar (`IsValue`). A text with comments (`Jsonc`) has
line and block comments among the blanks between its tokens, a last line comment that the end
of the text ends, and trailing commas, each with blanks and comments after it, before closing
tokens.

Taking comments out (`stripCommentsFrom`) keeps every token, string literals included, turns
each comment into the line feeds it held, and leaves the trailing commas (`Jsonc.strip_text`).
Taking trailing commas out (`dropTrailingCommasFrom`) then removes exactly those commas, since
a closing token comes next, and keeps the commas of the JSON text, which a value follows
(`Jsonc.strip_drop`). The main statement, `commented_json_extends_json`: both passes together
leave a JSON text with the original tokens, and each pass leaves a JSON text as it is.
-/

namespace TestTransform
namespace Json

/-! ## JSON texts as tokens and blanks -/

/-- A piece of the body of a string literal: a character other than a quote or a backslash, or
a backslash and the character it escapes. -/
inductive StrPiece where
  | plain (c : Char) (notQuote : c ≠ '"') (notBackslash : c ≠ '\\')
  | escape (c : Char)

def StrPiece.text : StrPiece → List Char
  | .plain c _ _ => [c]
  | .escape c => ['\\', c]

/-- A character of a number or of a literal (`true`, `false`, `null`): no quote, slash,
punctuation or blank. -/
def AtomChar (c : Char) : Prop :=
  c ∉ ['"', '/', ',', ':', '{', '}', '[', ']'] ∧ Text.isBlank c = false

instance : DecidablePred AtomChar := fun _ => inferInstanceAs (Decidable (_ ∧ _))

/-- The characters of an atom that the two passes look at. -/
theorem AtomChar.ne {c : Char} (h : AtomChar c) :
    c ≠ '"' ∧ c ≠ '/' ∧ c ≠ ',' ∧ c ≠ '}' ∧ c ≠ ']' := by
  have hpunct := h.1
  simp only [List.mem_cons, List.not_mem_nil, or_false, not_or] at hpunct
  obtain ⟨hq, hs, hc, -, -, hbrace, -, hbracket⟩ := hpunct
  exact ⟨hq, hs, hc, hbrace, hbracket⟩

/-- A number or a literal. -/
structure Atom where
  chars : List Char
  nonempty : chars ≠ []
  plain : ∀ c ∈ chars, AtomChar c

inductive Token where
  | openObject
  | closeObject
  | openList
  | closeList
  | colon
  | comma
  | str (body : List StrPiece)
  | atom (a : Atom)

def Token.text : Token → List Char
  | .openObject => ['{']
  | .closeObject => ['}']
  | .openList => ['[']
  | .closeList => [']']
  | .colon => [':']
  | .comma => [',']
  | .str body => '"' :: body.flatMap StrPiece.text ++ ['"']
  | .atom a => a.chars

def Token.closes : Token → Bool
  | .closeObject | .closeList => true
  | _ => false

def Token.startsValue : Token → Bool
  | .openObject | .openList | .str _ | .atom _ => true
  | _ => false

/-- The token sequences of JSON values. -/
inductive IsValue : List Token → Prop
  | atom (a : Atom) : IsValue [.atom a]
  | str (body : List StrPiece) : IsValue [.str body]
  | list (items : List (List Token)) (h : ∀ x ∈ items, IsValue x) :
      IsValue (.openList :: (items.intersperse [.comma]).flatten ++ [.closeList])
  | object (members : List (List StrPiece × List Token)) (h : ∀ m ∈ members, IsValue m.2) :
      IsValue (.openObject ::
        ((members.map fun m => .str m.1 :: .colon :: m.2).intersperse [.comma]).flatten ++
          [.closeObject])

/-- The blanks of JSON: space, tab, line feed and carriage return. -/
def jsonBlanks : List Char := [' ', '\t', '\n', '\r']

structure Blanks where
  chars : List Char
  blank : ∀ c ∈ chars, c ∈ jsonBlanks

/-- A JSON text: each token after the blanks before it, and the blanks that end the text. -/
structure Spaced where
  pieces : List (Blanks × Token)
  last : Blanks

def Spaced.tokens (t : Spaced) : List Token := t.pieces.map (·.2)

def Spaced.text (t : Spaced) : List Char :=
  t.pieces.flatMap (fun p => p.1.chars ++ p.2.text) ++ t.last.chars

/-! ## Comments and trailing commas -/

/-- The body of a line comment. -/
structure LineBody where
  chars : List Char
  noBreak : '\n' ∉ chars

/-- The body of a block comment, which cannot hold the `*/` that ends it. -/
structure BlockBody where
  chars : List Char
  unclosed : ¬ ['*', '/'] <:+: chars

/-- What may stand between two tokens of a text with comments. -/
inductive Filler where
  | blanks (b : Blanks)
  | line (b : LineBody)
  | block (b : BlockBody)

def Filler.text : Filler → List Char
  | .blanks b => b.chars
  | .line b => '/' :: '/' :: b.chars ++ ['\n']
  | .block b => '/' :: '*' :: b.chars ++ ['*', '/']

/-- The line feeds a comment keeps, and blanks as they are. -/
def Filler.kept : Filler → List Char
  | .blanks b => b.chars
  | .line _ => ['\n']
  | .block b => b.chars.filter (· == '\n')

theorem Filler.kept_blank (f : Filler) : ∀ c ∈ f.kept, c ∈ jsonBlanks := by
  cases f with
  | blanks b => exact b.blank
  | line _ => simp [Filler.kept, jsonBlanks]
  | block b =>
    intro c hc
    rw [Filler.kept, List.mem_filter, beq_iff_eq] at hc
    rw [hc.2]
    decide

/-- The blanks a run of fillers leaves once its comments are taken out. -/
def keptOf (fs : List Filler) : Blanks :=
  ⟨fs.flatMap Filler.kept, by
    intro c hc
    obtain ⟨f, -, hf⟩ := List.mem_flatMap.mp hc
    exact f.kept_blank c hf⟩

/-- The fillers before a token, and a trailing comma with the fillers after it. -/
structure Gap where
  lead : List Filler
  trailing : Option (List Filler)

def Gap.text (g : Gap) : List Char :=
  g.lead.flatMap Filler.text ++
    match g.trailing with
    | none => []
    | some fs => ',' :: fs.flatMap Filler.text

/-- A gap once its comments are taken out: the trailing comma is still there. -/
def Gap.stripped (g : Gap) : List Char :=
  (keptOf g.lead).chars ++
    match g.trailing with
    | none => []
    | some fs => ',' :: (keptOf fs).chars

def Gap.kept (g : Gap) : Blanks := keptOf (g.lead ++ g.trailing.getD [])

/-- A text with comments and trailing commas: each token after the gap before it, the fillers
that end the text, and a last line comment that no line feed ends. A trailing comma stands only
before a closing bracket or brace. -/
structure Jsonc where
  pieces : List (Gap × Token)
  last : List Filler
  lastLine : Option LineBody
  trailing_closes : ∀ p ∈ pieces, p.1.trailing.isSome = true → p.2.closes = true

def Jsonc.tokens (d : Jsonc) : List Token := d.pieces.map (·.2)

def Jsonc.text (d : Jsonc) : List Char :=
  d.pieces.flatMap (fun p => p.1.text ++ p.2.text) ++ d.last.flatMap Filler.text ++
    match d.lastLine with
    | none => []
    | some b => '/' :: '/' :: b.chars

/-- The text once its comments are taken out. -/
def Jsonc.stripped (d : Jsonc) : List Char :=
  d.pieces.flatMap (fun p => p.1.stripped ++ p.2.text) ++ (keptOf d.last).chars

/-- The JSON text left once comments and trailing commas are taken out. -/
def Jsonc.kept (d : Jsonc) : Spaced :=
  ⟨d.pieces.map (fun p => (p.1.kept, p.2)), keptOf d.last⟩

/-- A JSON text, read as a text with comments that has none. -/
def Spaced.toJsonc (t : Spaced) : Jsonc :=
  ⟨t.pieces.map (fun p => (⟨[.blanks p.1], none⟩, p.2)), [.blanks t.last], none,
    fun p hp h => by
      obtain ⟨q, -, rfl⟩ := List.mem_map.mp hp
      simp at h⟩

/-! ## Taking comments out -/

/- One step of each pass, by the definitions' own reduction. Only the two steps that compare an
unknown character with a slash or a star unfold the definition's equations. -/

theorem strip_nil (m : Mode) : stripCommentsFrom m [] = [] := by
  cases m <;> rfl

theorem strip_code_line (cs : List Char) :
    stripCommentsFrom .code ('/' :: '/' :: cs) = stripCommentsFrom .lineComment cs := rfl

theorem strip_code_block (cs : List Char) :
    stripCommentsFrom .code ('/' :: '*' :: cs) = stripCommentsFrom .blockComment cs := rfl

theorem strip_code_quote (cs : List Char) :
    stripCommentsFrom .code ('"' :: cs) = '"' :: stripCommentsFrom (.quoted false) cs := rfl

theorem strip_line_cons (c : Char) (cs : List Char) :
    stripCommentsFrom .lineComment (c :: cs) =
      if c == '\n' then c :: stripCommentsFrom .code cs
      else stripCommentsFrom .lineComment cs := rfl

theorem strip_block_end (cs : List Char) :
    stripCommentsFrom .blockComment ('*' :: '/' :: cs) = stripCommentsFrom .code cs := rfl

theorem afterQuoted_plain {c : Char} (hq : c ≠ '"') (hb : c ≠ '\\') :
    Mode.afterQuoted false c = .quoted false := by
  simp [Mode.afterQuoted, hq, hb]

theorem strip_quoted_plain {c : Char} (hq : c ≠ '"') (hb : c ≠ '\\') (cs : List Char) :
    stripCommentsFrom (.quoted false) (c :: cs) = c :: stripCommentsFrom (.quoted false) cs := by
  show c :: stripCommentsFrom (Mode.afterQuoted false c) cs = _
  rw [afterQuoted_plain hq hb]

theorem strip_quoted_escape (c : Char) (cs : List Char) :
    stripCommentsFrom (.quoted false) ('\\' :: c :: cs) =
      '\\' :: c :: stripCommentsFrom (.quoted false) cs := rfl

theorem strip_quoted_close (cs : List Char) :
    stripCommentsFrom (.quoted false) ('"' :: cs) = '"' :: stripCommentsFrom .code cs := rfl

theorem strip_code_cons {c : Char} (hs : c ≠ '/') (hq : c ≠ '"') (cs : List Char) :
    stripCommentsFrom .code (c :: cs) = c :: stripCommentsFrom .code cs := by
  cases cs with
  | nil => simp [stripCommentsFrom, hq]
  | cons d ds => simp [stripCommentsFrom, hs, hq]

/-- Characters that neither start a comment nor open a string are kept as they are. -/
theorem strip_code_plain {cs : List Char} (h : ∀ c ∈ cs, c ≠ '/' ∧ c ≠ '"')
    (rest : List Char) :
    stripCommentsFrom .code (cs ++ rest) = cs ++ stripCommentsFrom .code rest := by
  induction cs with
  | nil => rfl
  | cons c cs ih =>
    have hc := h c List.mem_cons_self
    rw [List.cons_append, strip_code_cons hc.1 hc.2,
      ih (fun x hx => h x (List.mem_cons_of_mem _ hx)), List.cons_append]

/-- Inside a string literal every character is kept, up to the quote that closes it. -/
theorem strip_quoted (body : List StrPiece) (rest : List Char) :
    stripCommentsFrom (.quoted false) (body.flatMap StrPiece.text ++ '"' :: rest) =
      body.flatMap StrPiece.text ++ '"' :: stripCommentsFrom .code rest := by
  induction body with
  | nil => exact strip_quoted_close rest
  | cons p body ih =>
    cases p with
    | plain c hq hb =>
      simp only [List.flatMap_cons, StrPiece.text, List.cons_append, List.nil_append]
      rw [strip_quoted_plain hq hb, ih]
    | escape c =>
      simp only [List.flatMap_cons, StrPiece.text, List.cons_append, List.nil_append]
      rw [strip_quoted_escape, ih]

theorem Token.text_str_append (body : List StrPiece) (rest : List Char) :
    (Token.str body).text ++ rest = '"' :: (body.flatMap StrPiece.text ++ '"' :: rest) := by
  simp [Token.text]

theorem strip_token (t : Token) (rest : List Char) :
    stripCommentsFrom .code (t.text ++ rest) = t.text ++ stripCommentsFrom .code rest := by
  cases t with
  | str body =>
    rw [Token.text_str_append, strip_code_quote, strip_quoted]
    simp [Token.text]
  | atom a =>
    exact strip_code_plain (fun c hc => ⟨(a.plain c hc).ne.2.1, (a.plain c hc).ne.1⟩) rest
  | _ => exact strip_code_cons (by decide) (by decide) rest

/-- A line comment drops every character up to the line feed that ends it. -/
theorem strip_line_skip {cs : List Char} (h : '\n' ∉ cs) (rest : List Char) :
    stripCommentsFrom .lineComment (cs ++ rest) = stripCommentsFrom .lineComment rest := by
  induction cs with
  | nil => rfl
  | cons c cs ih =>
    have hc : c ≠ '\n' := fun hc => h (hc ▸ List.mem_cons_self)
    rw [List.cons_append, strip_line_cons, if_neg (by simpa using hc)]
    exact ih (fun hmem => h (List.mem_cons_of_mem _ hmem))

theorem strip_line (b : LineBody) (rest : List Char) :
    stripCommentsFrom .lineComment (b.chars ++ '\n' :: rest) =
      '\n' :: stripCommentsFrom .code rest := by
  rw [strip_line_skip b.noBreak]
  rfl

theorem strip_line_end (b : LineBody) : stripCommentsFrom .lineComment b.chars = [] := by
  simpa [strip_nil] using strip_line_skip b.noBreak []

theorem strip_block_cons {c : Char} {cs : List Char} (h : ¬ (c = '*' ∧ cs.head? = some '/')) :
    stripCommentsFrom .blockComment (c :: cs) =
      if c == '\n' then c :: stripCommentsFrom .blockComment cs
      else stripCommentsFrom .blockComment cs := by
  rcases cs with _ | ⟨d, ds⟩
  · simp [stripCommentsFrom]
  · by_cases hc : c = '*'
    · have hd : d ≠ '/' := fun hd => h ⟨hc, by simp [hd]⟩
      subst hc
      simp [stripCommentsFrom, hd]
    · simp [stripCommentsFrom, hc]

theorem strip_block (b : BlockBody) (rest : List Char) :
    stripCommentsFrom .blockComment (b.chars ++ '*' :: '/' :: rest) =
      b.chars.filter (· == '\n') ++ stripCommentsFrom .code rest := by
  obtain ⟨cs, hcs⟩ := b
  induction cs with
  | nil => exact strip_block_end rest
  | cons c cs ih =>
    -- `c` cannot start the `*/` that would end the comment early
    have hend : ¬ (c = '*' ∧ (cs ++ '*' :: '/' :: rest).head? = some '/') := by
      rintro ⟨rfl, hhead⟩
      cases cs with
      | nil => simp at hhead
      | cons d ds =>
        simp only [List.cons_append, List.head?_cons, Option.some.injEq] at hhead
        subst hhead
        exact hcs ⟨[], ds, rfl⟩
    have ih' := ih (fun h => hcs (h.trans (List.suffix_cons c cs).isInfix))
    rw [List.cons_append, strip_block_cons hend, ih']
    by_cases hc : c = '\n' <;> simp [hc]

theorem blank_plain {c : Char} (h : c ∈ jsonBlanks) : c ≠ '/' ∧ c ≠ '"' := by
  simp only [jsonBlanks, List.mem_cons, List.not_mem_nil, or_false] at h
  rcases h with rfl | rfl | rfl | rfl <;> decide

theorem strip_filler (f : Filler) (rest : List Char) :
    stripCommentsFrom .code (f.text ++ rest) = f.kept ++ stripCommentsFrom .code rest := by
  cases f with
  | blanks b => exact strip_code_plain (fun c hc => blank_plain (b.blank c hc)) rest
  | line b =>
    have htext : (Filler.line b).text ++ rest = '/' :: '/' :: (b.chars ++ '\n' :: rest) := by
      simp [Filler.text]
    rw [htext, strip_code_line, strip_line]
    rfl
  | block b =>
    have htext : (Filler.block b).text ++ rest = '/' :: '*' :: (b.chars ++ '*' :: '/' :: rest) := by
      simp [Filler.text]
    rw [htext, strip_code_block, strip_block]
    rfl

theorem strip_fillers (fs : List Filler) (rest : List Char) :
    stripCommentsFrom .code (fs.flatMap Filler.text ++ rest) =
      (keptOf fs).chars ++ stripCommentsFrom .code rest := by
  induction fs with
  | nil => rfl
  | cons f fs ih =>
    rw [List.flatMap_cons, List.append_assoc, strip_filler, ih]
    simp [keptOf]

theorem strip_gap (g : Gap) (rest : List Char) :
    stripCommentsFrom .code (g.text ++ rest) = g.stripped ++ stripCommentsFrom .code rest := by
  obtain ⟨lead, trailing⟩ := g
  cases trailing with
  | none => simpa [Gap.text, Gap.stripped] using strip_fillers lead rest
  | some fs =>
    simp only [Gap.text, Gap.stripped, List.append_assoc, List.cons_append]
    rw [strip_fillers, strip_code_cons (by decide) (by decide), strip_fillers]

theorem strip_pieces (ps : List (Gap × Token)) (rest : List Char) :
    stripCommentsFrom .code (ps.flatMap (fun p => p.1.text ++ p.2.text) ++ rest) =
      ps.flatMap (fun p => p.1.stripped ++ p.2.text) ++ stripCommentsFrom .code rest := by
  induction ps with
  | nil => rfl
  | cons p ps ih =>
    simp only [List.flatMap_cons, List.append_assoc]
    rw [strip_gap, strip_token, ih]

/-- Taking the comments out of a text with comments leaves its stripped form. -/
theorem Jsonc.strip_text (d : Jsonc) : stripCommentsFrom .code d.text = d.stripped := by
  unfold Jsonc.text Jsonc.stripped
  rw [List.append_assoc, strip_pieces, strip_fillers]
  cases d.lastLine with
  | none => simp [strip_nil]
  | some b => simp only [strip_code_line, strip_line_end, List.append_nil]

/-! ## Taking trailing commas out -/

def Token.isComma : Token → Bool
  | .comma => true
  | _ => false

/-- A comma is followed by the start of a value. -/
def Leads (a b : Token) : Prop := a.isComma = true → b.startsValue = true

theorem blank_isBlank {c : Char} (h : c ∈ jsonBlanks) : Text.isBlank c = true := by
  simp only [jsonBlanks, List.mem_cons, List.not_mem_nil, or_false] at h
  rcases h with rfl | rfl | rfl | rfl <;> decide

theorem closesNext_blanks {bs : List Char} (h : ∀ c ∈ bs, c ∈ jsonBlanks) (cs : List Char) :
    closesNext (bs ++ cs) = closesNext cs := by
  have hnone : bs.find? (fun c => !Text.isBlank c) = none := by
    rw [List.find?_eq_none]
    intro c hc
    simp [blank_isBlank (h c hc)]
  unfold closesNext
  rw [List.find?_append, hnone, Option.none_or]

theorem closesNext_of_blanks {bs : List Char} (h : ∀ c ∈ bs, c ∈ jsonBlanks) :
    closesNext bs = false := by
  rw [← List.append_nil bs, closesNext_blanks h]
  rfl

theorem closesNext_cons (c : Char) (h : Text.isBlank c = false) (cs : List Char) :
    closesNext (c :: cs) = (c == '}' || c == ']') := by
  unfold closesNext
  rw [List.find?_cons_of_pos (by rw [h]; rfl)]
  by_cases h1 : c = '}'
  · subst h1; rfl
  · by_cases h2 : c = ']'
    · subst h2; rfl
    · have hfalse : (c == '}' || c == ']') = false := by simp [h1, h2]
      rw [hfalse]
      split <;> simp_all

/-- Only a closing token, standing first, makes the text close next. -/
theorem closesNext_token (t : Token) (cs : List Char) : closesNext (t.text ++ cs) = t.closes := by
  cases t with
  | atom a =>
    obtain ⟨c, tl, hct⟩ := List.exists_cons_of_ne_nil a.nonempty
    have hc := a.plain c (hct ▸ List.mem_cons_self)
    obtain ⟨-, -, -, hbrace, hbracket⟩ := hc.ne
    simp only [Token.text, Token.closes, hct, List.cons_append]
    rw [closesNext_cons c hc.2]
    simp [hbrace, hbracket]
  | str body =>
    simp only [Token.text, List.cons_append]
    rw [closesNext_cons '"' (by decide)]
    rfl
  | _ =>
    simp only [Token.text, List.cons_append]
    rw [closesNext_cons] <;> decide

theorem drop_nil (m : Option Bool) : dropTrailingCommasFrom m [] = [] := by
  cases m <;> rfl

theorem drop_none_step (c : Char) (cs : List Char) :
    dropTrailingCommasFrom none (c :: cs) =
      if c == '"' then c :: dropTrailingCommasFrom (some false) cs
      else if c == ',' && closesNext cs then dropTrailingCommasFrom none cs
      else c :: dropTrailingCommasFrom none cs := rfl

theorem drop_none_cons {c : Char} (hq : c ≠ '"') (hc : c ≠ ',') (cs : List Char) :
    dropTrailingCommasFrom none (c :: cs) = c :: dropTrailingCommasFrom none cs := by
  rw [drop_none_step]
  simp [hq, hc]

theorem drop_none_quote (cs : List Char) :
    dropTrailingCommasFrom none ('"' :: cs) = '"' :: dropTrailingCommasFrom (some false) cs := rfl

theorem drop_comma_closing {cs : List Char} (h : closesNext cs = true) :
    dropTrailingCommasFrom none (',' :: cs) = dropTrailingCommasFrom none cs := by
  rw [drop_none_step]
  simp [h]

theorem drop_comma_kept {cs : List Char} (h : closesNext cs = false) :
    dropTrailingCommasFrom none (',' :: cs) = ',' :: dropTrailingCommasFrom none cs := by
  rw [drop_none_step]
  simp [h]

theorem drop_quoted_plain {c : Char} (hq : c ≠ '"') (hb : c ≠ '\\') (cs : List Char) :
    dropTrailingCommasFrom (some false) (c :: cs) = c :: dropTrailingCommasFrom (some false) cs := by
  simp only [dropTrailingCommasFrom, afterQuoted_plain hq hb]

theorem drop_quoted_escape (c : Char) (cs : List Char) :
    dropTrailingCommasFrom (some false) ('\\' :: c :: cs) =
      '\\' :: c :: dropTrailingCommasFrom (some false) cs := rfl

theorem drop_quoted_close (cs : List Char) :
    dropTrailingCommasFrom (some false) ('"' :: cs) = '"' :: dropTrailingCommasFrom none cs := rfl

theorem drop_plain {cs : List Char} (h : ∀ c ∈ cs, c ≠ '"' ∧ c ≠ ',') (rest : List Char) :
    dropTrailingCommasFrom none (cs ++ rest) = cs ++ dropTrailingCommasFrom none rest := by
  induction cs with
  | nil => rfl
  | cons c cs ih =>
    have hc := h c List.mem_cons_self
    rw [List.cons_append, drop_none_cons hc.1 hc.2,
      ih (fun x hx => h x (List.mem_cons_of_mem _ hx)), List.cons_append]

theorem drop_blanks {bs : List Char} (h : ∀ c ∈ bs, c ∈ jsonBlanks) (rest : List Char) :
    dropTrailingCommasFrom none (bs ++ rest) = bs ++ dropTrailingCommasFrom none rest := by
  refine drop_plain (fun c hc => ?_) rest
  have hb := h c hc
  simp only [jsonBlanks, List.mem_cons, List.not_mem_nil, or_false] at hb
  rcases hb with rfl | rfl | rfl | rfl <;> decide

/-- Inside a string literal every character is kept, up to the quote that closes it. -/
theorem drop_quoted (body : List StrPiece) (rest : List Char) :
    dropTrailingCommasFrom (some false) (body.flatMap StrPiece.text ++ '"' :: rest) =
      body.flatMap StrPiece.text ++ '"' :: dropTrailingCommasFrom none rest := by
  induction body with
  | nil => exact drop_quoted_close rest
  | cons p body ih =>
    cases p with
    | plain c hq hb =>
      simp only [List.flatMap_cons, StrPiece.text, List.cons_append, List.nil_append]
      rw [drop_quoted_plain hq hb, ih]
    | escape c =>
      simp only [List.flatMap_cons, StrPiece.text, List.cons_append, List.nil_append]
      rw [drop_quoted_escape, ih]

/-- A token is kept as it is; a comma as long as no closing token comes next. -/
theorem drop_token (t : Token) {rest : List Char}
    (h : t.isComma = true → closesNext rest = false) :
    dropTrailingCommasFrom none (t.text ++ rest) = t.text ++ dropTrailingCommasFrom none rest := by
  cases t with
  | comma => exact drop_comma_kept (h rfl)
  | str body =>
    rw [Token.text_str_append, drop_none_quote, drop_quoted]
    simp [Token.text]
  | atom a =>
    exact drop_plain (fun c hc => ⟨(a.plain c hc).ne.1, (a.plain c hc).ne.2.2.1⟩) rest
  | _ => exact drop_none_cons (by decide) (by decide) rest

theorem keptOf_append (a b : List Filler) :
    (keptOf (a ++ b)).chars = (keptOf a).chars ++ (keptOf b).chars := by
  simp [keptOf]

/-- A trailing comma goes, since a closing token comes next; the gap's blanks stay. -/
theorem drop_gap (g : Gap) (t : Token) (ht : g.trailing.isSome = true → t.closes = true)
    (rest : List Char) :
    dropTrailingCommasFrom none (g.stripped ++ (t.text ++ rest)) =
      g.kept.chars ++ dropTrailingCommasFrom none (t.text ++ rest) := by
  obtain ⟨lead, trailing⟩ := g
  cases trailing with
  | none =>
    simp only [Gap.stripped, Gap.kept, Option.getD_none, List.append_nil]
    exact drop_blanks (keptOf lead).blank _
  | some fs =>
    have hclose : t.closes = true := ht rfl
    have hnext : closesNext ((keptOf fs).chars ++ (t.text ++ rest)) = true := by
      rw [closesNext_blanks (keptOf fs).blank, closesNext_token, hclose]
    simp only [Gap.stripped, Gap.kept, Option.getD_some, List.append_assoc, List.cons_append]
    rw [drop_blanks (keptOf lead).blank, drop_comma_closing hnext,
      drop_blanks (keptOf fs).blank, keptOf_append, List.append_assoc]

/-- After a comma stands a gap with no trailing comma and then a value: nothing closes next. -/
theorem closesNext_piece (g : Gap) (t : Token) (ht : g.trailing.isSome = true → t.closes = true)
    (hs : t.startsValue = true) (rest : List Char) :
    closesNext (g.stripped ++ (t.text ++ rest)) = false := by
  have hopen : t.closes = false := by
    cases t <;> simp_all [Token.startsValue, Token.closes]
  obtain ⟨lead, trailing⟩ := g
  cases trailing with
  | none =>
    simp only [Gap.stripped, List.append_nil]
    rw [closesNext_blanks (keptOf lead).blank, closesNext_token, hopen]
  | some fs => simp [hopen] at ht

/-- Taking trailing commas out of a stripped text leaves the blanks between its tokens, as long
as every comma token is followed by a value. -/
theorem drop_pieces (tail : Blanks) :
    ∀ ps : List (Gap × Token),
      (∀ p ∈ ps, p.1.trailing.isSome = true → p.2.closes = true) →
      (ps.map (·.2)).IsChain Leads →
      dropTrailingCommasFrom none (ps.flatMap (fun p => p.1.stripped ++ p.2.text) ++ tail.chars) =
        ps.flatMap (fun p => p.1.kept.chars ++ p.2.text) ++ tail.chars
  | [], _, _ => by simpa [drop_nil] using drop_blanks tail.blank []
  | (g, t) :: ps, htr, hchain => by
    -- a comma token is kept: the next piece starts a value, or only blanks follow
    have hrest : t.isComma = true →
        closesNext (ps.flatMap (fun p => p.1.stripped ++ p.2.text) ++ tail.chars) = false := by
      intro hcomma
      cases ps with
      | nil => exact closesNext_of_blanks tail.blank
      | cons p ps =>
        have hlead : Leads t p.2 := (List.isChain_cons_cons.mp hchain).1
        rw [List.flatMap_cons, List.append_assoc, List.append_assoc]
        exact closesNext_piece p.1 p.2 (htr p (by simp)) (hlead hcomma) _
    have ih := drop_pieces tail ps (fun p hp => htr p (List.mem_cons_of_mem _ hp)) hchain.tail
    simp only [List.flatMap_cons, List.append_assoc] at hrest ih ⊢
    rw [drop_gap g t (htr (g, t) List.mem_cons_self), drop_token t hrest, ih]

theorem Jsonc.kept_tokens (d : Jsonc) : d.kept.tokens = d.tokens := by
  simp [Jsonc.kept, Spaced.tokens, Jsonc.tokens]

theorem Jsonc.drop_stripped (d : Jsonc) (h : d.tokens.IsChain Leads) :
    dropTrailingCommasFrom none d.stripped = d.kept.text := by
  rw [Jsonc.stripped, drop_pieces (keptOf d.last) d.pieces d.trailing_closes h]
  simp [Jsonc.kept, Spaced.text, List.flatMap_map]

/-- Both passes over a text with comments give the JSON text left once comments and trailing
commas are out. -/
theorem Jsonc.strip_drop (d : Jsonc) (h : d.tokens.IsChain Leads) :
    dropTrailingCommasFrom none (stripCommentsFrom .code d.text) = d.kept.text := by
  rw [d.strip_text]
  exact d.drop_stripped h

theorem Spaced.toJsonc_tokens (t : Spaced) : t.toJsonc.tokens = t.tokens := by
  simp [Spaced.toJsonc, Jsonc.tokens, Spaced.tokens]

theorem Spaced.toJsonc_text (t : Spaced) : t.toJsonc.text = t.text := by
  simp [Spaced.toJsonc, Jsonc.text, Spaced.text, Gap.text, Filler.text, List.flatMap_map]

theorem Spaced.toJsonc_stripped (t : Spaced) : t.toJsonc.stripped = t.text := by
  simp [Spaced.toJsonc, Jsonc.stripped, Spaced.text, Gap.stripped, keptOf, Filler.kept,
    List.flatMap_map]

theorem Spaced.toJsonc_kept (t : Spaced) : t.toJsonc.kept.text = t.text := by
  simp [Spaced.toJsonc, Jsonc.kept, Spaced.text, Gap.kept, keptOf, Filler.kept, List.flatMap_map]

/-- A JSON text has no comment to take out. -/
theorem Spaced.strip_text (t : Spaced) : stripCommentsFrom .code t.text = t.text := by
  rw [← t.toJsonc_text, t.toJsonc.strip_text, t.toJsonc_stripped, t.toJsonc_text]

/-- A JSON text whose commas are followed by values has no trailing comma to take out. -/
theorem Spaced.drop_text (t : Spaced) (h : t.tokens.IsChain Leads) :
    dropTrailingCommasFrom none t.text = t.text := by
  have hdrop := t.toJsonc.drop_stripped (by rwa [t.toJsonc_tokens])
  rwa [t.toJsonc_stripped, t.toJsonc_kept] at hdrop

/-! ## JSON values: every comma is followed by a value -/

/-- What the token sequence of a JSON value looks like at its ends and between commas. -/
structure ValueShape (toks : List Token) : Prop where
  chain : toks.IsChain Leads
  nonempty : toks ≠ []
  head : ∀ t ∈ toks.head?, t.startsValue = true
  last : ∀ t ∈ toks.getLast?, t.isComma = false

theorem flatten_intersperse_shape :
    ∀ items : List (List Token), (∀ x ∈ items, ValueShape x) →
      ((items.intersperse [.comma]).flatten.IsChain Leads ∧
        (∀ t ∈ (items.intersperse [.comma]).flatten.head?, t.startsValue = true) ∧
        ∀ t ∈ (items.intersperse [.comma]).flatten.getLast?, t.isComma = false)
  | [], _ => by simp
  | [x], h => by
    have hx := h x List.mem_cons_self
    simpa using ⟨hx.chain, hx.head, hx.last⟩
  | x :: y :: rest, h => by
    have hx := h x List.mem_cons_self
    have hy := h y (by simp)
    obtain ⟨ihc, ihh, ihl⟩ :=
      flatten_intersperse_shape (y :: rest) (fun z hz => h z (List.mem_cons_of_mem _ hz))
    -- the tail of the flattened list starts with `y`, which is not empty
    have hne : (((y :: rest).intersperse [.comma]).flatten) ≠ [] := by
      cases rest <;> simp [hy.nonempty]
    rw [List.intersperse_cons_cons, List.flatten_cons, List.flatten_cons]
    refine ⟨?_, ?_, ?_⟩
    · refine hx.chain.append (List.IsChain.cons ihc ?_) ?_
      · intro t ht
        exact fun _ => ihh t ht
      · intro a ha b hb
        simp only [List.singleton_append, List.head?_cons, Option.mem_def, Option.some.injEq] at hb
        subst hb
        intro hcomma
        rw [hx.last a ha] at hcomma
        cases hcomma
    · obtain ⟨t, ts, hts⟩ := List.exists_cons_of_ne_nil hx.nonempty
      intro u hu
      rw [hts, List.cons_append, List.head?_cons, Option.mem_def, Option.some.injEq] at hu
      subst hu
      exact hx.head t (by simp [hts])
    · intro t ht
      rw [List.getLast?_append_of_ne_nil _ (by simp)] at ht
      rw [List.singleton_append, List.getLast?_cons_of_ne_nil hne] at ht
      exact ihl t ht

theorem single_shape (t : Token) (hs : t.startsValue = true) (hc : t.isComma = false) :
    ValueShape [t] :=
  ⟨List.isChain_singleton t, by simp, by simpa using hs, by simpa using hc⟩

/-- Items between an opening and a closing token, with commas between them. -/
theorem enclosed_shape (o c : Token) (ho : o.startsValue = true) (ho' : o.isComma = false)
    (hc : c.isComma = false) (items : List (List Token)) (h : ∀ x ∈ items, ValueShape x) :
    ValueShape (o :: (items.intersperse [.comma]).flatten ++ [c]) := by
  obtain ⟨hchain, -, hlast⟩ := flatten_intersperse_shape items h
  refine ⟨?_, by simp, by simpa using ho, fun t ht => ?_⟩
  · rw [List.cons_append]
    refine List.IsChain.cons (hchain.append (List.isChain_singleton c) ?_) ?_
    · intro a ha b _ hcomma
      rw [hlast a ha] at hcomma
      cases hcomma
    · intro t _ hcomma
      rw [ho'] at hcomma
      cases hcomma
  · rw [List.getLast?_concat, Option.mem_def, Option.some.injEq] at ht
    rw [← ht]
    exact hc

theorem IsValue.shape {toks : List Token} (h : IsValue toks) : ValueShape toks := by
  induction h with
  | atom a => exact single_shape _ rfl rfl
  | str body => exact single_shape _ rfl rfl
  | list items _ ih => exact enclosed_shape _ _ rfl rfl rfl items ih
  | object members _ ih =>
    refine enclosed_shape _ _ rfl rfl rfl _ (fun x hx => ?_)
    obtain ⟨m, hm, rfl⟩ := List.mem_map.mp hx
    have hv := ih m hm
    refine ⟨?_, by simp, by simp [Token.startsValue], ?_⟩
    · refine List.IsChain.cons (List.IsChain.cons hv.chain ?_) ?_
      · intro t _ hcomma
        cases hcomma
      · intro t _ hcomma
        cases hcomma
    · obtain ⟨t, ts, hts⟩ := List.exists_cons_of_ne_nil hv.nonempty
      intro u hu
      rw [hts, List.getLast?_cons_cons, List.getLast?_cons_cons, ← hts] at hu
      exact hv.last u hu

/-! ## Comments and trailing commas extend JSON -/

theorem stripComments_ofList (cs : List Char) :
    stripComments (String.ofList cs) = String.ofList (stripCommentsFrom .code cs) := by
  rw [stripComments, String.toList_ofList]

theorem dropTrailingCommas_ofList (cs : List Char) :
    dropTrailingCommas (String.ofList cs) = String.ofList (dropTrailingCommasFrom none cs) := by
  rw [dropTrailingCommas, String.toList_ofList]

/-- Comments and trailing commas extend JSON. Let `d` be a JSON text `t` with comments inserted
between its tokens and trailing commas before its closing tokens. Taking comments and trailing
commas out of `d` gives a JSON text with the tokens of `t`, which differs from `t` only in the
blanks between tokens; both passes leave `t` itself as it is, so reading `t` with comments
allowed reads `t`, and reading `d` reads that JSON text. -/
theorem commented_json_extends_json (t : Spaced) (ht : IsValue t.tokens) (d : Jsonc)
    (hd : d.tokens = t.tokens) :
    d.kept.tokens = t.tokens ∧
    dropTrailingCommas (stripComments (String.ofList d.text)) = String.ofList d.kept.text ∧
    stripComments (String.ofList t.text) = String.ofList t.text ∧
    dropTrailingCommas (String.ofList t.text) = String.ofList t.text ∧
    Value.readCommented (String.ofList t.text) = Value.read (String.ofList t.text) ∧
    Value.readCommented (String.ofList d.text) = Value.read (String.ofList d.kept.text) := by
  have hchain : t.tokens.IsChain Leads := ht.shape.chain
  have hd' : dropTrailingCommas (stripComments (String.ofList d.text)) =
      String.ofList d.kept.text := by
    rw [stripComments_ofList, dropTrailingCommas_ofList, d.strip_drop (hd ▸ hchain)]
  have hstrip : stripComments (String.ofList t.text) = String.ofList t.text := by
    rw [stripComments_ofList, t.strip_text]
  have hdrop : dropTrailingCommas (String.ofList t.text) = String.ofList t.text := by
    rw [dropTrailingCommas_ofList, t.drop_text hchain]
  refine ⟨d.kept_tokens.trans hd, hd', hstrip, hdrop, ?_, ?_⟩
  · rw [Value.readCommented, hstrip, hdrop]
  · rw [Value.readCommented, hd']

/-- The atom `1`. -/
def atomOne : Atom :=
  ⟨['1'], by simp, fun c hc => by
    rw [List.mem_singleton] at hc
    subst hc
    decide⟩

/-- The JSON text `[1]`. -/
def listOne : Spaced :=
  ⟨[(⟨[], by simp⟩, .openList), (⟨[], by simp⟩, .atom atomOne),
      (⟨[], by simp⟩, .closeList)], ⟨[], by simp⟩⟩

/-- The text `[/*a*/1,//b` and a line feed and `]`: `[1]` with a block comment, a trailing
comma and a line comment. -/
def listOneCommented : Jsonc :=
  ⟨[(⟨[], none⟩, .openList), (⟨[.block ⟨['a'], by decide⟩], none⟩, .atom atomOne),
      (⟨[], some [.line ⟨['b'], by decide⟩]⟩, .closeList)], [], none, by decide⟩

theorem commented_json_extends_json_list :
    IsValue listOne.tokens ∧ listOneCommented.tokens = listOne.tokens ∧
    (listOneCommented.kept.tokens = listOne.tokens ∧
    dropTrailingCommas (stripComments (String.ofList listOneCommented.text)) =
      String.ofList listOneCommented.kept.text ∧
    stripComments (String.ofList listOne.text) = String.ofList listOne.text ∧
    dropTrailingCommas (String.ofList listOne.text) = String.ofList listOne.text ∧
    Value.readCommented (String.ofList listOne.text) = Value.read (String.ofList listOne.text) ∧
    Value.readCommented (String.ofList listOneCommented.text) =
      Value.read (String.ofList listOneCommented.kept.text)) :=
  have hvalue : IsValue listOne.tokens :=
    IsValue.list [[.atom atomOne]] (fun x hx => by
      rw [List.mem_singleton.mp hx]
      exact IsValue.atom atomOne)
  have htokens : listOneCommented.tokens = listOne.tokens := rfl
  ⟨hvalue, htokens, commented_json_extends_json listOne hvalue listOneCommented htokens⟩

end Json
end TestTransform
