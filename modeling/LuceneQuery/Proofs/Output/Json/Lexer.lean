import LuceneQuery.Output.Json
import LuceneQuery.Yaml.Token.Quoted
import Mathlib.Data.List.Basic

/-!
# The tokens of JSON

A text is cut into tokens one code point after the other: a `Lexer` holds the tokens so
far and what has been begun.  Between tokens there may be blanks.  A string ends at the
first quote that is not escaped, and holds no character below U+0020.  Escapes name a
character, or a unit of 16 bits, and two units that are the halves of one pair are one
character.  Everything else is a mark or a literal.

What is written for a string is cut into this one string again (`cutInto_string`):
each code point becomes one part of the string (`foldlM_step_escapedPoint`), none of
which ends it, and no two parts become one character (`textOf_map_written`).
-/

namespace LuceneQuery.Output.Json

/-! ## Tokens -/

/-- A value without parts that is no string. -/
inductive Literal where
  /-- No value. -/
  | null
  /-- A truth value. -/
  | bool (b : Bool)
  /-- A number as it is written. -/
  | number (s : Text)
  deriving DecidableEq

/-- A token. -/
inductive Token where
  /-- The beginning of a list. -/
  | openArray
  /-- The end of a list. -/
  | closeArray
  /-- The beginning of an object. -/
  | openObject
  /-- The end of an object. -/
  | closeObject
  /-- What separates items and members. -/
  | comma
  /-- What separates a key from its value. -/
  | colon
  /-- A literal. -/
  | literal (l : Literal)
  /-- A string. -/
  | string (s : Text)
  deriving DecidableEq

/-- The tokens of one character. -/
def marks : List (CodePoint × Token) :=
  [('[', .openArray), (']', .closeArray), ('\x7b', .openObject), ('\x7d', .closeObject),
    (',', .comma), (':', .colon)]

/-! ## Literals -/

/-- What is left of a text behind its first digits, of which there must be one. -/
def digits? : Text → Option Text
  | [] => none
  | c :: s => if c.isIn Char.isDigit then some (s.dropWhile (·.isIn Char.isDigit)) else none

/-- What is left of a number behind its integer, which has no zero in front of others. -/
def integer? : Text → Option Text
  | '-' :: '0' :: s => some s
  | '-' :: s => digits? s
  | '0' :: s => some s
  | s => digits? s

/-- What is left of a number behind its fraction, if it has one. -/
def fraction? : Text → Option Text
  | '.' :: s => digits? s
  | s => some s

/-- What is left of a number behind its exponent, if it has one. -/
def exponent? : Text → Option Text
  | [] => some []
  | c :: s =>
    if c = 'e' ∨ c = 'E' then
      match s with
      | '+' :: s => digits? s
      | '-' :: s => digits? s
      | s => digits? s
    else some (c :: s)

/-- Whether a text is a number. -/
def isNumber (s : Text) : Bool := (integer? s >>= fraction? >>= exponent?) == some []

/-- The literal that a text is, if it is one. -/
def literal? (s : Text) : Option Literal :=
  if s = Text.ofString "null" then some .null
  else if s = Text.ofString "true" then some (.bool true)
  else if s = Text.ofString "false" then some (.bool false)
  else if isNumber s then some (.number s)
  else none

/-! ## Strings -/

/-- A part of a string. -/
inductive Piece where
  /-- A code point that stands there or has an escape of its own. -/
  | point (c : CodePoint)
  /-- A unit of 16 bits that is escaped by its number. -/
  | unit (n : Nat)

/-- Whether two units are the halves of a pair. -/
def isPair (m n : Nat) : Bool := 0xD800 ≤ m && m < 0xDC00 && 0xDC00 ≤ n && n < 0xE000

/-- The character of a pair. -/
def pairChar (m n : Nat) : Char := Char.ofNat (0x10000 + (m - 0xD800) * 0x400 + (n - 0xDC00))

/-- The text of the parts of a string. -/
def textOf : List Piece → Text
  | [] => []
  | .point c :: rest => c :: textOf rest
  | .unit m :: .unit n :: rest =>
    if isPair m n then .char (pairChar m n) :: textOf rest
    else (CodePoint.ofNumber? m).toList ++ textOf (.unit n :: rest)
  | .unit m :: rest => (CodePoint.ofNumber? m).toList ++ textOf rest

/-- The escapes of one character. -/
def escapes : List (CodePoint × CodePoint) :=
  [('"', '"'), ('\\', '\\'), ('/', '/'), ('b', '\x08'), ('f', '\x0c'), ('n', '\n'), ('r', '\r'),
    ('t', '\t')]

/-! ## Cutting a text into tokens -/

/-- What has been begun. -/
inductive Lexeme where
  /-- Nothing. -/
  | between
  /-- A literal, by its code points, last first. -/
  | word (s : Text)
  /-- A string, by its parts, last first. -/
  | string (done : List Piece)
  /-- An escape in a string. -/
  | escape (done : List Piece)
  /-- An escape in a string by a number, by the digits so far, last first. -/
  | digits (done : List Piece) (s : List Char)

/-- A text that has been read so far. -/
structure Lexer where
  /-- The tokens, last first. -/
  tokens : List Token
  /-- What has been begun. -/
  lexeme : Lexeme

namespace Lexer

/-- Whether a character is a blank. -/
def isBlank (c : Char) : Bool := c == ' ' || c == '\t' || c == '\n' || c == '\r'

/-- Whether a character can stand in a literal. -/
def isWord (c : Char) : Bool := c.isAlphanum || c == '-' || c == '+' || c == '.'

/-- Reads a code point behind some tokens. -/
def begin? (tokens : List Token) (c : CodePoint) : Option Lexer :=
  if c.isIn isBlank then some ⟨tokens, .between⟩
  else if c = '"' then some ⟨tokens, .string []⟩
  else if c.isIn isWord then some ⟨tokens, .word [c]⟩
  else (marks.lookup c).map fun t => ⟨t :: tokens, .between⟩

/-- Reads a code point. -/
def step (x : Lexer) (c : CodePoint) : Option Lexer :=
  match x.lexeme with
  | .between => begin? x.tokens c
  | .word s =>
    if c.isIn isWord then some ⟨x.tokens, .word (c :: s)⟩
    else (literal? s.reverse).bind fun l => begin? (.literal l :: x.tokens) c
  | .string done =>
    if c = '"' then some ⟨.string (textOf done.reverse) :: x.tokens, .between⟩
    else if c = '\\' then some ⟨x.tokens, .escape done⟩
    else if c.number < 0x20 then none
    else some ⟨x.tokens, .string (.point c :: done)⟩
  | .escape done =>
    if c = 'u' then some ⟨x.tokens, .digits done []⟩
    else (escapes.lookup c).map fun c => ⟨x.tokens, .string (.point c :: done)⟩
  | .digits done s =>
    match c with
    | .half _ => none
    | .char c =>
      if s.length < 3 then some ⟨x.tokens, .digits done (c :: s)⟩
      else
        (Yaml.Quoted.hexValue? (c :: s).reverse).map fun n =>
          ⟨x.tokens, .string (.unit n :: done)⟩

/-- The tokens of a text that has been read to its end. -/
def finish? (x : Lexer) : Option (List Token) :=
  match x.lexeme with
  | .between => some x.tokens.reverse
  | .word s => (literal? s.reverse).map fun l => (.literal l :: x.tokens).reverse
  | _ => none

end Lexer

/-- The tokens of a text. -/
def tokens? (s : Text) : Option (List Token) :=
  (s.foldlM Lexer.step ⟨[], .between⟩).bind Lexer.finish?

example : tokens? "[-0.5e+1, \"\\ud83d\\ude00\"]" =
    some [.openArray, .literal (.number "-0.5e+1"), .comma, .string "😀", .closeArray] := by
  decide +kernel

example : tokens? "\"a\nb\"" = none ∧ tokens? "01" = none := by decide +kernel

/-! ## What is written for a string -/

/-- The characters that are written by an escape of their own. -/
def named : List Char := ['"', '\\', '\n', '\r', '\t', '\x08', '\x0c']

/-- Whether a character is escaped by its number. -/
def isNumbered (c : Char) : Bool := c.toNat < 0x20 && !named.contains c

/-- The part of a string that a code point is written as. -/
def written : CodePoint → Piece
  | .char c => if isNumbered c then .unit c.toNat else .point c
  | .half n => .point (.half n)

/-- A unit that is no half is a character, whatever follows. -/
theorem textOf_unit {n : Nat} (h : n < 0xD800) (rest : List Piece) :
    textOf (.unit n :: rest) = .char (Char.ofNat n) :: textOf rest := by
  have hnumber : CodePoint.ofNumber? n = some (.char (Char.ofNat n)) := by
    have hfirst : CodePoint.firstHalf = 0xD800 := rfl
    rw [CodePoint.ofNumber?, dif_neg (by omega), if_pos (by omega)]
  cases rest with
  | nil => simp [textOf, hnumber]
  | cons piece rest =>
    cases piece with
    | point c => simp [textOf, hnumber]
    | unit m =>
      have hpair : isPair n m = false := by
        rw [isPair, decide_eq_false (by omega)]
        rfl
      simp [textOf, hnumber, hpair]

/-- A text is read from the parts that it is written as. -/
theorem textOf_map_written (s : Text) : textOf (s.map written) = s := by
  induction s with
  | nil => rfl
  | cons c s ih =>
    cases c with
    | half n => rw [List.map_cons, written, textOf, ih]
    | char c =>
      rw [List.map_cons, written]
      split
      · next hc =>
        have hlt : c.toNat < 0x20 := by simpa using (Bool.and_eq_true_iff.1 hc).1
        rw [textOf_unit (by omega), ih, Char.ofNat_toNat]
      · rw [textOf, ih]

section

variable {tokens : List Token} {done : List Piece}

theorem hexDigit?_hexDigit : ∀ n < 16, Yaml.Quoted.hexDigit? (hexDigit n) = some n := by
  decide

theorem hexValue?_of_lt {n : Nat} (h : n < 0x20) :
    Yaml.Quoted.hexValue? ['0', '0', hexDigit (n / 16), hexDigit (n % 16)] = some n := by
  have hzero : Yaml.Quoted.hexDigit? '0' = some 0 := rfl
  simp [Yaml.Quoted.hexValue?, hzero, hexDigit?_hexDigit (n / 16) (by omega),
    hexDigit?_hexDigit (n % 16) (by omega)]
  omega

/-- A code point that needs no escape stands for itself. -/
theorem step_of_plain {c : CodePoint} (hquote : c ≠ '"') (hslash : c ≠ '\\')
    (hcontrol : 0x20 ≤ c.number) :
    Lexer.step ⟨tokens, .string done⟩ c = some ⟨tokens, .string (.point c :: done)⟩ := by
  simp [Lexer.step, hquote, hslash, hcontrol]

/-- A character below U+0020 can be written by its number. -/
theorem foldlM_step_number {n : Nat} (h : n < 0x20) :
    (Text.ofChars ['\\', 'u', '0', '0', hexDigit (n / 16), hexDigit (n % 16)]).foldlM Lexer.step
      ⟨tokens, .string done⟩ = some ⟨tokens, .string (.unit n :: done)⟩ := by
  have hvalue := hexValue?_of_lt h
  simp [Text.ofChars, Lexer.step, hvalue]

theorem foldlM_step_escaped (c : Char) :
    (Text.ofChars (escaped c)).foldlM Lexer.step ⟨tokens, .string done⟩ =
      some ⟨tokens, .string (written c :: done)⟩ := by
  by_cases hnamed : c ∈ named
  · simp only [named, List.mem_cons, List.not_mem_nil, or_false] at hnamed
    rcases hnamed with rfl | rfl | rfl | rfl | rfl | rfl | rfl <;> rfl
  · obtain ⟨hquote, hslash, hn, hr, ht, hb, hf⟩ :
        c ≠ '"' ∧ c ≠ '\\' ∧ c ≠ '\n' ∧ c ≠ '\r' ∧ c ≠ '\t' ∧ c ≠ '\x08' ∧ c ≠ '\x0c' := by
      simpa [named] using hnamed
    -- without an escape of its own, a character is written by its number or as it is
    rw [escaped, if_neg hquote, if_neg hslash, if_neg hn, if_neg hr, if_neg ht, if_neg hb,
      if_neg hf]
    split
    · next hlt =>
      have hnumbered : isNumbered c = true := by simp [isNumbered, hlt, hnamed]
      rw [foldlM_step_number hlt, written, if_pos hnumbered]
    · next hge =>
      have hnumbered : isNumbered c = false := by simp [isNumbered, hge]
      have hplain : Lexer.step ⟨tokens, .string done⟩ c =
          some ⟨tokens, .string (.point c :: done)⟩ :=
        step_of_plain (by simpa using hquote) (by simpa using hslash) (Nat.le_of_not_lt hge)
      simp [Text.ofChars, written, hnumbered, hplain]

/-- What is written for a code point is one part of the string that it stands in. -/
theorem foldlM_step_escapedPoint (c : CodePoint) :
    (escapedPoint c).foldlM Lexer.step ⟨tokens, .string done⟩ =
      some ⟨tokens, .string (written c :: done)⟩ := by
  cases c with
  | char c => exact foldlM_step_escaped c
  | half n =>
    have hnumber : 0x20 ≤ (CodePoint.half n).number := by
      simp only [CodePoint.number, CodePoint.firstHalf]
      omega
    simp [escapedPoint, step_of_plain, hnumber, written]

/-- A text inside quotes is read back, character by character. -/
theorem foldlM_step_flatMap (s : Text) :
    (s.flatMap escapedPoint).foldlM Lexer.step ⟨tokens, .string done⟩ =
      some ⟨tokens, .string ((s.map written).reverse ++ done)⟩ := by
  induction s generalizing done with
  | nil => rfl
  | cons c s ih => simp [foldlM_step_escapedPoint, ih]

end

/-! ## What is written between tokens -/

/-- A text is cut into some tokens wherever it stands between others. -/
def CutInto (s : Text) (ts : List Token) : Prop :=
  ∀ tokens, s.foldlM Lexer.step ⟨tokens, .between⟩ = some ⟨ts.reverse ++ tokens, .between⟩

theorem CutInto.append {s s' : Text} {ts ts' : List Token} (h : CutInto s ts)
    (h' : CutInto s' ts') : CutInto (s ++ s') (ts ++ ts') := by
  intro tokens
  rw [List.foldlM_append, h tokens]
  simpa using h' (ts.reverse ++ tokens)

/-- A text that is cut into tokens is read as these. -/
theorem CutInto.tokens? {s : Text} {ts : List Token} (h : CutInto s ts) :
    tokens? s = some ts := by
  simp [Json.tokens?, h [], Lexer.finish?]

/-- What is written for a string is one token. -/
theorem cutInto_string (s : Text) : CutInto (string s) [.string s] := by
  intro tokens
  have hopen : ("\"" : Text).foldlM Lexer.step ⟨tokens, .between⟩ =
      some ⟨tokens, .string []⟩ := rfl
  have hclose (done : List Piece) : ("\"" : Text).foldlM Lexer.step ⟨tokens, .string done⟩ =
      some ⟨.string (textOf done.reverse) :: tokens, .between⟩ := rfl
  simp only [string, List.foldlM_append, hopen, foldlM_step_flatMap, hclose, Option.bind_eq_bind,
    Option.bind_some, List.append_nil, List.reverse_reverse, textOf_map_written]
  rfl

end LuceneQuery.Output.Json
