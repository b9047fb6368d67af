import LuceneQuery.Text.Basic

/-!
# Rendered queries

A rendered query is a name, which may be missing, and the text of the query.
On the console it is one line of the log.

In a file it is part of a JSON document.  The document is a list of objects,
each with the members `name` and `query`, indented by two spaces a level and
without a line feed at its end.  A string is written as it is, apart from
quotes, backslashes and the characters below U+0020, which are escaped.
-/

namespace LuceneQuery.Output

/-- A rendered query. -/
structure Entry where
  /-- The name, if it has one. -/
  name : Option Text
  /-- The text of the query. -/
  query : Text
  deriving DecidableEq, Repr

/-- A rendered query as a line for a reader.  A name that is missing or empty
is left out. -/
def Entry.line (e : Entry) : Text :=
  match e.name with
  | some name => if name = [] then e.query else name ++ ": " ++ e.query
  | none => e.query

namespace Json

/-! ## Strings -/

/-- The hexadecimal digit of a number below sixteen. -/
def hexDigit (n : Nat) : Char := if n < 10 then Char.ofNat (48 + n) else Char.ofNat (87 + n)

/-- A character of a string. -/
def escaped (c : Char) : List Char :=
  if c = '"' then ['\\', '"']
  else if c = '\\' then ['\\', '\\']
  else if c = '\n' then ['\\', 'n']
  else if c = '\r' then ['\\', 'r']
  else if c = '\t' then ['\\', 't']
  else if c = '\x08' then ['\\', 'b']
  else if c = '\x0c' then ['\\', 'f']
  else if c.toNat < 0x20 then
    ['\\', 'u', '0', '0', hexDigit (c.toNat / 16), hexDigit (c.toNat % 16)]
  else [c]

/-- A code point of a string. -/
def escapedPoint : CodePoint → Text
  | .char c => .ofChars (escaped c)
  | .half n => [.half n]

/-- A string. -/
def string (s : Text) : Text := "\"" ++ s.flatMap escapedPoint ++ "\""

/-- A string or null. -/
def nullable : Option Text → Text
  | some s => string s
  | none => "null"

/-! ## Documents -/

/-- The object of a rendered query, as an item of the list. -/
def item (e : Entry) : Text :=
  "  \x7b\n    \"name\": " ++ nullable e.name ++ ",\n    \"query\": " ++ string e.query
    ++ "\n  \x7d"

/-- The items of a list behind the first. -/
def moreItems : List Entry → Text
  | [] => []
  | e :: rest => ",\n" ++ item e ++ moreItems rest

/-- The document of rendered queries. -/
def document : List Entry → Text
  | [] => "[]"
  | e :: rest => "[\n" ++ item e ++ moreItems rest ++ "\n]"

example : document [⟨none, "a\"\x01"⟩] =
    Text.ofString "[\n  \x7b\n    \"name\": null,\n    \"query\": \"a\\\"\\u0001\"\n  \x7d\n]" := by
  decide +kernel

end Json

end LuceneQuery.Output
