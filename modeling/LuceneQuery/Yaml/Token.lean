import LuceneQuery.Text.Basic
import LuceneQuery.Yaml.Fault

/-!
# Tokens

A document is a list of tokens.  Where blocks begin and end shows in the text
by indentation alone; the tokens say it outright.  A key is announced before it
comes.  Where the text breaks off because no token can be read, the last token
carries the fault.
-/

namespace LuceneQuery.Yaml

/-- A token of a document. -/
inductive Token where
  /-- The start of a document. -/
  | documentStart
  /-- The end of a document. -/
  | documentEnd
  /-- The start of a list of indented items. -/
  | blockSequence
  /-- The start of a mapping of indented entries. -/
  | blockMapping
  /-- The end of an indented list or mapping. -/
  | blockEnd
  /-- The start of an item of an indented list. -/
  | blockEntry
  /-- The opening bracket of a list. -/
  | flowSequence
  /-- The closing bracket of a list. -/
  | flowSequenceEnd
  /-- The opening brace of a mapping. -/
  | flowMapping
  /-- The closing brace of a mapping. -/
  | flowMappingEnd
  /-- A comma within brackets or braces. -/
  | flowEntry
  /-- The announcement of a key. -/
  | key
  /-- The colon before a value. -/
  | value
  /-- A scalar without quotes. -/
  | plain (text : List Char)
  /-- A scalar in quotes. -/
  | quoted (text : Text)
  /-- The place where no token can be read. -/
  | broken (fault : Fault)
  deriving DecidableEq, Repr

end LuceneQuery.Yaml
