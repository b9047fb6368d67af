import LuceneQuery.Clause.Basic

/-!
# The text of clauses

Some characters have a meaning in a query.  A backslash in front takes it
away.  In a token these are the operators, brackets, quotes and wildcards, and
the doubled ampersand and bar; a single ampersand or bar means nothing and
stays.  In a phrase only the quote and the backslash have a meaning.

A leaf is its operator, its field, its body, its distance and its boost, in
this order.  The body of a term is its token, of a phrase its text between
quotes, of a range its bounds between brackets.

A query is the texts of its clauses with a space between them.  It stands in
parentheses inside another query and wherever a slot of its own is filled.  A
query without text has no slots either: it is left out, and so is everything
that holds only such queries.

A clause can be written if no distance and no bound in it is an integer with
too many digits.  Weights never have that many.
-/

namespace LuceneQuery

/-! ## Escaping -/

namespace Escape

/-- The characters that have a meaning in a token wherever they stand. -/
def tokenSpecials : List CodePoint :=
  ['+', '-', '!', '(', ')', '\x7b', '\x7d', '[', ']', '^', '"', '~', '*', '?', ':', '\\', '/']

/-- The characters that have a meaning in a phrase. -/
def phraseSpecials : List CodePoint := ['"', '\\']

/-- A token with every special character escaped. -/
def token : Text → Text
  | [] => []
  | '&' :: '&' :: s => '\\' :: '&' :: '\\' :: '&' :: token s
  | '|' :: '|' :: s => '\\' :: '|' :: '\\' :: '|' :: token s
  | c :: s => if tokenSpecials.contains c then '\\' :: c :: token s else c :: token s

/-- A phrase with every special character escaped. -/
def phrase : Text → Text
  | [] => []
  | c :: s => if phraseSpecials.contains c then '\\' :: c :: phrase s else c :: phrase s

example : token "a&&&b" = Text.ofString "a\\&\\&&b" := by decide

end Escape

/-! ## Leaves -/

namespace Leaf

/-- What stands for an open bound. -/
def openBound : Text := "*"

/-- The text of a bound. -/
def boundText (escape : Bool) (v : Value) : Text :=
  if v.isNull then openBound
  else
    let token := Text.trim v.text
    if token = [] ∨ token = openBound then openBound
    else if escape then Escape.token token
    else token

/-- The text between the prefixes and the suffixes of a leaf. -/
def body : Leaf → Text
  | .term text escape _ => if escape then Escape.token text else text
  | .phrase text escape _ => "\"" ++ (if escape then Escape.phrase text else text) ++ "\""
  | .range lower upper escape kind =>
    kind.opening ++ boundText escape lower ++ " TO " ++ boundText escape upper ++ kind.closing

/-- The distance of a leaf. -/
def distance : Leaf → Text
  | .term _ _ fuzziness => distanceSuffix fuzziness
  | .phrase _ _ slop => distanceSuffix slop
  | .range .. => []

/-- Whether the numbers of a leaf can be written. -/
def isWritable : Leaf → Bool
  | .term _ _ fuzziness => (Number.int fuzziness).isWritable
  | .phrase _ _ slop => (Number.int slop).isWritable
  | .range lower upper _ _ => lower.isWritable && upper.isWritable

end Leaf

/-! ## Slots -/

namespace Slots

/-- The slots in front of a body. -/
def before (s : Slots) : Text := s.operator.sign ++ fieldLabel s.field

/-- The slots behind a body. -/
def after (s : Slots) : Text := boostSuffix s.weight

/-- Whether a slot is filled. -/
def isFilled (s : Slots) : Bool := s.before != [] || s.after != []

/-- The text of a leaf in its slots. -/
def leafText (s : Slots) (l : Leaf) : Text := s.before ++ l.body ++ l.distance ++ s.after

/-- The text of a group in its slots, nested in another one or not. -/
def groupText (s : Slots) (nested : Bool) (body : Text) : Text :=
  if body = [] then []
  else if nested || s.isFilled then s.before ++ "(" ++ body ++ ")" ++ s.after
  else body

end Slots

/-! ## Clauses -/

/-- The texts that are not empty, with a space between them. -/
def joinTexts : List Text → Text
  | [] => []
  | x :: rest =>
    match joinTexts rest with
    | [] => x
    | y => if x = [] then y else x ++ " " ++ y

namespace Clause

mutual

/-- The text of a clause inside a query. -/
def nestedText : Clause → Text
  | .leaf s l => s.leafText l
  | .query s cs => s.groupText true (joinTexts (nestedTexts cs))

/-- The texts of the clauses of a query. -/
def nestedTexts : List Clause → List Text
  | [] => []
  | c :: rest => c.nestedText :: nestedTexts rest

end

/-- The text of a clause on its own. -/
def text : Clause → Text
  | .leaf s l => s.leafText l
  | .query s cs => s.groupText false (joinTexts (nestedTexts cs))

mutual

/-- Whether the numbers of a clause can be written. -/
def isWritable : Clause → Bool
  | .leaf _ l => l.isWritable
  | .query _ cs => areWritable cs

/-- Whether the numbers of some clauses can be written. -/
def areWritable : List Clause → Bool
  | [] => true
  | c :: rest => c.isWritable && areWritable rest

end

end Clause

end LuceneQuery
