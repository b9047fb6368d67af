import LuceneQuery.Value.Text

/-!
# What is wrong with a clause

A clause is refused for two reasons.  An argument of a modifier lies outside
what the modifier takes, or a text does not have the shape that its place
asks for.  Some numbers cannot even be looked at: an integer that no double is
near to, a decimal that is a signaling not-a-number, and where a number has to
be written, as in a fault that shows it, an integer with too many digits.

A value is looked up among names as a key of a mapping is.  So a value that can be
no key, such as a list or a mapping, is not just none of the names.  A signaling
not-a-number is no key either.  Where blanks around a name are trimmed first,
the value has to be a text.
-/

namespace LuceneQuery

/-- What a modifier is told. -/
inductive Argument where
  /-- The relevance weight. -/
  | boost
  /-- The edit distance of a term. -/
  | fuzziness
  /-- The word distance of a phrase. -/
  | proximity
  /-- The name of an operator. -/
  | operator
  /-- The name of a kind of range. -/
  | rangeType
  deriving DecidableEq, Repr

/-- The name of an argument in a message. -/
def Argument.name : Argument → String
  | .boost => "boost"
  | .fuzziness => "fuzziness"
  | .proximity => "proximity"
  | .operator => "operator"
  | .rangeType => "range type"

/-- Why an argument is refused. -/
inductive ArgumentReason where
  /-- It is no number. -/
  | notANumber
  /-- It is no integer. -/
  | notAnInteger
  /-- It is infinite or not-a-number. -/
  | notFinite
  /-- It is below zero. -/
  | negative
  /-- It lies outside a range. -/
  | outOfRange (low high : Nat)
  /-- It is none of the names. -/
  | notOneOf (names : List Text)
  deriving DecidableEq, Repr

/-- The reason in words. -/
def ArgumentReason.message : ArgumentReason → String
  | .notANumber => "must be a number"
  | .notAnInteger => "must be an integer"
  | .notFinite => "must be finite"
  | .negative => "must not be negative"
  | .outOfRange low high => "out of range " ++ toString low ++ ".." ++ toString high
  | .notOneOf names => "must be one of " ++ Text.shownTexts names

/-- Why a text is refused, with the name of its place. -/
inductive FormatReason where
  /-- It is no text but a value of the named type. -/
  | notAString (place : Text) (typeName : String)
  /-- It holds nothing but blanks. -/
  | empty (place : Text)
  /-- It holds a blank inside. -/
  | blankInside (place : Text)
  deriving DecidableEq, Repr

/-- The reason in words. -/
def FormatReason.message : FormatReason → Text
  | .notAString place typeName => "a " ++ place ++ " must be a string, got " ++ typeName
  | .empty place => "a " ++ place ++ " must not be empty"
  | .blankInside place => "a " ++ place ++ " must not contain whitespace, use a phrase instead"

/-- Why a value is not looked up among names. -/
inductive LookupReason where
  /-- It has parts and is of the named type. -/
  | compound (typeName : String)
  /-- It is a signaling not-a-number. -/
  | signaling
  /-- It is no text to be trimmed but a value of the named type. -/
  | notAText (typeName : String)
  deriving DecidableEq, Repr

/-- The reason in words. -/
def LookupReason.message : LookupReason → String
  | .compound typeName => "unhashable type: '" ++ typeName ++ "'"
  | .signaling => "Cannot hash a signaling NaN value"
  | .notAText typeName => "'" ++ typeName ++ "' object has no attribute 'strip'"

/-- What is wrong with a clause. -/
inductive ClauseFault where
  /-- An argument lies outside what its modifier takes. -/
  | argument (argument : Argument) (value : Value) (reason : ArgumentReason)
  /-- A text does not have the shape that its place asks for. -/
  | format (text : Text) (reason : FormatReason)
  /-- A value is not looked up among names. -/
  | lookup (reason : LookupReason)
  /-- No double is near to an integer. -/
  | tooLarge
  /-- A decimal is a signaling not-a-number. -/
  | signaling
  /-- An integer has too many digits to be written. -/
  | tooManyDigits

namespace ClauseFault

/-- The fault of an argument, which can only be shown if it can be written. -/
def ofArgument (argument : Argument) (value : Value) (reason : ArgumentReason) : ClauseFault :=
  if value.isWritable then .argument argument value reason else .tooManyDigits

/-- The fault in words. -/
def message : ClauseFault → Text
  | .argument slot value reason =>
    "Invalid " ++ slot.name ++ " " ++ value.literal ++ ": " ++ reason.message
  | .format text reason => "Invalid format " ++ Text.quote text ++ ": " ++ reason.message
  | .lookup reason => reason.message
  | .tooLarge => "int too large to convert to float"
  | .signaling => "cannot convert signaling NaN to float"
  | .tooManyDigits => Number.limitMessage ""

end ClauseFault

end LuceneQuery
