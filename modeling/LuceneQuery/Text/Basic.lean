import LuceneQuery.Text.CodePoint

/-!
# Texts

A text is a list of code points.  A string stands for the text of its characters
where a text is asked for.  Texts are in the order of
the first code points in which they differ.
-/

namespace LuceneQuery

/-- A text. -/
abbrev Text := List CodePoint

instance : LawfulBEq Text := inferInstance

namespace Text

/-- The text of a list of characters. -/
def ofChars (s : List Char) : Text := s.map .char

/-- The text of a string. -/
def ofString (s : String) : Text := ofChars s.toList

instance : Coe String Text := ⟨ofString⟩

/-- The characters of a text that holds no half. -/
def chars? : Text → Option (List Char)
  | [] => some []
  | .char c :: s => (chars? s).map (c :: ·)
  | .half _ :: _ => none

example : ([.half 0] : Text) < "\ue000" ∧ ("\ue000" : Text) < "\ue000a" := by decide

end Text

end LuceneQuery
