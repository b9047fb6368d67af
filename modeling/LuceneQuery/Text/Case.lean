import LuceneQuery.Text.Basic
import LuceneQuery.Text.CaseTable

/-!
# Letter case

Upper and lower case of a text, for every letter that has them.  A letter may
become more than one character.  The capital sigma lower-cases to the final
form of the letter at the end of a word and to the ordinary form elsewhere.
-/

namespace LuceneQuery.Text

/-- Whether a run of letters holds a code point. -/
def CaseRun.holds (r : CaseRun) (n : Nat) : Bool :=
  r.first ≤ n && n ≤ r.last && (n - r.first) % r.step == 0

/-- The image of a character under the runs and the sequences of one case. -/
def changeCase (runs : List CaseRun) (sequences : List (Nat × List Nat)) (c : Char) : List Char :=
  match sequences.find? (·.1 == c.toNat) with
  | some (_, image) => image.map Char.ofNat
  | none =>
    match runs.find? (·.holds c.toNat) with
    | some r => [Char.ofNat ((c.toNat : Int) + r.shift).toNat]
    | none => [c]

/-- The upper case of a code point. -/
def upperOf : CodePoint → Text
  | .char c => ofChars (changeCase upperRuns upperSequences c)
  | .half n => [.half n]

/-- The upper case of a text. -/
def uppercase (s : Text) : Text := s.flatMap upperOf

/-- Whether the first code point that matters for a sigma has a case. -/
def startsCased : Text → Bool
  | [] => false
  | c :: s => if inRanges caseIgnorableRanges c.number then startsCased s
              else inRanges casedRanges c.number

/-- The lower case of a sigma between the text before it, last code point
first, and the text after it. -/
def lowerSigma (before after : Text) : Char :=
  if startsCased before && !startsCased after then 'ς' else 'σ'

/-- The lower case of a code point between two texts, the one before it with
its last code point first. -/
def lowerOf (before after : Text) : CodePoint → Text
  | .char c =>
    if c = 'Σ' then [.char (lowerSigma before after)]
    else ofChars (changeCase lowerRuns lowerSequences c)
  | .half n => [.half n]

/-- The lower case of a text that follows `before`, last code point first. -/
def lowercaseAfter (before : Text) : Text → Text
  | [] => []
  | c :: s => lowerOf before s c ++ lowercaseAfter (c :: before) s

/-- The lower case of a text. -/
def lowercase (s : Text) : Text := lowercaseAfter [] s

example : uppercase "straße" = "STRASSE" := by decide +kernel

example : lowercase "ΟΔΟΣ ΣΑΣ." = "οδος σας." := by decide +kernel

end LuceneQuery.Text
