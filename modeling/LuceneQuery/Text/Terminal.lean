import LuceneQuery.Text.Basic

/-!
# Control sequences of terminals

A control sequence is an escape character, an opening bracket, parameters of
digits, semicolons and question marks, and a letter.  Where what is shown does
not go to a terminal, it is shown without them.
-/

namespace LuceneQuery.Text

/-- Whether a character can be among the parameters of a control sequence. -/
def isParameter (c : Char) : Bool := c.isDigit || c == ';' || c == '?'

/-- How many code points the control sequence at the start of a text takes; none
if there is no such sequence. -/
def sequenceLength : Text → Nat
  | '\x1b' :: '[' :: s =>
    match s.dropWhile (·.isIn isParameter) with
    | c :: _ =>
      if c.isIn Char.isAlpha then (s.takeWhile (·.isIn isParameter)).length + 3 else 0
    | [] => 0
  | _ => 0

/-- A text without its first `skip` code points and without the control sequences
behind them. -/
def withoutSequencesFrom : Nat → Text → Text
  | _, [] => []
  | skip + 1, _ :: s => withoutSequencesFrom skip s
  | 0, c :: s =>
    match sequenceLength (c :: s) with
    | n + 1 => withoutSequencesFrom n s
    | 0 => c :: withoutSequencesFrom 0 s

/-- A text without control sequences. -/
def withoutSequences (s : Text) : Text := withoutSequencesFrom 0 s

example : withoutSequences "a\x1b[1;31mb\x1b[m\x1b[~c" = Text.ofString "ab\x1b[~c" := by
  decide +kernel

end LuceneQuery.Text
