import LuceneQuery.Text.Quoted

/-!
# UTF-8

A text file is a sequence of octets.  A character takes one to four of them:
a lead octet, which says how many follow and bounds the first of these, and
then octets from 0x80 to 0xBF.  The bounds exclude surrogates, code points
past U+10FFFF and longer forms than needed.

A file that is not UTF-8 is refused at the first octet that rules it out.  The
fault names the octets from the lead octet of the broken character up to that
one.

A text with a half has no octets.  The *gap* is the first half with those right
behind it.

The names of files are octets that need not be UTF-8.  In the text of a name the
octets that are not stand as halves: each octet from 0x80 on as the half with
its distance from U+DC00.  Only the other halves are gaps in a name.
-/

namespace LuceneQuery.Text

namespace Utf8

/-- Why octets are not UTF-8. -/
inductive Reason where
  /-- No character starts with this octet. -/
  | invalidStart
  /-- A character goes on with an octet that it cannot hold. -/
  | invalidContinuation
  /-- The octets end inside a character. -/
  | unexpectedEnd
  deriving DecidableEq, Repr

/-- Where and why octets are not UTF-8. -/
structure Fault where
  /-- The reason. -/
  reason : Reason
  /-- The position of the lead octet of the broken character. -/
  position : Nat
  /-- The lead octet. -/
  lead : UInt8
  /-- How many octets the fault covers, at least one. -/
  length : Nat
  deriving DecidableEq, Repr

/-- A reason in words. -/
def Reason.message : Reason → String
  | .invalidStart => "invalid start byte"
  | .invalidContinuation => "invalid continuation byte"
  | .unexpectedEnd => "unexpected end of data"

/-- The fault in words. -/
def Fault.message (f : Fault) : String :=
  let octets :=
    if f.length = 1 then
      "byte 0x" ++ String.ofList (Nat.toDigits 16 f.lead.toNat) ++ " in position "
        ++ toString f.position
    else
      "bytes in position " ++ toString f.position ++ "-" ++ toString (f.position + f.length - 1)
  "'utf-8' codec can't decode " ++ octets ++ ": " ++ f.reason.message

/-- A character that has begun. -/
structure Pending where
  /-- The position of its lead octet. -/
  position : Nat
  /-- Its lead octet. -/
  lead : UInt8
  /-- How many octets are still to come. -/
  owed : Nat
  /-- The least value of the next octet. -/
  low : Nat
  /-- The greatest value of the next octet. -/
  high : Nat
  /-- The bits read so far. -/
  code : Nat

/-- What a lead octet of two or more begins, if anything. -/
def Pending.ofLead? (position : Nat) (b : UInt8) : Option Pending :=
  let n := b.toNat
  if n < 0xC2 then none
  else if n < 0xE0 then some ⟨position, b, 1, 0x80, 0xBF, n - 0xC0⟩
  else if n < 0xF0 then
    let low := if n = 0xE0 then 0xA0 else 0x80
    let high := if n = 0xED then 0x9F else 0xBF
    some ⟨position, b, 2, low, high, n - 0xE0⟩
  else if n < 0xF5 then
    let low := if n = 0xF0 then 0x90 else 0x80
    let high := if n = 0xF4 then 0x8F else 0xBF
    some ⟨position, b, 3, low, high, n - 0xF0⟩
  else none

/-- The fault of a pending character that breaks off at `position`. -/
def Pending.fault (p : Pending) (reason : Reason) (position : Nat) : Fault :=
  ⟨reason, p.position, p.lead, position - p.position⟩

/-- The characters of the octets from `position` on, put behind `done`, which
has the last character first. -/
def decodeFrom (position : Nat) (done : List Char) :
    Option Pending → List UInt8 → Except Fault (List Char)
  | none, [] => .ok done.reverse
  | some p, [] => .error (p.fault .unexpectedEnd position)
  | none, b :: rest =>
    if b.toNat < 0x80 then decodeFrom (position + 1) (Char.ofNat b.toNat :: done) none rest
    else
      match Pending.ofLead? position b with
      | none => .error ⟨.invalidStart, position, b, 1⟩
      | some p => decodeFrom (position + 1) done (some p) rest
  | some p, b :: rest =>
    if p.low ≤ b.toNat ∧ b.toNat ≤ p.high then
      let code := p.code * 64 + (b.toNat - 0x80)
      if p.owed ≤ 1 then decodeFrom (position + 1) (Char.ofNat code :: done) none rest
      else
        decodeFrom (position + 1) done
          (some { p with owed := p.owed - 1, low := 0x80, high := 0xBF, code := code }) rest
    else .error (p.fault .invalidContinuation position)

/-- The characters of a sequence of octets. -/
def decode (octets : List UInt8) : Except Fault (List Char) := decodeFrom 0 [] none octets

/-! ## Encoding -/

/-- The octet that a code point stands for in the text of a name, if it is a half
that does. -/
def strayOctet? : CodePoint → Option UInt8
  | .char _ => none
  | .half n => if 0x480 ≤ n.val ∧ n.val < 0x500 then some (UInt8.ofNat (n.val - 0x400)) else none

/-- The half that an octet stands as in the text of a name. -/
def strayHalf (b : UInt8) : CodePoint := .half (Fin.ofNat 0x800 (0x400 + b.toNat))

/-- The octets of a code point: those of its character, or the one that it stands
for in the text of a name. -/
def octetsOf : CodePoint → List UInt8
  | .char c => String.utf8EncodeChar c
  | .half n => (strayOctet? (.half n)).toList

/-- The octets of a text. -/
def octets (s : Text) : List UInt8 := s.flatMap octetsOf

/-- Where a text has no octets. -/
structure Gap where
  /-- The position of the first half. -/
  position : Nat
  /-- How many halves stand in a row, at least one. -/
  length : Nat
  /-- The first half. -/
  first : CodePoint
  deriving DecidableEq, Repr

/-- The first of the given halves in a text and all halves right behind it, if
there are any. -/
def gapAt? (isGap : CodePoint → Bool) (s : Text) : Option Gap :=
  match s.dropWhile (!isGap ·) with
  | [] => none
  | c :: rest =>
    let before := s.takeWhile (!isGap ·)
    some ⟨before.length, (rest.takeWhile CodePoint.isHalf).length + 1, c⟩

/-- The gap of a text, if it has one. -/
def gap? (s : Text) : Option Gap := gapAt? CodePoint.isHalf s

/-- The gap of the text of a name, if it has one. -/
def nameGap? (s : Text) : Option Gap :=
  gapAt? (fun c => c.isHalf && (strayOctet? c).isNone) s

/-- The octets of a text, or the gap that keeps it from having any. -/
def encode (s : Text) : Except Gap (List UInt8) :=
  match gap? s with
  | some gap => .error gap
  | none => .ok (octets s)

/-- The gap in words. -/
def Gap.message (g : Gap) : String :=
  let halves :=
    if g.length = 1 then
      "character " ++ quote [g.first] ++ " in position " ++ toString g.position
    else
      "characters in position " ++ toString g.position ++ "-"
        ++ toString (g.position + g.length - 1)
  "'utf-8' codec can't encode " ++ halves ++ ": surrogates not allowed"

/-! ## Names of files -/

/-- The character that octets begin with and how many octets it takes, if they
begin with one. -/
def firstChar? (s : List UInt8) : Option (Char × Nat) :=
  [1, 2, 3, 4].findSome? fun n =>
    match decode (s.take n) with
    | .ok [c] => some (c, n)
    | _ => none

/-- The text of a name without its first `skip` octets. -/
def nameFrom : Nat → List UInt8 → Text
  | _, [] => []
  | skip + 1, _ :: s => nameFrom skip s
  | 0, b :: s =>
    match firstChar? (b :: s) with
    | some (c, n) => .char c :: nameFrom (n - 1) s
    | none => strayHalf b :: nameFrom 0 s

/-- The text of a name. -/
def nameText (s : List UInt8) : Text := nameFrom 0 s

example : nameText [0xC3, 0xA9, 0xFF] = [.char 'é', .half 0x4FF] := by decide +kernel

end Utf8

/-- A text with each carriage return, and each pair of carriage return and line
feed, replaced by a line feed. -/
def unixLines : List Char → List Char
  | [] => []
  | '\r' :: '\n' :: s => '\n' :: unixLines s
  | '\r' :: s => '\n' :: unixLines s
  | c :: s => c :: unixLines s

end LuceneQuery.Text
