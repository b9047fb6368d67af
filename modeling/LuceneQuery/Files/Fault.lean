import LuceneQuery.Files.Path

/-!
# What the file system refuses

A file operation names the path that it was asked for and says why it failed.
Some paths are refused whatever files there are: those that have no octets,
those with the character NUL and those that are too long.
-/

namespace LuceneQuery

namespace FileFault

/-- Why a file operation failed. -/
inductive Reason where
  /-- Nothing has the name. -/
  | missing
  /-- Something has the name already. -/
  | occupied
  /-- A name on the way is not that of a directory. -/
  | notDirectory
  /-- The name is that of a directory. -/
  | isDirectory
  /-- A name or the path takes too many octets. -/
  | nameTooLong
  /-- The path holds the character NUL. -/
  | nul
  /-- The path holds a half that stands for no octet. -/
  | unencodable (gap : Text.Utf8.Gap)
  deriving DecidableEq, Repr

/-- The number of a reason, if it has one. -/
def Reason.number? : Reason → Option Nat
  | .missing => some 2
  | .occupied => some 17
  | .notDirectory => some 20
  | .isDirectory => some 21
  | .nameTooLong => some 36
  | .nul | .unencodable _ => none

/-- The reason in words. -/
def Reason.message : Reason → String
  | .missing => "No such file or directory"
  | .occupied => "File exists"
  | .notDirectory => "Not a directory"
  | .isDirectory => "Is a directory"
  | .nameTooLong => "File name too long"
  | .nul => "embedded null byte"
  | .unencodable gap => gap.message

end FileFault

/-- A file operation that failed. -/
structure FileFault where
  /-- The reason. -/
  reason : FileFault.Reason
  /-- The path. -/
  path : Path
  deriving DecidableEq, Repr

/-- The fault in words. -/
def FileFault.message (f : FileFault) : String :=
  match f.reason.number? with
  | some n =>
    "[Errno " ++ toString n ++ "] " ++ f.reason.message ++ ": " ++ Text.quote f.path.text
  | none => f.reason.message

/-- Why no path can have a text, if none can. -/
def Path.gap? (s : Text) : Option FileFault.Reason :=
  match Text.Utf8.nameGap? s with
  | some gap => some (.unencodable gap)
  | none => if holdsNul s then some .nul else none

/-- Why a path is refused whatever files there are, if it is. -/
def Path.flaw? (p : Path) : Option FileFault.Reason :=
  match gap? p.text with
  | some reason => some reason
  | none => if fits p.text then none else some .nameTooLong

end LuceneQuery
