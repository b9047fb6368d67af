import LuceneQuery.Text.Utf8

/-!
# Paths

A path is a list of names with slashes between them, and perhaps slashes in
front.  Names that are empty or a single point say nothing and are dropped, so
each path has one form.  The path without names is written as a point.

The file system knows a name by its octets.
-/

namespace LuceneQuery

/-- A path to a file or a directory. -/
structure Path where
  /-- The slashes in front: none, one or two. -/
  root : Text
  /-- The names, outermost first. -/
  names : List Text
  deriving DecidableEq, Repr

namespace Path

/-- The texts between the slashes of a text. -/
def segments : Text → List Text
  | [] => [[]]
  | c :: s =>
    match segments s with
    | [] => []
    | t :: ts => if c = .char '/' then [] :: t :: ts else (c :: t) :: ts

/-- The slashes in front of a text.  Three and more count as one. -/
def rootOf (s : Text) : Text :=
  match (s.takeWhile (· == .char '/')).length with
  | 0 => []
  | 2 => "//"
  | _ => "/"

/-- The path that a text names. -/
def ofText (s : Text) : Path where
  root := rootOf s
  names := (segments s).filter fun t => t ≠ [] ∧ t ≠ "."

/-- The text of a path. -/
def text (p : Path) : Text :=
  if p.names = [] then (if p.root = [] then "." else p.root)
  else p.root ++ [.char '/'].intercalate p.names

/-- How many octets the text of a path may take. -/
def maxLength : Nat := 4095

/-- Whether a text is short enough for a path. -/
def fits (s : Text) : Bool := (Text.Utf8.octets s).length ≤ maxLength

/-- Whether a text holds the character NUL, which no path may hold. -/
def holdsNul (s : Text) : Bool := s.contains (.char '\x00')

/-- The path that a text names from a directory on. -/
def join (p : Path) (s : Text) : Path :=
  let q := ofText s
  if q.root = [] then { p with names := p.names ++ q.names } else q

example : (ofText "./a//b/").text = Text.ofString "a/b" := by decide +kernel

end Path

end LuceneQuery
