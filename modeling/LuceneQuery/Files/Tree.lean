import LuceneQuery.Files.Fault

/-!
# A tree of files

The files and directories below the working directory, as a value.  A path is
walked name by name, and each name but the last must be that of a directory.
Two points lead to the directory above.  Above the working directory there are
directories, but what else they hold is not known, and counts as missing.
-/

namespace LuceneQuery

/-- The octets of a name. -/
abbrev FileName := List UInt8

/-- The names from the working directory to a file or a directory. -/
abbrev Location := Array FileName

/-- The files and directories below the working directory. -/
structure FileTree where
  /-- The files with their octets. -/
  files : List (Location × List UInt8) := []
  /-- The directories, the working directory aside. -/
  directories : List Location := []
  deriving DecidableEq

namespace FileTree

/-! ## Places -/

/-- Where a path leads. -/
inductive Place where
  /-- To a location below the working directory, or to that itself. -/
  | inside (location : Location)
  /-- To a directory above the working directory. -/
  | above
  /-- To something else outside. -/
  | outside
  deriving DecidableEq, Repr

/-- The name of the directory around a directory. -/
def parentName : FileName := Text.Utf8.octets ".."

/-- The place of a name in a place. -/
def Place.enter (name : FileName) : Place → Place
  | .inside location =>
    if name = parentName then (if location.isEmpty then .above else .inside location.pop)
    else .inside (location.push name)
  | .above => if name = parentName then .above else .outside
  | .outside => .outside

/-- Whether a place is a directory. -/
def hasDirectory (t : FileTree) : Place → Bool
  | .inside location => location.isEmpty || t.directories.contains location
  | .above => true
  | .outside => false

/-- The octets of the file at a place. -/
def octets? (t : FileTree) : Place → Option (List UInt8)
  | .inside location => t.files.lookup location
  | _ => none

/-- How many octets a name may take. -/
def maxNameLength : Nat := 255

/-- The place that some names lead to. -/
def walk (t : FileTree) (place : Place) : List FileName → Except FileFault.Reason Place
  | [] => .ok place
  | name :: rest =>
    if !t.hasDirectory place then
      .error (if (t.octets? place).isSome then .notDirectory else .missing)
    else if maxNameLength < name.length then .error .nameTooLong
    else walk t (place.enter name) rest

/-- The place that a path leads to. -/
def placeOf (t : FileTree) (p : Path) : Except FileFault.Reason Place :=
  match p.flaw? with
  | some reason => .error reason
  | none => t.walk (if p.root = [] then .inside #[] else .above) (p.names.map Text.Utf8.octets)

/-! ## Operations -/

/-- Whether a path is that of a directory. -/
def isDirectory (p : Path) (t : FileTree) : Bool :=
  match t.placeOf p with
  | .ok place => t.hasDirectory place
  | .error _ => false

/-- The octets of the file at a path. -/
def read (p : Path) (t : FileTree) : Except FileFault (List UInt8) :=
  match t.placeOf p with
  | .error reason => .error ⟨reason, p⟩
  | .ok place =>
    if t.hasDirectory place then .error ⟨.isDirectory, p⟩
    else
      match t.octets? place with
      | some octets => .ok octets
      | none => .error ⟨.missing, p⟩

/-- Makes a directory in one that is there. -/
def makeDirectory (p : Path) (t : FileTree) : Except FileFault Unit × FileTree :=
  match t.placeOf p with
  | .error reason => (.error ⟨reason, p⟩, t)
  | .ok place =>
    if t.hasDirectory place || (t.octets? place).isSome then (.error ⟨.occupied, p⟩, t)
    else
      match place with
      | .inside location => (.ok (), { t with directories := t.directories ++ [location] })
      | _ => (.error ⟨.missing, p⟩, t)

/-- Files with one of them written. -/
def put (location : Location) (octets : List UInt8) :
    List (Location × List UInt8) → List (Location × List UInt8)
  | [] => [(location, octets)]
  | (l, o) :: rest =>
    if l = location then (l, octets) :: rest else (l, o) :: put location octets rest

/-- Writes octets to the file at a path. -/
def write (p : Path) (octets : List UInt8) (t : FileTree) : Except FileFault Unit × FileTree :=
  match t.placeOf p with
  | .error reason => (.error ⟨reason, p⟩, t)
  | .ok place =>
    if t.hasDirectory place then (.error ⟨.isDirectory, p⟩, t)
    else
      match place with
      | .inside location =>
        (.ok (), { t with files := put location octets t.files })
      | _ => (.error ⟨.missing, p⟩, t)

/-- The octets of the file at a path, none if there is no file. -/
def held (p : Path) (t : FileTree) : List UInt8 := (t.read p).toOption.getD []

/-- Writes octets behind those of the file at a path. -/
def append (p : Path) (octets : List UInt8) (t : FileTree) : Except FileFault Unit × FileTree :=
  t.write p (t.held p ++ octets)

/-! ## Building trees -/

/-- The directories on the way to a location, outermost first. -/
def ancestors (location : Location) : List Location :=
  (List.range (location.size - 1)).map fun n => location.take (n + 1)

/-- The tree with a file at a location, in directories of its own. -/
def withFile (t : FileTree) (location : Location) (octets : List UInt8) : FileTree where
  files := put location octets t.files
  directories := t.directories ++ (ancestors location).filter (!t.directories.contains ·)

/-- The tree of files at paths. -/
def ofFiles (files : List (Path × List UInt8)) : FileTree :=
  files.foldl (fun t (p, octets) =>
    t.withFile (p.names.map Text.Utf8.octets).toArray octets) {}

end FileTree

end LuceneQuery
