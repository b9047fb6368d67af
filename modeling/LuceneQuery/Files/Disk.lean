import LuceneQuery.Files.Tree

/-!
# Access to files

What the program needs of a file system: to tell directories, to read a file,
to make a directory, to write a file and to write on at the end of a file.  The
program is written against these five operations, so that it runs on the files
of the machine as it does on a tree of files.

`makeDirectories` makes a directory along with the missing ones on the way, and
is content with one that is there already.  What it has made stays when it
fails later on.
-/

namespace LuceneQuery

/-- The operations of a file system. -/
structure Disk (m : Type → Type) where
  /-- Whether a path is that of a directory. -/
  isDirectory : Path → m Bool
  /-- The octets of a file. -/
  read : Path → m (Except FileFault (List UInt8))
  /-- Makes a directory in one that is there. -/
  makeDirectory : Path → m (Except FileFault Unit)
  /-- Writes octets to a file, in place of what it holds. -/
  write : Path → List UInt8 → m (Except FileFault Unit)
  /-- Writes octets at the end of a file, which is made if it is missing. -/
  append : Path → List UInt8 → m (Except FileFault Unit)

namespace Disk

/-- The operations on a tree of files. -/
def ofTree : Disk (StateM FileTree) where
  isDirectory p := fun t => (t.isDirectory p, t)
  read p := fun t => (t.read p, t)
  makeDirectory p := fun t => t.makeDirectory p
  write p octets := fun t => t.write p octets
  append p octets := fun t => t.append p octets

variable {m : Type → Type} [Monad m]

/-- Makes a directory in one that is there, unless there is one already. -/
def ensureDirectory (disk : Disk m) (p : Path) : m (Except FileFault Unit) := do
  match ← disk.makeDirectory p with
  | .ok () => pure (.ok ())
  | .error f => pure (if ← disk.isDirectory p then .ok () else .error f)

/-- Makes the directory of a path given by its names, innermost first, and those
on the way to it. -/
def makeAll (disk : Disk m) (root : Text) : List Text → m (Except FileFault Unit)
  | [] => disk.ensureDirectory ⟨root, []⟩
  | name :: outer => do
    let p : Path := ⟨root, (name :: outer).reverse⟩
    match ← disk.ensureDirectory p with
    | .error ⟨.missing, _⟩ =>
      match ← disk.makeAll root outer with
      | .ok () => disk.ensureDirectory p
      | .error f => pure (.error f)
    | made => pure made

/-- Makes a directory and those on the way to it, unless they are there. -/
def makeDirectories (disk : Disk m) (p : Path) : m (Except FileFault Unit) :=
  disk.makeAll p.root p.names.reverse

end Disk

end LuceneQuery
