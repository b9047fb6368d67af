import LuceneQuery.Value.Basic

/-!
# Mappings

Looking up, writing and laying over.  A key that is written again keeps its
place and its first form, and takes the new value.

`overlay` lays one mapping over another, as a configuration file over the
defaults.  Where both hold a mapping under a key, the two are laid over each
other in turn; elsewhere the upper value replaces the lower one whole.
-/

namespace LuceneQuery

namespace Entries

/-- The value of a key. -/
def find? (key : Scalar) : Entries → Option Value
  | [] => none
  | (k, v) :: rest => if k.sameKey key then some v else find? key rest

/-- The entries with a value written under a key. -/
def insert (key : Scalar) (value : Value) : Entries → Entries
  | [] => [(key, value)]
  | (k, v) :: rest => if k.sameKey key then (k, value) :: rest else (k, v) :: insert key value rest

/-- The entries with one for each pair, of which later ones win. -/
def ofList (pairs : List (Scalar × Value)) : Entries :=
  pairs.foldl (fun entries (k, v) => insert k v entries) []

/-- The value under a name. -/
def get? (entries : Entries) (name : Text) : Option Value := entries.find? (.str name)

/-- The value under a name, unless there is none or it is null. -/
def present? (entries : Entries) (name : Text) : Option Value :=
  match entries.get? name with
  | some .null => none
  | found => found

/-- The value under a name, or another where there is none or it is null. -/
def getOr (entries : Entries) (name : Text) (default : Value) : Value :=
  (entries.present? name).getD default

/-- The keys. -/
def keys (entries : Entries) : List Scalar := entries.map (·.1)

end Entries

namespace Value

mutual

/-- A value laid over what stands below it, if anything does. -/
def overlay (lower : Option Value) : Value → Value
  | .map entries =>
    match lower with
    | some (.map base) => .map (overlayEntries base entries)
    | _ => .map entries
  | v => v

/-- Entries laid over others, one after the other. -/
def overlayEntries (base : Entries) : List (Scalar × Value) → Entries
  | [] => base
  | (k, v) :: rest => overlayEntries (base.insert k (overlay (base.find? k) v)) rest

end

end Value

/-- One mapping laid over another. -/
def Entries.overlay (base upper : Entries) : Entries := Value.overlayEntries base upper

end LuceneQuery
