import LuceneQuery.Files.Disk

/-!
# What the operations change

An operation adds directories and writes at most the file at its path, and this
is all that later operations need to know of it (`ChangesAt`).  Directories are
never taken away, so a path that leads somewhere leads there ever after
(`placeOf_mono`).  Hence the changes of one operation after another
add up, and a file that was written reads the same until it is written again.
-/

namespace LuceneQuery

/-! ## Paths -/

namespace Path

end Path

namespace FileTree

variable {t t' t'' : FileTree} {p : Path} {octets : List UInt8}

/-! ## Places -/

theorem hasDirectory_mono (h : t.directories ⊆ t'.directories) {place : Place}
    (hdir : t.hasDirectory place = true) : t'.hasDirectory place = true := by
  cases place with
  | inside location =>
    simp only [hasDirectory, Bool.or_eq_true, List.contains_iff_mem] at hdir ⊢
    exact hdir.imp_right (@h _)
  | above => rfl
  | outside => cases hdir

theorem walk_mono (h : t.directories ⊆ t'.directories) {place place' : Place}
    {names : List FileName} (hwalk : t.walk place names = .ok place') :
    t'.walk place names = .ok place' := by
  induction names generalizing place with
  | nil => exact hwalk
  | cons name rest ih =>
    unfold walk at hwalk ⊢
    cases hdir : t.hasDirectory place with
    | false => simp [hdir] at hwalk
    | true =>
      simp only [hdir, hasDirectory_mono h hdir, Bool.not_true, Bool.false_eq_true, if_false]
        at hwalk ⊢
      split at hwalk
      · cases hwalk
      · next hlength =>
        rw [if_neg hlength]
        exact ih hwalk

/-- A path leads to the same place when there are more directories. -/
theorem placeOf_mono (h : t.directories ⊆ t'.directories) {place : Place}
    (hplace : t.placeOf p = .ok place) : t'.placeOf p = .ok place := by
  unfold placeOf at hplace ⊢
  split at hplace
  · cases hplace
  · exact walk_mono h hplace

/-! ## Changes -/

/-- There is a file at a location, and no directory. -/
structure HasFile (t : FileTree) (location : Location) : Prop where
  isSome : (t.files.lookup location).isSome = true
  noDirectory : t.hasDirectory (.inside location) = false

/-- A tree comes from another by adding directories, and by changing files that
some paths lead to. -/
structure ChangesAt (paths : List Path) (t t' : FileTree) : Prop where
  /-- No directory is gone. -/
  directories : t.directories ⊆ t'.directories
  /-- Every file is still one. -/
  hasFile : ∀ location, t.HasFile location → t'.HasFile location
  /-- Every other file is as it was. -/
  files : ∀ location, (∀ p ∈ paths, t'.placeOf p ≠ .ok (.inside location)) →
    t'.files.lookup location = t.files.lookup location

theorem ChangesAt.refl (paths : List Path) (t : FileTree) : ChangesAt paths t t :=
  ⟨List.Subset.refl _, fun _ => id, fun _ _ => rfl⟩

/-- Changes in a row are changes at the paths of both. -/
theorem ChangesAt.trans {paths : List Path} (h : ChangesAt paths t t')
    (h' : ChangesAt paths t' t'') : ChangesAt paths t t'' where
  directories := List.Subset.trans h.directories h'.directories
  hasFile location := h'.hasFile location ∘ h.hasFile location
  files location hne := by
    have hbefore : ∀ p ∈ paths, t'.placeOf p ≠ .ok (.inside location) := fun p hp hplace =>
      hne p hp (placeOf_mono h'.directories hplace)
    rw [h'.files location hne, h.files location hbefore]

theorem ChangesAt.mono {paths paths' : List Path} (h : ChangesAt paths t t')
    (hpaths : paths ⊆ paths') : ChangesAt paths' t t' :=
  ⟨h.directories, h.hasFile, fun location hne => h.files location fun p hp => hne p (hpaths hp)⟩

/-- A command changes a tree of files at most at some paths, whatever tree it is
run on. -/
def StaysAt {α : Type} (paths : List Path) (act : StateM FileTree α) : Prop :=
  ∀ t, ChangesAt paths t (act t).2

section

variable {α β : Type} {paths : List Path}

theorem staysAt_pure (a : α) : StaysAt paths (pure a) := fun t => .refl paths t

theorem StaysAt.bind {act : StateM FileTree α} {next : α → StateM FileTree β}
    (h : StaysAt paths act) (hnext : ∀ a, StaysAt paths (next a)) :
    StaysAt paths (act >>= next) :=
  fun t => (h t).trans (hnext (act t).1 (act t).2)

theorem StaysAt.mono {paths' : List Path} {act : StateM FileTree α} (h : StaysAt paths act)
    (hpaths : paths ⊆ paths') : StaysAt paths' act :=
  fun t => (h t).mono hpaths

end

/-! ## Writing -/

/-- A file that is put replaces the one at its location and no other. -/
theorem lookup_put (location location' : Location) (octets : List UInt8)
    (files : List (Location × List UInt8)) :
    (put location octets files).lookup location' =
      if location' = location then some octets else files.lookup location' := by
  induction files with
  | nil =>
    by_cases h : location' = location
    · simp [put, h]
    · simp [put, List.lookup_cons, h, beq_eq_false_iff_ne.2 h]
  | cons entry rest ih =>
    obtain ⟨l, o⟩ := entry
    by_cases hl : l = location
    · subst hl
      by_cases h : location' = l
      · simp [put, h]
      · simp [put, List.lookup_cons, h, beq_eq_false_iff_ne.2 h]
    · simp only [put, if_neg hl, List.lookup_cons, ih]
      by_cases h : location' = l
      · simp [h, hl]
      · simp [beq_eq_false_iff_ne.2 h]

@[simp] theorem directories_write (p : Path) (octets : List UInt8) (t : FileTree) :
    (t.write p octets).2.directories = t.directories := by
  unfold write
  repeat' split
  all_goals rfl

@[simp] theorem hasDirectory_write (p : Path) (octets : List UInt8) (t : FileTree)
    (place : Place) : (t.write p octets).2.hasDirectory place = t.hasDirectory place := by
  cases place <;> simp [hasDirectory]

/-- What a write does to the files. -/
theorem write_cases (p : Path) (octets : List UInt8) (t : FileTree) :
    (∃ f, t.write p octets = (.error f, t)) ∨
      ∃ location, t.placeOf p = .ok (.inside location) ∧
        t.hasDirectory (.inside location) = false ∧
        t.write p octets = (.ok (), { t with files := put location octets t.files }) := by
  unfold write
  cases t.placeOf p with
  | error reason => exact .inl ⟨_, rfl⟩
  | ok place =>
    dsimp only
    split
    · exact .inl ⟨_, rfl⟩
    · next hdir =>
      cases place with
      | inside location => exact .inr ⟨location, rfl, by simpa using hdir, rfl⟩
      | _ => exact .inl ⟨_, rfl⟩

/-- Whether a file can be written does not depend on its content. -/
theorem write_fst (p : Path) (octets octets' : List UInt8) (t : FileTree) :
    (t.write p octets).1 = (t.write p octets').1 := by
  unfold write
  repeat' split
  all_goals rfl

/-- Writing changes the file at its path and no other. -/
theorem staysAt_write (p : Path) (octets : List UInt8) : StaysAt [p] (write p octets) := by
  intro t
  rcases write_cases p octets t with ⟨f, hwrite⟩ | ⟨location, hplace, -, hwrite⟩
  · rw [hwrite]
    exact .refl _ t
  · rw [hwrite]
    refine ⟨List.Subset.refl _, fun location' h => ⟨?_, h.noDirectory⟩, fun location' hne => ?_⟩
    · simp only [lookup_put]
      split
      · rfl
      · exact h.isSome
    · have hne : location' ≠ location := by
        rintro rfl
        exact hne p (by simp) (placeOf_mono (by simp) hplace)
      simp only [lookup_put, if_neg hne]

/-- A file that is there can be written. -/
theorem write_of_hasFile {location : Location} (hplace : t.placeOf p = .ok (.inside location))
    (hfile : t.HasFile location) : (t.write p octets).1 = .ok () := by
  simp [write, hplace, hfile.noDirectory]

/-- A file that has been written is at a place of its own, where its octets are. -/
theorem placeOf_of_write (h : (t.write p octets).1 = .ok ()) :
    ∃ location, (t.write p octets).2.placeOf p = .ok (.inside location) ∧
      (t.write p octets).2.HasFile location ∧
      (t.write p octets).2.files.lookup location = some octets := by
  rcases write_cases p octets t with ⟨f, hwrite⟩ | ⟨location, hplace, hdir, hwrite⟩
  · simp [hwrite] at h
  · have hlookup : (t.write p octets).2.files.lookup location = some octets := by
      simp [hwrite, lookup_put]
    have hfile : (t.write p octets).2.HasFile location :=
      ⟨by simp [hlookup], by simpa using hdir⟩
    exact ⟨location, placeOf_mono (by simp) hplace, hfile, hlookup⟩

/-- Two paths lead to two places, if they lead anywhere. -/
def Apart (p q : Path) : Prop :=
  ∀ (t : FileTree) (location : Location), t.placeOf p = .ok (.inside location) →
    t.placeOf q ≠ .ok (.inside location)

/-- What has been written is there as long as only other files are changed. -/
theorem read_of_write {paths : List Path} (hwrite : (t.write p octets).1 = .ok ())
    (hchanges : ChangesAt paths (t.write p octets).2 t') (hapart : ∀ q ∈ paths, Apart p q) :
    t'.read p = .ok octets := by
  obtain ⟨location, hplace, hfile, hlookup⟩ := placeOf_of_write hwrite
  have hplace' := placeOf_mono hchanges.directories hplace
  have hfile' := hchanges.hasFile location hfile
  have hlookup' : t'.files.lookup location = some octets :=
    (hchanges.files location fun q hq => hapart q hq t' location hplace').trans hlookup
  simp [read, hplace', hfile'.noDirectory, octets?, hlookup']

/-- What is appended stands behind what the file held. -/
theorem read_append_of_ok (h : (t.append p octets).1 = .ok ()) :
    (t.append p octets).2.read p = .ok (t.held p ++ octets) :=
  read_of_write h (.refl [] _) (by simp)

/-- What can be read is a file at some location. -/
theorem placeOf_of_read (h : t.read p = .ok octets) :
    ∃ location, t.placeOf p = .ok (.inside location) ∧ t.HasFile location := by
  unfold read at h
  cases hplace : t.placeOf p with
  | error reason => simp [hplace] at h
  | ok place =>
    simp only [hplace] at h
    split at h
    · cases h
    · next hdir =>
      cases place with
      | inside location =>
        refine ⟨location, rfl, ?_, by simpa using hdir⟩
        cases hlookup : t.files.lookup location with
        | some octets' => rfl
        | none => simp [octets?, hlookup] at h
      | _ => cases h

/-- A file that can be read can be written on. -/
theorem read_append {held : List UInt8} (h : t.read p = .ok held) (octets : List UInt8) :
    (t.append p octets).2.read p = .ok (held ++ octets) := by
  obtain ⟨location, hplace, hfile⟩ := placeOf_of_read h
  have hheld : t.held p = held := by simp [FileTree.held, h, Except.toOption]
  rw [read_append_of_ok (write_of_hasFile hplace hfile), hheld]

/-! ## Making directories -/

theorem staysAt_makeDirectory (p : Path) : StaysAt [] (makeDirectory p) := by
  intro t
  unfold makeDirectory
  cases t.placeOf p with
  | error reason => exact .refl [] t
  | ok place =>
    dsimp only
    split
    · exact .refl [] t
    · next hfree =>
      cases place with
      | inside location =>
        refine ⟨by simp, fun location' h => ⟨h.isSome, ?_⟩, fun _ _ => rfl⟩
        have hne : location' ≠ location := by
          rintro rfl
          simp [octets?, h.isSome] at hfree
        simpa [hasDirectory, hne] using h.noDirectory
      | _ => exact .refl [] t

theorem staysAt_isDirectory (p : Path) : StaysAt [] (Disk.ofTree.isDirectory p) := .refl []

theorem staysAt_ensureDirectory (p : Path) : StaysAt [] (Disk.ofTree.ensureDirectory p) := by
  refine (staysAt_makeDirectory p).bind fun made => ?_
  cases made with
  | ok => exact staysAt_pure _
  | error f => exact (staysAt_isDirectory p).bind fun _ => staysAt_pure _

theorem staysAt_makeAll (root : Text) (names : List Text) :
    StaysAt [] (Disk.ofTree.makeAll root names) := by
  induction names with
  | nil => exact staysAt_ensureDirectory _
  | cons name outer ih =>
    refine (staysAt_ensureDirectory _).bind fun made => ?_
    split
    · refine ih.bind fun outside => ?_
      cases outside with
      | ok => exact staysAt_ensureDirectory _
      | error f => exact staysAt_pure _
    · exact staysAt_pure _

theorem staysAt_makeDirectories (p : Path) : StaysAt [] (Disk.ofTree.makeDirectories p) :=
  staysAt_makeAll p.root p.names.reverse

/-! ## Files in directories -/

end FileTree

end LuceneQuery
