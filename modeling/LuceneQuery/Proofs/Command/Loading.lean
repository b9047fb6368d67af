import LuceneQuery.Command.Builtin
import LuceneQuery.Proofs.Config.Reading

/-!
# Runs without a configuration

What a run does before it loads its configuration is up to the libraries.  Once they
have told it a path (`GetsToLoad`), it loads the file there before it does anything
else.  If there is no configuration in the file, the run ends, and no file has changed.
The content of the file decides how it ends: it breaks off where the reader of documents
raises an error of a kind that nobody expects, or where a number is out of range
(`Unreported`), and reports the configuration as invalid everywhere else.

The libraries of the executable change no files (`keepFiles_builtin`), and their console
changes no text without escape characters (`showsPlain_builtin`).
-/

namespace LuceneQuery.Command

open Config (LoadFault Settings Reader)

/-! ## What the libraries do -/

/-- The libraries bring a run as far as loading the configuration at a path: they add the
variables and find the path in the arguments, and no file has changed. -/
def GetsToLoad (libraries : Libraries (StateM FileTree)) (environment : Variables)
    (arguments : List Text) (files : FileTree) (config : Path) (rest : Except Stop Unit) : Prop :=
  ∃ vs, libraries.addVariables environment files = (.ok vs, files) ∧
    libraries.parse vs arguments files = (.ok (.load config rest), files)

/-- The console shows texts without escape characters as they are. -/
def Libraries.ShowsPlain {m : Type → Type} (libraries : Libraries m) : Prop :=
  ∀ s : Text, .char '\x1b' ∉ s → libraries.echo s = s

/-- The libraries change no files. -/
structure Libraries.KeepFiles (libraries : Libraries (StateM FileTree)) : Prop where
  addVariables (environment : Variables) (files : FileTree) :
    (libraries.addVariables environment files).2 = files
  parse (vs : Variables) (arguments : List Text) (files : FileTree) :
    (libraries.parse vs arguments files).2 = files

section

variable {libraries : Libraries (StateM FileTree)} {environment vs : Variables}
  {arguments : List Text} {files : FileTree} {config : Path} {rest : Except Stop Unit}

/-- Libraries that change no files bring a run to a path by their answers alone. -/
theorem Libraries.KeepFiles.getsToLoad (h : libraries.KeepFiles)
    (hvariables : (libraries.addVariables environment files).1 = .ok vs)
    (hparse : (libraries.parse vs arguments files).1 = .ok (.load config rest)) :
    GetsToLoad libraries environment arguments files config rest :=
  ⟨vs, Prod.ext hvariables (h.addVariables environment files),
    Prod.ext hparse (h.parse vs arguments files)⟩

theorem isDirectory_ofTree (path : Path) (files : FileTree) :
    Disk.ofTree.isDirectory path files = (files.isDirectory path, files) := rfl

theorem readVariables_ofTree (files : FileTree) :
    readVariables Disk.ofTree files = ((readVariables Disk.ofTree files).1, files) := by
  unfold readVariables
  simp only [bind, StateT.bind, Disk.ofTree]
  cases files.read variablesFile <;> rfl

/-- The libraries of the executable change no files. -/
theorem keepFiles_builtin : (Libraries.builtin Disk.ofTree).KeepFiles where
  addVariables environment files := by
    change (Command.addVariables Disk.ofTree environment files).2 = files
    unfold Command.addVariables
    simp only [bind, StateT.bind]
    rw [readVariables_ofTree]
    cases (readVariables Disk.ofTree files).1 with
    | error f => rfl
    | ok file =>
      dsimp only
      split <;> rfl
  parse vs arguments files := by
    change (Command.parse Disk.ofTree vs arguments files).2 = files
    unfold Command.parse
    cases Arguments.read arguments with
    | error f => rfl
    | ok a =>
      dsimp only
      cases Path.gap? (configText a.config vs) with
      | some reason => rfl
      | none =>
        simp only [bind, StateT.bind, isDirectory_ofTree]
        split <;> rfl

end

/-- A text that starts with no escape character starts with no control sequence. -/
theorem sequenceLength_cons {c : CodePoint} (h : c ≠ .char '\x1b') (s : Text) :
    Text.sequenceLength (c :: s) = 0 := by
  unfold Text.sequenceLength
  split
  · next heq =>
    cases heq
    exact absurd rfl h
  · rfl

/-- There are no control sequences without escape characters. -/
theorem withoutSequences_eq_self {s : Text} (h : .char '\x1b' ∉ s) :
    Text.withoutSequences s = s := by
  unfold Text.withoutSequences
  induction s with
  | nil => rfl
  | cons c s ih =>
    rw [List.mem_cons, not_or] at h
    rw [Text.withoutSequencesFrom, sequenceLength_cons (Ne.symm h.1)]
    exact congrArg (c :: ·) (ih h.2)

/-- The console of the executable leaves out nothing but control sequences. -/
theorem showsPlain_builtin {m : Type → Type} [Monad m] (disk : Disk m) :
    (Libraries.builtin disk).ShowsPlain :=
  fun _ => withoutSequences_eq_self

/-! ## Loading from a tree of files -/

/-- Loading a configuration changes no files, and gives what the root in its file gives. -/
theorem load_ofTree (read : Reader) (path : Path) (files : FileTree) :
    Config.load read Disk.ofTree path files =
      (match files.read path with
        | .error f => .error (.file f)
        | .ok octets => Config.decodeRoot read octets >>= Config.settingsOf, files) := by
  unfold Config.load Config.loadOver Config.loadRoot
  simp only [bind, StateT.bind, Disk.ofTree]
  cases files.read path with
  | error f => rfl
  | ok octets =>
    dsimp only
    cases Config.decodeRoot read octets <;> rfl

section

variable {libraries : Libraries (StateM FileTree)} {stamps : Stamps} {environment : Variables}
  {arguments : List Text} {files : FileTree} {config : Path} {rest : Except Stop Unit}
  {f : LoadFault}

/-- A run that gets to load a configuration follows it. -/
theorem run_eq_follow (h : GetsToLoad libraries environment arguments files config rest) :
    run libraries Disk.ofTree stamps environment arguments files =
      follow libraries Disk.ofTree stamps config rest files := by
  obtain ⟨vs, hvariables, hparse⟩ := h
  unfold run
  simp only [bind, StateT.bind, hvariables, hparse]

/-- A run that cannot load the configuration ends with its fault. -/
theorem follow_of_load_eq_error
    (hload : (Config.load libraries.readDocument Disk.ofTree config files).1 = .error f) :
    follow libraries Disk.ofTree stamps config rest files =
      (.ofLoadFault libraries.echo config f, files) := by
  have hloaded : Config.load libraries.readDocument Disk.ofTree config files =
      (.error f, files) := by
    rw [load_ofTree] at hload ⊢
    exact Prod.ext hload rfl
  unfold follow
  simp only [bind, StateT.bind, hloaded]
  rfl

/-! ## Reported faults -/

/-- The faults in the content of a file that no run reports: an error that a reader of
documents raises, of a kind that is not expected, and a number that is out of range. -/
inductive Unreported (read : Reader) (octets : List UInt8) : LoadFault → Prop where
  | document {s : List Char} {fault : Config.DocumentFault}
      (htext : Text.Utf8.decode octets = .ok s)
      (h : read (.ofChars (Text.unixLines s)) = .error fault)
      (hkind : fault.kind.isExpected = false) : Unreported read octets (.document fault)
  | tooLarge {root : Entries} (hroot : Config.decodeRoot read octets = .ok root)
      (h : Settings.read root = .error .tooLarge) : Unreported read octets (.settings .tooLarge)

variable {read : Reader}

theorem Unreported.isReported_eq_false {octets : List UInt8} (h : Unreported read octets f) :
    isReported f = false := by
  cases h with
  | document _ _ hkind => exact hkind
  | tooLarge => rfl

/-- A root that cannot be had is reported, unless it is for an error of the reader that is
not expected. -/
theorem unreported_of_decodeRoot {octets : List UInt8}
    (h : Config.decodeRoot read octets = .error f) (hf : isReported f = false) :
    Unreported read octets f := by
  unfold Config.decodeRoot at h
  split at h
  · cases h
    cases hf
  · next text htext =>
    unfold Config.readRoot at h
    split at h
    · next fault hread =>
      cases h
      exact .document htext hread hf
    · split at h
      · cases h
      · split at h
        · cases h
        · cases h
          cases hf

/-- A root that is no configuration is reported, unless it is for a number out of range. -/
theorem unreported_of_settingsOf {octets : List UInt8} {root : Entries}
    (hroot : Config.decodeRoot read octets = .ok root) (h : Config.settingsOf root = .error f)
    (hf : isReported f = false) : Unreported read octets f := by
  unfold Config.settingsOf at h
  cases hread : Settings.read root with
  | ok settings =>
    rw [hread] at h
    cases h
  | error g =>
    rw [hread] at h
    cases h
    cases g with
    | tooLarge => exact .tooLarge hroot hread
    | _ => cases hf

/-- What is not reported is in the content of the file. -/
theorem unreported_of_load
    (hload : (Config.load read Disk.ofTree config files).1 = .error f)
    (hf : isReported f = false) :
    ∃ octets, files.read config = .ok octets ∧ Unreported read octets f := by
  rw [load_ofTree] at hload
  dsimp only at hload
  split at hload
  · cases hload
    cases hf
  · next octets hoctets =>
    refine ⟨octets, hoctets, ?_⟩
    rcases Config.bind_eq_error_iff.1 hload with hroot | ⟨root, hroot, hsettings⟩
    · exact unreported_of_decodeRoot hroot hf
    · exact unreported_of_settingsOf hroot hsettings hf

/-- A run has no configuration if the reader raises an error over the text of the file. -/
theorem load_of_document {octets : List UInt8} {s : List Char} {fault : Config.DocumentFault}
    (hread : files.read config = .ok octets) (htext : Text.Utf8.decode octets = .ok s)
    (h : read (.ofChars (Text.unixLines s)) = .error fault) :
    (Config.load read Disk.ofTree config files).1 = .error (.document fault) := by
  rw [load_ofTree, hread]
  simp [Config.decodeRoot, Config.readRoot, htext, h, bind, Except.bind]

/-- A run with a file that holds no configuration ends with the exit code one and
says what is wrong with the configuration, unless the fault is in the content of
the file and one that no run reports.  It changes no file either way. -/
theorem render_of_unloadable_config (hshows : libraries.ShowsPlain)
    (hstart : GetsToLoad libraries environment arguments files config rest)
    (hload : (Config.load libraries.readDocument Disk.ofTree config files).1 = .error f) :
    ∃ outcome,
      run libraries Disk.ofTree stamps environment arguments files = (outcome, files) ∧
        ((∃ octets, files.read config = .ok octets ∧
              Unreported libraries.readDocument octets f) ∧
            outcome.ending = .crash (.config f) ∨
          (¬∃ octets, files.read config = .ok octets ∧
              Unreported libraries.readDocument octets f) ∧
            outcome.ending = .invalid config f ∧ outcome.ending.exitCode = 1 ∧
            let line : Text := "Error: Invalid config " ++ config.text ++ ": " ++ f.message ++ "\n"
            outcome.shown = libraries.echo line ∧
              (.char '\x1b' ∉ line → outcome.shown = line)) := by
  refine ⟨_, (run_eq_follow hstart).trans (follow_of_load_eq_error hload), ?_⟩
  cases hf : isReported f with
  | false =>
    have houtcome : Outcome.ofLoadFault libraries.echo config f = .silent (.crash (.config f)) := by
      simp [Outcome.ofLoadFault, hf]
    exact .inl ⟨unreported_of_load hload hf, by rw [houtcome]; rfl⟩
  | true =>
    have houtcome : Outcome.ofLoadFault libraries.echo config f =
        ⟨.invalid config f, libraries.echo (invalidMessage config f)⟩ := by
      simp [Outcome.ofLoadFault, hf]
    rw [houtcome]
    refine .inr ⟨?_, rfl, rfl, rfl, fun hline => hshows _ hline⟩
    rintro ⟨octets, -, hunreported⟩
    cases hf.symm.trans hunreported.isReported_eq_false

end

/-! ## Runs of the executable -/

/-- A file with a bracket that nothing closes. -/
def openBracket : FileTree :=
  .ofFiles [(Path.ofText "c.yml", Text.Utf8.octets "a: [\n")]

/-- What is wrong with it. -/
def openBracketFault : Config.DocumentFault :=
  ⟨.malformed, (Yaml.Fault.malformed .unexpected).message⟩

theorem getsToLoad_openBracket :
    GetsToLoad (.builtin Disk.ofTree) [] ["--config", "c.yml", "render"] openBracket
      (Path.ofText "c.yml") (.ok ()) :=
  keepFiles_builtin.getsToLoad rfl rfl

theorem load_openBracket :
    (Config.load readDocument Disk.ofTree (Path.ofText "c.yml") openBracket).1 =
      .error (.document openBracketFault) := by
  have hfile : openBracket.read (Path.ofText "c.yml") = .ok (Text.Utf8.octets "a: [\n") := by
    decide +kernel
  have hfault : (readDocument (.ofChars (Text.unixLines "a: [\n".toList))).map (fun _ => ()) =
      .error openBracketFault := by
    decide +kernel
  cases hread : readDocument (.ofChars (Text.unixLines "a: [\n".toList)) with
  | error f =>
    rw [hread] at hfault
    cases hfault
    exact load_of_document hfile (by decide +kernel) hread
  | ok v =>
    rw [hread] at hfault
    cases hfault

/-- The run that is told of such a file. -/
def openBracketRun : Outcome × FileTree :=
  runOn ⟨"", [], [], fun _ => []⟩ [] ["--config", "c.yml", "render"] openBracket

theorem open_bracket_breaks_off :
    (Config.load readDocument Disk.ofTree (Path.ofText "c.yml") openBracket).1 =
        .error (.document openBracketFault) ∧
      openBracketRun.1.ending = .crash (.config (.document openBracketFault)) ∧
      openBracketRun.1.shown = [] := by
  have hrun : openBracketRun = _ :=
    (run_eq_follow getsToLoad_openBracket).trans (follow_of_load_eq_error load_openBracket)
  rw [hrun]
  exact ⟨load_openBracket, rfl, rfl⟩

theorem missing_config_is_reported :
    ∃ outcome,
      runOn ⟨"", [], [], fun _ => []⟩ [] ["--config", "nope.yml", "render"] {} = (outcome, {}) ∧
      outcome.ending.exitCode = 1 ∧
      outcome.shown =
        "Error: Invalid config nope.yml: [Errno 2] No such file or directory: 'nope.yml'\n" := by
  have hstart : GetsToLoad (.builtin Disk.ofTree) [] ["--config", "nope.yml", "render"] {}
      (Path.ofText "nope.yml") (.ok ()) :=
    keepFiles_builtin.getsToLoad rfl rfl
  obtain ⟨outcome, hrun, ⟨⟨octets, hread, -⟩, -⟩ | ⟨-, -, hcode, -, hshown⟩⟩ :=
    render_of_unloadable_config (showsPlain_builtin Disk.ofTree) hstart rfl
  · cases hread
  · exact ⟨outcome, hrun, hcode, (hshown (by decide +kernel)).trans (by decide +kernel)⟩

end LuceneQuery.Command
