import LuceneQuery.Proofs.Log.File

/-!
# Logs that go to a file too

A record passes two thresholds on its way to a sink: that of the log and that of the
sink.  A log that goes to a file has a lower threshold than one that does not, so that
the file gets the details.  No level that may be asked for is below that of details, so
the threshold of the log never keeps back what a sink would take, and what it lets
through besides is kept back by the console (`Setup.shown_ofLevel`,
`Setup.saved?_ofLevel`).

There is one thing that the console shows only if there is a file: the complaint about a
record that has no octets, and so is missing in the file.  These are the records with a
half in their text (`Record.isEncodable_iff`).

One call of the log shows and saves the records of some level on, and so does a whole
run of calls, each of which writes on where the last one ended (`Sinks.logAll_fst`,
`Sinks.read_logAll`).
-/

namespace LuceneQuery.Log

/-! ## Two thresholds in a row -/

namespace Setup

variable {level : Int} {toFile hasFile : Bool}

/-- The log keeps what a sink takes, if neither threshold is below that of details. -/
theorem keeps_ofLevel (hlevel : debug ≤ level) {r : Record} (hr : level ≤ r.level) :
    (ofLevel level toFile hasFile).keeps r = true := by
  have hpositive : 0 < level := Int.lt_of_lt_of_le (by decide) hlevel
  have hthreshold : 0 < (ofLevel level toFile hasFile).threshold ∧
      (ofLevel level toFile hasFile).threshold ≤ level := by
    cases toFile with
    | false => exact ⟨hpositive, Int.le_refl level⟩
    | true =>
      rw [ofLevel, if_pos rfl, Int.min_eq_left hlevel]
      exact ⟨show 0 < debug by decide, hlevel⟩
  have heffective : (ofLevel level toFile hasFile).effective =
      (ofLevel level toFile hasFile).threshold :=
    if_neg (Int.ne_of_gt hthreshold.1)
  simp [keeps, heffective, Int.lt_of_lt_of_le hpositive hr, Int.le_trans hthreshold.2 hr]

/-- Details are kept for the file. -/
theorem keeps_ofLevel_toFile (hlevel : debug ≤ level) {r : Record} (hr : debug ≤ r.level) :
    (ofLevel level true hasFile).keeps r = true := by
  have heq : (ofLevel level true hasFile).effective = (ofLevel debug true hasFile).effective := by
    simp [effective, ofLevel, Int.min_eq_left hlevel]
  have hkeeps : (ofLevel debug true hasFile).keeps r = true :=
    keeps_ofLevel (Int.le_refl debug) hr
  rwa [keeps, ← heq] at hkeeps

/-- The console shows the records from its level on, with a file and without. -/
theorem shown_ofLevel (hlevel : debug ≤ level) (records : List Record) :
    (ofLevel level toFile hasFile).shown records = records.filter (level ≤ ·.level) := by
  refine List.filter_congr fun r _ => ?_
  by_cases hr : level ≤ r.level
  · rw [keeps_ofLevel hlevel hr, Bool.true_and]
    rfl
  · simp [ofLevel, hr]

/-- The file holds the records from that of details on, whatever the level. -/
theorem saved?_ofLevel (hlevel : debug ≤ level) (records : List Record) :
    (ofLevel level true true).saved? records = some (records.filter (debug ≤ ·.level)) := by
  refine congrArg some (List.filter_congr fun r _ => ?_)
  by_cases hr : debug ≤ r.level
  · simp [keeps_ofLevel_toFile hlevel hr, hr]
  · simp [hr]

/-- What the log offers to the file, and the file cannot hold, is missing there. -/
theorem misses_ofLevel (hlevel : debug ≤ level) (time : String) (r : Record) :
    (ofLevel level true true).misses time r = true ↔
      debug ≤ r.level ∧ ¬Output.HoldsNoHalf r.text := by
  have hmisses : (ofLevel level true true).misses time r =
      ((ofLevel level true true).keeps r && debug ≤ r.level && !r.isEncodable time) := rfl
  rw [hmisses, ← Record.isEncodable_iff time]
  by_cases hr : debug ≤ r.level
  · simp [keeps_ofLevel_toFile hlevel hr, hr]
  · simp [hr]

end Setup

/-! ## Calls -/

/-- Records that are logged together, with what the machine tells of them. -/
structure Call where
  /-- The start of each line. -/
  time : String
  /-- What traces a record to its place in the program. -/
  trace : Record → Text
  /-- The records. -/
  records : List Record

/-- What the console shows of a call from a level on if the details go to a file: behind a
record that the file cannot hold there is a complaint. -/
def Call.mirrored (level : Int) (c : Call) : Text :=
  c.records.flatMap fun r =>
    (if level ≤ r.level then r.line c.time else []) ++
      (if debug ≤ r.level ∧ ¬Output.HoldsNoHalf r.text then complaint c.trace r else [])

/-- The records of some calls from a level on, each with its time. -/
def recordsFrom (level : Int) (calls : List Call) : List (String × Record) :=
  calls.flatMap fun c => (c.records.filter (level ≤ ·.level)).map (c.time, ·)

/-- The records that a file can hold. -/
def encodable (records : List (String × Record)) : List (String × Record) :=
  records.filter fun (_, r) => Output.HoldsNoHalf r.text

/-- The lines of records with their times. -/
def linesOf (records : List (String × Record)) : Text :=
  records.flatMap fun (time, r) => r.line time

/-- Makes calls of a log, one after the other.  Gives what the console shows. -/
def Sinks.logAll {m : Type → Type} [Monad m] (disk : Disk m) (s : Sinks) : List Call → m Text
  | [] => pure []
  | c :: rest => do
    let shown ← s.log disk c.time c.trace c.records
    let more ← s.logAll disk rest
    pure (shown ++ more)

section

variable {level : Int} {calls : List Call}

theorem linesOf_append (records records' : List (String × Record)) :
    linesOf (records ++ records') = linesOf records ++ linesOf records' :=
  List.flatMap_append

theorem encodable_append (records records' : List (String × Record)) :
    encodable (records ++ records') = encodable records ++ encodable records' :=
  List.filter_append _ _

theorem recordsFrom_cons (level : Int) (c : Call) (rest : List Call) :
    recordsFrom level (c :: rest) =
      (c.records.filter (level ≤ ·.level)).map (c.time, ·) ++ recordsFrom level rest :=
  List.flatMap_cons

/-- The lines of the records of some calls are those of each call in turn. -/
theorem linesOf_recordsFrom (level : Int) (calls : List Call) :
    linesOf (recordsFrom level calls) =
      calls.flatMap fun c => lines c.time (c.records.filter (level ≤ ·.level)) := by
  simp [linesOf, recordsFrom, lines, List.flatMap_map, List.flatMap_assoc]

/-- The records from a level on are among those from a lower level on, in their order. -/
theorem recordsFrom_sublist {lower : Int} (h : lower ≤ level) (calls : List Call) :
    (recordsFrom level calls).Sublist (recordsFrom lower calls) := by
  induction calls with
  | nil => exact .slnil
  | cons c rest ih =>
    have hcall : (c.records.filter (level ≤ ·.level)).Sublist
        (c.records.filter (lower ≤ ·.level)) :=
      List.monotone_filter_right _ fun r hr => by
        simp only [decide_eq_true_eq] at hr ⊢
        exact Int.le_trans h hr
    rw [recordsFrom_cons, recordsFrom_cons]
    exact (hcall.map _).append ih

/-- The file gets the lines of the records that it can hold. -/
theorem octetsOf_eq (time : String) (records : List Record) :
    octetsOf time records = Text.Utf8.octets (linesOf (encodable (records.map (time, ·)))) := by
  induction records with
  | nil => rfl
  | cons r records ih =>
    have hcons : octetsOf time (r :: records) =
        (Text.Utf8.encode (r.line time)).toOption.getD [] ++ octetsOf time records :=
      List.flatMap_cons
    rw [hcons, ih, List.map_cons, encodable, encodable]
    by_cases hr : Output.HoldsNoHalf r.text
    · have hline : Output.HoldsNoHalf (r.line time) := by
        simp [Record.line, Output.holdsNoHalf_append, hr]
      rw [List.filter_cons_of_pos (by simpa using hr), Output.encode_of_holdsNoHalf hline]
      exact List.flatMap_append.symm
    · have hline : (Text.Utf8.encode (r.line time)).toOption = none := by
        have hfalse : ¬r.isEncodable time = true := fun h => hr ((Record.isEncodable_iff time).1 h)
        unfold Record.isEncodable at hfalse
        cases hencode : Text.Utf8.encode (r.line time) with
        | error gap => rfl
        | ok octets => simp [hencode, Except.isOk, Except.toBool] at hfalse
      rw [List.filter_cons_of_neg (by simpa using hr), hline]
      rfl

/-- The console shows no complaint about records that the file can hold. -/
theorem flatMap_mirrored (level : Int)
    (h : ∀ e ∈ recordsFrom debug calls, Output.HoldsNoHalf e.2.text) :
    calls.flatMap (Call.mirrored level) = linesOf (recordsFrom level calls) := by
  rw [linesOf_recordsFrom]
  refine List.flatMap_congr fun c hc => ?_
  rw [lines_filter, Call.mirrored]
  refine List.flatMap_congr fun r hr => ?_
  have hnone : ¬(debug ≤ r.level ∧ ¬Output.HoldsNoHalf r.text) := by
    rintro ⟨hdebug, hhalf⟩
    refine hhalf (h (c.time, r) (List.mem_flatMap.2 ⟨c, hc, List.mem_map_of_mem ?_⟩))
    exact List.mem_filter.2 ⟨hr, by simpa using hdebug⟩
  rw [if_neg hnone, List.append_nil]
  simp

end

section

variable {s : Sinks} {level : Int} {path : Path} {held : List UInt8} {files : FileTree}

/-- A run of calls makes the first call and then the others, on the files that it has left. -/
theorem Sinks.logAll_cons (s : Sinks) (c : Call) (rest : List Call) (files : FileTree) :
    s.logAll Disk.ofTree (c :: rest) files =
      ((s.log Disk.ofTree c.time c.trace c.records files).1 ++
          (s.logAll Disk.ofTree rest (s.log Disk.ofTree c.time c.trace c.records files).2).1,
        (s.logAll Disk.ofTree rest (s.log Disk.ofTree c.time c.trace c.records files).2).2) := rfl

/-- What the console shows of a run of calls is what it shows of each call. -/
theorem Sinks.logAll_fst (s : Sinks) (calls : List Call) (files : FileTree) :
    (s.logAll Disk.ofTree calls files).1 =
      calls.flatMap fun c => s.setup.report c.time c.trace c.records := by
  induction calls generalizing files with
  | nil => rfl
  | cons c rest ih => rw [logAll_cons, log_fst, ih, List.flatMap_cons]

theorem Sinks.logAll_snd_of_unsaved (hfile : s.file = none) (calls : List Call)
    (files : FileTree) : (s.logAll Disk.ofTree calls files).2 = files := by
  induction calls generalizing files with
  | nil => rfl
  | cons c rest ih =>
    have hcall : (s.log Disk.ofTree c.time c.trace c.records files).2 = files := by
      unfold log
      rw [hfile]
      rfl
    rw [logAll_cons, hcall, ih]

/-- Each call writes on where the last one has ended. -/
theorem Sinks.read_logAll (hfile : s.file = some path)
    (hsaved : ∀ records, s.setup.saved? records = some (records.filter (level ≤ ·.level)))
    (calls : List Call) (hread : files.read path = .ok held) :
    (s.logAll Disk.ofTree calls files).2.read path =
      .ok (held ++ Text.Utf8.octets (linesOf (encodable (recordsFrom level calls)))) := by
  induction calls generalizing files held with
  | nil =>
    have hnone : Text.Utf8.octets (linesOf (encodable (recordsFrom level []))) = [] := rfl
    rw [hnone, List.append_nil]
    exact hread
  | cons c rest ih =>
    rw [logAll_cons, log_snd hfile (hsaved c.records), ih (FileTree.read_append hread _),
      octetsOf_eq, recordsFrom_cons, encodable_append, linesOf_append, Text.Utf8.octets_append,
      List.append_assoc]

/-- Without a file the console shows the records from its level on. -/
theorem report_of_unsaved (hlevel : debug ≤ level) (c : Call) :
    (Setup.ofLevel level false false).report c.time c.trace c.records =
      lines c.time (c.records.filter (level ≤ ·.level)) := by
  rw [Setup.report_eq_lines fun _ _ => rfl, Setup.shown_ofLevel hlevel]

/-- With a file it shows complaints as well. -/
theorem report_of_saved (hlevel : debug ≤ level) (c : Call) :
    (Setup.ofLevel level true true).report c.time c.trace c.records = c.mirrored level := by
  refine List.flatMap_congr fun r _ => ?_
  rw [Setup.shown_ofLevel hlevel, lines_filter]
  simp only [Setup.misses_ofLevel hlevel, List.flatMap_singleton, decide_eq_true_eq]

end

/-! ## With a file and without -/

/-- For each level that may be asked for, the console shows the records from that level
on, in their order, and no others.  If the log goes to a file too, and the file can be
made, the console shows the same, but for a complaint behind each record from that of
details on that has a half in its text.  All others of these records are written behind
what the file held before, as they are shown and in their order, and so those among them
that the console shows are a part of them.  If no text holds a half there is no complaint
and nothing is missing. -/
theorem mirroring_keeps_console {settings : Config.LogSettings} (hchecked : settings.check = .ok ())
    {action : Text} (haction : action ≠ []) (dir stamp : Text) (calls : List Call)
    (files : FileTree) :
    ∃ level plain, levelOf (some settings.level) = .ok level ∧
      Sinks.start Disk.ofTree (some settings.level) (some action) false dir stamp files =
        (.ok plain, files) ∧
      plain.logAll Disk.ofTree calls files = (linesOf (recordsFrom level calls), files) ∧
      ((∃ fault opened, openFile Disk.ofTree dir action stamp files = (.error fault, opened) ∧
          Sinks.start Disk.ofTree (some settings.level) (some action) true dir stamp files =
            (.error (.file fault), opened)) ∨
        ∃ mirrored opened,
          Sinks.start Disk.ofTree (some settings.level) (some action) true dir stamp files =
            (.ok mirrored, opened) ∧
          (mirrored.logAll Disk.ofTree calls opened).1 = calls.flatMap (Call.mirrored level) ∧
          (mirrored.logAll Disk.ofTree calls opened).2.read (filePath dir action stamp) =
            .ok ((withFileDirectory dir action files).held (filePath dir action stamp) ++
              Text.Utf8.octets (linesOf (encodable (recordsFrom debug calls))))) ∧
      (encodable (recordsFrom level calls)).Sublist (encodable (recordsFrom debug calls)) ∧
      ((∀ e ∈ recordsFrom debug calls, Output.HoldsNoHalf e.2.text) →
        calls.flatMap (Call.mirrored level) = linesOf (recordsFrom level calls) ∧
          encodable (recordsFrom debug calls) = recordsFrom debug calls) := by
  obtain ⟨level, hlevel, hdebug, -⟩ :=
    exists_levelOf (Config.LogSettings.level_mem_of_check hchecked)
  refine ⟨level, ⟨Setup.ofLevel level false false, none⟩, hlevel, Sinks.start_unsaved hlevel, ?_,
    ?_, (recordsFrom_sublist hdebug calls).filter _, fun hwhole => ⟨?_, ?_⟩⟩
  · have hshown := Sinks.logAll_fst ⟨Setup.ofLevel level false false, none⟩ calls files
    simp only [report_of_unsaved hdebug, ← linesOf_recordsFrom] at hshown
    have hfiles := Sinks.logAll_snd_of_unsaved (s := ⟨Setup.ofLevel level false false, none⟩) rfl
      calls files
    exact Prod.ext hshown hfiles
  · rw [Sinks.start_saved hlevel haction]
    cases hopen : (openFile Disk.ofTree dir action stamp files).1 with
    | error fault => exact .inl ⟨fault, _, Prod.ext hopen rfl, rfl⟩
    | ok path =>
      obtain ⟨rfl, -⟩ := openFile_eq_ok hopen
      have hshown := Sinks.logAll_fst
        ⟨Setup.ofLevel level true true, some (filePath dir action stamp)⟩ calls
        (openFile Disk.ofTree dir action stamp files).2
      simp only [report_of_saved hdebug] at hshown
      have hsaved := Sinks.read_logAll
        (s := ⟨Setup.ofLevel level true true, some (filePath dir action stamp)⟩) rfl
        (Setup.saved?_ofLevel hdebug) calls (read_of_openFile hopen)
      exact .inr ⟨_, _, rfl, hshown, hsaved⟩
  · exact flatMap_mirrored level hwhole
  · exact List.filter_eq_self.2 fun e he => by simpa using hwhole e he

/-- Two calls with records of named and of other levels, some of them below all that are
kept. -/
def mixedCalls : List Call :=
  [⟨"1 ", fun _ => [], [⟨debug, "a"⟩, ⟨warning, "é\nè"⟩, ⟨-5, "b"⟩]⟩,
    ⟨"2 ", fun _ => [], [⟨35, "c"⟩, ⟨9, "d"⟩]⟩]

theorem warnings_of_mixed_calls :
    (⟨"WARNING", true, "log"⟩ : Config.LogSettings).check = .ok () ∧ ("go" : Text) ≠ [] ∧
      ∃ plain mirrored opened,
        Sinks.start Disk.ofTree (some "WARNING") (some "go") false "log" "now" {} =
          (.ok plain, {}) ∧
        Sinks.start Disk.ofTree (some "WARNING") (some "go") true "log" "now" {} =
          (.ok mirrored, opened) ∧
        (plain.logAll Disk.ofTree mixedCalls {}).1 = "1 [WARN] é\nè\n2 [Leve] c\n" ∧
        (mirrored.logAll Disk.ofTree mixedCalls opened).1 = "1 [WARN] é\nè\n2 [Leve] c\n" ∧
        (mirrored.logAll Disk.ofTree mixedCalls opened).2.read (Path.ofText "log/go/go_now.log") =
          .ok (Text.Utf8.octets "1 [DEBG] a\n1 [WARN] é\nè\n2 [Leve] c\n") := by
  have hchecked : (⟨"WARNING", true, "log"⟩ : Config.LogSettings).check = .ok () := rfl
  have haction : ("go" : Text) ≠ [] := by decide
  obtain ⟨level, plain, hlevel, hplain, hshown, hfile, -, hwhole⟩ :=
    mirroring_keeps_console hchecked haction "log" "now" mixedCalls {}
  obtain rfl : warning = level := by
    have hwarning : levelOf (some "WARNING") = .ok warning := by decide +kernel
    exact Except.ok.inj (hwarning.symm.trans hlevel)
  obtain ⟨hmirrored, hencodable⟩ := hwhole (by decide +kernel)
  refine ⟨hchecked, haction, plain, ?_⟩
  rcases hfile with ⟨fault, opened, hopen, -⟩ | ⟨mirrored, opened, hstart, hconsole, hread⟩
  · have hopened : (openFile Disk.ofTree "log" "go" "now" {}).1.isOk = true := by decide +kernel
    rw [hopen] at hopened
    cases hopened
  · have htext : linesOf (recordsFrom warning mixedCalls) = "1 [WARN] é\nè\n2 [Leve] c\n" := by
      decide +kernel
    have hoctets : Text.Utf8.octets (linesOf (recordsFrom debug mixedCalls)) =
        Text.Utf8.octets "1 [DEBG] a\n1 [WARN] é\nè\n2 [Leve] c\n" := by
      decide +kernel
    have hheld : (withFileDirectory "log" "go" {}).held (filePath "log" "go" "now") = [] := by
      decide +kernel
    have hpath : filePath "log" "go" "now" = Path.ofText "log/go/go_now.log" := by decide +kernel
    rw [hheld, List.nil_append, hencodable, hoctets, hpath] at hread
    exact ⟨mirrored, opened, hplain, hstart, by rw [hshown, htext],
      by rw [hconsole, hmirrored, htext], hread⟩

/-- A call with a record of one code point. -/
def pointCall (c : CodePoint) : Call := ⟨"", fun _ => "Call stack\n", [⟨info, [c]⟩]⟩

/-- The console shows more of the record of a half if it goes to a file, and the file does not
hold it.  With the character NUL in the name of the action there is no file at all. -/
theorem half_is_missing_in_file :
    (⟨"INFO", true, "log"⟩ : Config.LogSettings).check = .ok () ∧ ("go" : Text) ≠ [] ∧
      (∃ plain mirrored opened,
        Sinks.start Disk.ofTree (some "INFO") (some "go") false "log" "now" {} = (.ok plain, {}) ∧
        Sinks.start Disk.ofTree (some "INFO") (some "go") true "log" "now" {} =
          (.ok mirrored, opened) ∧
        (plain.logAll Disk.ofTree [pointCall (.half 0)] {}).1 =
          ("[INFO] " : Text) ++ [.half 0] ++ ("\n" : Text) ∧
        (mirrored.logAll Disk.ofTree [pointCall (.half 0)] opened).1 =
          ("[INFO] " : Text) ++ [.half 0] ++ ("\n--- Logging error ---\nCall stack\n" : Text) ∧
        (mirrored.logAll Disk.ofTree [pointCall (.half 0)] opened).2.read
          (Path.ofText "log/go/go_now.log") = .ok []) ∧
      ∃ fault, (Sinks.start Disk.ofTree (some "INFO") (some "a\x00") true "log" "now" {}).1 =
        .error (.file fault) := by
  have hlevel : levelOf (some "INFO") = .ok info := by decide +kernel
  have hpath : (openFile Disk.ofTree "log" "go" "now" {}).1 =
      .ok (Path.ofText "log/go/go_now.log") := by decide +kernel
  have hrefused : ∃ fault, (openFile Disk.ofTree "log" "a\x00" "now" {}).1 = .error fault :=
    ⟨_, rfl⟩
  refine ⟨rfl, by decide, ⟨_, _, _, Sinks.start_unsaved hlevel,
    by rw [Sinks.start_saved hlevel (by decide), hpath], by decide +kernel, by decide +kernel,
    by decide +kernel⟩, ?_⟩
  obtain ⟨fault, hfault⟩ := hrefused
  exact ⟨fault, by rw [Sinks.start_saved hlevel (by decide), hfault]⟩

end LuceneQuery.Log
