import LuceneQuery.Output.Sink
import LuceneQuery.Proofs.Config.Settings
import LuceneQuery.Proofs.Files.Tree
import LuceneQuery.Proofs.Text.Utf8
import Mathlib.Data.List.TakeWhile

/-!
# Sinks and documents

A configuration that has passed its checks has a sink, and each sink once
(`Sink.ofFormats_sublist`).  So the sinks take a query as one line or none, and
keep it as one entry or none.

The file sink ends with its document.  There are three ways in which that can
fail (`DocumentFault`): the directory cannot be made, the file cannot be made in
it, or the document has no octets.  Otherwise the octets of the document are in
the file and one record tells of it (`writeDocument_cases`).
-/

namespace LuceneQuery.Output

/-! ## Sinks -/

namespace Sink

variable {formats : List Text}

theorem console_mem_ofFormats :
    console ∈ ofFormats formats ↔ Config.OutputSettings.console ∈ formats := by
  simp [ofFormats]

theorem file_mem_ofFormats :
    file ∈ ofFormats formats ↔ Config.OutputSettings.json ∈ formats := by
  simp [ofFormats]

/-- Formats that pass their check have a sink. -/
theorem choose_of_check {output : Config.OutputSettings} (h : output.check = .ok ()) :
    choose output.formats = .ok (ofFormats output.formats) := by
  have hne : ofFormats output.formats ≠ [] := by
    obtain ⟨format, rest, hformats⟩ :=
      List.exists_cons_of_ne_nil (Config.OutputSettings.formats_ne_nil_of_check h)
    have hmem : format ∈ output.formats := hformats ▸ List.mem_cons_self
    rcases Config.OutputSettings.eq_console_or_json_of_check h hmem with rfl | rfl
    · exact List.ne_nil_of_mem (console_mem_ofFormats.2 hmem)
    · exact List.ne_nil_of_mem (file_mem_ofFormats.2 hmem)
  unfold choose
  split
  · contradiction
  · rfl

theorem keepAll_ofFormats (e : Entry) :
    keepAll (ofFormats formats) e = if Config.OutputSettings.json ∈ formats then [e] else [] := by
  by_cases hconsole : Config.OutputSettings.console ∈ formats <;>
    by_cases hjson : Config.OutputSettings.json ∈ formats <;>
    simp [keepAll, ofFormats, keep, hconsole, hjson]

end Sink

/-! ## Octets of documents -/

/-- A text holds characters alone. -/
def HoldsNoHalf (s : Text) : Prop := ∀ c ∈ s, c.isHalf = false

instance (s : Text) : Decidable (HoldsNoHalf s) :=
  inferInstanceAs (Decidable (∀ c ∈ s, c.isHalf = false))

/-- A text of characters has octets. -/
theorem encode_of_holdsNoHalf {s : Text} (h : HoldsNoHalf s) :
    Text.Utf8.encode s = .ok (Text.Utf8.octets s) := by
  have hdrop : s.dropWhile (!CodePoint.isHalf ·) = [] := by
    simpa [List.dropWhile_eq_nil_iff, HoldsNoHalf] using h
  simp [Text.Utf8.encode, Text.Utf8.gap?, Text.Utf8.gapAt?, hdrop]

/-- A text has octets if and only if it holds characters alone. -/
theorem isOk_encode_iff {s : Text} : (Text.Utf8.encode s).isOk = true ↔ HoldsNoHalf s := by
  refine ⟨fun h => ?_, fun h => by rw [encode_of_holdsNoHalf h]; rfl⟩
  cases hdrop : s.dropWhile (!CodePoint.isHalf ·) with
  | nil => simpa [List.dropWhile_eq_nil_iff, HoldsNoHalf] using hdrop
  | cons c rest =>
    simp [Text.Utf8.encode, Text.Utf8.gap?, Text.Utf8.gapAt?, hdrop, Except.isOk,
      Except.toBool] at h

theorem holdsNoHalf_append {s t : Text} :
    HoldsNoHalf (s ++ t) ↔ HoldsNoHalf s ∧ HoldsNoHalf t := by
  simp only [HoldsNoHalf, List.forall_mem_append]

@[simp] theorem holdsNoHalf_ofChars (s : List Char) : HoldsNoHalf (Text.ofChars s) := by
  simp [HoldsNoHalf, Text.ofChars, CodePoint.isHalf]

@[simp] theorem holdsNoHalf_ofString (s : String) : HoldsNoHalf (Text.ofString s) :=
  holdsNoHalf_ofChars s.toList

/-- A rendered query holds no half, neither in its name nor in its text. -/
structure Entry.HoldsNoHalf (e : Entry) : Prop where
  name : ∀ name ∈ e.name, Output.HoldsNoHalf name
  query : Output.HoldsNoHalf e.query

instance (e : Entry) : Decidable e.HoldsNoHalf :=
  decidable_of_iff ((∀ name ∈ e.name, Output.HoldsNoHalf name) ∧ Output.HoldsNoHalf e.query)
    ⟨fun h => ⟨h.1, h.2⟩, fun h => ⟨h.name, h.query⟩⟩

/-- Quotes and escapes bring no half into a text. -/
theorem holdsNoHalf_string {s : Text} (h : HoldsNoHalf s) : HoldsNoHalf (Json.string s) := by
  have hbody : HoldsNoHalf (s.flatMap Json.escapedPoint) := by
    intro c hc
    obtain ⟨c', hc', hmem⟩ := List.mem_flatMap.1 hc
    cases c' with
    | char c' => exact holdsNoHalf_ofChars _ c hmem
    | half n => cases h _ hc'
  have hquote : HoldsNoHalf ("\"" : Text) := holdsNoHalf_ofString _
  exact holdsNoHalf_append.2 ⟨holdsNoHalf_append.2 ⟨hquote, hbody⟩, hquote⟩

/-- The object of a query holds no half if the query holds none. -/
theorem holdsNoHalf_item {e : Entry} (h : e.HoldsNoHalf) : HoldsNoHalf (Json.item e) := by
  have hname : HoldsNoHalf (Json.nullable e.name) := by
    cases hname : e.name with
    | none => exact holdsNoHalf_ofString _
    | some name => exact holdsNoHalf_string (h.name name hname)
  simp [Json.item, holdsNoHalf_append, hname, holdsNoHalf_string h.query]

theorem holdsNoHalf_moreItems {entries : List Entry} (h : ∀ e ∈ entries, e.HoldsNoHalf) :
    HoldsNoHalf (Json.moreItems entries) := by
  induction entries with
  | nil => exact holdsNoHalf_ofString ""
  | cons e rest ih =>
    have hitem := holdsNoHalf_item (h e List.mem_cons_self)
    have hrest := ih fun e' he' => h e' (List.mem_cons_of_mem e he')
    simp [Json.moreItems, holdsNoHalf_append, hitem, hrest]

theorem holdsNoHalf_document {entries : List Entry} (h : ∀ e ∈ entries, e.HoldsNoHalf) :
    HoldsNoHalf (Json.document entries) := by
  cases entries with
  | nil => exact holdsNoHalf_ofString _
  | cons e rest =>
    have hitem := holdsNoHalf_item (h e List.mem_cons_self)
    have hrest := holdsNoHalf_moreItems fun e' he' => h e' (List.mem_cons_of_mem e he')
    simp [Json.document, holdsNoHalf_append, hitem, hrest]

/-! ## Documents -/

/-- The path of the document of an action. -/
def documentPath (baseDir action stamp : Text) : Path :=
  (documentDirectory baseDir).join (fileName action stamp ".json")

/-- The record of a document that has been written. -/
def savedTo (path : Path) : Log.Record := ⟨Log.info, "JSON saved to " ++ path.text⟩

/-- What keeps a document from being written to a tree of files. -/
inductive DocumentFault (baseDir action stamp : Text) (entries : List Entry) (files : FileTree) :
    Fault → Prop where
  | directory {f : FileFault}
      (h : (Disk.ofTree.makeDirectories (documentDirectory baseDir) files).1 = .error f) :
      DocumentFault baseDir action stamp entries files (.file f)
  | file {f : FileFault} {made : FileTree}
      (hmade : Disk.ofTree.makeDirectories (documentDirectory baseDir) files = (.ok (), made))
      (h : (made.write (documentPath baseDir action stamp) []).1 = .error f) :
      DocumentFault baseDir action stamp entries files (.file f)
  | encoding {gap : Text.Utf8.Gap} {made : FileTree}
      (hmade : Disk.ofTree.makeDirectories (documentDirectory baseDir) files = (.ok (), made))
      (hfile : (made.write (documentPath baseDir action stamp) []).1 = .ok ())
      (h : Text.Utf8.encode (Json.document entries) = .error gap) :
      DocumentFault baseDir action stamp entries files (.encoding gap)

section

variable {baseDir action stamp : Text} {entries : List Entry} {files : FileTree}

/-- A text is written if its file can be made and it has octets. -/
theorem writeText_ofTree (path : Path) (text : Text) (files : FileTree) :
    writeText Disk.ofTree path text files =
      (match (files.write path []).1, Text.Utf8.encode text with
        | .error f, _ => .error (.file f)
        | .ok (), .error gap => .error (.encoding gap)
        | .ok (), .ok _ => .ok (),
      (files.write path ((Text.Utf8.encode text).toOption.getD [])).2) := by
  unfold writeText
  simp only [bind, StateT.bind, Disk.ofTree]
  rw [FileTree.write_fst path [] ((Text.Utf8.encode text).toOption.getD [])]
  cases files.write path ((Text.Utf8.encode text).toOption.getD []) with
  | mk written files' => cases written <;> cases Text.Utf8.encode text <;> rfl

/-- A document is written into a directory that is made before. -/
theorem writeDocument_ofTree :
    writeDocument Disk.ofTree baseDir action stamp entries files =
      (match Disk.ofTree.makeDirectories (documentDirectory baseDir) files with
        | (.error f, made) => (.error (.file f), made)
        | (.ok (), made) =>
          let path := documentPath baseDir action stamp
          let (result, written) := writeText Disk.ofTree path (Json.document entries) made
          (result.map fun _ => [savedTo path], written)) := by
  unfold writeDocument
  simp only [bind, StateT.bind, ← documentPath.eq_def]
  cases Disk.ofTree.makeDirectories (documentDirectory baseDir) files with
  | mk result made =>
    cases result with
    | error f => rfl
    | ok =>
      simp only [StateT.bind]
      cases writeText Disk.ofTree (documentPath baseDir action stamp) (Json.document entries)
        made with
      | mk result written => cases result <;> rfl

/-- Each of the three ways to fail makes the end of the output fail. -/
theorem writeDocument_of_fault {f : Fault}
    (h : DocumentFault baseDir action stamp entries files f) :
    (writeDocument Disk.ofTree baseDir action stamp entries files).1 = .error f := by
  rw [writeDocument_ofTree]
  cases h with
  | directory h =>
    split
    · next hmade => simpa [hmade] using h
    · next hmade => simp [hmade] at h
  | file hmade h => simp [hmade, writeText_ofTree, h, Except.map]
  | encoding hmade hfile h => simp [hmade, writeText_ofTree, hfile, h, Except.map]

/-- A document is written with all its octets, or one of the faults keeps it
from being written. -/
theorem writeDocument_cases (baseDir action stamp : Text) (entries : List Entry)
    (files : FileTree) :
    (∃ f, DocumentFault baseDir action stamp entries files f) ∨
      ∃ made octets,
        Disk.ofTree.makeDirectories (documentDirectory baseDir) files = (.ok (), made) ∧
        (made.write (documentPath baseDir action stamp) octets).1 = .ok () ∧
        Text.Utf8.encode (Json.document entries) = .ok octets ∧
        writeDocument Disk.ofTree baseDir action stamp entries files =
          (.ok [savedTo (documentPath baseDir action stamp)],
            (made.write (documentPath baseDir action stamp) octets).2) := by
  rw [writeDocument_ofTree]
  split
  · next f made hmade => exact .inl ⟨_, .directory (by rw [hmade])⟩
  · next made hmade =>
    simp only [writeText_ofTree]
    cases hfile : (made.write (documentPath baseDir action stamp) []).1 with
    | error f => exact .inl ⟨_, .file hmade hfile⟩
    | ok =>
      cases hencode : Text.Utf8.encode (Json.document entries) with
      | error gap => exact .inl ⟨_, .encoding hmade hfile hencode⟩
      | ok octets =>
        exact .inr ⟨made, octets, hmade, (FileTree.write_fst _ _ _ _).trans hfile, rfl, rfl⟩

theorem staysAt_writeText (path : Path) (text : Text) :
    FileTree.StaysAt [path] (writeText Disk.ofTree path text) := by
  refine (FileTree.staysAt_write _ _).bind fun written => ?_
  split <;> exact FileTree.staysAt_pure _

theorem staysAt_writeDocument (baseDir action stamp : Text) (entries : List Entry) :
    FileTree.StaysAt [documentPath baseDir action stamp]
      (writeDocument Disk.ofTree baseDir action stamp entries) := by
  refine ((FileTree.staysAt_makeDirectories _).mono (List.nil_subset _)).bind fun made => ?_
  cases made with
  | error f => exact FileTree.staysAt_pure _
  | ok =>
    refine (staysAt_writeText _ _).bind fun written => ?_
    cases written <;> exact FileTree.staysAt_pure _

end

end LuceneQuery.Output
