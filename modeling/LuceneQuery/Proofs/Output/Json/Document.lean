import LuceneQuery.Proofs.Output.Document
import LuceneQuery.Proofs.Output.Json.Parser
import LuceneQuery.Proofs.Text.Utf8

/-!
# Documents are read as what was written

Each part of a document is cut into the tokens of what it stands for, whatever tokens
there are before it (`CutInto`), and the parts put behind one another into theirs.  So the
document of rendered queries is read as the list of their objects (`decode_document`).

In a file it is the octets of the document, from which its characters are read
(`writeDocument_reads_back`).
-/

namespace LuceneQuery.Output

namespace Json

/-- The value of a string or null. -/
def nullableNode : Option Text → Node
  | some s => .string s
  | none => .literal .null

/-- The object of a rendered query. -/
def objectOf (e : Entry) : Node :=
  .object [("name", nullableNode e.name), ("query", .string e.query)]

/-! ## The tokens of a document -/

theorem cutInto_name (name : Option Text) :
    CutInto (nullable name ++ ",\n    \"query\": ")
      ((nullableNode name).tokens ++ [.comma, .string "query", .colon]) := by
  cases name with
  | none => exact fun tokens => rfl
  | some name => exact (cutInto_string name).append fun tokens => rfl

/-- The object of a query is cut into the tokens of its two members. -/
theorem cutInto_item (e : Entry) : CutInto (item e) (objectOf e).tokens := by
  have hopen : CutInto "  \x7b\n    \"name\": " [.openObject, .string "name", .colon] :=
    fun tokens => rfl
  have hclose : CutInto "\n  \x7d" [.closeObject] := fun tokens => rfl
  have hitem := ((hopen.append (cutInto_name e.name)).append (cutInto_string e.query)).append hclose
  rw [← List.append_assoc] at hitem
  simpa [item, objectOf, Node.tokens, commaSeparated] using hitem

/-- All further objects are cut into tokens, with a comma in front of each. -/
theorem cutInto_moreItems (entries : List Entry) :
    CutInto (moreItems entries) (commaLed (itemTokens (entries.map objectOf))) := by
  induction entries with
  | nil => exact fun tokens => rfl
  | cons e rest ih =>
    have hcomma : CutInto ",\n" [.comma] := fun tokens => rfl
    exact (hcomma.append (cutInto_item e)).append ih

theorem cutInto_document (entries : List Entry) :
    CutInto (document entries) (Node.array (entries.map objectOf)).tokens := by
  cases entries with
  | nil => exact fun tokens => rfl
  | cons e rest =>
    have hopen : CutInto "[\n" [.openArray] := fun tokens => rfl
    have hclose : CutInto "\n]" [.closeArray] := fun tokens => rfl
    rw [List.map_cons, Node.tokens, itemTokens, commaSeparated_cons]
    have h := ((hopen.append (cutInto_item e)).append (cutInto_moreItems rest)).append hclose
    simpa [document] using h

/-- A document is read as the list of its objects. -/
theorem decode_document (entries : List Entry) :
    decode (document entries) = some (.array (entries.map objectOf)) :=
  decode_eq_some_iff.2 (cutInto_document entries).tokens?

end Json

/-! ## Documents in files -/

section

variable {baseDir action stamp : Text} {entries : List Entry} {files : FileTree}

/-- A document that is written is in its file, character by character. -/
theorem writeDocument_reads_back (baseDir action stamp : Text) (entries : List Entry)
    (files : FileTree) :
    (∃ f, DocumentFault baseDir action stamp entries files f) ∨
      ∃ after written chars,
        writeDocument Disk.ofTree baseDir action stamp entries files =
          (.ok [savedTo (documentPath baseDir action stamp)], after) ∧
        after.read (documentPath baseDir action stamp) = .ok written ∧
        Text.Utf8.decode written = .ok chars ∧
        Text.ofChars chars = Json.document entries := by
  rcases writeDocument_cases baseDir action stamp entries files with hfault | hwritten
  · exact .inl hfault
  · obtain ⟨made, written, -, hwrite, hencode, hdocument⟩ := hwritten
    obtain ⟨chars, hdecode, hchars⟩ := Text.Utf8.exists_decode_of_encode hencode
    have hread := FileTree.read_of_write hwrite (.refl [] _) (by simp)
    exact .inr ⟨_, written, chars, hdocument, hread, hdecode, hchars⟩

/-- If no query holds a half, only the file system can keep a document from being
written. -/
theorem DocumentFault.file_of_holdsNoHalf (hentries : ∀ e ∈ entries, e.HoldsNoHalf) {f : Fault}
    (h : DocumentFault baseDir action stamp entries files f) : ∃ fault, f = .file fault := by
  cases h with
  | directory => exact ⟨_, rfl⟩
  | file => exact ⟨_, rfl⟩
  | encoding _ _ h => cases (encode_of_holdsNoHalf (holdsNoHalf_document hentries)).symm.trans h

end

end LuceneQuery.Output
