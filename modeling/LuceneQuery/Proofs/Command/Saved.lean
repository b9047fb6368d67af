import LuceneQuery.Command.Render
import LuceneQuery.Proofs.Output.Json.Document

/-!
# The file holds what was rendered

The file sink keeps each query that is handed to it behind those before
(`kept_hand`), so it keeps all of them in order (`kept_handAll`).  What it writes at the end
is read as these queries again: the text of the document, and its file if the file system
lets it be written.
-/

namespace LuceneQuery.Command

open Output (Entry DocumentFault documentPath savedTo)

namespace Render

/-- Hands rendered queries to the file sink, one after another. -/
def handAll (p : Progress) (calls : List Entry) : Progress :=
  calls.foldl (fun p e => p.hand [.file] e) p

theorem kept_hand (p : Progress) (e : Entry) : (p.hand [.file] e).kept = p.kept ++ [e] := rfl

/-- The file sink keeps what it is handed, in the order in which it comes. -/
theorem kept_handAll (p : Progress) (calls : List Entry) :
    (handAll p calls).kept = p.kept ++ calls := by
  induction calls generalizing p with
  | nil => simp [handAll]
  | cons e rest ih =>
    have hrest := ih (p.hand [.file] e)
    rw [kept_hand, List.append_assoc] at hrest
    exact hrest

end Render

/-- However many queries are handed to the file sink, with or without names and with
whatever texts, its document is well-formed and is read as the list of their objects, in
the order in which they came.  The file holds this document, if nothing keeps it from being
written, and for texts of characters that can only be the file system. -/
theorem document_reads_back_as_rendered (calls : List Entry) (baseDir action stamp : Text)
    (files : FileTree) :
    let kept := (Render.handAll {} calls).kept
    let objects := Output.Json.Node.array (calls.map Output.Json.objectOf)
    Output.Json.decode (Output.Json.document kept) = some objects ∧
    ((∃ f, DocumentFault baseDir action stamp kept files f) ∨
      ∃ after written chars,
        Output.finish Disk.ofTree [.file] baseDir action stamp kept files =
          (.ok [savedTo (documentPath baseDir action stamp)], after) ∧
        after.read (documentPath baseDir action stamp) = .ok written ∧
        Text.Utf8.decode written = .ok chars ∧
        Output.Json.decode (Text.ofChars chars) = some objects) ∧
    ((∀ e ∈ calls, e.HoldsNoHalf) →
      ∀ f, DocumentFault baseDir action stamp kept files f → ∃ fault, f = .file fault) := by
  intro kept objects
  have hkept : kept = calls := Render.kept_handAll {} calls
  have hdecode : Output.Json.decode (Output.Json.document kept) = some objects := by
    rw [hkept]
    exact Output.Json.decode_document calls
  refine ⟨hdecode, ?_, fun hcalls f => DocumentFault.file_of_holdsNoHalf (hkept ▸ hcalls)⟩
  rcases Output.writeDocument_reads_back baseDir action stamp kept files with hfault | hwritten
  · exact .inl hfault
  · obtain ⟨after, written, chars, hdocument, hread, hchars, htext⟩ := hwritten
    exact .inr ⟨after, written, chars, hdocument, hread, hchars, htext ▸ hdecode⟩

/-- Queries without a name and with an empty one, and a text with characters of every kind:
quotes, line ends, controls and those beyond ASCII. -/
def awkward : List Entry := [⟨none, "a\"\\\n\x01\u2028é😀"⟩, ⟨some "", ""⟩]

theorem awkward_queries_read_back :
    (∀ e ∈ awkward, e.HoldsNoHalf) ∧
    ∃ after written chars,
      Output.finish Disk.ofTree [.file] "out" "render" "now" awkward {} =
        (.ok [savedTo (documentPath "out" "render" "now")], after) ∧
      after.read (documentPath "out" "render" "now") = .ok written ∧
      Text.Utf8.decode written = .ok chars ∧
      Output.Json.decode (Text.ofChars chars) =
        some (.array
          [.object [("name", .literal .null), ("query", .string "a\"\\\n\x01\u2028é😀")],
            .object [("name", .string ""), ("query", .string "")]]) := by
  have hcalls : ∀ e ∈ awkward, e.HoldsNoHalf := by decide +kernel
  obtain ⟨-, hfile, hfault⟩ := document_reads_back_as_rendered awkward "out" "render" "now" {}
  refine ⟨hcalls, hfile.resolve_left ?_⟩
  rintro ⟨f, h⟩
  obtain ⟨fault, rfl⟩ := hfault hcalls f h
  have hok : (Output.writeDocument Disk.ofTree "out" "render" "now" awkward {}).1.isOk = true := by
    decide +kernel
  have herror := Output.writeDocument_of_fault h
  rw [Render.kept_handAll, List.nil_append] at herror
  rw [herror] at hok
  cases hok

end LuceneQuery.Command
