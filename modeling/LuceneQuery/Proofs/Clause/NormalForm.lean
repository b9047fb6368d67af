import LuceneQuery.Proofs.Clause.Element
import LuceneQuery.Proofs.Clause.WellFormed

/-!
# The normal form of clauses

The elements of a clause are what a reader of its text can see.  A leaf is one
element.  A query is one element around the elements of its clauses, and none if
it has no text.  The *normal form* of a clause on its own is the list of its
elements, or for a query with all slots empty, which stands without parentheses,
the list of the elements of its clauses.

If all leaves are escaped and well-formed and all fields are names, the text of a
clause is the joined text of its normal form (`Clause.text_eq_joinTexts`), and
all elements can be read (`Clause.readable_of_mem_elements`).  So two clauses
have the same text if and only if they have the same normal form
(`Clause.text_eq_iff`).
-/

namespace LuceneQuery

/-- The slots as they are written. -/
def Slots.marks (s : Slots) : Marks := ⟨s.operator, s.field, s.after⟩

namespace Leaf

/-- A bound as it is written: none if it is open, and its token otherwise. -/
def boundForm (v : Value) : Option Text :=
  if v.isNull ∨ Text.trim v.text = [] ∨ Text.trim v.text = openBound then none
  else some (Text.trim v.text)

/-- A leaf as it is written. -/
def form : Leaf → LeafForm
  | .term text _ fuzziness => .term text fuzziness
  | .phrase text _ slop => .phrase text slop
  | .range lower upper _ kind => .range (boundForm lower) (boundForm upper) kind

/-- Whether the special characters of a leaf are escaped. -/
def isEscaped : Leaf → Bool
  | .term _ escape _ => escape
  | .phrase _ escape _ => escape
  | .range _ _ escape _ => escape

end Leaf

namespace Clause

mutual

/-- The elements of a clause inside a query. -/
def elements : Clause → List Element
  | .leaf s l => [.leaf s.marks l.form]
  | .query s cs =>
    if (Clause.query s cs).text = [] then [] else [.query s.marks (elementsOf cs)]

/-- The elements of the clauses of a query. -/
def elementsOf : List Clause → List Element
  | [] => []
  | c :: rest => c.elements ++ elementsOf rest

end

/-- The elements of a clause on its own. -/
def normalForm : Clause → List Element
  | .leaf s l => (Clause.leaf s l).elements
  | .query s cs => if s.isFilled then (Clause.query s cs).elements else elementsOf cs

/-- Whether all fields in a clause are names and all leaves are escaped. -/
def IsPlain : Clause → Prop :=
  Every (fun s => ∀ c ∈ s.field, isNameChar c = true) (fun l => l.isEscaped = true)

/-- Whether all slots and leaves in a clause are what a modifier and a
constructor let through. -/
def WellFormed : Clause → Prop := Every Slots.WellFormed Leaf.WellFormed

theorem elementsOf_eq_flatMap : ∀ cs : List Clause, elementsOf cs = cs.flatMap elements
  | [] => by rw [elementsOf, List.flatMap_nil]
  | c :: cs => by rw [elementsOf, List.flatMap_cons, elementsOf_eq_flatMap cs]

end Clause

/-! ## Texts of elements -/

/-- The text of a bound with escapes is that of its form. -/
theorem Leaf.boundText_eq (v : Value) :
    boundText true v = LeafForm.boundText (boundForm v) := by
  unfold boundText boundForm
  by_cases hnull : v.isNull = true
  · simp [hnull, LeafForm.boundText]
  · by_cases hopen : Text.trim v.text = [] ∨ Text.trim v.text = openBound
    · simp [hnull, hopen, LeafForm.boundText]
    · simp [hnull, hopen, LeafForm.boundText]

/-- An escaped leaf is written as its form says. -/
theorem Slots.leafText_eq_around {l : Leaf} (hl : l.isEscaped = true) (s : Slots) :
    s.leafText l = s.marks.around l.form.text := by
  have hbody : l.body ++ l.distance = l.form.text := by
    cases l with
    | term text escape n =>
      cases hl
      rfl
    | phrase text escape n =>
      cases hl
      simp [Leaf.body, Leaf.distance, Leaf.form, LeafForm.text]
    | range lower upper escape kind =>
      cases hl
      simp only [Leaf.body, Leaf.distance, Leaf.form, LeafForm.text, Leaf.boundText_eq,
        List.append_assoc, List.append_nil]
  rw [Slots.leafText, Slots.before, ← hbody]
  simp only [Marks.around, marks, List.append_assoc]

/-- The text of a group that shows is its body in parentheses, with the marks around. -/
theorem Slots.groupText_eq_around {s : Slots} {nested : Bool} {body : Text} (hbody : body ≠ [])
    (hmarked : (nested || s.isFilled) = true) :
    s.groupText nested body = s.marks.around (.char '(' :: (body ++ [.char ')'])) := by
  rw [Slots.groupText_of_ne_nil hbody hmarked, Slots.before]
  simp only [Marks.around, marks, List.append_assoc, List.cons_append, List.nil_append]

/-! ## What can be read -/

/-- Well-formed slots with a plain field have readable marks. -/
theorem Slots.readable_marks {s : Slots} (hs : s.WellFormed)
    (hfield : ∀ c ∈ s.field, isNameChar c = true) : s.marks.Readable where
  field := hfield
  stopsAt_boost := stopsAt_boostSuffix s.weight
  boost := not_endsClause_of_mem_boostSuffix hs

/-- A word is a token. -/
theorem isToken_of_not_hasBlank {t : Text} (ht : t ≠ []) (hblank : Text.hasBlank t = false) :
    IsToken t :=
  ⟨ht, Text.ne_space_of_not_hasBlank hblank⟩

theorem Leaf.isToken_of_mem_boundForm {v : Value} (hv : v.IsBound) :
    ∀ t ∈ boundForm v, IsToken t := by
  intro t ht
  unfold boundForm at ht
  split at ht
  · cases ht
  · next hopen =>
    cases ht
    exact isToken_of_not_hasBlank (fun hnil => hopen (Or.inr (Or.inl hnil))) hv.hasBlank

theorem Leaf.readable_form {l : Leaf} (hl : l.WellFormed) : l.form.Readable := by
  cases l with
  | term text escape n => exact isToken_of_not_hasBlank hl.1 hl.2
  | phrase text escape n => exact trivial
  | range lower upper escape kind =>
    exact ⟨isToken_of_mem_boundForm hl.1, isToken_of_mem_boundForm hl.2⟩

/-! ## Numbers that can be written -/

/-- Whether the number in a leaf can be written. -/
def LeafForm.isWritable : LeafForm → Bool
  | .term _ fuzziness => (Number.int fuzziness).isWritable
  | .phrase _ slop => (Number.int slop).isWritable
  | .range .. => true

/-- Whether all numbers in an element can be written. -/
inductive Element.Writable : Element → Prop where
  | leaf {m : Marks} {form : LeafForm} (hform : form.isWritable = true) :
      Writable (.leaf m form)
  | query {m : Marks} {es : List Element} (hes : ∀ e ∈ es, Writable e) : Writable (.query m es)

/-- A range that has been made can always be written. -/
theorem Leaf.isWritable_form {l : Leaf} (hl : l.WellFormed) :
    l.form.isWritable = l.isWritable := by
  cases l with
  | term text escape n => rfl
  | phrase text escape n => rfl
  | range lower upper escape kind =>
    rw [Leaf.isWritable, hl.1.isWritable, hl.2.isWritable]
    rfl

/-! ## Clauses and their elements -/

theorem joinTexts_flatMap {α β : Type} {f : α → Text} {g : α → List β} {t : β → Text} :
    ∀ {cs : List α}, (∀ c ∈ cs, f c = joinTexts ((g c).map t)) →
      joinTexts (cs.map f) = joinTexts ((cs.flatMap g).map t)
  | [], _ => rfl
  | c :: cs, h => by
      rw [List.map_cons, joinTexts_cons, List.flatMap_cons, List.map_append, joinTexts_append,
        h c List.mem_cons_self,
        joinTexts_flatMap fun c' hc' => h c' (List.mem_cons_of_mem c hc')]

namespace Clause

section

variable {c d : Clause}

/-- A query has no text if and only if its clauses have none. -/
theorem text_query_eq_nil_iff {s : Slots} {cs : List Clause} :
    (Clause.query s cs).text = [] ↔ joinTexts (cs.map nestedText) = [] := by
  rw [text_query, Slots.groupText_eq_nil_iff]

/-- The elements of a well-formed clause with plain fields are readable. -/
theorem readable_of_mem_elements (hw : c.WellFormed) (hp : c.IsPlain) :
    ∀ e ∈ c.elements, e.Readable := by
  have h := Every.and hw hp
  clear hw hp
  induction h with
  | leaf hs hl =>
    intro e he
    rw [elements, List.mem_singleton] at he
    rw [he]
    exact .leaf (Slots.readable_marks hs.1 hs.2) (Leaf.readable_form hl.1)
  | query hs _ ih =>
    intro e he
    rw [elements] at he
    split at he
    · cases he
    · rw [List.mem_singleton] at he
      rw [he]
      refine .query (Slots.readable_marks hs.1 hs.2) ?_
      intro e' he'
      rw [elementsOf_eq_flatMap, List.mem_flatMap] at he'
      obtain ⟨c', hc', he'⟩ := he'
      exact ih c' hc' e' he'

/-- The text of a clause inside a query is that of its elements. -/
theorem nestedText_eq_joinTexts (hw : c.WellFormed) (hp : c.IsPlain) :
    c.nestedText = joinTexts (c.elements.map Element.text) := by
  have h := Every.and hw hp
  clear hw hp
  induction h with
  | leaf hs hl =>
    rw [nestedText_leaf, Slots.leafText_eq_around hl.2, elements]
    rfl
  | @query s cs hs _ ih =>
    have hbody := joinTexts_flatMap ih
    rw [nestedText_query, elements, elementsOf_eq_flatMap]
    split
    · next htext =>
      rw [text_query_eq_nil_iff.1 htext]
      rfl
    · next htext =>
      rw [Slots.groupText_eq_around (mt text_query_eq_nil_iff.2 htext) (Bool.true_or _), hbody]
      rw [List.map_singleton, Element.text_eq_around]
      rfl

theorem WellFormed.of_mem {s : Slots} {cs : List Clause} (hw : WellFormed (.query s cs)) :
    ∀ c ∈ cs, c.WellFormed := by
  cases hw with
  | query _ hcs => exact hcs

theorem IsPlain.of_mem {s : Slots} {cs : List Clause} (hp : IsPlain (.query s cs)) :
    ∀ c ∈ cs, c.IsPlain := by
  cases hp with
  | query _ hcs => exact hcs

/-- A query with marks is its own normal form. -/
theorem normalForm_of_isFilled {s : Slots} (hs : s.isFilled = true) (cs : List Clause) :
    normalForm (.query s cs) = elements (.query s cs) := by
  rw [normalForm, if_pos hs]

/-- A query without marks has the elements of its clauses for a normal form. -/
theorem normalForm_of_not_isFilled {s : Slots} (hs : ¬ s.isFilled = true) (cs : List Clause) :
    normalForm (.query s cs) = cs.flatMap elements := by
  rw [normalForm, if_neg hs, elementsOf_eq_flatMap]

theorem readable_of_mem_normalForm (hw : c.WellFormed) (hp : c.IsPlain) :
    ∀ e ∈ c.normalForm, e.Readable := by
  cases c with
  | leaf s l => exact readable_of_mem_elements hw hp
  | query s cs =>
    by_cases hs : s.isFilled = true
    · rw [normalForm_of_isFilled hs]
      exact readable_of_mem_elements hw hp
    · rw [normalForm_of_not_isFilled hs]
      intro e he
      obtain ⟨c', hc', he⟩ := List.mem_flatMap.1 he
      exact readable_of_mem_elements (hw.of_mem c' hc') (hp.of_mem c' hc') e he

/-- The text of a clause is that of its normal form. -/
theorem text_eq_joinTexts (hw : c.WellFormed) (hp : c.IsPlain) :
    c.text = joinTexts (c.normalForm.map Element.text) := by
  cases c with
  | leaf s l => exact nestedText_eq_joinTexts hw hp
  | query s cs =>
    by_cases hs : s.isFilled = true
    · rw [normalForm_of_isFilled hs, ← nestedText_eq_joinTexts hw hp, text_query,
        nestedText_query, Slots.groupText_of_isFilled hs]
    · rw [normalForm_of_not_isFilled hs, text_query,
        Slots.groupText_of_unmarked (Bool.eq_false_iff.2 hs)]
      exact joinTexts_flatMap fun c' hc' =>
        nestedText_eq_joinTexts (hw.of_mem c' hc') (hp.of_mem c' hc')

/-- Two clauses have the same text if and only if they have the same normal
form. -/
theorem text_eq_iff (hw : c.WellFormed) (hp : c.IsPlain) (hw' : d.WellFormed)
    (hp' : d.IsPlain) : c.text = d.text ↔ c.normalForm = d.normalForm := by
  rw [text_eq_joinTexts hw hp, text_eq_joinTexts hw' hp']
  constructor
  · exact Element.joinTexts_inj (readable_of_mem_normalForm hw hp)
      (readable_of_mem_normalForm hw' hp')
  · intro h
    rw [h]

/-! ## The normal form and its numbers -/

theorem elements_eq_nil (hw : c.WellFormed) (hp : c.IsPlain) (h : c.nestedText = []) :
    c.elements = [] := by
  rw [nestedText_eq_joinTexts hw hp, joinTexts_eq_nil_iff] at h
  rw [List.eq_nil_iff_forall_not_mem]
  intro e he
  have hne := (Element.starts_text (readable_of_mem_elements hw hp e he)).ne_nil
  exact hne (h e.text (List.mem_map_of_mem he))

/-- A clause can be written if and only if its elements can. -/
theorem isWritable_iff_elements (hw : c.WellFormed) (hp : c.IsPlain) :
    c.isWritable = true ↔ ∀ e ∈ c.elements, e.Writable := by
  induction c using Clause.induction with
  | leaf s l =>
    have hl : l.WellFormed := by
      cases hw with
      | leaf _ hl => exact hl
    rw [isWritable_leaf, elements, List.forall_mem_singleton, ← Leaf.isWritable_form hl]
    constructor
    · exact Element.Writable.leaf
    · intro h
      cases h with
      | leaf hform => exact hform
  | query s cs ih =>
    rw [isWritable_query, List.all_eq_true, elements]
    split
    · next htext =>
      refine iff_of_true ?_ (List.forall_mem_nil _)
      intro c' hc'
      have hnil : c'.nestedText = [] :=
        joinTexts_eq_nil_iff.1 (text_query_eq_nil_iff.1 htext) _ (List.mem_map_of_mem hc')
      rw [ih c' hc' (hw.of_mem c' hc') (hp.of_mem c' hc'),
        elements_eq_nil (hw.of_mem c' hc') (hp.of_mem c' hc') hnil]
      exact List.forall_mem_nil _
    · rw [List.forall_mem_singleton, elementsOf_eq_flatMap]
      have hquery : Element.Writable (.query s.marks (cs.flatMap elements)) ↔
          ∀ e ∈ cs.flatMap elements, e.Writable := by
        constructor
        · intro h
          cases h with
          | query hes => exact hes
        · exact Element.Writable.query
      rw [hquery, List.forall_mem_flatMap]
      exact forall₂_congr fun c' hc' => ih c' hc' (hw.of_mem c' hc') (hp.of_mem c' hc')

theorem isWritable_iff_normalForm (hw : c.WellFormed) (hp : c.IsPlain) :
    c.isWritable = true ↔ ∀ e ∈ c.normalForm, e.Writable := by
  cases c with
  | leaf s l => exact isWritable_iff_elements hw hp
  | query s cs =>
    by_cases hs : s.isFilled = true
    · rw [normalForm_of_isFilled hs]
      exact isWritable_iff_elements hw hp
    · rw [normalForm_of_not_isFilled hs, isWritable_query, List.all_eq_true,
        List.forall_mem_flatMap]
      exact forall₂_congr fun c' hc' =>
        isWritable_iff_elements (hw.of_mem c' hc') (hp.of_mem c' hc')

/-- Two clauses with the same normal form are rendered alike, or both are
refused. -/
theorem rendering?_eq_of_normalForm_eq (hw : c.WellFormed) (hp : c.IsPlain)
    (hw' : d.WellFormed) (hp' : d.IsPlain) (h : c.normalForm = d.normalForm) :
    c.rendering? = d.rendering? := by
  have hwritable : c.isWritable = d.isWritable := by
    rw [Bool.eq_iff_iff, isWritable_iff_normalForm hw hp, isWritable_iff_normalForm hw' hp', h]
  rw [rendering?, rendering?, hwritable, (text_eq_iff hw hp hw' hp').2 h]

end

end Clause

end LuceneQuery
