import LuceneQuery.Proofs.Clause.Difference
import LuceneQuery.Proofs.Store.Session

/-!
# Where a change shows

A step on a clause changes its cell and no other one.  So a clause that does
not reach it unfolds to the same tree as before, and a clause that reaches it,
on whatever paths, shows a difference if and only if the changed clause itself
does.

*Above the change.*  If the text of the changed clause inside a query is the
same as before, all texts are.  Otherwise it differs in one of the three ways
of `Differs`, and in this way differs the text of everything that reaches the
clause (`OneChanged.differs`).

*The change itself.*  A query on its own may stand without the parentheses
that it has inside another one.  A step changes the slots of a query or its
clauses and not both, and so its two texts change together
(`OneChanged.nestedText_eq_iff`).

*Numbers that cannot be written.*  A clause is rendered only if all numbers
below it can be written, so the rendering of a query with such a number
elsewhere stays refused whatever happens to its other clauses.
-/

namespace LuceneQuery

/-- A cell after a change.  A query keeps its slots or its clauses. -/
inductive Cell.Becomes : Cell → Cell → Prop where
  | leaf (slots slots' : Slots) (l l' : Leaf) : Becomes (.leaf slots l) (.leaf slots' l')
  | slots (slots slots' : Slots) (cs : List Handle) : Becomes (.query slots cs) (.query slots' cs)
  | clauses (slots : Slots) (cs cs' : List Handle) : Becomes (.query slots cs) (.query slots cs')

namespace Cell

theorem becomes_mapSlots (f : Slots → Slots) : ∀ cell : Cell, cell.Becomes (cell.mapSlots f)
  | .leaf slots l => .leaf slots (f slots) l l
  | .query slots cs => .slots slots (f slots) cs

theorem becomes_mapLeaf (f : Leaf → Leaf) : ∀ cell : Cell, cell.Becomes (cell.mapLeaf f)
  | .leaf slots l => .leaf slots slots l (f l)
  | .query slots cs => .slots slots slots cs

theorem becomes_extend (hs : List Handle) : ∀ cell : Cell, cell.Becomes (cell.extend hs)
  | .leaf slots l => .leaf slots slots l l
  | .query slots cs => .clauses slots cs (cs ++ hs)

end Cell

/-- A setting changes the slots of a cell or its leaf, and never its clauses. -/
theorem Store.Setting.becomes_of_apply {setting : Store.Setting} {change : Cell → Cell}
    (h : setting.apply = .ok change) (cell : Cell) : cell.Becomes (change cell) := by
  rcases cases_of_apply h with ⟨f, rfl, -⟩ | ⟨f, rfl, -⟩
  · exact cell.becomes_mapSlots f
  · exact cell.becomes_mapLeaf f

namespace Store

/-! ## Texts in a store -/

/-- The text of the clause of a handle inside a query. -/
def nestedText (s : Store) (h : Handle) : Text := (s.tree h).nestedText

/-- Whether the numbers of the clause of a handle can be written. -/
def isWritable (s : Store) (h : Handle) : Bool := (s.tree h).isWritable

/-- The text of the clause of a handle, if all its numbers can be written. -/
def rendering? (s : Store) (h : Handle) : Option Text := (s.tree h).rendering?

section

variable {s : Store} {h c target : Handle} {slots : Slots} {cs : List Handle}

theorem rendering?_eq (s : Store) (h : Handle) :
    s.rendering? h = if s.isWritable h then some (s.text h) else none := rfl

theorem isSome_rendering? (s : Store) (h : Handle) :
    (s.rendering? h).isSome = s.isWritable h := by
  rw [rendering?_eq]
  cases s.isWritable h <;> rfl

/-- The text of a query in another one is made of those of its clauses. -/
theorem Acyclic.nestedText_of_query (hs : s.Acyclic) (hcell : s.cell? h = some (.query slots cs)) :
    s.nestedText h = slots.groupText true (joinTexts (cs.map s.nestedText)) := by
  rw [nestedText, hs.tree_of_query hcell, Clause.nestedText_query, List.map_map]
  rfl

theorem Acyclic.text_of_query (hs : s.Acyclic) (hcell : s.cell? h = some (.query slots cs)) :
    s.text h = slots.groupText false (joinTexts (cs.map s.nestedText)) := by
  rw [text, hs.tree_of_query hcell, Clause.text_query, List.map_map]
  rfl

theorem Contains.exists_query (hc : s.Contains h c) :
    ∃ slots cs, s.cell? h = some (.query slots cs) ∧ c ∈ cs := by
  unfold Contains clauses at hc
  split at hc
  · next cell hcell =>
    cases cell with
    | leaf slots l => cases hc
    | query slots cs => exact ⟨slots, cs, hcell, hc⟩
  · cases hc

theorem contains_of_mem (hcell : s.cell? h = some (.query slots cs)) (hc : c ∈ cs) :
    s.Contains h c := by
  simpa [Contains, clauses, hcell, Cell.clauses] using hc

/-- What cannot be written inside a query keeps the query from being written. -/
theorem Acyclic.isWritable_of_reaches (hs : s.Acyclic) (hr : s.Reaches h target)
    (hw : s.isWritable h = true) : s.isWritable target = true := by
  have hdown : ∀ {q c : Handle}, s.Contains q c → s.isWritable q = true →
      s.isWritable c = true := by
    intro q c hc hq
    obtain ⟨slots, cs, hcell, hmem⟩ := hc.exists_query
    rw [isWritable, hs.tree_of_query hcell, Clause.isWritable_query, List.all_map,
      List.all_eq_true] at hq
    exact hq c hmem
  induction hr with
  | single hc => exact hdown hc hw
  | tail _ hc ih => exact hdown hc ih

end

/-! ## Two stores that differ in one cell -/

/-- Two stores without cycles that agree in all cells but one. -/
structure OneChanged (o : Handle) (s s' : Store) : Prop where
  before : s.Acyclic
  after : s'.Acyclic
  agree : ∀ h, h ≠ o → s'.cell? h = s.cell? h

namespace OneChanged

variable {s s' : Store} {o h : Handle}

theorem contains (d : OneChanged o s s') {c : Handle} (hne : h ≠ o) (hc : s.Contains h c) :
    s'.Contains h c := by
  unfold Contains clauses at hc ⊢
  rwa [d.agree h hne]

/-- What reaches the changed clause reaches it in both stores. -/
theorem reaches (d : OneChanged o s s') (hr : s.Reaches h o) : s'.Reaches h o := by
  induction hr using Relation.TransGen.head_induction_on with
  | single hc =>
    refine (d.contains ?_ hc).reaches
    rintro rfl
    exact d.before _ hc.reaches
  | head hc hr ih =>
    refine (d.contains ?_ hc).trans_reaches ih
    rintro rfl
    exact d.before _ (hc.trans_reaches hr)

/-- A property of clauses that is put together from the slots and the properties
of the parts is the same in both stores, unless it passes through the changed
clause and differs there. -/
theorem map_tree_eq (d : OneChanged o s s') {α : Type} {φ : Clause → α}
    (hφ : ∀ slots cs cs', cs.map φ = cs'.map φ → φ (.query slots cs) = φ (.query slots cs')) :
    ∀ h, (h = o ∨ s.Reaches h o → φ (s'.tree o) = φ (s.tree o)) →
      φ (s'.tree h) = φ (s.tree h) := by
  intro h
  induction h using d.before.wellFounded.induction with
  | _ h ih =>
    intro ho
    by_cases hne : h = o
    · subst hne
      exact ho (Or.inl rfl)
    · have hagree := d.agree h hne
      cases hcell : s.cell? h with
      | none => rw [tree_of_none hcell, tree_of_none (hagree.trans hcell)]
      | some cell =>
        cases cell with
        | leaf slots l => rw [tree_of_leaf hcell, tree_of_leaf (hagree.trans hcell)]
        | query slots cs =>
          rw [d.before.tree_of_query hcell, d.after.tree_of_query (hagree.trans hcell)]
          apply hφ
          rw [List.map_map, List.map_map]
          refine List.map_congr_left fun c hc => ?_
          have hcont := contains_of_mem hcell hc
          refine ih c hcont fun hco => ho (Or.inr ?_)
          rcases hco with rfl | hco
          · exact hcont.reaches
          · exact hcont.trans_reaches hco

/-- What does not reach the changed clause is the same tree in both stores. -/
theorem tree_eq (d : OneChanged o s s') (hne : h ≠ o) (hr : ¬ s.Reaches h o) :
    s'.tree h = s.tree h := by
  have hid : ∀ (slots : Slots) (cs cs' : List Clause), cs.map id = cs'.map id →
      id (Clause.query slots cs) = id (Clause.query slots cs') := by
    intro slots cs cs' hcs
    simpa using hcs
  exact d.map_tree_eq (φ := id) hid h fun ho => absurd ho (not_or.2 ⟨hne, hr⟩)

/-- If the changed clause shows no difference inside a query, nothing does. -/
theorem nestedText_eq (d : OneChanged o s s') (ho : s'.nestedText o = s.nestedText o) (h : Handle) :
    s'.nestedText h = s.nestedText h := by
  refine d.map_tree_eq (φ := Clause.nestedText) ?_ h fun _ => ho
  intro slots cs cs' hcs
  rw [Clause.nestedText_query, Clause.nestedText_query, hcs]

theorem isWritable_eq (d : OneChanged o s s') (ho : s'.isWritable o = s.isWritable o)
    (h : Handle) : s'.isWritable h = s.isWritable h := by
  refine d.map_tree_eq (φ := Clause.isWritable) ?_ h fun _ => ho
  intro slots cs cs' hcs
  have hall : ∀ ds : List Clause, ds.all Clause.isWritable = (ds.map Clause.isWritable).all id := by
    intro ds
    rw [List.all_map]
    rfl
  rw [Clause.isWritable_query, Clause.isWritable_query, hall, hall, hcs]

/-! ### Above the change -/

/-- The body of a query that reaches the changed clause differs as its clauses
do. -/
theorem body_differs (d : OneChanged o s s') {r : Ordering} {slots : Slots} {cs : List Handle}
    (hcell : s.cell? h = some (.query slots cs)) (hr : s.Reaches h o)
    (hcs : ∀ c ∈ cs, c = o ∨ s.Reaches c o → Differs r (s.nestedText c) (s'.nestedText c)) :
    Differs r (joinTexts (cs.map s.nestedText)) (joinTexts (cs.map s'.nestedText)) := by
  apply joinTexts_differs
  · intro c hc
    by_cases hco : c = o ∨ s.Reaches c o
    · exact Or.inr (hcs c hc hco)
    · obtain ⟨hne, hnr⟩ := not_or.1 hco
      left
      rw [nestedText, nestedText, d.tree_eq hne hnr]
  · obtain ⟨c, hc, hco⟩ := reaches_iff.1 hr
    have hmem : c ∈ cs := by simpa [clauses, hcell, Cell.clauses] using hc
    exact ⟨c, hmem, hcs c hmem hco⟩

/-- What reaches the changed clause differs inside a query as this clause does. -/
theorem differs (d : OneChanged o s s') {r : Ordering}
    (ho : Differs r (s.nestedText o) (s'.nestedText o)) :
    ∀ h, h = o ∨ s.Reaches h o → Differs r (s.nestedText h) (s'.nestedText h) := by
  intro h
  induction h using d.before.wellFounded.induction with
  | _ h ih =>
    intro hho
    rcases hho with rfl | hr
    · exact ho
    · have hne : h ≠ o := by
        rintro rfl
        exact d.before _ hr
      obtain ⟨c, hc, -⟩ := reaches_iff.1 hr
      obtain ⟨slots, cs, hcell, -⟩ := Contains.exists_query hc
      rw [d.before.nestedText_of_query hcell,
        d.after.nestedText_of_query ((d.agree h hne).trans hcell)]
      exact (d.body_differs hcell hr fun c hc => ih c (contains_of_mem hcell hc)).groupText
        slots true

/-- A clause that reaches the changed one shows a difference on its own if and
only if the changed one does inside a query. -/
theorem text_eq_iff (d : OneChanged o s s') (hr : s.Reaches h o) :
    s'.text h = s.text h ↔ s'.nestedText o = s.nestedText o := by
  have hne : h ≠ o := by
    rintro rfl
    exact d.before _ hr
  obtain ⟨c, hc, -⟩ := reaches_iff.1 hr
  obtain ⟨slots, cs, hcell, -⟩ := Contains.exists_query hc
  rw [d.before.text_of_query hcell, d.after.text_of_query ((d.agree h hne).trans hcell)]
  constructor
  · intro htext
    by_contra ho
    obtain ⟨r, hdiff⟩ := Differs.of_ne (Ne.symm ho)
    have hbody := d.body_differs hcell hr fun c _ => d.differs hdiff c
    exact (hbody.groupText slots false).ne htext.symm
  · intro ho
    rw [List.map_congr_left fun c _ => d.nestedText_eq ho c]

/-! ### The change itself -/

/-- The two texts of the changed clause change together. -/
theorem nestedText_eq_iff (d : OneChanged o s s') {cell cell' : Cell}
    (hcell : s.cell? o = some cell) (hcell' : s'.cell? o = some cell')
    (hb : cell.Becomes cell') :
    s'.nestedText o = s.nestedText o ↔ s'.text o = s.text o := by
  cases hb with
  | leaf slots slots' l l' =>
    rw [nestedText, nestedText, text, text, tree_of_leaf hcell, tree_of_leaf hcell',
      Clause.nestedText_leaf, Clause.nestedText_leaf, Clause.text_leaf, Clause.text_leaf]
  | slots slots slots' cs =>
    have hcs : cs.map s'.nestedText = cs.map s.nestedText := by
      refine List.map_congr_left fun c hc => ?_
      have hcont := contains_of_mem hcell hc
      have hne : c ≠ o := by
        rintro rfl
        exact d.before _ hcont.reaches
      have hnr : ¬ s.Reaches c o := fun hr => d.before _ (hcont.trans_reaches hr)
      rw [nestedText, nestedText, d.tree_eq hne hnr]
    rw [d.before.nestedText_of_query hcell, d.after.nestedText_of_query hcell',
      d.before.text_of_query hcell, d.after.text_of_query hcell', hcs]
    exact Slots.groupText_true_eq_iff slots' slots _
  | clauses slots cs cs' =>
    rw [d.before.nestedText_of_query hcell, d.after.nestedText_of_query hcell',
      d.before.text_of_query hcell, d.after.text_of_query hcell',
      (slots.groupText_injective true).eq_iff, (slots.groupText_injective false).eq_iff]

/-! ### Renderings -/

/-- If the texts of a clause above the change and of the changed clause change
together, so do their renderings, as long as the upper one is rendered in one
of the stores. -/
theorem rendering?_ne_iff (d : OneChanged o s s') (hr : s.Reaches h o)
    (htext : s'.text h = s.text h ↔ s'.text o = s.text o) :
    s'.rendering? h ≠ s.rendering? h ↔
      s'.rendering? o ≠ s.rendering? o ∧
        ((s.rendering? h).isSome ∨ (s'.rendering? h).isSome) := by
  have hdown := d.before.isWritable_of_reaches hr
  have hdown' := d.after.isWritable_of_reaches (d.reaches hr)
  have hsame := d.isWritable_eq (h := h)
  rw [isSome_rendering?, isSome_rendering?]
  simp only [rendering?_eq]
  cases hw : s.isWritable h <;> cases hw' : s'.isWritable h <;>
    cases hwo : s.isWritable o <;> cases hwo' : s'.isWritable o <;> simp_all

end OneChanged

/-! ## Steps on a clause -/

/-- The clause that a step is on, if it is on one. -/
def Step.target? : Step → Option Handle
  | .create _ => none
  | .set h _ => some h
  | .assign h _ => some h
  | .add q _ => some q

/-- Whether a step has failed. -/
def Outcome.isFailure : Outcome → Bool
  | .done | .created _ => false
  | .refused _ | .notAdded _ => true

section

variable {s : Store} {x : Step} {o : Handle}

theorem Acyclic.step_eq_modify (hs : s.Acyclic) (hx : x.target? = some o) :
    ∃ f : Cell → Cell, (s.step x).store = s.modify o f ∧ ∀ cell : Cell, cell.Becomes (f cell) := by
  cases x with
  | create blueprint => cases hx
  | set h setting =>
    cases hx
    simp only [Store.step]
    split
    · next change hchange => exact ⟨change, rfl, Setting.becomes_of_apply hchange⟩
    · exact ⟨Cell.mapLeaf id, (modify_eq_self fun cell _ => by cases cell <;> rfl).symm,
        Cell.becomes_mapLeaf id⟩
  | assign h assignment =>
    cases hx
    exact ⟨Cell.mapLeaf assignment.apply, rfl, Cell.becomes_mapLeaf _⟩
  | add q addends =>
    cases hx
    exact ⟨Cell.extend (s.accepted o addends), hs.add_store o addends, Cell.becomes_extend _⟩

/-- A step with a target changes one cell at most. -/
theorem Acyclic.oneChanged (hs : s.Acyclic) (hx : x.target? = some o) :
    OneChanged o s (s.step x).store := by
  refine ⟨hs, hs.step x, ?_⟩
  intro h hne
  obtain ⟨f, hf, -⟩ := hs.step_eq_modify hx
  rw [hf, cell?_modify_of_ne s f hne]

/-- A step shows in a clause on the top level exactly if it shows inside a query. -/
theorem Acyclic.step_nestedText_eq_iff (hs : s.Acyclic) (hx : x.target? = some o) :
    (s.step x).store.nestedText o = s.nestedText o ↔ (s.step x).store.text o = s.text o := by
  obtain ⟨f, hf, hbecomes⟩ := hs.step_eq_modify hx
  cases hcell : s.cell? o with
  | none =>
    have hcell' : (s.step x).store.cell? o = none := by
      rw [hf, cell?_modify_self, hcell]
      rfl
    rw [nestedText, nestedText, text, text, tree_of_none hcell, tree_of_none hcell']
    simp
  | some cell =>
    have hcell' : (s.step x).store.cell? o = some (f cell) := by
      rw [hf, cell?_modify_self, hcell]
      rfl
    exact (hs.oneChanged hx).nestedText_eq_iff hcell hcell' (hbecomes cell)

/-- A step that fails and adds nothing leaves the store as it was. -/
theorem Acyclic.step_eq_self (hs : s.Acyclic) (hx : x.target? = some o)
    (hfail : (s.step x).outcome.isFailure = true) (htaken : s.takenIn o x = []) :
    (s.step x).store = s := by
  cases x with
  | create blueprint => cases hx
  | set h setting =>
    simp only [Store.step] at hfail ⊢
    split at hfail
    · cases hfail
    · rfl
  | assign h assignment => cases hfail
  | add q addends =>
    cases hx
    simp only [Store.step, hs.add_store]
    apply modify_eq_self
    intro cell hcell
    cases cell with
    | leaf slots l => rfl
    | query slots cs =>
      have haccepted : s.accepted o addends = [] := by
        simpa [takenIn, hcell, Cell.isQuery] using htaken
      rw [haccepted, Cell.extend_nil]

end

/-- A step on a clause shows in what reaches the clause, if it shows in the
clause itself, and nowhere else.  A clause with a number that cannot be written
is not rendered, and a step that fails and adds nothing changes nothing. -/
theorem change_shows_exactly_above (session : List Step) {x : Step} {o : Handle}
    (hx : x.target? = some o) :
    let s := run {} session
    let s' := (s.step x).store
    (∀ h, h ≠ o → ¬ s.Reaches h o → s'.text h = s.text h ∧ s'.rendering? h = s.rendering? h) ∧
      (∀ h, s.Reaches h o → (s'.text h ≠ s.text h ↔ s'.text o ≠ s.text o)) ∧
      (∀ h, s.Reaches h o →
        (s'.rendering? h ≠ s.rendering? h ↔
          s'.rendering? o ≠ s.rendering? o ∧
            ((s.rendering? h).isSome ∨ (s'.rendering? h).isSome))) ∧
      ((s.step x).outcome.isFailure → s.takenIn o x = [] → s' = s) := by
  intro s s'
  have hs : s.Acyclic := acyclic_run session
  have d : OneChanged o s s' := hs.oneChanged hx
  have htext : ∀ h, s.Reaches h o → (s'.text h = s.text h ↔ s'.text o = s.text o) :=
    fun h hr => (d.text_eq_iff hr).trans (hs.step_nestedText_eq_iff hx)
  refine ⟨?_, ?_, ?_, ?_⟩
  · intro h hne hr
    have htree := d.tree_eq hne hr
    exact ⟨congrArg Clause.text htree, congrArg Clause.rendering? htree⟩
  · intro h hr
    exact not_congr (htext h hr)
  · intro h hr
    exact d.rendering?_ne_iff hr (htext h hr)
  · intro hfail htaken
    exact hs.step_eq_self hx hfail htaken

/-- A phrase that stands in a query directly and in another query in it, and a
phrase elsewhere. -/
def sharedSession : List Step :=
  [.create (.phrase [] [] true), .create (.query []), .create (.query []),
    .create (.phrase [] [] true), .add 1 [.clause 0], .add 2 [.clause 1, .clause 0]]

/-- An operator of the shared phrase shows in the outer query and not in the
other phrase. -/
theorem operator_of_shared_phrase_shows :
    let s := run {} sharedSession
    let x : Step := .set 0 (.operator .required)
    x.target? = some 0 ∧ s.Reaches 2 0 ∧ (s.step x).store.text 2 ≠ s.text 2 ∧
      ¬ s.Reaches 3 0 ∧ (s.step x).store.text 3 = s.text 3 := by
  intro s x
  have hs : s.Acyclic := acyclic_run sharedSession
  obtain ⟨helsewhere, habove, -⟩ :=
    change_shows_exactly_above sharedSession (x := x) (o := 0) rfl
  have hreach : s.Reaches 2 0 := hs.holds_iff.1 (by decide)
  have hnot : ¬ s.Reaches 3 0 := by
    rw [← hs.holds_iff]
    decide
  have htext : (s.step x).store.text 0 ≠ s.text 0 := by decide
  exact ⟨rfl, hreach, (habove 2 hreach).2 htext, hnot, (helsewhere 3 (by decide) hnot).1⟩

end Store

end LuceneQuery
