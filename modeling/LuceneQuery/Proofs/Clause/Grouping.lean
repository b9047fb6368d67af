import LuceneQuery.Proofs.Clause.Scanner

/-!
# The parentheses of groups

The *glyphs* of a clause are the characters of its text, where the parentheses that a
group stands in are marked.  They come in pairs: one for each query in the clause that is
not empty, and one for the clause itself if it is such a query and one of its slots is
filled (`Clause.pairs_glyphs`).

If a reader skips the labels of all fields that are written, and all leaves are escaped,
then the parentheses that it finds bare are exactly the marked ones
(`Clause.standOut_glyphs`).
-/

namespace LuceneQuery

/-- A character, marked with its step if it is a parenthesis of a group. -/
structure Glyph where
  /-- The character. -/
  char : CodePoint
  /-- The step of a parenthesis of a group. -/
  step : Option DyckStep
  deriving DecidableEq

namespace Glyph

/-- The opening parenthesis of a group. -/
def opening : Glyph := ⟨.char '(', some .U⟩

/-- The closing parenthesis of a group. -/
def closing : Glyph := ⟨.char ')', some .D⟩

/-- A text without a parenthesis of a group. -/
def plain (t : Text) : List Glyph := t.map (⟨·, none⟩)

/-- The glyphs that are not empty, with a space between them. -/
def join : List (List Glyph) → List Glyph
  | [] => []
  | x :: rest =>
    if join rest = [] then x else if x = [] then join rest else x ++ plain " " ++ join rest

end Glyph

open Glyph Scanner

/-- The glyphs of a group in its slots, nested in another one or not. -/
def Slots.groupGlyphs (s : Slots) (nested : Bool) (body : List Glyph) : List Glyph :=
  if body = [] then []
  else if nested || s.isFilled then
    plain s.before ++ opening :: (body ++ closing :: plain s.after)
  else body

namespace Clause

mutual

/-- The glyphs of a clause inside a query. -/
def nestedGlyphs : Clause → List Glyph
  | .leaf s l => plain (s.leafText l)
  | .query s cs => s.groupGlyphs true (join (nestedGlyphsOf cs))

/-- The glyphs of the clauses of a query. -/
def nestedGlyphsOf : List Clause → List (List Glyph)
  | [] => []
  | c :: rest => c.nestedGlyphs :: nestedGlyphsOf rest

end

/-- The glyphs of a clause on its own. -/
def glyphs : Clause → List Glyph
  | .leaf s l => plain (s.leafText l)
  | .query s cs => s.groupGlyphs false (join (nestedGlyphsOf cs))

mutual

/-- The clauses in a clause, at any depth. -/
def inner : Clause → List Clause
  | .leaf .. => []
  | .query _ cs => innerOf cs

/-- Some clauses with the clauses in them. -/
def innerOf : List Clause → List Clause
  | [] => []
  | c :: rest => c :: (c.inner ++ innerOf rest)

end

/-- Whether a clause is a query that is not empty. -/
def isGroup : Clause → Bool
  | .leaf .. => false
  | .query s cs => (Clause.query s cs).text != []

theorem nestedGlyphsOf_eq_map (cs : List Clause) : nestedGlyphsOf cs = cs.map nestedGlyphs := by
  induction cs with
  | nil => rw [nestedGlyphsOf, List.map_nil]
  | cons c cs ih => rw [nestedGlyphsOf, List.map_cons, ih]

theorem innerOf_eq_flatMap (cs : List Clause) : innerOf cs = cs.flatMap fun c => c :: c.inner := by
  induction cs with
  | nil => rw [innerOf, List.flatMap_nil]
  | cons c cs ih => rw [innerOf, List.flatMap_cons, List.cons_append, ih]

@[simp] theorem nestedGlyphs_leaf (s : Slots) (l : Leaf) :
    (Clause.leaf s l).nestedGlyphs = plain (s.leafText l) := by
  rw [nestedGlyphs]

@[simp] theorem nestedGlyphs_query (s : Slots) (cs : List Clause) :
    (Clause.query s cs).nestedGlyphs = s.groupGlyphs true (join (cs.map nestedGlyphs)) := by
  rw [nestedGlyphs, nestedGlyphsOf_eq_map]

@[simp] theorem glyphs_leaf (s : Slots) (l : Leaf) :
    (Clause.leaf s l).glyphs = plain (s.leafText l) := rfl

@[simp] theorem glyphs_query (s : Slots) (cs : List Clause) :
    (Clause.query s cs).glyphs = s.groupGlyphs false (join (cs.map nestedGlyphs)) := by
  rw [glyphs, nestedGlyphsOf_eq_map]

@[simp] theorem inner_leaf (s : Slots) (l : Leaf) : (Clause.leaf s l).inner = [] := by
  rw [inner]

@[simp] theorem inner_query (s : Slots) (cs : List Clause) :
    (Clause.query s cs).inner = cs.flatMap fun c => c :: c.inner := by
  rw [inner, innerOf_eq_flatMap]

end Clause

/-! ## The text of glyphs -/

@[simp] theorem Glyph.map_char_plain (t : Text) : (plain t).map char = t := by
  rw [plain, List.map_map]
  exact List.map_id t

@[simp] theorem Glyph.map_char_join (xs : List (List Glyph)) :
    (join xs).map char = joinTexts (xs.map (List.map char)) := by
  induction xs with
  | nil => rfl
  | cons x xs ih =>
    rw [join, List.map_cons, joinTexts_cons, ← ih, joinPair]
    simp only [List.map_eq_nil_iff]
    split
    · rfl
    · split
      · rfl
      · simp

/-- The glyphs of a group are its text. -/
@[simp] theorem Slots.map_char_groupGlyphs (s : Slots) (nested : Bool) (body : List Glyph) :
    (s.groupGlyphs nested body).map char = s.groupText nested (body.map char) := by
  rw [groupGlyphs, groupText]
  simp only [List.map_eq_nil_iff]
  split
  · rfl
  · split
    · simp [opening, closing]
    · rfl

namespace Clause

/-- The glyphs of a row are its text if those of its members are. -/
theorem map_char_join_map {cs : List Clause}
    (h : ∀ c ∈ cs, c.nestedGlyphs.map char = c.nestedText) :
    (join (cs.map nestedGlyphs)).map char = joinTexts (cs.map nestedText) := by
  rw [map_char_join, List.map_map]
  exact congrArg joinTexts (List.map_congr_left h)

/-- The glyphs of a clause in a query are its text. -/
theorem map_char_nestedGlyphs (c : Clause) : c.nestedGlyphs.map char = c.nestedText := by
  induction c using Clause.induction with
  | leaf s l => simp
  | query s cs ih =>
    rw [nestedGlyphs_query, Slots.map_char_groupGlyphs, map_char_join_map ih, nestedText_query]

/-- The glyphs of a clause are the characters of its text. -/
theorem map_char_glyphs (c : Clause) : c.glyphs.map char = c.text := by
  cases c with
  | leaf s l => simp
  | query s cs =>
    rw [glyphs_query, Slots.map_char_groupGlyphs,
      map_char_join_map fun c _ => map_char_nestedGlyphs c, text_query]

/-- A query is a group if something is left of it. -/
theorem isGroup_query_iff {s : Slots} {cs : List Clause} :
    (Clause.query s cs).isGroup = true ↔ join (cs.map nestedGlyphs) ≠ [] := by
  rw [isGroup, bne_iff_ne, text_query, Ne, Slots.groupText_eq_nil_iff,
    ← map_char_join_map fun c _ => map_char_nestedGlyphs c, List.map_eq_nil_iff]

end Clause

/-! ## Pairs -/

/-- Whether the parentheses of groups among some glyphs are balanced, with this number of
pairs. -/
def Pairs (n : Nat) (gs : List Glyph) : Prop :=
  ∃ w : DyckWord, gs.filterMap step = w.toList ∧ w.semilength = n

section

variable {m n : Nat} {xs ys : List Glyph}

/-- Words in a row have the pairs of both. -/
theorem Pairs.append (hx : Pairs m xs) (hy : Pairs n ys) : Pairs (m + n) (xs ++ ys) := by
  obtain ⟨v, hv, rfl⟩ := hx
  obtain ⟨w, hw, rfl⟩ := hy
  refine ⟨v + w, ?_, DyckWord.semilength_add⟩
  rw [List.filterMap_append, hv, hw]
  rfl

/-- There are no pairs in plain text. -/
theorem pairs_plain (t : Text) : Pairs 0 (plain t) := by
  refine ⟨0, ?_, rfl⟩
  rw [plain, List.filterMap_map]
  exact List.filterMap_eq_nil_iff.2 fun _ _ => rfl

theorem pairs_nil : Pairs 0 [] := pairs_plain []

theorem Pairs.eq_zero (h : Pairs n []) : n = 0 := by
  obtain ⟨w, hw, rfl⟩ := h
  rw [DyckWord.toList_eq_nil.1 hw.symm, DyckWord.semilength_zero]

/-- Parentheses around glyphs make one more pair. -/
theorem Pairs.nest (h : Pairs n xs) : Pairs (n + 1) (opening :: (xs ++ [closing])) := by
  obtain ⟨w, hw, rfl⟩ := h
  refine ⟨w.nest, ?_, DyckWord.semilength_nest⟩
  simp [opening, closing, hw, DyckWord.nest]

/-- A row has the pairs of its members. -/
theorem pairs_join {counts : Clause → Nat} {glyphs : Clause → List Glyph} {cs : List Clause}
    (h : ∀ c ∈ cs, Pairs (counts c) (glyphs c)) :
    Pairs (cs.map counts).sum (join (cs.map glyphs)) := by
  induction cs with
  | nil => exact pairs_nil
  | cons c cs ih =>
    obtain ⟨hc, hcs⟩ := List.forall_mem_cons.1 h
    have hrest := ih hcs
    rw [List.map_cons, List.map_cons, List.sum_cons, join]
    -- What is left out has no glyphs, and so no pairs.
    split
    · next hnil =>
      rw [hnil] at hrest
      rwa [hrest.eq_zero]
    · split
      · next hnil =>
        rw [hnil] at hc
        rwa [hc.eq_zero, Nat.zero_add]
      · exact (hc.append (pairs_plain " ")).append hrest

/-- A group that is nested or has a slot filled adds one pair, if it is not empty. -/
theorem pairs_groupGlyphs (s : Slots) (nested : Bool) (h : Pairs n xs) :
    Pairs (n + if xs ≠ [] ∧ (nested || s.isFilled) = true then 1 else 0)
      (s.groupGlyphs nested xs) := by
  unfold Slots.groupGlyphs
  by_cases hnil : xs = []
  · rw [hnil] at h
    rw [if_pos hnil, if_neg fun hand => hand.1 hnil, h.eq_zero]
    exact pairs_nil
  · rw [if_neg hnil]
    by_cases hmarked : (nested || s.isFilled) = true
    · rw [if_pos hmarked, if_pos ⟨hnil, hmarked⟩]
      have hgroup := ((pairs_plain s.before).append h.nest).append (pairs_plain s.after)
      simpa using hgroup
    · rw [if_neg hmarked, if_neg fun hand => hmarked hand.2]
      exact h

end

namespace Clause

/-- The queries that are not empty in a query and those in its clauses. -/
theorem countP_isGroup_inner (s : Slots) (cs : List Clause) :
    (Clause.query s cs).inner.countP isGroup =
      (cs.map fun c => (c :: c.inner).countP isGroup).sum := by
  rw [inner_query, List.countP_flatMap]
  rfl

/-- Inside a query there is one pair for each query that is not empty, which is the
clause itself or in it. -/
theorem pairs_nestedGlyphs (c : Clause) : Pairs ((c :: c.inner).countP isGroup) c.nestedGlyphs := by
  induction c using Clause.induction with
  | leaf s l =>
    rw [nestedGlyphs_leaf, inner_leaf]
    exact pairs_plain _
  | query s cs ih =>
    have hgroup := pairs_groupGlyphs s true (pairs_join ih)
    rw [nestedGlyphs_query, List.countP_cons, countP_isGroup_inner]
    simpa [isGroup_query_iff] using hgroup

/-- A clause on its own has one pair for each query in it that is not empty, and one more
if it is such a query and has a slot filled. -/
theorem pairs_glyphs (c : Clause) :
    Pairs (c.inner.countP isGroup + if c.isGroup = true ∧ c.slots.isFilled = true then 1 else 0)
      c.glyphs := by
  cases c with
  | leaf s l =>
    rw [glyphs_leaf, inner_leaf]
    exact pairs_plain _
  | query s cs =>
    have hjoin := pairs_join fun c (_ : c ∈ cs) => pairs_nestedGlyphs c
    have hgroup := pairs_groupGlyphs s false hjoin
    rw [glyphs_query, countP_isGroup_inner]
    simpa [isGroup_query_iff, slots] using hgroup

end Clause

/-! ## What a reader finds -/

/-- The scanner says something of each character. -/
theorem Scanner.length_scan (r : Scanner) (t : Text) : (r.scan t).length = t.length := by
  induction t generalizing r with
  | nil => rfl
  | cons c t ih => rw [scan, List.length_cons, List.length_cons, ih]

/-- Whether the parentheses of groups among some glyphs are those that a reader finds bare,
and no phrase is open behind the last glyph. -/
def StandOut (gs : List Glyph) : Prop :=
  outside.run (gs.map char) = outside ∧ outside.scan (gs.map char) = gs.map step

section

variable {xs ys : List Glyph}

/-- Where the marked parentheses stand out, they are the bare ones. -/
theorem StandOut.bareParentheses_eq (h : StandOut xs) :
    bareParentheses (xs.map char) = xs.filterMap step := by
  rw [bareParentheses, h.2, List.filterMap_map, Function.id_comp]

/-- What stands out in two texts stands out in both in a row. -/
theorem StandOut.append (hx : StandOut xs) (hy : StandOut ys) : StandOut (xs ++ ys) := by
  obtain ⟨hxrun, hxscan⟩ := hx
  obtain ⟨hyrun, hyscan⟩ := hy
  refine ⟨?_, ?_⟩
  · rw [List.map_append, run_append, hxrun, hyrun]
  · rw [List.map_append, scan_append, hxrun, hxscan, hyscan, List.map_append]

/-- Nothing stands out in a text that the scanner skips. -/
theorem standOut_plain {t : Text} (h : outside.Skips t) : StandOut (plain t) := by
  have hsteps : (plain t).map step = List.replicate t.length none := by
    rw [plain, List.map_map]
    exact List.map_const'
  refine ⟨by rw [map_char_plain, h.1], ?_⟩
  rw [map_char_plain, hsteps, List.eq_replicate_iff]
  exact ⟨length_scan _ t, h.2⟩

theorem standOut_nil : StandOut [] := standOut_plain (skips_nil _)

/-- Parentheses around a text stand out if the scanner is back outside behind it. -/
theorem StandOut.nest (h : StandOut xs) : StandOut (opening :: (xs ++ [closing])) := by
  have hopening : StandOut [opening] := ⟨rfl, rfl⟩
  have hclosing : StandOut [closing] := ⟨rfl, rfl⟩
  exact hopening.append (h.append hclosing)

/-- What stands out in texts stands out in them as a row. -/
theorem standOut_join {xs : List (List Glyph)} (h : ∀ x ∈ xs, StandOut x) :
    StandOut (join xs) := by
  induction xs with
  | nil => exact standOut_nil
  | cons x xs ih =>
    obtain ⟨hx, hxs⟩ := List.forall_mem_cons.1 h
    have hspace : outside.Skips " " := by decide
    rw [join]
    split
    · exact hx
    · split
      · exact ih hxs
      · exact (hx.append (standOut_plain hspace)).append (ih hxs)

/-- The parentheses of a group stand out if its field is skipped. -/
theorem standOut_groupGlyphs {s : Slots} (hs : s.WellFormed) (nested : Bool)
    (hfield : xs ≠ [] → outside.Skips (fieldLabel s.field)) (h : StandOut xs) :
    StandOut (s.groupGlyphs nested xs) := by
  unfold Slots.groupGlyphs
  split
  · exact standOut_nil
  · next hne =>
    split
    · have hbefore := standOut_plain (Slots.skips_before (hfield hne))
      have hafter := standOut_plain (Slots.skips_after hs)
      simpa using (hbefore.append h.nest).append hafter
    · exact h

end

namespace Clause

/-- Whether a reader skips the labels of all fields that are written in a clause. -/
def SkipsFields (c : Clause) : Prop :=
  ∀ d ∈ c :: c.inner, d.text ≠ [] → outside.Skips (fieldLabel d.slots.field)

instance (c : Clause) : Decidable c.SkipsFields :=
  inferInstanceAs (Decidable (∀ d ∈ c :: c.inner, _))

variable {c : Clause} {s : Slots} {l : Leaf} {cs : List Clause}

theorem SkipsFields.of_mem (h : (Clause.query s cs).SkipsFields) (hc : c ∈ cs) :
    c.SkipsFields := by
  intro d hd
  refine h d (List.mem_cons_of_mem _ ?_)
  rw [inner_query]
  exact List.mem_flatMap.2 ⟨c, hc, hd⟩

theorem SkipsFields.field (h : (Clause.query s cs).SkipsFields)
    (hne : join (cs.map nestedGlyphs) ≠ []) : outside.Skips (fieldLabel s.field) :=
  h (.query s cs) List.mem_cons_self (bne_iff_ne.1 (isGroup_query_iff.2 hne))

theorem standOut_leaf (hs : s.WellFormed) (hl : l.isEscaped = true)
    (hfield : (Clause.leaf s l).SkipsFields) : StandOut (plain (s.leafText l)) := by
  by_cases hnil : s.leafText l = []
  · rw [hnil]
    exact standOut_nil
  · have hlabel : outside.Skips (fieldLabel s.field) := hfield _ List.mem_cons_self hnil
    exact standOut_plain (Slots.skips_leafText hs hl hlabel)

/-- A reader finds bare exactly the parentheses of groups in a clause inside a query, if
it skips all fields in it and all leaves are escaped. -/
theorem standOut_nestedGlyphs (h : c.Every Slots.WellFormed fun l => l.isEscaped = true)
    (hfields : c.SkipsFields) : StandOut c.nestedGlyphs := by
  induction h with
  | leaf hs hl =>
    rw [nestedGlyphs_leaf]
    exact standOut_leaf hs hl hfields
  | query hs _ ih =>
    -- The query's own field counts only if the query is written, the others by induction.
    rw [nestedGlyphs_query]
    refine standOut_groupGlyphs hs true hfields.field (standOut_join ?_)
    exact List.forall_mem_map.2 fun c hc => ih c hc (hfields.of_mem hc)

theorem standOut_glyphs (h : c.Every Slots.WellFormed fun l => l.isEscaped = true)
    (hfields : c.SkipsFields) : StandOut c.glyphs := by
  cases h with
  | leaf hs hl => exact standOut_leaf hs hl hfields
  | query hs hcs =>
    rw [glyphs_query]
    refine standOut_groupGlyphs hs false hfields.field (standOut_join ?_)
    exact List.forall_mem_map.2 fun c hc => standOut_nestedGlyphs (hcs c hc) (hfields.of_mem hc)

end Clause

end LuceneQuery
