import LuceneQuery.Proofs.Clause.Grouping
import LuceneQuery.Proofs.Config.EscapeFlag
import LuceneQuery.Proofs.Config.WellFormed

/-!
# Groups in a configuration

If a configuration asks for escaping, no term, phrase or bound in it can make or hide a
group: the bare parentheses in the text of a query are those of its groups
(`bare_parentheses_are_of_groups`).  Escaping is for what clauses are made of and not for
the names of fields, which are written as they are.  So this is shown of configurations
with fields that a reader skips, and a field that it does not skip can add or hide
parentheses (`field_name_is_not_escaped`).
-/

namespace LuceneQuery.Config

open Glyph Scanner

/-- In the text of each query of a configuration that asks for escaping, and in which a
reader skips all fields that are written, the bare parentheses are exactly those of
groups.  They are balanced.  There is a pair for each query in it that is not empty, and
one more if the query itself is not empty and has a slot filled. -/
theorem bare_parentheses_are_of_groups {root : Entries} {s : Settings}
    (h : Settings.read root = .ok s) (hescape : s.escape = true)
    (hfields : ∀ q ∈ s.queries, q.query.SkipsFields) :
    ∀ q ∈ s.queries,
      q.query.glyphs.map char = q.query.text ∧
      outside.scan q.query.text = q.query.glyphs.map step ∧
      ∃ w : DyckWord, bareParentheses q.query.text = w.toList ∧
        w.semilength = q.query.inner.countP Clause.isGroup +
          if q.query.isGroup = true ∧ q.query.slots.isFilled = true then 1 else 0 := by
  intro q hq
  have hescaped := (Settings.everyLeafEscaped_of_read h).2 q hq
  have hwellFormed := wellFormed_of_readQueries (Settings.read_eq_ok_iff.1 h).queries q hq
  have hevery : q.query.Every Slots.WellFormed fun l => l.isEscaped = true :=
    (hwellFormed.and hescaped).mono (fun _ hs => hs.1) fun _ hl => hl.2.trans hescape
  have hstand := Clause.standOut_glyphs hevery (hfields q hq)
  obtain ⟨w, hw, hcount⟩ := q.query.pairs_glyphs
  have hchars := q.query.map_char_glyphs
  refine ⟨hchars, hchars ▸ hstand.2, w, ?_, hcount⟩
  rw [← hchars, hstand.bareParentheses_eq, hw]

/-- A configuration with parentheses and quotes in a term, in a phrase, in a bound, in a
field where a backslash takes it, and in the field of a group that is empty. -/
def parenthesizedRoot : Entries :=
  [(.str "render", .map [(.str "escape", .bool true)]),
    (.str "queries", .list [.map [(.str "FIELD", .str "title"), (.str "clauses",
      .list [.map [(.str "term", .str "a("), (.str "field", .str "b\\(")],
        .map [(.str "operator", .str "required"), (.str "group",
          .list [.map [(.str "phrase", .str "c\")")],
            .map [(.str "range", .map [(.str "lower", .str ")d")])]])],
        .map [(.str "field", .str "e("), (.str "group", .list [])]])]])]

theorem two_pairs_of_parenthesized_root :
    ∃ s, Settings.read parenthesizedRoot = .ok s ∧ s.escape = true ∧
      (∀ q ∈ s.queries, q.query.SkipsFields) ∧
      s.queries.map (·.query.text) =
        [("title:(b\\(:a\\( +(\"c\\\")\" [\\)d TO *]))" : Text)] ∧
      ∀ q ∈ s.queries, ∃ w : DyckWord,
        bareParentheses q.query.text = w.toList ∧ w.semilength = 2 := by
  obtain ⟨s, h, hescape, hfields, htext, htwo⟩ : ∃ s, Settings.read parenthesizedRoot = .ok s ∧
      s.escape = true ∧ (∀ q ∈ s.queries, q.query.SkipsFields) ∧
      s.queries.map (·.query.text) =
        [("title:(b\\(:a\\( +(\"c\\\")\" [\\)d TO *]))" : Text)] ∧
      ∀ q ∈ s.queries, (q.query.inner.countP Clause.isGroup +
        if q.query.isGroup = true ∧ q.query.slots.isFilled = true then 1 else 0) = 2 :=
    ⟨_, rfl, rfl, by decide, by decide, by decide⟩
  refine ⟨s, h, hescape, hfields, htext, fun q hq => ?_⟩
  obtain ⟨-, -, w, hw, hcount⟩ := bare_parentheses_are_of_groups h hescape hfields q hq
  exact ⟨w, hw, hcount.trans (htwo q hq)⟩

/-- A configuration with a parenthesis and with a quote in a field, and with a field of an
empty query. -/
def brokenFieldsRoot : Entries :=
  [(.str "render", .map [(.str "escape", .bool true)]),
    (.str "queries", .list [
      .map [(.str "clauses", .list [.map [(.str "term", .str "x"), (.str "field", .str "a(")]])],
      .map [(.str "FIELD", .str "\""), (.str "clauses", .list [.map [(.str "term", .str "x")]])],
      .map [(.str "FIELD", .str "a"), (.str "clauses", .list [.map [(.str "group", .list [])]])]])]

/-- Although all leaves are escaped, a field can add a parenthesis that nothing closes, and
a field can hide those of its own group.  And an empty query has no parentheses, whatever
slots are filled. -/
theorem field_name_is_not_escaped :
    ∃ s, Settings.read brokenFieldsRoot = .ok s ∧ s.escape = true ∧
      s.queries.map (fun q => (q.query.text, q.query.slots.isFilled)) =
        [(("a(:x" : Text), false), (("\":(x)" : Text), true), ([], true)] ∧
      (¬∃ w : DyckWord, bareParentheses ("a(:x" : Text) = w.toList) ∧
      bareParentheses ("\":(x)" : Text) = [] := by
  refine ⟨_, rfl, rfl, by decide, ?_, by decide⟩
  rintro ⟨w, hw⟩
  have hcount := w.count_U_eq_count_D
  rw [← hw] at hcount
  exact absurd hcount (by decide)

end LuceneQuery.Config
