import LuceneQuery.Proofs.Command.Delivery
import LuceneQuery.Proofs.Config.WellFormed
import LuceneQuery.Proofs.Store.Leafless
import Mathlib.Data.List.Basic

/-!
# Warnings of empty queries

Rendering warns of a query that it has rendered to nothing.  All queries of a
configuration are well-formed, so these are the queries without a leaf.  Whatever comes
of the output, the log of rendering has one warning for each of them, up to the first
query that cannot be written, and no other warnings (`filter_warning_run`).
-/

namespace LuceneQuery.Command

open Config (Settings LabelledQuery)
open Output (Sink)

namespace Render

/-- The warning that a query with its number has rendered to nothing. -/
def emptyWarning (total : Nat) (q : LabelledQuery × Nat) : Log.Record :=
  ⟨Log.warning, "Query " ++ toString q.2 ++ "/" ++ toString total ++ " ("
    ++ nameOr "unnamed" q.1.name ++ ") rendered empty"⟩

section

variable {total i : Nat} {sinks : List Sink} {p : Progress} {queries : List LabelledQuery}

/-- A well-formed query is warned of if it has no leaf. -/
theorem warned_eq {q : LabelledQuery × Nat} (h : q.1.query.WellFormed) :
    warned q.2 total q.1 = if q.1.query.hasLeaf then [] else [emptyWarning total q] := by
  unfold warned
  cases hleaf : q.1.query.hasLeaf with
  | true =>
    have hne : q.1.query.text ≠ [] := by simp [Clause.text_eq_nil_iff h, hleaf]
    rw [if_neg hne, if_pos rfl]
  | false =>
    rw [if_pos ((Clause.text_eq_nil_iff h).2 hleaf), if_neg Bool.false_ne_true]
    rfl

/-- Each query that is rendered adds its own warning, if it has one. -/
theorem filter_warning_renderFrom :
    (renderFrom sinks total i p queries).1.records.filter (·.level = Log.warning) =
      p.records.filter (·.level = Log.warning) ++
        ((queries.takeWhile isWritable).zipIdx i).flatMap fun q => warned q.2 total q.1 := by
  induction queries generalizing i p with
  | nil => simp [renderFrom]
  | cons q queries ih =>
    by_cases hq : isWritable q = true
    · have htold : (told sinks total (q, i)).filter (·.level = Log.warning) = _ :=
        filter_told (by decide)
      have hne : Log.info ≠ Log.warning := by decide
      rw [renderFrom_cons hq, ih, List.takeWhile_cons_of_pos hq]
      simp [List.filter_append, htold, hne]
    · have hannounced : [announced i total q].filter (·.level = Log.warning) = [] := rfl
      rw [renderFrom, if_neg hq, List.takeWhile_cons_of_neg hq]
      simp [Progress.log, List.filter_append, hannounced]

theorem level_of_mem_finish {baseDir stamp : Text} {entries : List Output.Entry}
    {files : FileTree} {saved : List Log.Record}
    (h : (Output.finish Disk.ofTree sinks baseDir action stamp entries files).1 = .ok saved) :
    ∀ r ∈ saved, r.level = Log.info := by
  unfold Output.finish at h
  split at h
  · rcases Output.writeDocument_cases baseDir action stamp entries files with
      ⟨f, hf⟩ | ⟨made, octets, -, -, -, hwrite⟩
    · cases h.symm.trans (Output.writeDocument_of_fault hf)
    · rw [hwrite] at h
      cases h
      exact List.forall_mem_singleton.2 rfl
  · cases h
    exact List.forall_mem_nil _

/-- However rendering ends, its end adds no warning. -/
theorem filter_warning_run_eq {settings : Settings} (hchecked : settings.output.check = .ok ())
    (stamp : Text) (files : FileTree) :
    (run Disk.ofTree settings stamp files).1.records.filter (·.level = Log.warning) =
      (renderFrom (sinksOf settings) settings.queries.length 1 {}
        settings.queries).1.records.filter (·.level = Log.warning) := by
  have hfailed (f : Output.Fault) : [failed f].filter (·.level = Log.warning) = [] := rfl
  have hdone (n : Nat) : [done n].filter (·.level = Log.warning) = [] := rfl
  rw [run_ofTree hchecked]
  split
  · next p f hfrom => simp [hfrom, Report.ofFault, Progress.log, List.filter_append, hfailed]
  · next p hfrom =>
    split
    · simp [hfrom, Report.ofFault, Progress.log, List.filter_append, hfailed]
    · next saved after hfinish =>
      have hsaved : saved.filter (·.level = Log.warning) = [] :=
        filter_of_forall_level (level_of_mem_finish (congrArg Prod.fst hfinish))
      simp [hfrom, Progress.log, List.filter_append, hsaved, hdone]

/-- Rendering a configuration warns of the queries without a leaf, up to the first query
that cannot be written, and of nothing else. -/
theorem filter_warning_run {root : Entries} {settings : Settings}
    (h : Settings.read root = .ok settings) (stamp : Text) (files : FileTree) :
    (run Disk.ofTree settings stamp files).1.records.filter (·.level = Log.warning) =
      ((settings.queries.takeWhile isWritable).zipIdx 1).flatMap fun q =>
        if q.1.query.hasLeaf then [] else [emptyWarning settings.queries.length q] := by
  have hread := Config.Settings.read_eq_ok_iff.1 h
  have hqueries := Config.wellFormed_of_readQueries hread.queries
  rw [filter_warning_run_eq hread.outputChecked, filter_warning_renderFrom, List.filter_nil,
    List.nil_append]
  refine List.flatMap_congr fun q hq => warned_eq (hqueries q.1 ?_)
  exact List.takeWhile_subset _ (List.fst_mem_of_mem_zipIdx hq)

end

end Render

/-- In a session without assignments a query is rendered to nothing if and only if it
reaches no leaf, and otherwise as one group inside a query, with no trace of the queries
in it that have no leaf.  Rendering a configuration warns of exactly the queries without
a leaf, up to the first query that cannot be written. -/
theorem empty_iff_leafless :
    (∀ {session : List Store.Step}, (∀ x ∈ session, x.isChecked = true) →
      ∀ {q : Handle} {slots : Slots} {cs : List Handle},
        (Store.run {} session).cell? q = some (.query slots cs) →
        (Store.run {} session).RendersByLeaves q slots cs) ∧
    ∀ {root : Entries} {settings : Settings}, Settings.read root = .ok settings →
      ∀ (stamp : Text) (files : FileTree),
        (Render.run Disk.ofTree settings stamp files).1.records.filter (·.level = Log.warning) =
          ((settings.queries.takeWhile Render.isWritable).zipIdx 1).flatMap fun q =>
            if q.1.query.hasLeaf then []
            else [Render.emptyWarning settings.queries.length q] :=
  ⟨fun hsession _ _ _ hq => Store.rendersByLeaves_run hsession hq,
    fun h stamp files => Render.filter_warning_run h stamp files⟩

/-- A query with all slots filled and no clause, and a query that holds it before a
term. -/
def hollowSession : List Store.Step :=
  [.create (.term (.str "a") [] true), .create (.query "f"), .set 1 (.operator .required),
    .set 1 (.boost (.int 2)), .create (.query "g"), .set 2 (.operator .prohibited),
    .add 2 [.clause 1, .clause 0]]

/-- A configuration with two queries, of which the second one has a group with no clause. -/
def hollowRoot : Entries :=
  [(.str "queries", .list [.map [(.str "clauses", .list [.map [(.str "term", .str "a")]])],
    .map [(.str "NAME", .str "n"), (.str "FIELD", .str "f"),
      (.str "clauses", .list [.map [(.str "group", .list [])]])]])]

theorem hollow_queries_are_empty :
    let s := Store.run {} hollowSession
    (∀ x ∈ hollowSession, x.isChecked = true) ∧ s.rendering? 1 = some [] ∧
      s.nestedText 2 = "-g:(a)" ∧
      ∃ settings, Settings.read hollowRoot = .ok settings ∧ ∀ stamp files,
        (Render.run Disk.ofTree settings stamp files).1.records.filter (·.level = Log.warning) =
          [⟨Log.warning, "Query 2/2 (n) rendered empty"⟩] := by
  intro s
  have hsession : ∀ x ∈ hollowSession, x.isChecked = true := by decide
  have hinner := empty_iff_leafless.1 hsession (q := 1) rfl
  have houter := empty_iff_leafless.1 hsession (q := 2) rfl
  have hnone : ¬s.ReachesLeaf 1 := by
    intro h
    obtain ⟨c, hc, -⟩ := Store.reachesLeaf_iff.1 h
    cases hc
  have hleaf : s.ReachesLeaf 2 :=
    Store.reachesLeaf_iff.2 ⟨0, List.mem_cons_of_mem 1 List.mem_cons_self, .inl ⟨_, _, rfl⟩⟩
  obtain ⟨settings, hread⟩ : ∃ settings, Settings.read hollowRoot = .ok settings := ⟨_, rfl⟩
  refine ⟨hsession, hinner.rendering.2 hnone, (houter.group hleaf).trans (by decide), settings,
    hread, fun stamp files => ?_⟩
  rw [empty_iff_leafless.2 hread]
  cases hread
  decide +kernel

end LuceneQuery.Command
