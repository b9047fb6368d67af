import LuceneQuery.Proofs.Clause.WellFormed
import LuceneQuery.Proofs.Config.Grammar
import LuceneQuery.Proofs.Config.Reading

/-!
# The reader and the grammar

Each reader gives a result if and only if the entries it looks at stand for that
result.  So the reader of clauses accepts exactly the values that stand for a
clause, at any depth of groups, and builds that clause (`readClause_eq_ok_iff`).
-/

namespace LuceneQuery.Config

/-! ## Readers of slots -/

/-- An operator is named in any case, with blanks around its name or without. -/
theorem ofName_eq_ok_iff {s : Text} {op : Operator} :
    Operator.ofName s = .ok op ↔ Text.uppercase (Text.trim s) = op.name := by
  have hfind : Operator.ofName? s = some op ↔ Text.uppercase (Text.trim s) = op.name := by
    constructor
    · intro h
      have hname := List.find?_some (p := fun o : Operator => o.name == _) h
      exact (beq_iff_eq.1 hname).symm
    · intro h
      simp only [Operator.ofName?, h]
      cases op <;> decide
  rw [← hfind]
  unfold Operator.ofName
  split
  · next found hfound => simp [hfound]
  · next hnone => simp [hnone]

/-- A double is a weight if it is finite and not below zero. -/
theorem weightOfNumber_double_eq_ok_iff {x : Double} {n : Number} :
    weightOfNumber (.double x) = .ok n ↔
      x.isFinite = true ∧ x.isNegative = false ∧ n = .double x := by
  constructor
  · intro h
    unfold weightOfNumber at h
    split at h
    · cases h
    · split at h
      · cases h
      · next hfinite =>
        split at h
        · cases h
        · next hsign =>
          cases h
          exact ⟨eq_true_of_ne_false hfinite, eq_false_of_ne_true hsign, rfl⟩
  · rintro ⟨hfinite, hsign, rfl⟩
    have hpasses : weightOfNumber (.double x) =
        if x.isFinite = false then .error (.argument .boost (.double x) .notFinite)
        else if x.isNegative then .error (.argument .boost (.double x) .negative)
        else .ok (.double x) := rfl
    rw [hpasses, hfinite, hsign]
    rfl

section

variable {key : KeyPath} {name : Text} {entries : Entries}

theorem atClause_eq_ok_iff {α : Type} {x : Except ClauseFault α} {a : α} :
    atClause key x = .ok a ↔ x = .ok a := by
  unfold atClause
  split <;> simp

/-- An entry that is not there stands for a default. -/
theorem optional_eq_ok_iff {α : Type} {r : Option Value → α → Prop}
    {read : Value → Except Fault α} {d a : α} {o : Option Value} (hnone : r none a ↔ d = a)
    (hsome : ∀ v, read v = .ok a ↔ r (some v) a) :
    (match o with
      | none => (.ok d : Except Fault α)
      | some v => read v) = .ok a ↔ r o a := by
  cases o with
  | none => simp [hnone]
  | some v => exact hsome v

/-- A double is written as such, or as an integer that a double is near to. -/
theorem doubleAt_eq_ok_iff {v : Value} {x : Double} :
    doubleAt key v = .ok x ↔
      (∃ n, v = .int n ∧ (Double.ofInt n).isFinite = true ∧ x = Double.ofInt n) ∨
        v = .double x := by
  constructor
  · intro h
    unfold doubleAt at h
    split at h
    · next n =>
      dsimp only at h
      split at h
      · next hfinite =>
        cases h
        exact .inl ⟨n, rfl, hfinite, rfl⟩
      · cases h
    · cases h
      exact .inr rfl
    · cases h
  · rintro (⟨n, rfl, hfinite, rfl⟩ | rfl)
    · exact if_pos hfinite
    · rfl

/-- A field is read exactly where the grammar has one. -/
theorem readField_eq_ok_iff {field : Text} :
    readField key name entries = .ok field ↔ DenotesField (entries.present? name) field := by
  refine optional_eq_ok_iff ⟨?_, ?_⟩ fun v => ?_
  · rintro ⟨⟩
    rfl
  · rintro rfl
    exact .none
  · simp only [bind_eq_ok_iff, stringAt_eq_ok_iff]
    constructor
    · rintro ⟨s, rfl, h⟩
      cases h
      exact .text s
    · intro h
      cases h with
      | text s => exact ⟨s, rfl, rfl⟩

theorem readOperator_eq_ok_iff {op : Operator} :
    readOperator key name entries = .ok op ↔ DenotesOperator (entries.present? name) op := by
  refine optional_eq_ok_iff ⟨?_, ?_⟩ fun v => ?_
  · rintro ⟨⟩
    rfl
  · rintro rfl
    exact .none
  · simp only [bind_eq_ok_iff, stringAt_eq_ok_iff, atClause_eq_ok_iff, ofName_eq_ok_iff]
    constructor
    · rintro ⟨s, rfl, h⟩
      exact .name h
    · intro h
      cases h with
      | name h => exact ⟨_, rfl, h⟩

theorem readBoost_eq_ok_iff {n : Number} :
    readBoost key name entries = .ok n ↔ DenotesWeight (entries.present? name) n := by
  refine optional_eq_ok_iff ⟨?_, ?_⟩ fun v => ?_
  · rintro ⟨⟩
    rfl
  · rintro rfl
    exact .none
  · simp only [bind_eq_ok_iff, doubleAt_eq_ok_iff, atClause_eq_ok_iff,
      weightOfNumber_double_eq_ok_iff]
    constructor
    · rintro ⟨x, ⟨m, rfl, -, rfl⟩ | rfl, hfinite, hsign, rfl⟩
      · exact .int hfinite hsign
      · exact .double hfinite hsign
    · intro h
      cases h with
      | int hfinite hsign => exact ⟨_, .inl ⟨_, rfl, hfinite, rfl⟩, hfinite, hsign, rfl⟩
      | double hfinite hsign => exact ⟨_, .inr rfl, hfinite, hsign, rfl⟩

/-- Slots are read one by one, and each where the grammar has it. -/
theorem readSlots_eq_ok_iff {names : SlotNames} {slots : Slots} :
    readSlots key names entries = .ok slots ↔ DenotesSlots names entries slots := by
  unfold readSlots
  simp only [bind_eq_ok_iff, readField_eq_ok_iff, readOperator_eq_ok_iff, readBoost_eq_ok_iff]
  constructor
  · rintro ⟨field, hfield, operator, hoperator, weight, hweight, h⟩
    cases h
    exact ⟨hfield, hoperator, hweight⟩
  · intro h
    exact ⟨_, h.field, _, h.operator, _, h.weight, rfl⟩

end

/-! ## Readers of leaves -/

/-- Of the integers, only those up to two are distances of a term. -/
theorem fuzzinessOf_int_eq_ok_iff {m n : Int} :
    fuzzinessOf (.int m) = .ok n ↔ (0 ≤ m ∧ m ≤ 2) ∧ n = m := by
  have hmax : (maxFuzziness : Int) = 2 := rfl
  simp only [fuzzinessOf, integerArgument, bind_eq_ok_iff, Except.ok.injEq, exists_eq_left', hmax]
  split
  · next h => simp [h, eq_comm]
  · next h => simp [h]

/-- All integers that are not below zero are distances of a phrase. -/
theorem slopOf_int_eq_ok_iff {m n : Int} : slopOf (.int m) = .ok n ↔ 0 ≤ m ∧ n = m := by
  simp only [slopOf, integerArgument, bind_eq_ok_iff, Except.ok.injEq, exists_eq_left']
  split
  · next h => simp [Int.not_le.2 h]
  · next h => simp [Int.not_lt.1 h, eq_comm]

/-- A text is a token if something is left when it is trimmed, in one word. -/
theorem tokenOf_str_eq_ok_iff {place s token : Text} :
    tokenOf place (.str s) = .ok token ↔
      Text.trim s ≠ [] ∧ Text.hasBlank (Text.trim s) = false ∧ Text.trim s = token := by
  simp only [tokenOf]
  split
  · next h => simp [h]
  · next hne =>
    split
    · next h => simp [h]
    · next h => simp [hne, h]

/-- A value but null is a bound of a range if its word is empty or without a blank, once it is
trimmed. -/
theorem boundOf_eq_ok_iff {v b : Value} (hv : v ≠ .null) :
    boundOf v = .ok b ↔
      ∃ word, wordOf v = .ok word ∧
        (Text.trim word = [] ∨ Text.hasBlank (Text.trim word) = false) ∧ v = b := by
  unfold boundOf
  split
  · exact absurd rfl hv
  · rw [bind_eq_ok_iff]
    refine exists_congr fun word => and_congr_right fun _ => ?_
    split
    · next hempty => simp [hempty]
    · next hne => simp [bind_eq_ok_iff, tokenOf_str_eq_ok_iff, hne]

section

variable {key : KeyPath} {name : Text} {entries : Entries}

/-- A distance that is missing counts as zero, and any other one is checked. -/
theorem readDistance_eq_ok_iff {check : Value → Except ClauseFault Int} {p : Int → Prop}
    (hcheck : ∀ m n, check (.int m) = .ok n ↔ p m ∧ n = m) {n : Int} :
    readDistance key name check entries = .ok n ↔ DenotesDistance p (entries.get? name) n := by
  refine optional_eq_ok_iff ⟨?_, ?_⟩ fun v => ?_
  · rintro ⟨⟩
    rfl
  · rintro rfl
    exact .none
  · simp only [bind_eq_ok_iff, intAt_eq_ok_iff, atClause_eq_ok_iff, hcheck]
    constructor
    · rintro ⟨m, rfl, h, rfl⟩
      exact .int h
    · intro h
      cases h with
      | int h => exact ⟨_, rfl, h, rfl⟩

theorem ne_null_of_scalarAt_eq_ok {v w : Value} (h : scalarAt key v = .ok w) : w ≠ .null := by
  rintro rfl
  unfold scalarAt at h
  split at h <;> cases h

/-- The scalars that have a word are those that the grammar gives one. -/
theorem scalarAt_wordOf_iff {v w : Value} {word : Text} :
    scalarAt key v = .ok w ∧ wordOf w = .ok word ↔ DenotesWord v word ∧ w = v := by
  constructor
  · rintro ⟨hscalar, hword⟩
    obtain ⟨hwritable, rfl⟩ := of_wordOf_eq_ok hword
    unfold scalarAt at hscalar
    split at hscalar
    · cases hscalar
      exact ⟨.str _, rfl⟩
    · cases hscalar
      exact ⟨.int hwritable, rfl⟩
    · cases hscalar
      exact ⟨.double _, rfl⟩
    · cases hscalar
  · rintro ⟨hword, rfl⟩
    cases hword with
    | str s => exact ⟨rfl, rfl⟩
    | int h => exact ⟨rfl, if_pos h⟩
    | double x => exact ⟨rfl, rfl⟩

/-- A term is read exactly where the grammar has one. -/
theorem readTerm_eq_ok_iff {escape : Bool} {v : Value} {l : Leaf}
    (hv : entries.get? "term" = some v) :
    readTerm escape key v entries = .ok l ↔ DenotesLeaf escape entries .term l := by
  unfold readTerm
  simp only [bind_eq_ok_iff, atClause_eq_ok_iff, tokenOf_str_eq_ok_iff,
    readDistance_eq_ok_iff fun _ _ => fuzzinessOf_int_eq_ok_iff]
  constructor
  · rintro ⟨w, hw, word, hword, token, ⟨hne, hblank, rfl⟩, n, hn, h⟩
    cases h
    exact .term hv (scalarAt_wordOf_iff.1 ⟨hw, hword⟩).1 hne hblank hn
  · intro h
    cases h with
    | term body hword hne hblank hn =>
      cases hv.symm.trans body
      obtain ⟨hw, hword⟩ := scalarAt_wordOf_iff.2 ⟨hword, rfl⟩
      exact ⟨v, hw, _, hword, _, ⟨hne, hblank, rfl⟩, _, hn, rfl⟩

theorem readPhrase_eq_ok_iff {escape : Bool} {v : Value} {l : Leaf}
    (hv : entries.get? "phrase" = some v) :
    readPhrase escape key v entries = .ok l ↔ DenotesLeaf escape entries .phrase l := by
  unfold readPhrase
  simp only [bind_eq_ok_iff, stringAt_eq_ok_iff,
    readDistance_eq_ok_iff fun _ _ => slopOf_int_eq_ok_iff]
  constructor
  · rintro ⟨s, rfl, n, hn, h⟩
    cases h
    exact .phrase hv hn
  · intro h
    cases h with
    | phrase body hn =>
      cases hv.symm.trans body
      exact ⟨_, rfl, _, hn, rfl⟩

/-- A bound is read as a scalar first and looked at as a word later, when the
other bound has been read too. -/
theorem readBound_boundOf_iff {b b' : Value} :
    readBound key name entries = .ok b ∧ boundOf b = .ok b' ↔
      DenotesBound (entries.present? name) b' ∧ b = b' := by
  unfold readBound
  cases entries.present? name with
  | none =>
    constructor
    · rintro ⟨h, hb⟩
      cases h
      cases hb
      exact ⟨.none, rfl⟩
    · rintro ⟨h, rfl⟩
      cases h
      exact ⟨rfl, rfl⟩
  | some v =>
    constructor
    · rintro ⟨hscalar, hb⟩
      obtain ⟨word, hword, h, rfl⟩ := (boundOf_eq_ok_iff (ne_null_of_scalarAt_eq_ok hscalar)).1 hb
      obtain ⟨hdenotes, rfl⟩ := scalarAt_wordOf_iff.1 ⟨hscalar, hword⟩
      exact ⟨.word hdenotes h, rfl⟩
    · rintro ⟨h, rfl⟩
      cases h with
      | word hdenotes h =>
        obtain ⟨hscalar, hword⟩ := scalarAt_wordOf_iff.2 ⟨hdenotes, rfl⟩
        exact ⟨hscalar,
          (boundOf_eq_ok_iff (ne_null_of_scalarAt_eq_ok hscalar)).2 ⟨_, hword, h, rfl⟩⟩

end

theorem rangeKindOf_eq_ok_iff {s : Text} {kind : RangeKind} :
    RangeKind.ofValue (.str s) = .ok kind ↔ s = kind.name := by
  have hfind : RangeKind.ofName? s = some kind ↔ s = kind.name := by
    constructor
    · intro h
      have hname := List.find?_some (p := fun k : RangeKind => k.name == _) h
      exact (beq_iff_eq.1 hname).symm
    · rintro rfl
      cases kind <;> decide
  rw [← hfind]
  simp only [RangeKind.ofValue, lookupReason?, RangeKind.ofValue?]
  split
  · next found hfound => simp [hfound]
  · next hnone => simp [hnone]

section

variable {key : KeyPath} {escape : Bool} {entries : Entries}

/-- The kind of a range is named, and is the inclusive one if it is not. -/
theorem rangeKindAt_iff {kind : RangeKind} :
    (∃ s, stringAt key (entries.getOr "type" (.str "inclusive")) = .ok s ∧ s = kind.name) ↔
      DenotesRangeKind (entries.present? "type") kind := by
  simp only [stringAt_eq_ok_iff, exists_eq_right, Entries.getOr]
  cases entries.present? "type" with
  | none =>
    constructor
    · intro h
      cases kind with
      | inclusive => exact .none
      | exclusive => exact absurd (Scalar.str.inj (Value.scalar.inj h)) (by decide)
    · intro h
      cases h
      rfl
  | some v =>
    constructor
    · intro h
      obtain rfl : v = .str kind.name := h
      exact .name kind
    · intro h
      cases h
      rfl

theorem checkRangeNames_iff :
    checkNames key none rangeNames entries = .ok () ↔
      ∀ k ∈ entries.keys, k = .str "lower" ∨ k = .str "upper" ∨ k = .str "type" := by
  rw [checkNames_eq_ok_iff (by decide)]
  simp [rangeNames]

theorem readRange_eq_ok_iff {v : Value} {l : Leaf} (hv : entries.get? "range" = some v) :
    readRange escape key v = .ok l ↔ DenotesLeaf escape entries .range l := by
  constructor
  · intro h
    unfold readRange at h
    split at h
    · next bounds =>
      simp only [Leaf.ofRange, bind_eq_ok_iff, atClause_eq_ok_iff, rangeKindOf_eq_ok_iff] at h
      obtain ⟨_, hknown, b, hb, b', hb', s, hs, low, hlow, high, hhigh, kind, hkind, h⟩ := h
      cases h
      exact .range hv (checkRangeNames_iff.1 hknown) (readBound_boundOf_iff.1 ⟨hb, hlow⟩).1
        (readBound_boundOf_iff.1 ⟨hb', hhigh⟩).1 (rangeKindAt_iff.1 ⟨s, hs, hkind⟩)
    · cases h
  · intro h
    cases h with
    | range body known lower upper type =>
      cases hv.symm.trans body
      obtain ⟨hb, hlow⟩ := readBound_boundOf_iff.2 ⟨lower, rfl⟩
      obtain ⟨hb', hhigh⟩ := readBound_boundOf_iff.2 ⟨upper, rfl⟩
      obtain ⟨s, hs, hkind⟩ := rangeKindAt_iff.2 type
      simp only [readRange, Leaf.ofRange, bind_eq_ok_iff, atClause_eq_ok_iff,
        rangeKindOf_eq_ok_iff]
      exact ⟨(), checkRangeNames_iff.2 known, _, hb, _, hb', s, hs, _, hlow, _, hhigh, _, hkind,
        rfl⟩

/-- A leaf is read by the reader of its kind. -/
theorem readLeaf_eq_ok_iff {kind : Kind} {l : Leaf} (hkind : kind ≠ .group)
    (hbody : (entries.get? kind.name).isSome) :
    readLeaf escape key kind entries = .ok l ↔ DenotesLeaf escape entries kind l := by
  obtain ⟨v, hv⟩ := Option.isSome_iff_exists.1 hbody
  simp only [readLeaf, hv, Option.getD_some]
  cases kind with
  | term => exact readTerm_eq_ok_iff hv
  | phrase => exact readPhrase_eq_ok_iff hv
  | range => exact readRange_eq_ok_iff hv
  | group => exact absurd rfl hkind

end

/-! ## Readers of clauses -/

section

variable {key : KeyPath} {escape : Bool} {entries : Entries}

theorem Kind.mem_all (kind : Kind) : kind ∈ all := by
  cases kind <;> decide

/-- A clause has a kind if it has the key of this kind and of no other. -/
theorem kindOf_eq_ok_iff {kind : Kind} :
    kindOf key entries = .ok kind ↔ ∀ k : Kind, .str k.name ∈ entries.keys ↔ k = kind := by
  simp only [← Entries.isSome_get?_iff]
  constructor
  · intro h k
    unfold kindOf at h
    split at h
    · next found hfound =>
      cases h
      have hmem : k ∈ [kind] ↔ k ∈ Kind.all ∧ (entries.get? k.name).isSome = true := by
        rw [← hfound, List.mem_filter]
      simpa [Kind.mem_all] using hmem.symm
    · cases h
  · intro h
    have hfilter : (Kind.all.filter fun k => (entries.get? k.name).isSome) = [kind] := by
      have hsame : ∀ k ∈ Kind.all, (entries.get? k.name).isSome = decide (k = kind) := by
        intro k _
        rw [Bool.eq_iff_iff, h, decide_eq_true_iff]
      rw [List.filter_congr hsame]
      cases kind <;> rfl
    unfold kindOf
    rw [hfilter]

theorem checkKeys_eq_ok_iff {kind : Kind} :
    checkKeys key kind entries = .ok () ↔
      ∀ k ∈ entries.keys, ∃ name ∈ kind.keys, k = .str name := by
  have hsubset : SlotNames.ofClause.toList ++ kind.distanceNames ++ [kind.name] ⊆ kind.keys := by
    cases kind <;> decide
  have hsuperset : kind.keys ⊆ SlotNames.ofClause.toList ++ kind.distanceNames ++ [kind.name] := by
    cases kind <;> decide
  unfold checkKeys
  rw [checkNames_eq_ok_iff (by cases kind <;> decide)]
  refine forall₂_congr fun k _ => exists_congr fun name => and_congr_left fun _ => ?_
  exact ⟨fun h => hsubset h, fun h => hsuperset h⟩

/-- The checks of the kind and of the keys say together what keys a clause may have. -/
theorem hasKind_iff {kind : Kind} :
    kindOf key entries = .ok kind ∧ checkKeys key kind entries = .ok () ↔
      HasKind kind entries := by
  rw [kindOf_eq_ok_iff, checkKeys_eq_ok_iff]
  exact ⟨fun h => ⟨h.1, h.2⟩, fun h => ⟨h.only, h.known⟩⟩

theorem HasKind.isSome_get? {kind : Kind} (h : HasKind kind entries) :
    (entries.get? kind.name).isSome = true :=
  Entries.isSome_get?_iff.2 ((h.only kind).2 rfl)

theorem readGroupOf_eq {v : Value} (hv : entries.get? "group" = some v) :
    readGroupOf escape key entries = readGroup escape (key.field "group") v := by
  induction entries with
  | nil => cases hv
  | cons entry entries ih =>
    obtain ⟨k, w⟩ := entry
    simp only [Entries.get?, Entries.find?] at hv
    rw [readGroupOf]
    split at hv
    · next hk =>
      cases hv
      exact if_pos hk
    · next hk =>
      rw [← ih hv]
      exact if_neg hk

/-- A clause without a group has no clauses in it. -/
theorem readGroupOf_of_none (hnone : entries.get? "group" = none) :
    readGroupOf escape key entries = .ok [] := by
  induction entries with
  | nil => rw [readGroupOf]
  | cons entry entries ih =>
    obtain ⟨k, w⟩ := entry
    simp only [Entries.get?, Entries.find?] at hnone
    rw [readGroupOf]
    split at hnone
    · cases hnone
    · next hk =>
      rw [← ih hnone]
      exact if_neg hk

theorem readGroup_eq_ok_iff {v : Value} {cs : List Clause} :
    readGroup escape key v = .ok cs ↔
      ∃ items, v = .list items ∧ readClauses escape key 0 items = .ok cs := by
  unfold readGroup
  split <;> simp_all

end

/-- The reader accepts exactly the values that stand for a clause, and builds
that clause. -/
theorem readClause_eq_ok_iff {escape : Bool} {key : KeyPath} {v : Value} {c : Clause} :
    readClause escape key v = .ok c ↔ Denotes escape v c := by
  induction v using Value.groupInduction generalizing key c with
  | scalar _ | list _ | pair _ _ | set _ =>
    constructor <;> intro h <;> cases h
  | map entries ih =>
    have hclauses : ∀ {items cs}, entries.get? "group" = some (.list items) →
        (readClauses escape (key.field "group") 0 items = .ok cs ↔
          List.Forall₂ (Denotes escape) items cs) := by
      intro items cs hitems
      rw [readClauses_eq_readItems]
      exact readItems_eq_ok_iff fun w hw j a =>
        ih _ _ (Entries.mem_of_get?_eq_some hitems) w hw
    rw [readClause]
    constructor
    · intro h
      simp only [bind_eq_ok_iff] at h
      obtain ⟨kind, hkind, _, hkeys, h⟩ := h
      have hhas := hasKind_iff.1 ⟨hkind, hkeys⟩
      split at h
      · next hgroup =>
        subst hgroup
        obtain ⟨v, hv⟩ := Option.isSome_iff_exists.1 hhas.isSome_get?
        simp only [bind_eq_ok_iff, readGroupOf_eq hv, readGroup_eq_ok_iff, readSlots_eq_ok_iff] at h
        obtain ⟨cs, ⟨items, rfl, hcs⟩, slots, hslots, h⟩ := h
        cases h
        exact .group hhas hv ((hclauses hv).1 hcs) hslots
      · next hleaf =>
        simp only [bind_eq_ok_iff, readLeaf_eq_ok_iff hleaf hhas.isSome_get?,
          readSlots_eq_ok_iff] at h
        obtain ⟨l, hl, slots, hslots, h⟩ := h
        cases h
        exact .leaf hhas hl hslots
    · intro h
      simp only [bind_eq_ok_iff]
      cases h with
      | leaf hhas hleaf hslots =>
        obtain ⟨hkind, hkeys⟩ := hasKind_iff.2 hhas
        refine ⟨_, hkind, (), hkeys, ?_⟩
        split
        · next hgroup =>
          subst hgroup
          cases hleaf
        · next hne =>
          simp only [bind_eq_ok_iff, readLeaf_eq_ok_iff hne hhas.isSome_get?, readSlots_eq_ok_iff]
          exact ⟨_, hleaf, _, hslots, rfl⟩
      | group hhas body hcs hslots =>
        obtain ⟨hkind, hkeys⟩ := hasKind_iff.2 hhas
        refine ⟨_, hkind, (), hkeys, ?_⟩
        simp only [if_true, bind_eq_ok_iff, readGroupOf_eq body, readGroup_eq_ok_iff,
          readSlots_eq_ok_iff]
        exact ⟨_, ⟨_, rfl, (hclauses body).2 hcs⟩, _, hslots, rfl⟩

/-- The reader accepts exactly the clauses, and what it builds is the clause that
the value stands for, at any place and any depth of groups. -/
theorem readClause_accepts_grammar {escape : Bool} {key : KeyPath} {v : Value} :
    ((∃ c, readClause escape key v = .ok c) ↔ IsClause v) ∧
      ∀ c, readClause escape key v = .ok c ↔ Denotes escape v c := by
  refine ⟨?_, fun c => readClause_eq_ok_iff⟩
  simp only [readClause_eq_ok_iff]
  exact isClause_iff_exists_denotes.symm

end LuceneQuery.Config
