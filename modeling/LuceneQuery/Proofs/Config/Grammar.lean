import LuceneQuery.Config.Clause
import LuceneQuery.Proofs.Value.Mapping
import Mathlib.Data.List.Forall2

/-!
# The grammar of clauses

`IsClause` says which values of a configuration are clauses, and `Denotes` which
clause a value stands for.  Both name the keys of each kind and what each entry
may be, and look at nothing in any order.  A value is a clause if and only if it
stands for one (`isClause_iff_exists_denotes`).
-/

namespace LuceneQuery.Config

/-! ## Keys -/

/-- The keys that a clause of a kind may have. -/
def Kind.keys : Kind → List Text
  | .term => ["term", "fuzziness", "field", "operator", "boost"]
  | .phrase => ["phrase", "proximity", "field", "operator", "boost"]
  | .range => ["range", "field", "operator", "boost"]
  | .group => ["group", "field", "operator", "boost"]

/-- Whether a mapping has the key of one kind and no other, and no keys beyond
those of the kind. -/
structure HasKind (kind : Kind) (entries : Entries) : Prop where
  only : ∀ k : Kind, .str k.name ∈ entries.keys ↔ k = kind
  known : ∀ k ∈ entries.keys, ∃ name ∈ kind.keys, k = .str name

/-! ## Slots -/

/-- A field is nothing or a text, without the blanks at its ends. -/
inductive DenotesField : Option Value → Text → Prop where
  | none : DenotesField none []
  | text (s : Text) : DenotesField (some (.str s)) (Text.trim s)

/-- An operator is nothing or a name in any case, between any blanks. -/
inductive DenotesOperator : Option Value → Operator → Prop where
  | none : DenotesOperator none .optional
  | name {s : Text} {op : Operator} (h : Text.uppercase (Text.trim s) = op.name) :
      DenotesOperator (some (.str s)) op

/-- A weight is nothing or a number near to a finite double that is not below
zero. -/
inductive DenotesWeight : Option Value → Number → Prop where
  | none : DenotesWeight none defaultWeight
  | int {n : Int} (hfinite : (Double.ofInt n).isFinite = true)
      (hsign : (Double.ofInt n).isNegative = false) :
      DenotesWeight (some (.int n)) (.double (Double.ofInt n))
  | double {x : Double} (hfinite : x.isFinite = true) (hsign : x.isNegative = false) :
      DenotesWeight (some (.double x)) (.double x)

/-- The slots of a clause. -/
structure DenotesSlots (names : SlotNames) (entries : Entries) (slots : Slots) : Prop where
  field : DenotesField (entries.present? names.field) slots.field
  operator : DenotesOperator (entries.present? names.operator) slots.operator
  weight : DenotesWeight (entries.present? names.boost) slots.weight

/-! ## Leaves -/

/-- A word is a text, the digits of an integer that has not too many of them, or
the text of a double. -/
inductive DenotesWord : Value → Text → Prop where
  | str (s : Text) : DenotesWord (.str s) s
  | int {n : Int} (h : (Number.int n).isWritable = true) :
      DenotesWord (.int n) (.ofChars (Number.intText n))
  | double (x : Double) : DenotesWord (.double x) (.ofChars x.text)

/-- A distance is not there or an integer in its range.  Null is none. -/
inductive DenotesDistance (p : Int → Prop) : Option Value → Int → Prop where
  | none : DenotesDistance p none 0
  | int {n : Int} (h : p n) : DenotesDistance p (some (.int n)) n

/-- A bound is nothing or a word that is blank or a token. -/
inductive DenotesBound : Option Value → Value → Prop where
  | none : DenotesBound none .null
  | word {v : Value} {word : Text} (hword : DenotesWord v word)
      (h : Text.trim word = [] ∨ Text.hasBlank (Text.trim word) = false) :
      DenotesBound (some v) v

/-- The kind of a range is nothing or the exact name of one. -/
inductive DenotesRangeKind : Option Value → RangeKind → Prop where
  | none : DenotesRangeKind none .inclusive
  | name (kind : RangeKind) : DenotesRangeKind (some (.str kind.name)) kind

/-- The leaf under the key of its kind. -/
inductive DenotesLeaf (escape : Bool) (entries : Entries) : Kind → Leaf → Prop where
  | term {v : Value} {word : Text} {n : Int} (body : entries.get? "term" = some v)
      (hword : DenotesWord v word) (hne : Text.trim word ≠ [])
      (hblank : Text.hasBlank (Text.trim word) = false)
      (fuzziness : DenotesDistance (fun n => 0 ≤ n ∧ n ≤ 2) (entries.get? "fuzziness") n) :
      DenotesLeaf escape entries .term (.term (Text.trim word) escape n)
  | phrase {s : Text} {n : Int} (body : entries.get? "phrase" = some (.str s))
      (slop : DenotesDistance (fun n => 0 ≤ n) (entries.get? "proximity") n) :
      DenotesLeaf escape entries .phrase (.phrase s escape n)
  | range {bounds : Entries} {low high : Value} {kind : RangeKind}
      (body : entries.get? "range" = some (.map bounds))
      (known : ∀ k ∈ bounds.keys, k = .str "lower" ∨ k = .str "upper" ∨ k = .str "type")
      (lower : DenotesBound (bounds.present? "lower") low)
      (upper : DenotesBound (bounds.present? "upper") high)
      (type : DenotesRangeKind (bounds.present? "type") kind) :
      DenotesLeaf escape entries .range (.range low high escape kind)

/-! ## Clauses -/

/-- Whether a value stands for a clause, whose leaves are escaped or not. -/
inductive Denotes (escape : Bool) : Value → Clause → Prop where
  | leaf {kind : Kind} {entries : Entries} {slots : Slots} {l : Leaf}
      (hkind : HasKind kind entries) (hleaf : DenotesLeaf escape entries kind l)
      (hslots : DenotesSlots .ofClause entries slots) :
      Denotes escape (.map entries) (.leaf slots l)
  | group {entries : Entries} {items : List Value} {slots : Slots} {cs : List Clause}
      (hkind : HasKind .group entries) (body : entries.get? "group" = some (.list items))
      (hclauses : List.Forall₂ (Denotes escape) items cs)
      (hslots : DenotesSlots .ofClause entries slots) :
      Denotes escape (.map entries) (.query slots cs)

/-! ## Values that are clauses -/

/-- A field is nothing or a text. -/
def IsField (v : Option Value) : Prop := ∀ w ∈ v, ∃ s, w = .str s

/-- An operator is nothing or one of three names in any case, between any
blanks. -/
def IsOperator (v : Option Value) : Prop :=
  ∀ w ∈ v, ∃ s, w = .str s ∧
    (Text.uppercase (Text.trim s) = "OPTIONAL" ∨ Text.uppercase (Text.trim s) = "REQUIRED" ∨
      Text.uppercase (Text.trim s) = "PROHIBITED")

/-- A weight is nothing, a double or an integer; the double, or the one next to
the integer, is finite and not below zero. -/
def IsWeight (v : Option Value) : Prop :=
  ∀ w ∈ v, ∃ x : Double, (w = .double x ∨ ∃ n, w = .int n ∧ x = Double.ofInt n) ∧
    x.isFinite = true ∧ x.isNegative = false

/-- The entries that fill the slots of a clause. -/
structure HasSlots (entries : Entries) : Prop where
  field : IsField (entries.present? "field")
  operator : IsOperator (entries.present? "operator")
  weight : IsWeight (entries.present? "boost")

/-- A distance is not there or an integer in its range. -/
def IsDistance (p : Int → Prop) (v : Option Value) : Prop := ∀ w ∈ v, ∃ n, w = .int n ∧ p n

/-- A bound is nothing or a word that is blank or a token. -/
def IsBound (v : Option Value) : Prop :=
  ∀ w ∈ v, ∃ word, DenotesWord w word ∧
    (Text.trim word = [] ∨ Text.hasBlank (Text.trim word) = false)

/-- The kind of a range is nothing or one of two names. -/
def IsRangeKind (v : Option Value) : Prop := ∀ w ∈ v, w = .str "inclusive" ∨ w = .str "exclusive"

/-- Whether the entries of a mapping make a leaf of a kind. -/
inductive IsLeaf (entries : Entries) : Kind → Prop where
  | term {v : Value} {word : Text} (body : entries.get? "term" = some v)
      (hword : DenotesWord v word) (hne : Text.trim word ≠ [])
      (hblank : Text.hasBlank (Text.trim word) = false)
      (fuzziness : IsDistance (fun n => 0 ≤ n ∧ n ≤ 2) (entries.get? "fuzziness")) :
      IsLeaf entries .term
  | phrase {s : Text} (body : entries.get? "phrase" = some (.str s))
      (slop : IsDistance (fun n => 0 ≤ n) (entries.get? "proximity")) : IsLeaf entries .phrase
  | range {bounds : Entries} (body : entries.get? "range" = some (.map bounds))
      (known : ∀ k ∈ bounds.keys, k = .str "lower" ∨ k = .str "upper" ∨ k = .str "type")
      (lower : IsBound (bounds.present? "lower")) (upper : IsBound (bounds.present? "upper"))
      (type : IsRangeKind (bounds.present? "type")) : IsLeaf entries .range

/-- Whether a value is a clause. -/
inductive IsClause : Value → Prop where
  | leaf {kind : Kind} {entries : Entries} (hkind : HasKind kind entries)
      (hleaf : IsLeaf entries kind) (hslots : HasSlots entries) : IsClause (.map entries)
  | group {entries : Entries} {items : List Value} (hkind : HasKind .group entries)
      (body : entries.get? "group" = some (.list items)) (hitems : ∀ v ∈ items, IsClause v)
      (hslots : HasSlots entries) : IsClause (.map entries)

/-! ## What a clause stands for -/

/-- An entry that may be nothing stands for something. -/
theorem forall_mem_iff_exists {α : Type} {p : Value → Prop} {r : Option Value → α → Prop}
    {v : Option Value} (hnone : ∃ a, r none a) (hsome : ∀ w, p w ↔ ∃ a, r (some w) a) :
    (∀ w ∈ v, p w) ↔ ∃ a, r v a := by
  cases v with
  | none => exact iff_of_true (fun w hw => nomatch hw) hnone
  | some w =>
    simp only [Option.mem_some, forall_eq']
    exact hsome w

/-- What a field may be is what denotes one. -/
theorem isField_iff {v : Option Value} : IsField v ↔ ∃ field, DenotesField v field := by
  refine forall_mem_iff_exists ⟨_, .none⟩ fun w => ?_
  constructor
  · rintro ⟨s, rfl⟩
    exact ⟨_, .text s⟩
  · rintro ⟨_, h⟩
    cases h with
    | text s => exact ⟨s, rfl⟩

theorem isOperator_iff {v : Option Value} : IsOperator v ↔ ∃ op, DenotesOperator v op := by
  refine forall_mem_iff_exists ⟨_, .none⟩ fun w => ?_
  constructor
  · rintro ⟨s, rfl, h | h | h⟩
    · exact ⟨.optional, .name h⟩
    · exact ⟨.required, .name h⟩
    · exact ⟨.prohibited, .name h⟩
  · rintro ⟨op, h⟩
    cases h with
    | name h =>
      refine ⟨_, rfl, ?_⟩
      cases op with
      | optional => exact .inl h
      | required => exact .inr (.inl h)
      | prohibited => exact .inr (.inr h)

theorem isWeight_iff {v : Option Value} : IsWeight v ↔ ∃ weight, DenotesWeight v weight := by
  refine forall_mem_iff_exists ⟨_, .none⟩ fun w => ?_
  constructor
  · rintro ⟨x, rfl | ⟨n, rfl, rfl⟩, hfinite, hsign⟩
    · exact ⟨_, .double hfinite hsign⟩
    · exact ⟨_, .int hfinite hsign⟩
  · rintro ⟨_, h⟩
    cases h with
    | int hfinite hsign => exact ⟨_, .inr ⟨_, rfl, rfl⟩, hfinite, hsign⟩
    | double hfinite hsign => exact ⟨_, .inl rfl, hfinite, hsign⟩

/-- A mapping has slots if each of them denotes something. -/
theorem hasSlots_iff {entries : Entries} :
    HasSlots entries ↔ ∃ slots, DenotesSlots .ofClause entries slots := by
  constructor
  · intro h
    obtain ⟨field, hfield⟩ := isField_iff.1 h.field
    obtain ⟨operator, hoperator⟩ := isOperator_iff.1 h.operator
    obtain ⟨weight, hweight⟩ := isWeight_iff.1 h.weight
    exact ⟨⟨field, operator, weight⟩, hfield, hoperator, hweight⟩
  · rintro ⟨slots, h⟩
    exact ⟨isField_iff.2 ⟨_, h.field⟩, isOperator_iff.2 ⟨_, h.operator⟩,
      isWeight_iff.2 ⟨_, h.weight⟩⟩

theorem isDistance_iff {p : Int → Prop} {v : Option Value} :
    IsDistance p v ↔ ∃ n, DenotesDistance p v n := by
  refine forall_mem_iff_exists ⟨_, .none⟩ fun w => ?_
  constructor
  · rintro ⟨n, rfl, h⟩
    exact ⟨n, .int h⟩
  · rintro ⟨n, h⟩
    cases h with
    | int h => exact ⟨n, rfl, h⟩

theorem isBound_iff {v : Option Value} : IsBound v ↔ ∃ b, DenotesBound v b := by
  refine forall_mem_iff_exists ⟨_, .none⟩ fun w => ?_
  constructor
  · rintro ⟨word, hword, h⟩
    exact ⟨w, .word hword h⟩
  · rintro ⟨_, h⟩
    cases h with
    | word hword h => exact ⟨_, hword, h⟩

theorem isRangeKind_iff {v : Option Value} : IsRangeKind v ↔ ∃ kind, DenotesRangeKind v kind := by
  refine forall_mem_iff_exists ⟨_, .none⟩ fun w => ?_
  constructor
  · rintro (rfl | rfl)
    · exact ⟨_, .name .inclusive⟩
    · exact ⟨_, .name .exclusive⟩
  · rintro ⟨kind, h⟩
    cases kind with
    | inclusive =>
      cases h
      exact .inl rfl
    | exclusive =>
      cases h
      exact .inr rfl

/-- What a leaf may be is what denotes one, with any flag. -/
theorem isLeaf_iff {escape : Bool} {entries : Entries} {kind : Kind} :
    IsLeaf entries kind ↔ ∃ l, DenotesLeaf escape entries kind l := by
  constructor
  · intro h
    cases h with
    | term body hword hne hblank fuzziness =>
      obtain ⟨n, hn⟩ := isDistance_iff.1 fuzziness
      exact ⟨_, .term body hword hne hblank hn⟩
    | phrase body slop =>
      obtain ⟨n, hn⟩ := isDistance_iff.1 slop
      exact ⟨_, .phrase body hn⟩
    | range body known lower upper type =>
      obtain ⟨low, hlow⟩ := isBound_iff.1 lower
      obtain ⟨high, hhigh⟩ := isBound_iff.1 upper
      obtain ⟨kind, hkind⟩ := isRangeKind_iff.1 type
      exact ⟨_, .range body known hlow hhigh hkind⟩
  · rintro ⟨l, h⟩
    cases h with
    | term body hword hne hblank hn =>
      exact .term body hword hne hblank (isDistance_iff.2 ⟨_, hn⟩)
    | phrase body hn => exact .phrase body (isDistance_iff.2 ⟨_, hn⟩)
    | range body known lower upper type =>
      exact .range body known (isBound_iff.2 ⟨_, lower⟩) (isBound_iff.2 ⟨_, upper⟩)
        (isRangeKind_iff.2 ⟨_, type⟩)

/-- There are partners for a whole list if there is one for each item. -/
theorem exists_forall₂_iff {α β : Type} {r : α → β → Prop} {as : List α} :
    (∃ bs, List.Forall₂ r as bs) ↔ ∀ a ∈ as, ∃ b, r a b := by
  induction as with
  | nil => simp
  | cons a as ih =>
    rw [List.forall_mem_cons, ← ih]
    constructor
    · rintro ⟨bs, h⟩
      cases h with
      | cons hb hbs => exact ⟨⟨_, hb⟩, _, hbs⟩
    · rintro ⟨⟨b, hb⟩, bs, hbs⟩
      exact ⟨b :: bs, .cons hb hbs⟩

theorem exists_mem_of_forall₂ {α β : Type} {r : α → β → Prop} {as : List α} {bs : List β}
    (h : List.Forall₂ r as bs) {b : β} (hb : b ∈ bs) : ∃ a ∈ as, r a b := by
  induction h with
  | nil => cases hb
  | cons hab _ ih =>
    rcases List.mem_cons.1 hb with rfl | hb
    · exact ⟨_, List.mem_cons_self, hab⟩
    · obtain ⟨a, ha, hr⟩ := ih hb
      exact ⟨a, List.mem_cons_of_mem _ ha, hr⟩

/-- A value is a clause if and only if it stands for one. -/
theorem isClause_iff_exists_denotes {escape : Bool} {v : Value} :
    IsClause v ↔ ∃ c, Denotes escape v c := by
  constructor
  · intro h
    induction h with
    | leaf hkind hleaf hslots =>
      obtain ⟨l, hl⟩ := isLeaf_iff.1 hleaf
      obtain ⟨slots, hs⟩ := hasSlots_iff.1 hslots
      exact ⟨_, .leaf hkind hl hs⟩
    | group hkind body _ hslots ih =>
      obtain ⟨cs, hcs⟩ := exists_forall₂_iff.2 ih
      obtain ⟨slots, hs⟩ := hasSlots_iff.1 hslots
      exact ⟨_, .group hkind body hcs hs⟩
  · rintro ⟨c, h⟩
    induction v using Value.groupInduction generalizing c with
    | scalar _ | list _ | pair _ _ | set _ => cases h
    | map entries ih =>
      cases h with
      | leaf hkind hleaf hslots =>
        exact .leaf hkind (isLeaf_iff.2 ⟨_, hleaf⟩) (hasSlots_iff.2 ⟨_, hslots⟩)
      | group hkind body hcs hslots =>
        refine .group hkind body (fun v hv => ?_) (hasSlots_iff.2 ⟨_, hslots⟩)
        obtain ⟨c, hc⟩ := exists_forall₂_iff.1 ⟨_, hcs⟩ v hv
        exact ih _ _ (Entries.mem_of_get?_eq_some body) v hv c hc

end LuceneQuery.Config
