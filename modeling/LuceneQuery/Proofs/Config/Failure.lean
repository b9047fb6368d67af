import LuceneQuery.Proofs.Config.Acceptance

/-!
# Faults of readers

What a reader can find wrong with the value at a place.  `FaultOf key v f` says
that the fault `f` is one of the place `key`, or of an entry at or below it, and
that a refusal by a constructor stands behind the path `key` itself.  The two
faults that carry no path come from an integer in the value: one that no double
is near to, or one that has too many digits to be written.

There is one lemma for each reader.  The fault of a leaf or of a slot is one of
the mapping that holds it.
-/

namespace LuceneQuery

/-- Whether a clause is refused for one of its arguments or texts. -/
inductive ClauseFault.IsRefusal : ClauseFault → Prop where
  | argument (a : Argument) (v : Value) (reason : ArgumentReason) :
      IsRefusal (.argument a v reason)
  | format (s : Text) (reason : FormatReason) : IsRefusal (.format s reason)

/-- The message of a refusal starts with a word that says so. -/
theorem ClauseFault.IsRefusal.invalid_prefix_message {cf : ClauseFault} (h : cf.IsRefusal) :
    ("Invalid " : Text) <+: cf.message := by
  cases h with
  | argument a v reason =>
    simp only [message, List.append_assoc]
    exact List.prefix_append _ _
  | format s reason =>
    have hword : ("Invalid " : Text) <+: ("Invalid format " : Text) := by decide
    simp only [message, List.append_assoc]
    exact hword.trans (List.prefix_append _ _)

namespace Config

/-- The path of a field goes on behind that of its mapping. -/
theorem KeyPath.prefix_field (key : KeyPath) (name : Text) : key <+: key.field name := by
  rw [field, List.append_assoc]
  exact List.prefix_append _ _

/-- The path of an item goes on behind that of its list. -/
theorem KeyPath.prefix_item (key : KeyPath) (i : Nat) : key <+: key.item i := by
  simp only [item, List.append_assoc]
  exact List.prefix_append _ _

/-- What a reader can find wrong with a value at a place. -/
inductive FaultOf (key : KeyPath) (v : Value) : Fault → Prop where
  | wrongType {place : KeyPath} {expected : Expected} (h : key <+: place) :
      FaultOf key v (.wrongType place expected)
  | notOneKind {place : KeyPath} {kinds : List Text} (h : key <+: place) :
      FaultOf key v (.notOneKind place kinds)
  | unknownKeys {place : KeyPath} {kind : Option Text} {names : List Text} (h : key <+: place) :
      FaultOf key v (.unknownKeys place kind names)
  | clause {cf : ClauseFault} (h : cf.IsRefusal) : FaultOf key v (.clause key cf)
  | tooLarge (h : v.HasLarge) : FaultOf key v .tooLarge
  | tooManyDigits (h : v.HasLong) : FaultOf key v .tooManyDigits

/-- A fault of a part of a value is one of the value. -/
theorem FaultOf.mono {key : KeyPath} {u v : Value} {f : Fault} (h : FaultOf key u f)
    (huv : u.Within v) : FaultOf key v f := by
  cases h with
  | wrongType h => exact .wrongType h
  | notOneKind h => exact .notOneKind h
  | unknownKeys h => exact .unknownKeys h
  | clause h => exact .clause h
  | tooLarge h => exact .tooLarge (h.mono huv)
  | tooManyDigits h => exact .tooManyDigits (h.mono huv)

/-! ## Reports -/

/-- The families of faults. -/
inductive Family where
  /-- A value has the wrong type. -/
  | type
  /-- A value is out of place. -/
  | value
  /-- A number is out of range. -/
  | range

/-- The family of a fault. -/
def Fault.family : Fault → Family
  | .wrongType .. => .type
  | .tooLarge => .range
  | _ => .value

/-- Whether a fault is one of types or of values whose message starts with a
place.  A refusal by a constructor stands behind the place as it is. -/
structure Fault.IsReportOf (place : KeyPath) (f : Fault) : Prop where
  family : f.family = .type ∨ f.family = .value
  place_prefix_message : place <+: f.message
  refusal : ∀ key cf, f = .clause key cf →
    f.message = place ++ ": " ++ cf.message ∧ ("Invalid " : Text) <+: cf.message

/-- A fault is a report of its path, unless it is about a number that is too large. -/
theorem FaultOf.isReportOf {key : KeyPath} {v : Value} {f : Fault} (h : FaultOf key v f) :
    f.IsReportOf key ∨ f = .tooLarge ∧ v.HasLarge ∨ f = .tooManyDigits ∧ v.HasLong := by
  cases h with
  | wrongType h =>
    refine .inl ⟨.inl rfl, ?_, nofun⟩
    simp only [Fault.message, List.append_assoc]
    exact h.trans (List.prefix_append _ _)
  | notOneKind h =>
    refine .inl ⟨.inr rfl, ?_, nofun⟩
    simp only [Fault.message, List.append_assoc]
    exact h.trans (List.prefix_append _ _)
  | @unknownKeys _ kind _ h =>
    refine .inl ⟨.inr rfl, ?_, nofun⟩
    cases kind with
    | none =>
      simp only [Fault.message, List.append_assoc]
      exact h.trans (List.prefix_append _ _)
    | some kind =>
      simp only [Fault.message, List.append_assoc]
      exact h.trans (List.prefix_append _ _)
  | clause h =>
    refine .inl ⟨.inr rfl, ?_, ?_⟩
    · simp only [Fault.message, List.append_assoc]
      exact List.prefix_append _ _
    · intro key cf hclause
      cases hclause
      exact ⟨rfl, h.invalid_prefix_message⟩
  | tooLarge h => exact .inr (.inl ⟨rfl, h⟩)
  | tooManyDigits h => exact .inr (.inr ⟨rfl, h⟩)

/-! ## Constructors and modifiers -/

/-- What a constructor or a modifier can find wrong with a value. -/
inductive RefusalOf (v : Value) : ClauseFault → Prop where
  | refusal {cf : ClauseFault} (h : cf.IsRefusal) : RefusalOf v cf
  | tooManyDigits (h : v.HasLong) : RefusalOf v .tooManyDigits

/-- A refusal of a part of a value is one of the value. -/
theorem RefusalOf.mono {u v : Value} {cf : ClauseFault} (h : RefusalOf u cf) (huv : u.Within v) :
    RefusalOf v cf := by
  cases h with
  | refusal h => exact .refusal h
  | tooManyDigits h => exact .tooManyDigits (h.mono huv)

section

variable {cf : ClauseFault}

/-- An argument is refused with its value in the message, if the value can be written. -/
theorem refusalOf_ofArgument {a : Argument} {s : Scalar} {reason : ArgumentReason} :
    RefusalOf (.scalar s) (.ofArgument a (.scalar s) reason) := by
  unfold ClauseFault.ofArgument
  split
  · exact .refusal (.argument _ _ _)
  · next h => exact .tooManyDigits (Scalar.hasLong_of_not_isWritable (eq_false_of_ne_true h))

/-- A scalar without a word has too many digits. -/
theorem refusalOf_wordOf {s : Scalar} (h : wordOf (.scalar s) = .error cf) :
    RefusalOf (.scalar s) cf := by
  unfold wordOf at h
  split at h
  · cases h
  · next hlong =>
    cases h
    exact .tooManyDigits (Scalar.hasLong_of_not_isWritable (eq_false_of_ne_true hlong))

theorem isRefusal_of_tokenOf {place s : Text} (h : tokenOf place (.str s) = .error cf) :
    cf.IsRefusal := by
  simp only [tokenOf] at h
  split at h
  · cases h
    exact .format _ _
  · split at h
    · cases h
      exact .format _ _
    · cases h

theorem refusalOf_boundOf {s : Scalar} (h : boundOf (.scalar s) = .error cf) :
    RefusalOf (.scalar s) cf := by
  unfold boundOf at h
  split at h
  · cases h
  · rcases bind_eq_error_iff.1 h with hword | ⟨word, -, h⟩
    · exact refusalOf_wordOf hword
    · split at h
      · cases h
      · rcases bind_eq_error_iff.1 h with htoken | ⟨_, -, h⟩
        · exact .refusal (isRefusal_of_tokenOf htoken)
        · cases h

theorem isRefusal_of_ofValue {s : Text} (h : RangeKind.ofValue (.str s) = .error cf) :
    cf.IsRefusal := by
  simp only [RangeKind.ofValue, lookupReason?] at h
  split at h
  · cases h
  · cases h
    exact .argument _ _ _

theorem isRefusal_of_ofName {s : Text} (h : Operator.ofName s = .error cf) : cf.IsRefusal := by
  unfold Operator.ofName at h
  split at h
  · cases h
  · cases h
    exact .argument _ _ _

theorem isRefusal_of_weightOfNumber {x : Double} (h : weightOfNumber (.double x) = .error cf) :
    cf.IsRefusal := by
  simp only [weightOfNumber, incomparable?] at h
  split at h
  · cases h
    exact .argument _ _ _
  · split at h
    · cases h
      exact .argument _ _ _
    · cases h

theorem refusalOf_fuzzinessOf {n : Int} (h : fuzzinessOf (.int n) = .error cf) :
    RefusalOf (.int n) cf := by
  simp only [fuzzinessOf, integerArgument, bind_eq_error_iff, reduceCtorEq, Except.ok.injEq,
    exists_eq_left', false_or] at h
  split at h
  · cases h
  · rw [← Except.error.inj h]
    exact refusalOf_ofArgument

theorem refusalOf_slopOf {n : Int} (h : slopOf (.int n) = .error cf) : RefusalOf (.int n) cf := by
  simp only [slopOf, integerArgument, bind_eq_error_iff, reduceCtorEq, Except.ok.injEq,
    exists_eq_left', false_or] at h
  split at h
  · rw [← Except.error.inj h]
    exact refusalOf_ofArgument
  · cases h

end

/-! ## Values -/

section

variable {key place : KeyPath} {v w : Value} {f : Fault}

/-- A value in the place of a double has the wrong type or is an integer out of range. -/
theorem faultOf_doubleAt (hplace : key <+: place) (h : doubleAt place v = .error f) :
    FaultOf key v f := by
  unfold doubleAt at h
  split at h
  · dsimp only at h
    split at h
    · cases h
    · next hlarge =>
      cases h
      exact .tooLarge ⟨_, .refl, eq_false_of_ne_true hlarge⟩
  · cases h
  · cases h
    exact .wrongType hplace

/-- What is read as a scalar is the scalar that was there. -/
theorem eq_scalar_of_scalarAt (h : scalarAt place v = .ok w) :
    ∃ s, v = .scalar s ∧ w = .scalar s := by
  unfold scalarAt at h
  split at h
  · cases h
    exact ⟨_, rfl, rfl⟩
  · cases h
    exact ⟨_, rfl, rfl⟩
  · cases h
    exact ⟨_, rfl, rfl⟩
  · cases h

/-- A refusal of a constructor is reported at the path of its clause. -/
theorem faultOf_atClause {α : Type} {x : Except ClauseFault α}
    (hx : ∀ cf, x = .error cf → RefusalOf v cf) (h : atClause key x = .error f) :
    FaultOf key v f := by
  unfold atClause at h
  split at h
  · cases h
  · cases h
    cases hx _ rfl with
    | refusal h => cases h
    | tooManyDigits h => exact .tooManyDigits h
  · next hnot =>
    cases h
    cases hx _ rfl with
    | refusal h => exact .clause h
    | tooManyDigits h => exact absurd rfl hnot

end

section

variable {key place : KeyPath} {entries : Entries} {name : Text} {f : Fault}

/-- Unknown keys are a fault of the mapping that has them. -/
theorem faultOf_checkNames {kind : Option Text} {allowed : List Text} (hplace : key <+: place)
    (h : checkNames place kind allowed entries = .error f) : FaultOf key (.map entries) f := by
  unfold checkNames at h
  split at h
  · split at h
    · cases h
    · cases h
      exact .unknownKeys hplace
  · next hall =>
    cases h
    obtain ⟨k, hk, hlong⟩ : ∃ k ∈ entries.keys, k.isWritable = false := by
      simpa [List.all_eq_true] using hall
    exact .tooManyDigits ((Scalar.hasLong_of_not_isWritable hlong).mono (.key hk .refl))

/-! ## Names and slots -/

/-- A clause of no kind or of several has a fault of its own. -/
theorem faultOf_kindOf (h : kindOf key entries = .error f) : FaultOf key (.map entries) f := by
  unfold kindOf at h
  split at h
  · cases h
  · cases h
    exact .notOneKind List.prefix_rfl

theorem faultOf_readName (h : readName key entries = .error f) : FaultOf key (.map entries) f := by
  unfold readName at h
  split at h
  · cases h
  · rcases bind_eq_error_iff.1 h with hstring | ⟨s, -, h⟩
    · exact eq_wrongType_of_stringAt hstring ▸ .wrongType (key.prefix_field "NAME")
    · cases h

theorem faultOf_readField (h : readField key name entries = .error f) :
    FaultOf key (.map entries) f := by
  unfold readField at h
  split at h
  · cases h
  · next v hv =>
    rcases bind_eq_error_iff.1 h with hstring | ⟨s, -, h⟩
    · exact eq_wrongType_of_stringAt hstring ▸ .wrongType (key.prefix_field name)
    · cases h

theorem faultOf_readOperator (h : readOperator key name entries = .error f) :
    FaultOf key (.map entries) f := by
  unfold readOperator at h
  split at h
  · cases h
  · next v hv =>
    rcases bind_eq_error_iff.1 h with hstring | ⟨s, -, h⟩
    · exact eq_wrongType_of_stringAt hstring ▸ .wrongType (key.prefix_field name)
    · exact faultOf_atClause (fun _ hcf => .refusal (isRefusal_of_ofName hcf)) h

theorem faultOf_readBoost (h : readBoost key name entries = .error f) :
    FaultOf key (.map entries) f := by
  unfold readBoost at h
  split at h
  · cases h
  · next v hv =>
    rcases bind_eq_error_iff.1 h with hdouble | ⟨x, -, h⟩
    · exact (faultOf_doubleAt (key.prefix_field name) hdouble).mono (.of_present? hv .refl)
    · exact faultOf_atClause (fun _ hcf => .refusal (isRefusal_of_weightOfNumber hcf)) h

/-- The fault of slots is that of the first slot that has one. -/
theorem faultOf_readSlots {names : SlotNames} (h : readSlots key names entries = .error f) :
    FaultOf key (.map entries) f := by
  unfold readSlots at h
  rcases bind_eq_error_iff.1 h with hfield | ⟨_, -, h⟩
  · exact faultOf_readField hfield
  rcases bind_eq_error_iff.1 h with hoperator | ⟨_, -, h⟩
  · exact faultOf_readOperator hoperator
  rcases bind_eq_error_iff.1 h with hboost | ⟨_, -, h⟩
  · exact faultOf_readBoost hboost
  cases h

/-! ## Leaves -/

theorem faultOf_readDistance {check : Value → Except ClauseFault Int}
    (hcheck : ∀ n cf, check (.int n) = .error cf → RefusalOf (.int n) cf)
    (h : readDistance key name check entries = .error f) : FaultOf key (.map entries) f := by
  unfold readDistance at h
  split at h
  · cases h
  · next v hv =>
    rcases bind_eq_error_iff.1 h with hint | ⟨n, hn, h⟩
    · exact eq_wrongType_of_intAt hint ▸ .wrongType (key.prefix_field name)
    · obtain rfl := intAt_eq_ok_iff.1 hn
      exact (faultOf_atClause (hcheck n) h).mono (.of_get? hv .refl)

theorem faultOf_readTerm {escape : Bool} {v : Value} (hv : entries.get? "term" = some v)
    (h : readTerm escape key v entries = .error f) : FaultOf key (.map entries) f := by
  unfold readTerm at h
  rcases bind_eq_error_iff.1 h with hscalar | ⟨w, hw, h⟩
  · exact eq_wrongType_of_scalarAt hscalar ▸ .wrongType (key.prefix_field "term")
  obtain ⟨s, rfl, rfl⟩ := eq_scalar_of_scalarAt hw
  rcases bind_eq_error_iff.1 h with hword | ⟨word, -, h⟩
  · exact (faultOf_atClause (fun _ => refusalOf_wordOf) hword).mono (.of_get? hv .refl)
  rcases bind_eq_error_iff.1 h with htoken | ⟨token, -, h⟩
  · exact faultOf_atClause (fun _ hcf => .refusal (isRefusal_of_tokenOf hcf)) htoken
  rcases bind_eq_error_iff.1 h with hdistance | ⟨n, -, h⟩
  · exact faultOf_readDistance (fun _ _ => refusalOf_fuzzinessOf) hdistance
  cases h

theorem faultOf_readPhrase {escape : Bool} {v : Value}
    (h : readPhrase escape key v entries = .error f) : FaultOf key (.map entries) f := by
  unfold readPhrase at h
  rcases bind_eq_error_iff.1 h with hstring | ⟨s, -, h⟩
  · exact eq_wrongType_of_stringAt hstring ▸ .wrongType (key.prefix_field "phrase")
  rcases bind_eq_error_iff.1 h with hdistance | ⟨n, -, h⟩
  · exact faultOf_readDistance (fun _ _ => refusalOf_slopOf) hdistance
  cases h

theorem faultOf_readBound (hplace : key <+: place)
    (h : readBound place name entries = .error f) : FaultOf key (.map entries) f := by
  unfold readBound at h
  split at h
  · cases h
  · next v hv =>
    exact eq_wrongType_of_scalarAt h ▸ .wrongType (hplace.trans (place.prefix_field name))

/-- A bound that is refused is a part of the mapping of its range. -/
theorem refusalOf_boundOf_of_readBound {b : Value} {cf : ClauseFault}
    (hread : readBound place name entries = .ok b) (h : boundOf b = .error cf) :
    RefusalOf (.map entries) cf := by
  unfold readBound at hread
  split at hread
  · cases hread
    cases h
  · next v hv =>
    obtain ⟨s, rfl, rfl⟩ := eq_scalar_of_scalarAt hread
    exact (refusalOf_boundOf h).mono (.of_present? hv .refl)

/-- The fault of a range is that of its keys, its bounds or its kind. -/
theorem faultOf_readRange {escape : Bool} {v : Value} (hv : entries.get? "range" = some v)
    (h : readRange escape key v = .error f) : FaultOf key (.map entries) f := by
  have hplace := key.prefix_field "range"
  unfold readRange at h
  split at h
  · next bounds =>
    refine FaultOf.mono ?_ (.of_get? hv .refl)
    rcases bind_eq_error_iff.1 h with hnames | ⟨_, -, h⟩
    · exact faultOf_checkNames hplace hnames
    rcases bind_eq_error_iff.1 h with hlower | ⟨lower, hlower, h⟩
    · exact faultOf_readBound hplace hlower
    rcases bind_eq_error_iff.1 h with hupper | ⟨upper, hupper, h⟩
    · exact faultOf_readBound hplace hupper
    rcases bind_eq_error_iff.1 h with hkind | ⟨kind, -, h⟩
    · exact eq_wrongType_of_stringAt hkind ▸ .wrongType (hplace.trans (KeyPath.prefix_field _ _))
    refine faultOf_atClause (fun cf hcf => ?_) h
    rcases bind_eq_error_iff.1 hcf with hbound | ⟨_, -, hcf⟩
    · exact refusalOf_boundOf_of_readBound hlower hbound
    rcases bind_eq_error_iff.1 hcf with hbound | ⟨_, -, hcf⟩
    · exact refusalOf_boundOf_of_readBound hupper hbound
    rcases bind_eq_error_iff.1 hcf with hvalue | ⟨_, -, hcf⟩
    · exact .refusal (isRefusal_of_ofValue hvalue)
    cases hcf
  · cases h
    exact .wrongType hplace

/-- Whatever is wrong with a leaf is a fault of the mapping of its clause. -/
theorem faultOf_readLeaf {escape : Bool} {kind : Kind} (hkind : kind ≠ .group)
    (hbody : (entries.get? kind.name).isSome) (h : readLeaf escape key kind entries = .error f) :
    FaultOf key (.map entries) f := by
  obtain ⟨v, hv⟩ := Option.isSome_iff_exists.1 hbody
  simp only [readLeaf, hv, Option.getD_some] at h
  cases kind with
  | term => exact faultOf_readTerm hv h
  | phrase => exact faultOf_readPhrase h
  | range => exact faultOf_readRange hv h
  | group => exact absurd rfl hkind

end

end Config

end LuceneQuery
