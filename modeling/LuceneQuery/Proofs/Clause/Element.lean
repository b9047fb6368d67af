import LuceneQuery.Proofs.Clause.Modifier
import LuceneQuery.Proofs.Clause.Text

/-!
# Elements of a text

An *element* is what a reader of a query text takes for one clause: the marks of
its slots as they are written, around a leaf or around a group of elements.
Nothing of how the clause was made is left in it, such as the digits of a weight
that its text does not show.

An element can be read if its parts can (`Element.Readable`): the field is made
of the characters of a name, the boost ends at the end of the clause, and tokens
are not empty and hold no space.  Then the text of the element determines it and
where it ends (`Element.text_append_inj`).

The reader looks at one character to tell the kind of what comes next
(`bodyKind?`), takes the text of this kind by the lemmas on modifiers and on
escaped text, and goes into the elements of a group in the same way.
-/

namespace LuceneQuery

open Text (StopsAt Starts)

/-! ## Elements -/

/-- The slots of an element, as they are written. -/
@[ext] structure Marks where
  operator : Operator
  field : Text
  boost : Text
  deriving DecidableEq

/-- A leaf without its slots.  A bound of a range is open or a token. -/
inductive LeafForm where
  | term (text : Text) (fuzziness : Int)
  | phrase (text : Text) (slop : Int)
  | range (lower upper : Option Text) (kind : RangeKind)
  deriving DecidableEq

/-- What a reader takes for one clause. -/
inductive Element where
  | leaf (marks : Marks) (form : LeafForm)
  | query (marks : Marks) (elements : List Element)

/-- The text of an element between its marks. -/
def Marks.around (m : Marks) (body : Text) : Text :=
  m.operator.sign ++ (fieldLabel m.field ++ (body ++ m.boost))

/-- The text of a bound. -/
def LeafForm.boundText : Option Text → Text
  | none => Leaf.openBound
  | some token => Escape.token token

/-- The text of a leaf without its slots. -/
def LeafForm.text : LeafForm → Text
  | .term text fuzziness => Escape.token text ++ distanceSuffix fuzziness
  | .phrase text slop =>
    .char '"' :: (Escape.phrase text ++ .char '"' :: distanceSuffix slop)
  | .range lower upper kind =>
    kind.opening ++ (boundText lower ++ (" TO " ++ (boundText upper ++ kind.closing)))

namespace Element

mutual

/-- The text of an element. -/
def text : Element → Text
  | .leaf m form => m.around form.text
  | .query m es => m.around (.char '(' :: (joinTexts (texts es) ++ [.char ')']))

/-- The texts of some elements. -/
def texts : List Element → List Text
  | [] => []
  | e :: es => e.text :: texts es

end

theorem texts_eq_map : ∀ es : List Element, texts es = es.map text
  | [] => by rw [texts, List.map_nil]
  | e :: es => by rw [texts, List.map_cons, texts_eq_map es]

/-- The marks of an element. -/
def marks : Element → Marks
  | .leaf m _ => m
  | .query m _ => m

/-- The text of an element without its marks. -/
def body : Element → Text
  | .leaf _ form => form.text
  | .query _ es => .char '(' :: (joinTexts (es.map text) ++ [.char ')'])

theorem text_eq_around (e : Element) : e.text = e.marks.around e.body := by
  cases e with
  | leaf m form => rw [text, marks, body]
  | query m es => rw [text, marks, body, texts_eq_map]

end Element

/-! ## What can be read -/

/-- Whether a text is a token: not empty and without a space. -/
def IsToken (t : Text) : Prop := t ≠ [] ∧ ∀ c ∈ t, c ≠ .char ' '

/-- Whether marks can be told from what they stand around. -/
structure Marks.Readable (m : Marks) : Prop where
  field : ∀ c ∈ m.field, isNameChar c = true
  stopsAt_boost : StopsAt (· == .char '^') m.boost
  boost : ∀ c ∈ m.boost, endsClause c = false

/-- Whether all tokens in a leaf are. -/
def LeafForm.Readable : LeafForm → Prop
  | .term text _ => IsToken text
  | .phrase .. => True
  | .range lower upper _ => (∀ t ∈ lower, IsToken t) ∧ ∀ t ∈ upper, IsToken t

/-- Whether all parts of an element can be read. -/
inductive Element.Readable : Element → Prop where
  | leaf {m : Marks} {form : LeafForm} (hm : m.Readable) (hform : form.Readable) :
      Readable (.leaf m form)
  | query {m : Marks} {es : List Element} (hm : m.Readable) (hes : ∀ e ∈ es, Readable e) :
      Readable (.query m es)

theorem Element.Readable.marks {e : Element} (h : e.Readable) : e.marks.Readable := by
  cases h with
  | leaf hm _ => exact hm
  | query hm _ => exact hm

/-! ## The kind of what comes next -/

/-- The kinds of text that a reader tells by their first character. -/
inductive BodyKind where
  | term
  | phrase
  | range
  | query
  deriving DecidableEq

/-- The kind of text that a character starts, if it can start one. -/
def bodyKind? (c : CodePoint) : Option BodyKind :=
  if c = .char '"' then some .phrase
  else if c = .char '[' ∨ c = .char '\x7b' then some .range
  else if c = .char '(' then some .query
  else if Escape.endsToken c then none
  else some .term

/-- The kind of a leaf. -/
def LeafForm.kind : LeafForm → BodyKind
  | .term .. => .term
  | .phrase .. => .phrase
  | .range .. => .range

/-- The kind of an element. -/
def Element.kind : Element → BodyKind
  | .leaf _ form => form.kind
  | .query .. => .query

/-- A body that starts as no token can end is that of a term. -/
theorem bodyKind?_of_not_endsToken {c : CodePoint} (hc : Escape.endsToken c = false) :
    bodyKind? c = some .term := by
  have hne : ∀ d : CodePoint, Escape.endsToken d = true → c ≠ d := fun d hd =>
    ne_of_apply_ne Escape.endsToken (by simp [hc, hd])
  rw [bodyKind?, if_neg (hne _ (by decide)), if_neg, if_neg (hne _ (by decide)),
    if_neg (by simp [hc])]
  rintro (h | h)
  · exact hne _ (by decide) h
  · exact hne _ (by decide) h

theorem not_isSign_of_bodyKind? {c : CodePoint} {kind : BodyKind}
    (h : bodyKind? c = some kind) : isSign c = false ∧ endsClause c = false := by
  have hne : ∀ d : CodePoint, bodyKind? d = none → c ≠ d := fun d hd =>
    ne_of_apply_ne bodyKind? (by simp [h, hd])
  constructor
  · simpa [isSign] using ⟨hne _ (by decide), hne _ (by decide)⟩
  · simpa [endsClause] using ⟨hne _ (by decide), hne _ (by decide)⟩

/-- A token starts with no character that would end it. -/
theorem IsToken.starts {t : Text} (ht : IsToken t) :
    Starts (!Escape.endsToken ·) (Escape.token t) := by
  obtain ⟨c, s, htoken, hc⟩ := Escape.token_eq_cons ht.1 ht.2
  rw [htoken, Text.starts_cons, hc]
  rfl

/-- The first character of a leaf tells its kind. -/
theorem LeafForm.starts_text {form : LeafForm} (h : form.Readable) :
    Starts (bodyKind? · == some form.kind) form.text := by
  cases form with
  | term text fuzziness =>
    obtain ⟨c, s, htoken, hc⟩ := Escape.token_eq_cons h.1 h.2
    rw [LeafForm.text, htoken]
    simp [kind, bodyKind?_of_not_endsToken hc]
  | phrase text slop =>
    exact Text.starts_cons.2 (show (bodyKind? (.char '"') == some .phrase) = true by decide)
  | range lower upper kind =>
    cases kind with
    | inclusive =>
      exact Text.starts_cons.2 (show (bodyKind? (.char '[') == some .range) = true by decide)
    | exclusive =>
      exact Text.starts_cons.2 (show (bodyKind? (.char '\x7b') == some .range) = true by decide)

theorem Element.starts_body {e : Element} (h : e.Readable) :
    Starts (bodyKind? · == some e.kind) e.body := by
  cases h with
  | leaf _ hform => exact LeafForm.starts_text hform
  | query _ _ =>
    exact Text.starts_cons.2 (show (bodyKind? (.char '(') == some .query) = true by decide)

/-! ## Bounds and leaves -/

theorem LeafForm.boundText_append_inj {b b' : Option Text} {x x' : Text}
    (hb : ∀ t ∈ b, IsToken t) (hb' : ∀ t ∈ b', IsToken t) (hx : StopsAt Escape.endsToken x)
    (hx' : StopsAt Escape.endsToken x') (h : boundText b ++ x = boundText b' ++ x') :
    b = b' ∧ x = x' := by
  have hopen : ∀ {t : Text} {y y' : Text}, IsToken t →
      Leaf.openBound ++ y ≠ Escape.token t ++ y' := by
    intro t y y' ht heq
    have hstar : Starts (· == .char '*') (Leaf.openBound ++ y) :=
      Text.starts_cons.2 (by decide)
    obtain ⟨c, hc, hend⟩ := hstar.exists_both (heq ▸ ht.starts.append y')
    rw [beq_iff_eq.1 hc] at hend
    exact absurd hend (by decide)
  cases b with
  | none =>
    cases b' with
    | none => exact ⟨rfl, List.append_cancel_left h⟩
    | some t' => exact absurd h (hopen (hb' t' rfl))
  | some t =>
    cases b' with
    | none => exact absurd h.symm (hopen (hb t rfl))
    | some t' =>
      obtain ⟨htt, hrest⟩ :=
        Escape.token_append_inj (hb t rfl).2 (hb' t' rfl).2 hx hx' h
      exact ⟨congrArg some htt, hrest⟩

theorem RangeKind.opening_append_inj {k k' : RangeKind} {x x' : Text}
    (h : k.opening ++ x = k'.opening ++ x') : k = k' ∧ x = x' := by
  obtain ⟨hkind, hrest⟩ := List.append_inj h (by cases k <;> cases k' <;> rfl)
  refine ⟨?_, hrest⟩
  cases k <;> cases k' <;> first | rfl | exact absurd hkind (by decide)

/-- A closing bracket ends the token before it. -/
theorem RangeKind.stopsAt_closing (k : RangeKind) (x : Text) :
    StopsAt Escape.endsToken (k.closing ++ x) := by
  cases k <;> exact Text.stopsAt_cons.2 (by decide)

/-- A leaf and what follows it are told from the text that they make. -/
theorem LeafForm.text_append_inj {form form' : LeafForm} {x x' : Text} (hform : form.Readable)
    (hform' : form'.Readable) (hx : StopsAt endsDistance x) (hx' : StopsAt endsDistance x')
    (h : form.text ++ x = form'.text ++ x') : form = form' ∧ x = x' := by
  have hkind : form.kind = form'.kind := by
    obtain ⟨c, hc, hc'⟩ :=
      ((starts_text hform).append x).exists_both (h ▸ (starts_text hform').append x')
    exact Option.some.inj ((beq_iff_eq.1 hc).symm.trans (beq_iff_eq.1 hc'))
  have hdistance : ∀ (n : Int) {y : Text}, StopsAt endsDistance y →
      StopsAt Escape.endsToken (distanceSuffix n ++ y) := by
    intro n y hy
    apply Text.StopsAt.append
    · exact (stopsAt_distanceSuffix n).of_beq (by decide)
    · exact hy.mono fun c => endsToken_of_endsDistance
  cases form with
  | term text n =>
    cases form' with
    | term text' n' =>
      simp only [LeafForm.text, List.append_assoc] at h
      obtain ⟨htext, hrest⟩ :=
        Escape.token_append_inj hform.2 hform'.2 (hdistance n hx) (hdistance n' hx') h
      obtain ⟨hn, hxx⟩ := distanceSuffix_append_inj hx hx' hrest
      exact ⟨by rw [htext, hn], hxx⟩
    | phrase _ _ => cases hkind
    | range _ _ _ => cases hkind
  | phrase text n =>
    cases form' with
    | term _ _ => cases hkind
    | phrase text' n' =>
      simp only [LeafForm.text, List.append_assoc, List.cons_append] at h
      obtain ⟨htext, hrest⟩ := Escape.phrase_append_inj (List.cons_eq_cons.1 h).2
      obtain ⟨hn, hxx⟩ := distanceSuffix_append_inj hx hx' hrest
      exact ⟨by rw [htext, hn], hxx⟩
    | range _ _ _ => cases hkind
  | range lower upper kind =>
    cases form' with
    | term _ _ => cases hkind
    | phrase _ _ => cases hkind
    | range lower' upper' kind' =>
      simp only [LeafForm.text, List.append_assoc] at h
      obtain ⟨rfl, hbounds⟩ := RangeKind.opening_append_inj h
      have hto : ∀ y : Text, StopsAt Escape.endsToken ((" TO " : Text) ++ y) := by
        intro y
        exact Text.stopsAt_cons.2 (by decide)
      obtain ⟨hlower, hupper⟩ :=
        boundText_append_inj hform.1 hform'.1 (hto _) (hto _) hbounds
      obtain ⟨hupper, hrest⟩ := boundText_append_inj hform.2 hform'.2 (kind.stopsAt_closing _)
        (kind.stopsAt_closing _) (List.append_cancel_left hupper)
      exact ⟨by rw [hlower, hupper], List.append_cancel_left hrest⟩

/-! ## Marks -/

/-- What starts neither with a sign nor with a label can stand between marks. -/
theorem Marks.around_append_inj {m m' : Marks} {body body' x x' : Text} (hm : m.Readable)
    (hm' : m'.Readable) (hbody : StopsAt (!isSign ·) (body ++ (m.boost ++ x)))
    (hbody' : StopsAt (!isSign ·) (body' ++ (m'.boost ++ x')))
    (hfree : Unlabelled (body ++ (m.boost ++ x)))
    (hfree' : Unlabelled (body' ++ (m'.boost ++ x')))
    (h : m.around body ++ x = m'.around body' ++ x') :
    m.operator = m'.operator ∧ m.field = m'.field ∧
      body ++ (m.boost ++ x) = body' ++ (m'.boost ++ x') := by
  have hlabel : ∀ {f y : Text}, (∀ c ∈ f, isNameChar c = true) → StopsAt (!isSign ·) y →
      StopsAt (!isSign ·) (fieldLabel f ++ y) := by
    intro f y hf hy
    cases f with
    | nil => exact hy
    | cons c f =>
      apply Text.stopsAt_cons.2
      rw [not_isSign_of_isNameChar (hf c List.mem_cons_self)]
      rfl
  simp only [around, List.append_assoc] at h
  obtain ⟨hoperator, hrest⟩ :=
    Operator.sign_append_inj (hlabel hm.field hbody) (hlabel hm'.field hbody') h
  obtain ⟨hfield, hrest⟩ := fieldLabel_append_inj hm.field hm'.field hfree hfree' hrest
  exact ⟨hoperator, hfield, hrest⟩

theorem Marks.boost_append_inj {m m' : Marks} {x x' : Text} (hm : m.Readable)
    (hm' : m'.Readable) (hx : StopsAt endsClause x) (hx' : StopsAt endsClause x')
    (h : m.boost ++ x = m'.boost ++ x') : m.boost = m'.boost ∧ x = x' :=
  Text.append_inj_of_stopsAt hm.boost hm'.boost hx hx' h

/-- A weight ends the distance before it. -/
theorem Marks.Readable.stopsAt_boost_append {m : Marks} {x : Text} (hm : m.Readable)
    (hx : StopsAt endsClause x) : StopsAt endsDistance (m.boost ++ x) := by
  apply Text.StopsAt.append
  · exact hm.stopsAt_boost.of_beq (by decide)
  · exact hx.mono fun c => endsDistance_of_endsClause

/-! ## Elements and what follows them -/

/-- A clause starts with no character that would end one. -/
theorem Marks.starts_around {m : Marks} {body : Text} (hm : m.Readable)
    (hbody : Starts (!endsClause ·) body) : Starts (!endsClause ·) (m.around body) := by
  have hlabel : Starts (!endsClause ·) (fieldLabel m.field ++ (body ++ m.boost)) := by
    cases hfield : m.field with
    | nil => exact hbody.append _
    | cons c f =>
      have hc : isNameChar c = true := hm.field c (by rw [hfield]; exact List.mem_cons_self)
      apply Text.starts_cons.2
      rw [not_endsClause_of_isNameChar hc]
      rfl
  unfold around
  cases m.operator with
  | optional => exact hlabel
  | required => exact Text.starts_cons.2 (by decide)
  | prohibited => exact Text.starts_cons.2 (by decide)

namespace Element

section

variable {e e' : Element} {es es' : List Element} {x x' : Text}

/-- An element has a text, and this does not start with the end of a clause. -/
theorem starts_text (h : e.Readable) : Starts (!endsClause ·) e.text := by
  rw [text_eq_around]
  apply Marks.starts_around h.marks
  apply (starts_body h).mono
  intro c hc
  rw [(not_isSign_of_bodyKind? (beq_iff_eq.1 hc)).2]
  rfl

/-- No body is taken for a field and what it belongs to. -/
theorem unlabelled_body_append (h : e.Readable) (hx : StopsAt endsDistance x) :
    Unlabelled (e.body ++ x) := by
  cases h with
  | query _ _ => exact unlabelled_cons_of_not (by decide) (by decide) _
  | @leaf _ form _ _ =>
    cases form with
    | term text n =>
      rw [body, LeafForm.text, List.append_assoc]
      apply unlabelled_token_append
      apply unlabelled_of_stopsAt
      apply Text.StopsAt.append
      · exact (stopsAt_distanceSuffix n).mono fun c hc => by rw [hc, Bool.true_or]
      · exact hx.mono fun c hc => by rw [hc, Bool.or_true]
    | phrase _ _ => exact unlabelled_cons_of_not (by decide) (by decide) _
    | range _ _ kind =>
      cases kind with
      | inclusive => exact unlabelled_cons_of_not (by decide) (by decide) _
      | exclusive => exact unlabelled_cons_of_not (by decide) (by decide) _

/-- The marks in front of an element and the kind of what they stand around are
told from the text. -/
theorem text_append_cases (h : e.Readable) (h' : e'.Readable) (hx : StopsAt endsClause x)
    (hx' : StopsAt endsClause x') (heq : e.text ++ x = e'.text ++ x') :
    e.marks.operator = e'.marks.operator ∧ e.marks.field = e'.marks.field ∧ e.kind = e'.kind ∧
      e.body ++ (e.marks.boost ++ x) = e'.body ++ (e'.marks.boost ++ x') := by
  have hsign : ∀ {d : Element} {y : Text}, d.Readable → StopsAt (!isSign ·) (d.body ++ y) := by
    intro d y hd
    apply ((starts_body hd).append y).stopsAt.mono
    intro c hc
    rw [(not_isSign_of_bodyKind? (beq_iff_eq.1 hc)).1]
    rfl
  have hboost := h.marks.stopsAt_boost_append hx
  have hboost' := h'.marks.stopsAt_boost_append hx'
  rw [text_eq_around, text_eq_around] at heq
  obtain ⟨hoperator, hfield, hbody⟩ := Marks.around_append_inj h.marks h'.marks (hsign h)
    (hsign h') (unlabelled_body_append h hboost) (unlabelled_body_append h' hboost') heq
  obtain ⟨c, hc, hc'⟩ :=
    ((starts_body h).append _).exists_both (hbody ▸ (starts_body h').append _)
  have hkind := (beq_iff_eq.1 hc).symm.trans (beq_iff_eq.1 hc')
  exact ⟨hoperator, hfield, Option.some.inj hkind, hbody⟩

/-- Whether an element and what follows it are told from the text that they
make. -/
def SelfDelimiting (e : Element) : Prop :=
  ∀ {e' : Element} {x x' : Text}, e'.Readable → StopsAt endsClause x → StopsAt endsClause x' →
    e.text ++ x = e'.text ++ x' → e = e' ∧ x = x'

/-- What stands in front of the end of a group behind one of its elements. -/
def tailText : List Element → Text
  | [] => []
  | e :: es => .char ' ' :: joinTexts ((e :: es).map text)

/-- The first element of a row has the rest for its tail. -/
theorem joinTexts_map_cons (hes : ∀ d ∈ e :: es, d.Readable) :
    joinTexts ((e :: es).map text) = e.text ++ tailText es := by
  rw [List.map_cons, joinTexts_cons]
  cases es with
  | nil => simp [tailText, joinTexts]
  | cons d es =>
    have he : e.text ≠ [] := (starts_text (hes e List.mem_cons_self)).ne_nil
    have hd : d.text ≠ [] :=
      (starts_text (hes d (List.mem_cons_of_mem e List.mem_cons_self))).ne_nil
    rw [joinPair_of_ne_nil he, tailText]
    rw [Ne, joinTexts_eq_nil_iff]
    exact fun hnil => hd (hnil d.text (List.mem_map_of_mem List.mem_cons_self))

/-- What follows an element in a row ends it. -/
theorem stopsAt_tailText_append (es : List Element) (hx : StopsAt (· == .char ')') x) :
    StopsAt endsClause (tailText es ++ x) := by
  apply Text.StopsAt.append
  · cases es with
    | nil => exact Text.stopsAt_nil
    | cons e es => exact Text.stopsAt_cons.2 (by decide)
  · exact hx.of_beq (by decide)

/-- The elements behind one of a group end with the group. -/
theorem joinTexts_append_eq_of_tailText (hx : StopsAt (· == .char ')') x)
    (hx' : StopsAt (· == .char ')') x') (h : tailText es ++ x = tailText es' ++ x') :
    joinTexts (es.map text) ++ x = joinTexts (es'.map text) ++ x' := by
  have hspace : ∀ {y z : Text}, StopsAt (· == .char ')') y → y ≠ .char ' ' :: z := by
    rintro y z hy rfl
    exact absurd (Text.stopsAt_cons.1 hy) (by decide)
  cases es with
  | nil =>
    cases es' with
    | nil => exact h
    | cons e' es' => exact absurd h (hspace hx)
  | cons e es =>
    cases es' with
    | nil => exact absurd h.symm (hspace hx')
    | cons e' es' => exact (List.cons_eq_cons.1 h).2

/-- No element starts where a group ends. -/
theorem ne_text_append (h : e.Readable) (hx : StopsAt (· == .char ')') x) (y : Text) :
    x ≠ e.text ++ y := by
  rintro rfl
  obtain ⟨c, hc, hclause⟩ := (starts_text h).append y
  rw [beq_iff_eq.1 (hx c hc)] at hclause
  exact absurd hclause (by decide)

/-- The elements of a group and what follows them are told from the text that
they make, if each of them is. -/
theorem joinTexts_append_inj (hes : ∀ d ∈ es, d.Readable) (hes' : ∀ d ∈ es', d.Readable)
    (hself : ∀ d ∈ es, d.SelfDelimiting) (hx : StopsAt (· == .char ')') x)
    (hx' : StopsAt (· == .char ')') x')
    (h : joinTexts (es.map text) ++ x = joinTexts (es'.map text) ++ x') : es = es' ∧ x = x' := by
  induction es generalizing es' with
  | nil =>
    cases es' with
    | nil => exact ⟨rfl, h⟩
    | cons e' es' =>
      rw [joinTexts_map_cons hes', List.append_assoc] at h
      exact absurd h (ne_text_append (hes' e' List.mem_cons_self) hx _)
  | cons e es ih =>
    cases es' with
    | nil =>
      rw [joinTexts_map_cons hes, List.append_assoc] at h
      exact absurd h.symm (ne_text_append (hes e List.mem_cons_self) hx' _)
    | cons e' es' =>
      rw [joinTexts_map_cons hes, joinTexts_map_cons hes', List.append_assoc,
        List.append_assoc] at h
      obtain ⟨rfl, htail⟩ := hself e List.mem_cons_self (hes' e' List.mem_cons_self)
        (stopsAt_tailText_append es hx) (stopsAt_tailText_append es' hx') h
      obtain ⟨rfl, hrest⟩ := ih (fun d hd => hes d (List.mem_cons_of_mem e hd))
        (fun d hd => hes' d (List.mem_cons_of_mem e hd))
        (fun d hd => hself d (List.mem_cons_of_mem e hd))
        (joinTexts_append_eq_of_tailText hx hx' htail)
      exact ⟨rfl, hrest⟩

/-- An element that can be read and what follows it are told from the text that
they make. -/
theorem text_append_inj (h : e.Readable) : e.SelfDelimiting := by
  -- For a group the hypothesis is that each of its elements is self-delimiting.
  induction h with
  | @leaf m form hm hform =>
    intro e' x x' h' hx hx' heq
    obtain ⟨hoperator, hfield, hkind, hbody⟩ :=
      text_append_cases (.leaf hm hform) h' hx hx' heq
    cases h' with
    | query _ _ => cases form <;> cases hkind
    | @leaf m' _ hm' hform' =>
      obtain ⟨hform, hrest⟩ := LeafForm.text_append_inj hform hform'
        (hm.stopsAt_boost_append hx) (hm'.stopsAt_boost_append hx') hbody
      obtain ⟨hboost, hrest⟩ := Marks.boost_append_inj hm hm' hx hx' hrest
      have hmarks : m = m' := Marks.ext hoperator hfield hboost
      exact ⟨by rw [hform, hmarks], hrest⟩
  | @query m es hm hes ih =>
    intro e' x x' h' hx hx' heq
    obtain ⟨hoperator, hfield, hkind, hbody⟩ :=
      text_append_cases (.query hm hes) h' hx hx' heq
    cases h' with
    | @leaf _ form' _ _ => cases form' <;> cases hkind
    | @query m' _ hm' hes' =>
      simp only [body, List.cons_append, List.append_assoc] at hbody
      obtain ⟨hes, hclose⟩ := joinTexts_append_inj hes hes' ih (Text.stopsAt_cons.2 (by decide))
        (Text.stopsAt_cons.2 (by decide)) (List.cons_eq_cons.1 hbody).2
      obtain ⟨hboost, hrest⟩ :=
        Marks.boost_append_inj hm hm' hx hx' (List.cons_eq_cons.1 hclose).2
      have hmarks : m = m' := Marks.ext hoperator hfield hboost
      exact ⟨by rw [hes, hmarks], hrest⟩

/-- Joined elements that can be read are told from the text that they make. -/
theorem joinTexts_inj (hes : ∀ d ∈ es, d.Readable) (hes' : ∀ d ∈ es', d.Readable)
    (h : joinTexts (es.map text) = joinTexts (es'.map text)) : es = es' := by
  have hself : ∀ d ∈ es, d.SelfDelimiting := fun d hd => text_append_inj (hes d hd)
  have heq : joinTexts (es.map text) ++ [] = joinTexts (es'.map text) ++ [] := by rw [h]
  exact (joinTexts_append_inj hes hes' hself Text.stopsAt_nil Text.stopsAt_nil heq).1

end

end Element

end LuceneQuery
