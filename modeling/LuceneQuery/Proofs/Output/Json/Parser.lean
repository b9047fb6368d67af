import LuceneQuery.Proofs.Output.Json.Lexer

/-!
# Reading JSON

The tokens of a document are those of one `Node`: a list or an object stands between its
marks, with commas between its items or members.

*Reading.*  `State.step` takes one token after the other.  Its state holds a `Frame` for
each list and each object that has not ended, the inner ones first, and says what must
come next.

*What has been read.*  A state determines the tokens that lead to it (`State.tokens_step`),
and the tokens of a node lead from its beginning to its end (`run_tokens`).  So tokens are
read as the one node that they are the tokens of (`parse_eq_some_iff`).

A reader of texts is both parts behind one another (`decode`): a text is well-formed if it
is cut into the tokens of a node, and is decoded to this node.
-/

namespace LuceneQuery.Output.Json

/-! ## Documents -/

/-- A value of a document. -/
inductive Node where
  /-- A literal. -/
  | literal (l : Literal)
  /-- A string. -/
  | string (s : Text)
  /-- A list. -/
  | array (items : List Node)
  /-- An object, with its members in their order. -/
  | object (members : List (Text × Node))

/-- The tokens of parts with commas between them. -/
def commaSeparated (parts : List (List Token)) : List Token := [.comma].intercalate parts

mutual

/-- The tokens of a value. -/
def Node.tokens : Node → List Token
  | .literal l => [.literal l]
  | .string s => [.string s]
  | .array items => .openArray :: commaSeparated (itemTokens items) ++ [.closeArray]
  | .object members => .openObject :: commaSeparated (memberTokens members) ++ [.closeObject]

/-- The tokens of each item. -/
def itemTokens : List Node → List (List Token)
  | [] => []
  | t :: rest => t.tokens :: itemTokens rest

/-- The tokens of each member. -/
def memberTokens : List (Text × Node) → List (List Token)
  | [] => []
  | (key, t) :: rest => (.string key :: .colon :: t.tokens) :: memberTokens rest

end

/-! ## Reading -/

/-- A list or an object of which a part is being read. -/
inductive Frame where
  /-- A list behind some items, last first. -/
  | array (before : List Node)
  /-- An object behind some members, last first, and a key. -/
  | object (before : List (Text × Node)) (key : Text)

/-- What must come next. -/
inductive State where
  /-- A value. -/
  | value (k : List Frame)
  /-- The first item of a list or its end. -/
  | firstItem (k : List Frame)
  /-- The first key of an object or its end. -/
  | firstKey (k : List Frame)
  /-- A key behind some members. -/
  | nextKey (before : List (Text × Node)) (k : List Frame)
  /-- A colon behind a key. -/
  | colon (before : List (Text × Node)) (key : Text) (k : List Frame)
  /-- What follows a value. -/
  | after (t : Node) (k : List Frame)

namespace State

/-- Reads a token where a value must come. -/
def begin? (k : List Frame) : Token → Option State
  | .literal l => some (.after (.literal l) k)
  | .string s => some (.after (.string s) k)
  | .openArray => some (.firstItem k)
  | .openObject => some (.firstKey k)
  | _ => none

/-- Reads a token behind a value. -/
def resume? (t : Node) : List Frame → Token → Option State
  | .array before :: k, .comma => some (.value (.array (t :: before) :: k))
  | .array before :: k, .closeArray => some (.after (.array (t :: before).reverse) k)
  | .object before key :: k, .comma => some (.nextKey ((key, t) :: before) k)
  | .object before key :: k, .closeObject => some (.after (.object ((key, t) :: before).reverse) k)
  | _, _ => none

/-- Reads a token. -/
def step : State → Token → Option State
  | .value k, token => begin? k token
  | .firstItem k, .closeArray => some (.after (.array []) k)
  | .firstItem k, token => begin? (.array [] :: k) token
  | .firstKey k, .closeObject => some (.after (.object []) k)
  | .firstKey k, .string key => some (.colon [] key k)
  | .nextKey before k, .string key => some (.colon before key k)
  | .colon before key k, .colon => some (.value (.object before key :: k))
  | .after t k, token => resume? t k token
  | _, _ => none

/-- The value of a document that has been read to its end. -/
def finish? : State → Option Node
  | .after t [] => some t
  | _ => none

end State

/-- The value that tokens write. -/
def parse (tokens : List Token) : Option Node :=
  (tokens.foldlM State.step (.value [])).bind State.finish?

/-- The value that a text writes. -/
def decode (s : Text) : Option Node := (tokens? s).bind parse

example : decode "\x7b\"a\": [1, []]\x7d" =
    some (.object [("a", .array [.literal (.number "1"), .array []])]) := by
  rfl

example : decode "[1,]" = none ∧ decode "[] []" = none := by constructor <;> rfl

/-! ## What has been read -/

/-- The tokens of parts, each with a comma behind it. -/
def commaEnded (parts : List (List Token)) : List Token := parts.flatMap (· ++ [.comma])

/-- The tokens that lead into a list or an object. -/
def Frame.tokens : Frame → List Token
  | .array before => .openArray :: commaEnded (itemTokens before.reverse)
  | .object before key =>
    .openObject :: commaEnded (memberTokens before.reverse) ++ [.string key, .colon]

/-- The tokens that lead into lists and objects, the inner ones first. -/
def tokensBefore (k : List Frame) : List Token := k.reverse.flatMap Frame.tokens

/-- The tokens that lead to a state. -/
def State.tokens : State → List Token
  | .value k => tokensBefore k
  | .firstItem k => tokensBefore k ++ [.openArray]
  | .firstKey k => tokensBefore k ++ [.openObject]
  | .nextKey before k => tokensBefore k ++ .openObject :: commaEnded (memberTokens before.reverse)
  | .colon before key k =>
    tokensBefore k ++ .openObject :: commaEnded (memberTokens before.reverse) ++ [.string key]
  | .after t k => tokensBefore k ++ t.tokens

@[simp] theorem itemTokens_eq_map (items : List Node) :
    itemTokens items = items.map Node.tokens := by
  induction items with
  | nil => rfl
  | cons t rest ih => simp [itemTokens, ih]

@[simp] theorem memberTokens_eq_map (members : List (Text × Node)) :
    memberTokens members = members.map fun (key, t) => .string key :: .colon :: t.tokens := by
  induction members with
  | nil => rfl
  | cons member rest ih => simp [memberTokens, ih]

@[simp] theorem tokensBefore_nil : tokensBefore [] = [] := rfl

@[simp] theorem tokensBefore_cons (f : Frame) (k : List Frame) :
    tokensBefore (f :: k) = tokensBefore k ++ f.tokens := by
  simp [tokensBefore]

@[simp] theorem commaEnded_nil : commaEnded [] = [] := rfl

@[simp] theorem commaEnded_cons (part : List Token) (parts : List (List Token)) :
    commaEnded (part :: parts) = part ++ .comma :: commaEnded parts := by
  simp [commaEnded]

@[simp] theorem commaEnded_append (parts parts' : List (List Token)) :
    commaEnded (parts ++ parts') = commaEnded parts ++ commaEnded parts' := by
  simp [commaEnded]

/-- The last part has no comma behind it. -/
theorem commaSeparated_concat (parts : List (List Token)) (last : List Token) :
    commaSeparated (parts ++ [last]) = commaEnded parts ++ last := by
  induction parts with
  | nil => simp [commaSeparated]
  | cons part rest ih =>
    have hne : rest ++ [last] ≠ [] := by simp
    obtain ⟨part', rest', hrest⟩ := List.exists_cons_of_ne_nil hne
    rw [commaSeparated, hrest] at ih
    simp [commaSeparated, hrest, ih]

namespace State

variable {s s' : State} {token : Token} {tokens : List Token} {k : List Frame} {t : Node}

/-- The start of a node takes one token. -/
theorem tokens_begin? (h : begin? k token = some s) : s.tokens = tokensBefore k ++ [token] := by
  cases token <;> simp only [begin?, Option.some.injEq, reduceCtorEq] at h <;> subst h <;> rfl

theorem tokens_resume? (h : resume? t k token = some s) :
    s.tokens = tokensBefore k ++ t.tokens ++ [token] := by
  unfold resume? at h
  split at h <;> simp only [Option.some.injEq, reduceCtorEq] at h <;> subst h
  · simp [State.tokens, Frame.tokens]
  · simp [State.tokens, Frame.tokens, Node.tokens, commaSeparated_concat]
  · simp [State.tokens, Frame.tokens]
  · simp [State.tokens, Frame.tokens, Node.tokens, commaSeparated_concat]

/-- A token that is read leads from the tokens so far to those with it. -/
theorem tokens_step (h : s.step token = some s') : s'.tokens = s.tokens ++ [token] := by
  unfold step at h
  split at h
  case h_1 => exact tokens_begin? h
  case h_3 => simpa [State.tokens, Frame.tokens] using tokens_begin? h
  case h_8 => exact tokens_resume? h
  case h_9 => cases h
  all_goals
    obtain rfl := Option.some.inj h
    simp [State.tokens, Frame.tokens, Node.tokens, commaSeparated]

/-- The parser keeps all tokens that it takes, in their order. -/
theorem tokens_run (h : tokens.foldlM step s = some s') : s'.tokens = s.tokens ++ tokens := by
  induction tokens generalizing s with
  | nil => simp_all
  | cons token rest ih =>
    obtain ⟨mid, hstep, hrest⟩ := Option.bind_eq_some_iff.1 h
    simp [ih hrest, tokens_step hstep]

/-- The parser ends behind one node, with nothing left open. -/
theorem eq_after_of_finish? (h : s.finish? = some t) : s = .after t [] := by
  unfold finish? at h
  split at h
  · rw [Option.some.inj h]
  · cases h

end State

/-! ## What a value leads to -/

/-- The tokens of parts, each with a comma in front of it. -/
def commaLed (parts : List (List Token)) : List Token := parts.flatMap (.comma :: ·)

/-- The first part has no comma in front of it. -/
theorem commaSeparated_cons (part : List Token) (parts : List (List Token)) :
    commaSeparated (part :: parts) = part ++ commaLed parts := by
  induction parts generalizing part with
  | nil => simp [commaSeparated, commaLed]
  | cons part' rest ih =>
    rw [commaSeparated, List.intercalate_cons_cons, ← commaSeparated, ih]
    simp [commaLed]

/-- The tokens of a value do not begin with the end of a list. -/
theorem run_firstItem (t : Node) (k : List Frame) (tokens : List Token) :
    (t.tokens ++ tokens).foldlM State.step (.firstItem k) =
      (t.tokens ++ tokens).foldlM State.step (.value (.array [] :: k)) := by
  cases t <;> rfl

mutual

/-- The tokens of a value lead behind this value. -/
theorem run_tokens (t : Node) (k : List Frame) (tokens : List Token) :
    (t.tokens ++ tokens).foldlM State.step (.value k) = tokens.foldlM State.step (.after t k) :=
  match t with
  | .literal l => rfl
  | .string s => rfl
  | .array [] => rfl
  | .array (t :: rest) => by
    rw [Node.tokens, itemTokens, commaSeparated_cons, List.cons_append, List.cons_append,
      List.append_assoc, List.append_assoc]
    exact (run_firstItem t k _).trans
      ((run_tokens t (.array [] :: k) _).trans (run_items rest [] t k tokens))
  | .object [] => rfl
  | .object ((key, t) :: rest) => by
    rw [Node.tokens, memberTokens, commaSeparated_cons, List.cons_append, List.cons_append,
      List.append_assoc, List.append_assoc]
    exact (run_tokens t (.object [] key :: k) _).trans (run_members rest [] key t k tokens)

/-- The tokens of items lead from an item to the end of the list. -/
theorem run_items (rest before : List Node) (t : Node) (k : List Frame) (tokens : List Token) :
    (commaLed (itemTokens rest) ++ .closeArray :: tokens).foldlM State.step
        (.after t (.array before :: k)) =
      tokens.foldlM State.step (.after (.array (before.reverse ++ t :: rest)) k) :=
  match rest with
  | [] => by rw [← List.reverse_cons]; rfl
  | t' :: rest => by
    rw [itemTokens, commaLed, List.flatMap_cons, List.append_assoc, List.cons_append]
    have hrest := run_items rest (t :: before) t' k tokens
    rw [List.reverse_cons, List.append_assoc] at hrest
    exact (run_tokens t' (.array (t :: before) :: k) _).trans hrest

/-- The tokens of members lead from a member to the end of the object. -/
theorem run_members (rest before : List (Text × Node)) (key : Text) (t : Node) (k : List Frame)
    (tokens : List Token) :
    (commaLed (memberTokens rest) ++ .closeObject :: tokens).foldlM State.step
        (.after t (.object before key :: k)) =
      tokens.foldlM State.step (.after (.object (before.reverse ++ (key, t) :: rest)) k) :=
  match rest with
  | [] => by rw [← List.reverse_cons]; rfl
  | (key', t') :: rest => by
    rw [memberTokens, commaLed, List.flatMap_cons, List.append_assoc, List.cons_append]
    have hrest := run_members rest ((key, t) :: before) key' t' k tokens
    rw [List.reverse_cons, List.append_assoc] at hrest
    exact (run_tokens t' (.object ((key, t) :: before) key' :: k) _).trans hrest

end

/-- A node is what its tokens write, and they write nothing else. -/
theorem parse_eq_some_iff {tokens : List Token} {t : Node} :
    parse tokens = some t ↔ t.tokens = tokens := by
  constructor
  · intro h
    obtain ⟨s, hrun, hfinish⟩ := Option.bind_eq_some_iff.1 h
    obtain rfl := State.eq_after_of_finish? hfinish
    simpa [State.tokens] using State.tokens_run hrun
  · rintro rfl
    have hrun := run_tokens t [] []
    rw [List.append_nil] at hrun
    rw [parse, hrun]
    rfl

/-- A text writes a node if it is cut into its tokens. -/
theorem decode_eq_some_iff {s : Text} {t : Node} :
    decode s = some t ↔ tokens? s = some t.tokens := by
  simp [decode, Option.bind_eq_some_iff, parse_eq_some_iff]

end LuceneQuery.Output.Json
