import TableGraph.Document.Basic

/-! # Reading what was written

A type, a field, a definition has its tokens, and a reader takes exactly these from the front: a type is
read on only if an exclamation mark follows, and a list goes on until it is closed. A document made of the
tokens of some definitions is read as these definitions (`readTokens?_tokens`).
-/
namespace TableGraph.Document

/-! ## Tokens -/

namespace TypeExpr

def tokens : TypeExpr → List Token
  | named name => [.name name]
  | list inner => .punctuator '[' :: inner.tokens ++ [.punctuator ']']
  | nonNull inner => inner.tokens ++ [.punctuator '!']

def excludesNull : TypeExpr → Bool
  | nonNull _ => true
  | named _ | list _ => false

/-- Null is excluded no more than once in one place. -/
def Proper : TypeExpr → Prop
  | named _ => True
  | list inner => inner.Proper
  | nonNull inner => inner.excludesNull = false ∧ inner.Proper

end TypeExpr

def Argument.tokens (a : Argument) : List Token := .name a.name :: .punctuator ':' :: a.type.tokens

def argumentTokens (args : List Argument) : List Token :=
  if args.isEmpty then [] else .punctuator '(' :: args.flatMap Argument.tokens ++ [.punctuator ')']

def FieldDefinition.tokens (f : FieldDefinition) : List Token :=
  .name f.name :: argumentTokens f.args ++ .punctuator ':' :: f.type.tokens

structure FieldDefinition.Proper (f : FieldDefinition) : Prop where
  type : f.type.Proper
  args : ∀ a ∈ f.args, a.type.Proper

def Kind.keyword : Kind → String
  | .object => "type"
  | .input => "input"

def TypeDefinition.tokens (d : TypeDefinition) : List Token :=
  .name d.kind.keyword :: .name d.name :: .punctuator '\x7b' :: d.fields.flatMap FieldDefinition.tokens ++
    [.punctuator '\x7d']

structure TypeDefinition.Proper (d : TypeDefinition) : Prop where
  nonempty : d.fields ≠ []
  fields : ∀ f ∈ d.fields, f.Proper
  input : d.kind = .input → ∀ f ∈ d.fields, f.args = []

/-! ## Types -/

/-- A type before these tokens is not read on. -/
def Ended (ts : List Token) : Prop := ts.head? ≠ some (.punctuator '!')

theorem excludeNull_of_ended {ts : List Token} {t : Taken ts TypeExpr} (h : Ended t.rest) : excludeNull t = t := by
  obtain ⟨e, rest, hs⟩ := t
  cases rest with
  | nil => rfl
  | cons d r =>
    cases d with
    | name s => rfl
    | punctuator c =>
      have hc : c ≠ '!' := by
        rintro rfl
        exact h rfl
      simp [excludeNull, takePunctuator?, hc]

/-- A type is read from its tokens. One that may be null is read on if an exclamation mark follows. -/
theorem takeType?_tokens (e : TypeExpr) (h : e.Proper) :
    (∀ rest, Ended rest → ∃ hs, takeType? (e.tokens ++ rest) = some ⟨e, rest, hs⟩) ∧
      (e.excludesNull = false → ∀ rest, ∃ hs, takeType? (e.tokens ++ rest) = some (excludeNull ⟨e, rest, hs⟩)) := by
  induction e with
  | named name =>
    have hread (rest : List Token) : ∃ hs, takeType? ((TypeExpr.named name).tokens ++ rest) =
        some (excludeNull ⟨.named name, rest, hs⟩) := ⟨by simp [TypeExpr.tokens], by rfl⟩
    refine ⟨fun rest hr => ?_, fun _ => hread⟩
    obtain ⟨hs, he⟩ := hread rest
    exact ⟨hs, he.trans (congrArg some (excludeNull_of_ended hr))⟩
  | list inner ih =>
    have hread (rest : List Token) : ∃ hs, takeType? ((TypeExpr.list inner).tokens ++ rest) =
        some (excludeNull ⟨.list inner, rest, hs⟩) := by
      have hend : Ended (.punctuator ']' :: rest) := by simp [Ended]
      obtain ⟨hs, he⟩ := (ih h).1 _ hend
      have hassoc : (TypeExpr.list inner).tokens ++ rest =
          .punctuator '[' :: (inner.tokens ++ .punctuator ']' :: rest) := by
        simp [TypeExpr.tokens]
      rw [hassoc]
      exact ⟨by simp; omega, by simp [takeType?, he, takePunctuator?]⟩
    refine ⟨fun rest hr => ?_, fun _ => hread⟩
    obtain ⟨hs, he⟩ := hread rest
    exact ⟨hs, he.trans (congrArg some (excludeNull_of_ended hr))⟩
  | nonNull inner ih =>
    refine ⟨fun rest _ => ?_, fun hn => nomatch hn⟩
    obtain ⟨hs, he⟩ := (ih h.2).2 h.1 (.punctuator '!' :: rest)
    have hassoc : (TypeExpr.nonNull inner).tokens ++ rest = inner.tokens ++ .punctuator '!' :: rest := by
      simp [TypeExpr.tokens]
    rw [hassoc]
    exact ⟨_, he⟩

theorem takeType?_type {e : TypeExpr} (h : e.Proper) {rest : List Token} (hr : Ended rest) :
    ∃ hs, takeType? (e.tokens ++ rest) = some ⟨e, rest, hs⟩ :=
  (takeType?_tokens e h).1 rest hr

/-! ## Items and lists of them -/

variable {α : Type}

/-- The reader takes the item from its tokens, the first of which is a name. -/
structure Item (one : (ts : List Token) → Option (Taken ts α)) (ts : List Token) (a : α) : Prop where
  starts : ∃ name more, ts = .name name :: more
  reads : ∀ rest, Ended rest → ∃ hs, one (ts ++ rest) = some ⟨a, rest, hs⟩

theorem takeUntil?_items {one : (ts : List Token) → Option (Taken ts α)} {tokens : α → List Token} {close : Char}
    (hc : close ≠ '!') {items : List α} (hne : items ≠ []) (h : ∀ a ∈ items, Item one (tokens a) a)
    (rest : List Token) :
    ∃ hs, takeUntil? one close (items.flatMap tokens ++ .punctuator close :: rest) = some ⟨items, rest, hs⟩ := by
  induction items with
  | nil => exact absurd rfl hne
  | cons a more ih =>
    have ha := h a List.mem_cons_self
    rw [List.flatMap_cons, List.append_assoc]
    cases more with
    | nil =>
      have hend : Ended (.punctuator close :: rest) := by simpa [Ended] using hc
      obtain ⟨hs, he⟩ := ha.reads _ hend
      rw [List.flatMap_nil, List.nil_append]
      refine ⟨by simp; omega, ?_⟩
      rw [takeUntil?]
      simp [he, takePunctuator?]
    | cons b others =>
      obtain ⟨hs, he⟩ := ih (List.cons_ne_nil b others) fun x hx => h x (List.mem_cons_of_mem a hx)
      obtain ⟨name, ts, hname⟩ := (h b (by simp)).starts
      have hstart : (b :: others).flatMap tokens ++ .punctuator close :: rest =
          .name name :: (ts ++ (others.flatMap tokens ++ .punctuator close :: rest)) := by
        simp [hname]
      have hend : Ended ((b :: others).flatMap tokens ++ .punctuator close :: rest) := by
        rw [hstart]
        simp [Ended]
      have hopen : takePunctuator? close ((b :: others).flatMap tokens ++ .punctuator close :: rest) = none := by
        rw [hstart]
        rfl
      obtain ⟨hs', he'⟩ := ha.reads _ hend
      refine ⟨Nat.lt_trans hs hs', ?_⟩
      rw [takeUntil?]
      simp only [he', he, hopen, Option.bind_eq_bind, Option.bind_some, Option.pure_def]

/-- An argument is read from its tokens. -/
theorem item_argument (a : Argument) (h : a.type.Proper) : Item takeArgument? a.tokens a where
  starts := ⟨a.name, _, rfl⟩
  reads := by
    intro rest hr
    obtain ⟨hs, he⟩ := takeType?_type h hr
    refine ⟨by simp [Argument.tokens]; omega, ?_⟩
    simp [Argument.tokens, takeArgument?, takeName?, takePunctuator?, he]

/-- Arguments in parentheses, or none at all. -/
theorem takeOptional_arguments {args : List Argument} (h : ∀ a ∈ args, a.type.Proper) (rest : List Token) :
    ∃ hs, takeOptional takeArgument? '(' ')' (argumentTokens args ++ .punctuator ':' :: rest) =
      some ⟨(args, .punctuator ':' :: rest), hs⟩ := by
  cases args with
  | nil => exact ⟨Nat.le_refl _, rfl⟩
  | cons a more =>
    obtain ⟨hs, he⟩ := takeUntil?_items (by decide : ')' ≠ '!') (List.cons_ne_nil a more)
      (fun x hx => item_argument x (h x hx)) (.punctuator ':' :: rest)
    have hassoc : argumentTokens (a :: more) ++ .punctuator ':' :: rest =
        .punctuator '(' :: ((a :: more).flatMap Argument.tokens ++ .punctuator ')' :: .punctuator ':' :: rest) := by
      simp [argumentTokens]
    rw [hassoc]
    exact ⟨by simp; omega, by simp only [takeOptional, takePunctuator?, he, if_pos, Option.map_some]⟩

theorem item_field (f : FieldDefinition) (h : f.Proper) : Item takeField? f.tokens f where
  starts := ⟨f.name, _, rfl⟩
  reads := by
    intro rest hr
    obtain ⟨hs, he⟩ := takeType?_type h.type hr
    obtain ⟨hs', he'⟩ := takeOptional_arguments h.args (f.type.tokens ++ rest)
    have hassoc : f.tokens ++ rest =
        .name f.name :: (argumentTokens f.args ++ .punctuator ':' :: (f.type.tokens ++ rest)) := by
      simp [FieldDefinition.tokens]
    rw [hassoc]
    refine ⟨by simp at hs hs' ⊢; omega, ?_⟩
    simp [takeField?, takeName?, takePunctuator?, he, he']

theorem item_inputField (f : FieldDefinition) (h : f.Proper) (hargs : f.args = []) :
    Item takeInputField? f.tokens f where
  starts := ⟨f.name, _, rfl⟩
  reads := by
    intro rest hr
    obtain ⟨name, args, type⟩ := f
    obtain rfl : args = [] := hargs
    obtain ⟨hs, he⟩ := (item_argument ⟨name, type⟩ h.type).reads rest hr
    exact ⟨hs, by rw [takeInputField?]; exact congrArg (Option.map _) he⟩

theorem kindOf?_keyword (k : Kind) : kindOf? k.keyword = some k := by cases k <;> rfl

/-- Fields in braces. -/
theorem takeOptional_fields {one : (ts : List Token) → Option (Taken ts FieldDefinition)}
    {fields : List FieldDefinition} (hne : fields ≠ []) (h : ∀ f ∈ fields, Item one f.tokens f)
    (rest : List Token) :
    ∃ hs, takeOptional one '\x7b' '\x7d'
        (.punctuator '\x7b' :: (fields.flatMap FieldDefinition.tokens ++ .punctuator '\x7d' :: rest)) =
      some ⟨(fields, rest), hs⟩ := by
  obtain ⟨hs, he⟩ := takeUntil?_items (by decide : '\x7d' ≠ '!') hne h rest
  exact ⟨by simp; omega, by simp only [takeOptional, takePunctuator?, he, if_pos, Option.map_some]⟩

theorem item_definition (d : TypeDefinition) (h : d.Proper) : Item takeDefinition? d.tokens d where
  starts := ⟨d.kind.keyword, _, rfl⟩
  reads := by
    intro rest _
    obtain ⟨kind, name, fields⟩ := d
    have hassoc : (TypeDefinition.mk kind name fields).tokens ++ rest = .name kind.keyword :: .name name ::
        .punctuator '\x7b' :: (fields.flatMap FieldDefinition.tokens ++ .punctuator '\x7d' :: rest) := by
      simp [TypeDefinition.tokens]
    rw [hassoc]
    refine ⟨by simp; omega, ?_⟩
    cases kind with
    | object =>
      obtain ⟨hs, he⟩ := takeOptional_fields h.nonempty (fun f hf => item_field f (h.fields f hf)) rest
      simp [takeDefinition?, takeName?, kindOf?_keyword, he]
    | input =>
      obtain ⟨hs, he⟩ := takeOptional_fields h.nonempty
        (fun f hf => item_inputField f (h.fields f hf) (h.input rfl f hf)) rest
      simp [takeDefinition?, takeName?, kindOf?_keyword, he]

/-- The tokens of some definitions are read as these definitions. -/
theorem readTokens?_tokens {ds : List TypeDefinition} (hne : ds ≠ []) (h : ∀ d ∈ ds, d.Proper) :
    readTokens? (ds.flatMap TypeDefinition.tokens) = some ds := by
  induction ds with
  | nil => exact absurd rfl hne
  | cons d more ih =>
    have hitem := item_definition d (h d List.mem_cons_self)
    rw [List.flatMap_cons]
    cases more with
    | nil =>
      obtain ⟨hs, he⟩ := hitem.reads [] (by simp [Ended])
      rw [List.flatMap_nil, readTokens?]
      simp only [he, Option.bind_eq_bind, Option.bind_some, List.isEmpty_nil, if_true, Option.pure_def]
    | cons e others =>
      have hmore := ih (List.cons_ne_nil e others) fun x hx => h x (List.mem_cons_of_mem d hx)
      have hend : Ended ((e :: others).flatMap TypeDefinition.tokens) := by simp [Ended, TypeDefinition.tokens]
      have hsome : ((e :: others).flatMap TypeDefinition.tokens).isEmpty = false := by simp [TypeDefinition.tokens]
      obtain ⟨hs, he⟩ := hitem.reads _ hend
      rw [readTokens?]
      simp only [he, hsome, hmore, Option.bind_eq_bind, Option.bind_some, Bool.false_eq_true, if_false,
        Option.pure_def]

end TableGraph.Document
