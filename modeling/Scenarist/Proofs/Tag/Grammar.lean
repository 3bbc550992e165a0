import Scenarist.Proofs.Tag.Lexing
import Scenarist.Tag.Reading

/-! # The grammar of tag expressions

A disjunction is a sequence of conjunctions, a conjunction is a sequence of
negations, and both group to the left. A negation is negated, a tag, or a
disjunction in parentheses. The reader accepts the token sequences of this
grammar and no others, and it answers the one expression that each derives. -/

namespace Scenarist.Tag

/-- What an expression may consist of without parentheses around it. -/
inductive Level where
  | negation
  | conjunction
  | disjunction
deriving DecidableEq, Repr

inductive Derives : Level → List Token → Expr → Prop
  | tag {name : Text} : Derives .negation [.tag name] (.tag name)
  | negation {tokens : List Token} {inner : Expr} :
      Derives .negation tokens inner →
      Derives .negation (.negation :: tokens) (.negation inner)
  | parenthesised {tokens : List Token} {inner : Expr} :
      Derives .disjunction tokens inner →
      Derives .negation (.opening :: (tokens ++ [.closing])) inner
  | firstConjunct {tokens : List Token} {expr : Expr} :
      Derives .negation tokens expr → Derives .conjunction tokens expr
  | nextConjunct {before after : List Token} {left right : Expr} :
      Derives .conjunction before left → Derives .negation after right →
      Derives .conjunction (before ++ .conjunction :: after) (.conjunction left right)
  | firstDisjunct {tokens : List Token} {expr : Expr} :
      Derives .conjunction tokens expr → Derives .disjunction tokens expr
  | nextDisjunct {before after : List Token} {left right : Expr} :
      Derives .disjunction before left → Derives .conjunction after right →
      Derives .disjunction (before ++ .disjunction :: after) (.disjunction left right)

theorem Derives.length_pos {level : Level} {tokens : List Token} {expr : Expr}
    (derives : Derives level tokens expr) : 0 < tokens.length := by
  induction derives with
  | tag => simp
  | negation => simp
  | parenthesised => simp
  | firstConjunct _ induction => exact induction
  | nextConjunct =>
      rw [List.length_append, List.length_cons]
      omega
  | firstDisjunct _ induction => exact induction
  | nextDisjunct =>
      rw [List.length_append, List.length_cons]
      omega

/-! ## The reader without its bounds

The bounds on what is left make reading end, and say nothing else. -/

abbrev Reading := Except Stop (Expr × List Token)

def unbounded {bound : List Token → Prop}
    (result : Except Stop (Expr × { left : List Token // bound left })) : Reading :=
  result.map fun (expr, left) => (expr, left.val)

/-- Takes the closing parenthesis off what is left. -/
def closed : Expr × List Token → Reading
  | (inner, .closing :: after) => .ok (inner, after)
  | _ => .error .unbalanced

theorem eq_of_closed_eq_ok {inner expr : Expr} {between left : List Token}
    (closes : closed (inner, between) = .ok (expr, left)) :
    expr = inner ∧ between = .closing :: left := by
  unfold closed at closes
  split at closes
  · next isClosed =>
      cases isClosed
      cases closes
      exact ⟨rfl, rfl⟩
  · cases closes

theorem readNegation_nil : unbounded (readNegation []) = .error .unexpectedEnd := by
  rw [readNegation]
  rfl

theorem readNegation_tag (name : Text) (rest : List Token) :
    unbounded (readNegation (.tag name :: rest)) = .ok (.tag name, rest) := by
  rw [readNegation]
  rfl

theorem readNegation_negation (rest : List Token) :
    unbounded (readNegation (.negation :: rest)) =
      unbounded (readNegation rest) >>= fun (inner, left) => .ok (.negation inner, left) := by
  rw [readNegation]
  cases readNegation rest with
  | error stop => rfl
  | ok answer => rfl

theorem readNegation_opening (rest : List Token) :
    unbounded (readNegation (.opening :: rest)) = unbounded (readDisjunction rest) >>= closed := by
  rw [readNegation]
  cases readDisjunction rest with
  | error stop => rfl
  | ok answer =>
      rcases answer with ⟨inner, left, fewer⟩
      cases left with
      | nil => rfl
      | cons token after => cases token <;> rfl

/-- Any other token is unexpected where a part begins. -/
theorem readNegation_unexpected {token : Token}
    (unexpected : token ∈ [Token.closing, .conjunction, .disjunction]) (rest : List Token) :
    unbounded (readNegation (token :: rest)) = .error (.unexpected token rest) := by
  simp only [List.mem_cons, List.not_mem_nil, or_false] at unexpected
  rw [readNegation]
  · rfl
  · intro name equal
    subst equal
    simp at unexpected
  · intro equal
    subst equal
    simp at unexpected
  · intro equal
    subst equal
    simp at unexpected

theorem readConjunction_eq (tokens : List Token) :
    unbounded (readConjunction tokens) =
      unbounded (readNegation tokens) >>= fun (first, left) =>
        unbounded (readMoreConjuncts first left) := by
  rw [readConjunction]
  cases readNegation tokens with
  | error stop => rfl
  | ok answer =>
      rcases answer with ⟨first, left, fewer⟩
      simp only [unbounded, bind, Except.map, Except.bind]
      cases readMoreConjuncts first left with
      | error stop => rfl
      | ok answer => rfl

theorem readMoreConjuncts_conjunction (sofar : Expr) (rest : List Token) :
    unbounded (readMoreConjuncts sofar (.conjunction :: rest)) =
      unbounded (readNegation rest) >>= fun (next, left) =>
        unbounded (readMoreConjuncts (.conjunction sofar next) left) := by
  rw [readMoreConjuncts]
  cases readNegation rest with
  | error stop => rfl
  | ok answer =>
      rcases answer with ⟨next, left, fewer⟩
      simp only [unbounded, bind, Except.map, Except.bind]
      cases readMoreConjuncts (.conjunction sofar next) left with
      | error stop => rfl
      | ok answer => rfl

theorem readMoreConjuncts_of_head {tokens : List Token} (sofar : Expr)
    (other : tokens.head? ≠ some .conjunction) :
    unbounded (readMoreConjuncts sofar tokens) = .ok (sofar, tokens) := by
  rw [readMoreConjuncts]
  · rfl
  · intro rest equal
    subst equal
    exact other rfl

theorem readDisjunction_eq (tokens : List Token) :
    unbounded (readDisjunction tokens) =
      unbounded (readConjunction tokens) >>= fun (first, left) =>
        unbounded (readMoreDisjuncts first left) := by
  rw [readDisjunction]
  cases readConjunction tokens with
  | error stop => rfl
  | ok answer =>
      rcases answer with ⟨first, left, fewer⟩
      simp only [unbounded, bind, Except.map, Except.bind]
      cases readMoreDisjuncts first left with
      | error stop => rfl
      | ok answer => rfl

theorem readMoreDisjuncts_disjunction (sofar : Expr) (rest : List Token) :
    unbounded (readMoreDisjuncts sofar (.disjunction :: rest)) =
      unbounded (readConjunction rest) >>= fun (next, left) =>
        unbounded (readMoreDisjuncts (.disjunction sofar next) left) := by
  rw [readMoreDisjuncts]
  cases readConjunction rest with
  | error stop => rfl
  | ok answer =>
      rcases answer with ⟨next, left, fewer⟩
      simp only [unbounded, bind, Except.map, Except.bind]
      cases readMoreDisjuncts (.disjunction sofar next) left with
      | error stop => rfl
      | ok answer => rfl

theorem readMoreDisjuncts_of_head {tokens : List Token} (sofar : Expr)
    (other : tokens.head? ≠ some .disjunction) :
    unbounded (readMoreDisjuncts sofar tokens) = .ok (sofar, tokens) := by
  rw [readMoreDisjuncts]
  · rfl
  · intro rest equal
    subst equal
    exact other rfl

/-! ## The levels of the reader -/

def readLevel : Level → List Token → Reading
  | .negation, tokens => unbounded (readNegation tokens)
  | .conjunction, tokens => unbounded (readConjunction tokens)
  | .disjunction, tokens => unbounded (readDisjunction tokens)

/-- Goes on from an expression. Nothing can follow a negation on its own level. -/
def readMore : Level → Expr → List Token → Reading
  | .negation, sofar, tokens => .ok (sofar, tokens)
  | .conjunction, sofar, tokens => unbounded (readMoreConjuncts sofar tokens)
  | .disjunction, sofar, tokens => unbounded (readMoreDisjuncts sofar tokens)

/-- A level on which parts of another level stand between operators. -/
structure IsChain (level part : Level) (operator : Token) (combine : Expr → Expr → Expr) :
    Prop where
  read : ∀ tokens, readLevel level tokens =
    readLevel part tokens >>= fun (first, left) => readMore level first left
  more : ∀ sofar rest, readMore level sofar (operator :: rest) =
    readLevel part rest >>= fun (next, left) => readMore level (combine sofar next) left
  ended : ∀ sofar tokens, tokens.head? ≠ some operator →
    readMore level sofar tokens = .ok (sofar, tokens)
  first : ∀ tokens expr, Derives part tokens expr → Derives level tokens expr
  next : ∀ before after left right, Derives level before left → Derives part after right →
    Derives level (before ++ operator :: after) (combine left right)

theorem isChain_conjunction : IsChain .conjunction .negation .conjunction .conjunction where
  read := readConjunction_eq
  more := readMoreConjuncts_conjunction
  ended := fun sofar _ other => readMoreConjuncts_of_head sofar other
  first := fun _ _ derives => .firstConjunct derives
  next := fun _ _ _ _ before after => .nextConjunct before after

theorem isChain_disjunction : IsChain .disjunction .conjunction .disjunction .disjunction where
  read := readDisjunction_eq
  more := readMoreDisjuncts_disjunction
  ended := fun sofar _ other => readMoreDisjuncts_of_head sofar other
  first := fun _ _ derives => .firstDisjunct derives
  next := fun _ _ _ _ before after => .nextDisjunct before after

/-! ## What is read is derived

A part derives the tokens that it takes, and a continuation derives them together
with those of the expression it goes on from. -/

def ReadsAt (level : Level) (tokens : List Token) : Prop :=
  ∀ expr left, readLevel level tokens = .ok (expr, left) →
    ∃ used, tokens = used ++ left ∧ Derives level used expr

def ContinuesAt (level : Level) (sofar : Expr) (tokens : List Token) : Prop :=
  ∀ whole left, readMore level sofar tokens = .ok (whole, left) →
    ∃ used, tokens = used ++ left ∧
      ∀ before, Derives level before sofar → Derives level (before ++ used) whole

structure Sound (tokens : List Token) : Prop where
  reads : ∀ level, ReadsAt level tokens
  continues : ∀ level sofar, ContinuesAt level sofar tokens

theorem length_lt_of_derives {level : Level} {used left : List Token} {expr : Expr}
    (derives : Derives level used expr) : left.length < (used ++ left).length := by
  have positive := derives.length_pos
  rw [List.length_append]
  omega

section

variable {tokens : List Token} {level part : Level} {operator : Token}
  {combine : Expr → Expr → Expr}

theorem readsAt_negation
    (shorter : ∀ others : List Token, others.length < tokens.length → Sound others) :
    ReadsAt .negation tokens := by
  intro expr left read
  rw [readLevel] at read
  cases tokens with
  | nil =>
      rw [readNegation_nil] at read
      cases read
  | cons token rest =>
      have restSound := shorter rest (Nat.lt_succ_self rest.length)
      cases token with
      | tag name =>
          rw [readNegation_tag] at read
          cases read
          exact ⟨[.tag name], rfl, .tag⟩
      | negation =>
          rw [readNegation_negation] at read
          rcases value_of_bind_eq_ok read with ⟨⟨inner, innerLeft⟩, innerRead, read⟩
          cases read
          rcases restSound.reads .negation inner left innerRead with ⟨used, rfl, derives⟩
          exact ⟨.negation :: used, rfl, .negation derives⟩
      | opening =>
          rw [readNegation_opening] at read
          rcases value_of_bind_eq_ok read with ⟨⟨inner, between⟩, innerRead, closes⟩
          rcases restSound.reads .disjunction inner between innerRead with ⟨used, rfl, derives⟩
          rcases eq_of_closed_eq_ok closes with ⟨rfl, rfl⟩
          exact ⟨.opening :: (used ++ [.closing]), by simp, .parenthesised derives⟩
      | closing =>
          rw [readNegation_unexpected (by simp)] at read
          cases read
      | conjunction =>
          rw [readNegation_unexpected (by simp)] at read
          cases read
      | disjunction =>
          rw [readNegation_unexpected (by simp)] at read
          cases read

/-! The tokens behind the first part are fewer than those that the chain was read from. -/

theorem IsChain.readsAt (isChain : IsChain level part operator combine)
    (shorter : ∀ others : List Token, others.length < tokens.length → Sound others)
    (partReads : ReadsAt part tokens) : ReadsAt level tokens := by
  intro expr left read
  rw [isChain.read] at read
  rcases value_of_bind_eq_ok read with ⟨⟨first, between⟩, firstRead, moreRead⟩
  rcases partReads first between firstRead with ⟨used, rfl, derives⟩
  have betweenSound := shorter between (length_lt_of_derives derives)
  rcases betweenSound.continues level first expr left moreRead with ⟨more, rfl, continues⟩
  refine ⟨used ++ more, by simp, ?_⟩
  exact continues used (isChain.first used first derives)

theorem IsChain.continuesAt (isChain : IsChain level part operator combine)
    (shorter : ∀ others : List Token, others.length < tokens.length → Sound others)
    (sofar : Expr) : ContinuesAt level sofar tokens := by
  intro whole left read
  by_cases operated : tokens.head? = some operator
  · rcases List.head?_eq_some_iff.mp operated with ⟨rest, rfl⟩
    rw [isChain.more] at read
    rcases value_of_bind_eq_ok read with ⟨⟨next, between⟩, nextRead, moreRead⟩
    have restSound := shorter rest (Nat.lt_succ_self rest.length)
    rcases restSound.reads part next between nextRead with ⟨used, rfl, derives⟩
    have fewer : between.length < (used ++ between).length := length_lt_of_derives derives
    have betweenSound := shorter between (Nat.lt_succ_of_lt fewer)
    rcases betweenSound.continues level _ whole left moreRead with ⟨more, rfl, continues⟩
    refine ⟨operator :: (used ++ more), by simp, ?_⟩
    intro before sofarDerives
    have longer := isChain.next before used sofar next sofarDerives derives
    simpa using continues (before ++ operator :: used) longer
  · rw [isChain.ended sofar tokens operated] at read
    cases read
    exact ⟨[], rfl, by simp⟩

end

theorem continuesAt_negation (sofar : Expr) (tokens : List Token) :
    ContinuesAt .negation sofar tokens := by
  intro whole left read
  cases read
  exact ⟨[], rfl, by simp⟩

theorem sound (tokens : List Token) : Sound tokens := by
  induction size : tokens.length using Nat.strongRecOn generalizing tokens with
  | ind size induction =>
      have shorter : ∀ others : List Token, others.length < tokens.length → Sound others :=
        fun others fewer => induction others.length (size ▸ fewer) others rfl
      have negation := readsAt_negation shorter
      have conjunction := isChain_conjunction.readsAt shorter negation
      constructor
      · intro level
        cases level with
        | negation => exact negation
        | conjunction => exact conjunction
        | disjunction => exact isChain_disjunction.readsAt shorter conjunction
      · intro level sofar
        cases level with
        | negation => exact continuesAt_negation sofar tokens
        | conjunction => exact isChain_conjunction.continuesAt shorter sofar
        | disjunction => exact isChain_disjunction.continuesAt shorter sofar

/-! ## What is derived is read

What follows a derived part is left to whatever goes on reading. Behind a
disjunction it must not begin with `and`, which would have belonged to its last
conjunction. -/

theorem Derives.readLevel_append {level : Level} {used : List Token} {expr : Expr}
    (derives : Derives level used expr) (rest : List Token)
    (ended : level = .disjunction → rest.head? ≠ some .conjunction) :
    readLevel level (used ++ rest) = readMore level expr rest := by
  induction derives generalizing rest with
  | tag => exact readNegation_tag _ rest
  | negation _ induction =>
      have inner := induction rest (by simp)
      rw [readLevel] at inner
      rw [List.cons_append, readLevel, readNegation_negation, inner]
      rfl
  | @parenthesised tokens _ _ induction =>
      have inner := induction (.closing :: rest) (by simp)
      rw [isChain_disjunction.ended _ _ (by simp), readLevel] at inner
      rw [List.cons_append, List.append_assoc, List.singleton_append, readLevel,
        readNegation_opening, inner]
      rfl
  | firstConjunct _ induction =>
      rw [isChain_conjunction.read, induction rest (by simp)]
      rfl
  | @nextConjunct before after _ _ _ _ beforeInduction afterInduction =>
      have sofar := beforeInduction (.conjunction :: (after ++ rest)) (by simp)
      rw [List.append_assoc, List.cons_append, sofar, isChain_conjunction.more,
        afterInduction rest (by simp)]
      rfl
  | firstDisjunct _ induction =>
      rw [isChain_disjunction.read, induction rest (by simp),
        isChain_conjunction.ended _ rest (ended rfl)]
      rfl
  | @nextDisjunct before after _ _ _ _ beforeInduction afterInduction =>
      have sofar := beforeInduction (.disjunction :: (after ++ rest)) (by simp)
      rw [List.append_assoc, List.cons_append, sofar, isChain_disjunction.more,
        afterInduction rest (by simp), isChain_conjunction.ended _ rest (ended rfl)]
      rfl

/-! ## The whole sequence -/

theorem Expr.ofTokens_eq_ok_iff (tokens : List Token) (expr : Expr) :
    Expr.ofTokens tokens = .ok expr ↔ unbounded (readDisjunction tokens) = .ok (expr, []) := by
  rw [Expr.ofTokens]
  cases readDisjunction tokens with
  | error stop => simp [unbounded, Except.map]
  | ok answer =>
      rcases answer with ⟨whole, left, fewer⟩
      cases left with
      | nil => simp [unbounded, Except.map]
      | cons token after => simp [unbounded, Except.map]

/-- Reading accepts what the grammar derives. -/
theorem Expr.ofTokens_eq_ok_iff_derives (tokens : List Token) (expr : Expr) :
    Expr.ofTokens tokens = .ok expr ↔ Derives .disjunction tokens expr := by
  rw [Expr.ofTokens_eq_ok_iff]
  constructor
  · intro read
    rcases (sound tokens).reads .disjunction expr [] read with ⟨used, rfl, derives⟩
    rwa [List.append_nil]
  · intro derives
    have read := derives.readLevel_append [] (by simp)
    rw [List.append_nil, isChain_disjunction.ended expr [] (by simp)] at read
    exact read

theorem Derives.unique {tokens : List Token} {first second : Expr}
    (isFirst : Derives .disjunction tokens first) (isSecond : Derives .disjunction tokens second) :
    first = second := by
  have firstRead := (Expr.ofTokens_eq_ok_iff_derives tokens first).mpr isFirst
  have secondRead := (Expr.ofTokens_eq_ok_iff_derives tokens second).mpr isSecond
  rw [firstRead] at secondRead
  exact Except.ok.inj secondRead

/-- The texts that are read are those that spell the tokens of a derivation. -/
theorem Expr.ofText_eq_ok_iff (text : Text) (expr : Expr) :
    Expr.ofText text = .ok expr ↔
      ∃ tokens, Spells text tokens ∧ Derives .disjunction tokens expr := by
  rw [Expr.ofText]
  constructor
  · intro read
    split at read
    · cases read
    · next tokens found =>
        exact ⟨tokens, (Token.ofText_eq_ok_iff text tokens).mp found,
          (Expr.ofTokens_eq_ok_iff_derives tokens expr).mp read⟩
  · intro derivable
    rcases derivable with ⟨tokens, spells, derives⟩
    rw [(Token.ofText_eq_ok_iff text tokens).mpr spells]
    exact (Expr.ofTokens_eq_ok_iff_derives tokens expr).mpr derives

end Scenarist.Tag
