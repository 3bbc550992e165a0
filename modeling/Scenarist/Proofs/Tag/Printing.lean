import Scenarist.Proofs.Tag.Grammar

/-! # Printing tag expressions

An expression is printed with parentheses only where its place in a larger one
demands them. Reading the printed tokens gives the expression back, whatever
whitespace they are written with. -/

namespace Scenarist.Tag

open Text

/-! ## Printed tokens -/

/-- Puts parentheses around tokens that need them. -/
def enclose (needed : Bool) (tokens : List Token) : List Token :=
  if needed then .opening :: (tokens ++ [.closing]) else tokens

theorem length_enclose (needed : Bool) (tokens : List Token) :
    (enclose needed tokens).length = tokens.length + 2 * needed.toNat := by
  cases needed <;> simp [enclose]

namespace Expr

/-- The tokens of an expression in a place of the given level. -/
def print (level : Level) : Expr → List Token
  | .tag name => [.tag name]
  | .negation inner => .negation :: inner.print .negation
  | .conjunction left right =>
    enclose (level = .negation)
      (left.print .conjunction ++ .conjunction :: right.print .negation)
  | .disjunction left right =>
    enclose (level ≠ .disjunction)
      (left.print .disjunction ++ .disjunction :: right.print .conjunction)

end Expr

theorem Derives.of_negation {tokens : List Token} {expr : Expr}
    (derives : Derives .negation tokens expr) (level : Level) : Derives level tokens expr := by
  cases level with
  | negation => exact derives
  | conjunction => exact .firstConjunct derives
  | disjunction => exact .firstDisjunct (.firstConjunct derives)

theorem derives_print (level : Level) (expr : Expr) : Derives level (expr.print level) expr := by
  induction expr generalizing level with
  | tag name => exact Derives.tag.of_negation level
  | negation inner induction => exact (Derives.negation (induction .negation)).of_negation level
  | conjunction left right leftInduction rightInduction =>
      have bare := Derives.nextConjunct (leftInduction .conjunction) (rightInduction .negation)
      cases level with
      | negation => exact .parenthesised (.firstDisjunct bare)
      | conjunction => exact bare
      | disjunction => exact .firstDisjunct bare
  | disjunction left right leftInduction rightInduction =>
      have bare := Derives.nextDisjunct (leftInduction .disjunction) (rightInduction .conjunction)
      cases level with
      | negation => exact .parenthesised bare
      | conjunction => exact .firstConjunct (.parenthesised bare)
      | disjunction => exact bare

/-! A wider place never makes the printed tokens more, and parentheses make up for the
narrowest. -/

theorem length_print_conjunction_le (expr : Expr) :
    (expr.print .conjunction).length ≤ (expr.print .negation).length := by
  cases expr <;> simp [Expr.print, length_enclose]

theorem length_print_disjunction_le (expr : Expr) :
    (expr.print .disjunction).length ≤ (expr.print .conjunction).length := by
  cases expr <;> simp [Expr.print, length_enclose]

theorem length_print_negation_le (expr : Expr) :
    (expr.print .negation).length ≤ (expr.print .disjunction).length + 2 := by
  cases expr <;> simp [Expr.print, length_enclose]

/-- No derivation of an expression takes fewer tokens than are printed. -/
theorem Derives.length_print_le {level : Level} {tokens : List Token} {expr : Expr}
    (derives : Derives level tokens expr) : (expr.print level).length ≤ tokens.length := by
  induction derives with
  | tag => simp [Expr.print]
  | negation _ induction => simpa [Expr.print] using induction
  | @parenthesised tokens inner _ induction =>
      have enclosed := length_print_negation_le inner
      simp only [List.length_cons, List.length_append, List.length_nil]
      omega
  | @firstConjunct _ expr _ induction =>
      exact Nat.le_trans (length_print_conjunction_le expr) induction
  | nextConjunct _ _ beforeInduction afterInduction =>
      simp [Expr.print, length_enclose]
      omega
  | @firstDisjunct _ expr _ induction =>
      exact Nat.le_trans (length_print_disjunction_le expr) induction
  | nextDisjunct _ _ beforeInduction afterInduction =>
      simp [Expr.print, length_enclose]
      omega

/-! ## Written tokens -/

namespace Token

def text : Token → Text
  | .opening => ['(']
  | .closing => [')']
  | .negation => "not"
  | .conjunction => "and"
  | .disjunction => "or"
  | .tag name => '@' :: name

def isWord : Token → Bool
  | .opening | .closing => false
  | _ => true

end Token

/-- A text of tokens with any whitespace before, between and behind them. Only a word has to
be kept apart from another. -/
inductive Written : List Token → Text → Prop
  | finished {gap : Text} : isBlankText gap = true → Written [] gap
  | token {gap text : Text} {token : Token} {tokens : List Token} :
      isBlankText gap = true →
      (token.isWord = true → text.head?.all Lexeme.endsWord = true) →
      Written tokens text → Written (token :: tokens) (gap ++ (token.text ++ text))

theorem Lexed.blank_append {gap text : Text} {lexemes : List Lexeme}
    (blank : isBlankText gap = true) (lexed : Lexed text lexemes) :
    Lexed (gap ++ text) lexemes := by
  induction gap with
  | nil => exact lexed
  | cons head gap induction =>
      simp only [isBlankText, List.all_cons, Bool.and_eq_true] at blank
      exact .space blank.1 (induction blank.2)

theorem Lexed.token_append {token : Token} {text : Text} {lexemes : List Lexeme}
    (named : ∀ name, token = .tag name → IsWord name)
    (apart : token.isWord = true → text.head?.all Lexeme.endsWord = true)
    (lexed : Lexed text lexemes) : Lexed (token.text ++ text) (token.lexeme :: lexemes) := by
  cases token with
  | opening => exact .opening lexed
  | closing => exact .closing lexed
  | negation => exact .word (by decide) (apart rfl) lexed
  | conjunction => exact .word (by decide) (apart rfl) lexed
  | disjunction => exact .word (by decide) (apart rfl) lexed
  | tag name => exact .word (isWord_cons rfl (named name rfl).2) (apart rfl) lexed

/-- Tokens are spelt by any text in which they are written. -/
theorem Written.spells {tokens : List Token} {text : Text} (written : Written tokens text)
    (named : ∀ name, .tag name ∈ tokens → IsWord name) : Spells text tokens := by
  induction written with
  | @finished gap blank =>
      have lexed := Lexed.blank_append blank .finished
      rw [List.append_nil] at lexed
      exact ⟨lexed, by simp⟩
  | @token gap text token tokens blank apart _ induction =>
      rcases induction fun name member => named name (List.mem_cons_of_mem token member) with
        ⟨lexed, tokensNamed⟩
      have tokenNamed : ∀ name, token = .tag name → IsWord name := by
        intro name equal
        subst equal
        exact named name List.mem_cons_self
      refine ⟨.blank_append blank (.token_append tokenNamed apart lexed), ?_⟩
      intro other member
      rcases List.mem_cons.mp member with rfl | member
      · cases other with
        | tag name => exact (tokenNamed name rfl).1
        | _ => trivial
      · exact tokensNamed other member

/-! ## Reading what was printed -/

namespace Expr

def names : Expr → List Text
  | .tag name => [name]
  | .negation inner => inner.names
  | .conjunction left right => left.names ++ right.names
  | .disjunction left right => left.names ++ right.names

theorem mem_of_tag_mem_enclose {name : Text} {needed : Bool} {tokens : List Token}
    (member : .tag name ∈ enclose needed tokens) : .tag name ∈ tokens := by
  unfold enclose at member
  split at member
  · simpa using member
  · exact member

theorem mem_names_of_mem_print {level : Level} {expr : Expr} {name : Text}
    (member : .tag name ∈ expr.print level) : name ∈ expr.names := by
  induction expr generalizing level with
  | tag other => simpa [print, names] using member
  | negation inner induction =>
      rcases List.mem_cons.mp member with isOperator | member
      · cases isOperator
      · exact induction member
  | conjunction left right leftInduction rightInduction =>
      rcases List.mem_append.mp (mem_of_tag_mem_enclose member) with inLeft | inRight
      · exact List.mem_append_left _ (leftInduction inLeft)
      · rcases List.mem_cons.mp inRight with isOperator | inRight
        · cases isOperator
        · exact List.mem_append_right _ (rightInduction inRight)
  | disjunction left right leftInduction rightInduction =>
      rcases List.mem_append.mp (mem_of_tag_mem_enclose member) with inLeft | inRight
      · exact List.mem_append_left _ (leftInduction inLeft)
      · rcases List.mem_cons.mp inRight with isOperator | inRight
        · cases isOperator
        · exact List.mem_append_right _ (rightInduction inRight)

theorem ofText_of_written {expr : Expr} {text : Text}
    (areWords : ∀ name ∈ expr.names, IsWord name)
    (written : Written (expr.print .disjunction) text) : Expr.ofText text = .ok expr := by
  have spells := written.spells fun name member => areWords name (mem_names_of_mem_print member)
  exact (Expr.ofText_eq_ok_iff text expr).mpr
    ⟨expr.print .disjunction, spells, derives_print .disjunction expr⟩

theorem ofText_eq_error_iff (text : Text) : (∃ fault, Expr.ofText text = .error fault) ↔
    ¬∃ tokens expr, Spells text tokens ∧ Derives .disjunction tokens expr := by
  cases answer : Expr.ofText text with
  | error fault =>
      refine ⟨?_, fun _ => ⟨fault, rfl⟩⟩
      intro _ derivable
      rcases derivable with ⟨tokens, expr, spells, derives⟩
      have read := (Expr.ofText_eq_ok_iff text expr).mpr ⟨tokens, spells, derives⟩
      rw [answer] at read
      cases read
  | ok expr =>
      rcases (Expr.ofText_eq_ok_iff text expr).mp answer with ⟨tokens, spells, derives⟩
      refine ⟨?_, fun absent => absurd ⟨tokens, expr, spells, derives⟩ absent⟩
      intro faulty
      rcases faulty with ⟨fault, faulty⟩
      cases faulty

/-- The lexemes of a text are determined. Reading answers the expression that the tokens they
write derive, which is the only one, and a fault if they derive none. Printing derives the
expression with the fewest tokens, and reading gives it back from any text in which these are
written. -/
theorem ofText_accepts_grammar (text : Text) (expr : Expr) :
    (∃ lexemes, Lexed text lexemes ∧ ∀ others, Lexed text others → others = lexemes) ∧
    (Expr.ofText text = .ok expr ↔
      ∃ tokens, Spells text tokens ∧ Derives .disjunction tokens expr) ∧
    ((∃ fault, Expr.ofText text = .error fault) ↔
      ¬∃ tokens expr, Spells text tokens ∧ Derives .disjunction tokens expr) ∧
    (∀ tokens other, Derives .disjunction tokens expr → Derives .disjunction tokens other →
      other = expr) ∧
    Derives .disjunction (expr.print .disjunction) expr ∧
    (∀ tokens, Derives .disjunction tokens expr →
      (expr.print .disjunction).length ≤ tokens.length) ∧
    ((∀ name ∈ expr.names, IsWord name) → Written (expr.print .disjunction) text →
      Expr.ofText text = .ok expr) := by
  refine ⟨⟨Lexeme.ofText text, (lexed_iff ..).mpr rfl, ?_⟩, Expr.ofText_eq_ok_iff text expr,
    ofText_eq_error_iff text, ?_, derives_print .disjunction expr, ?_, ofText_of_written⟩
  · intro others lexed
    exact lexed.ofText_eq.symm
  · intro tokens other derives otherDerives
    exact otherDerives.unique derives
  · intro tokens derives
    exact derives.length_print_le

theorem ofText_accepts_grammar_tight :
    let expr : Expr := .negation (.disjunction (.tag "a") (.tag "b"))
    (∀ name ∈ expr.names, IsWord name) ∧
      Written (expr.print .disjunction) "not(@a or\t@b) " ∧
        Expr.ofText "not(@a or\t@b) " = .ok expr := by
  intro expr
  have areWords : ∀ name ∈ expr.names, IsWord name := by decide
  have written : Written (expr.print .disjunction) "not(@a or\t@b) " := by
    refine @Written.token [] _ .negation _ rfl (by decide) ?_
    refine @Written.token [] _ .opening _ rfl (by decide) ?_
    refine @Written.token [] _ (.tag "a") _ rfl (by decide) ?_
    refine @Written.token [' '] _ .disjunction _ rfl (by decide) ?_
    refine @Written.token ['\t'] _ (.tag "b") _ rfl (by decide) ?_
    refine @Written.token [] _ .closing _ rfl (by decide) ?_
    exact .finished (by decide)
  rcases ofText_accepts_grammar "not(@a or\t@b) " expr with ⟨-, -, -, -, -, -, readBack⟩
  exact ⟨areWords, written, readBack areWords written⟩

end Expr

end Scenarist.Tag
