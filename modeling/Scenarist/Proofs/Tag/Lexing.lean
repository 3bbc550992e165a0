import Scenarist.Tag.Token

/-! # The lexemes of a tag expression

Which lexemes a text is made of is said here without the scan: parentheses on
their own, whitespace that makes no lexeme, and words that end only where
whitespace, a parenthesis or the end of the text follows. Each text has one such
sequence of lexemes, and the scan finds it. -/

namespace Scenarist.Tag

open Text

/-- A nonempty text without whitespace and parentheses. -/
def IsWord (word : Text) : Prop :=
  word ≠ [] ∧ ∀ character ∈ word, Lexeme.endsWord character = false

instance (word : Text) : Decidable (IsWord word) :=
  decidable_of_iff (word ≠ [] ∧ word.all (fun character => !Lexeme.endsWord character) = true)
    (by simp [IsWord])

theorem isWord_cons {head : Char} {word : Text} (inWord : Lexeme.endsWord head = false)
    (others : ∀ character ∈ word, Lexeme.endsWord character = false) : IsWord (head :: word) := by
  refine ⟨List.cons_ne_nil head word, ?_⟩
  intro character member
  rcases List.mem_cons.mp member with rfl | member
  · exact inWord
  · exact others character member

/-- The lexemes that a text is made of. -/
inductive Lexed : Text → List Lexeme → Prop
  | finished : Lexed [] []
  | space {character : Char} {rest : Text} {lexemes : List Lexeme} :
      isSpace character = true → Lexed rest lexemes → Lexed (character :: rest) lexemes
  | opening {rest : Text} {lexemes : List Lexeme} :
      Lexed rest lexemes → Lexed ('(' :: rest) (.opening :: lexemes)
  | closing {rest : Text} {lexemes : List Lexeme} :
      Lexed rest lexemes → Lexed (')' :: rest) (.closing :: lexemes)
  | word {word rest : Text} {lexemes : List Lexeme} :
      IsWord word → rest.head?.all Lexeme.endsWord = true →
      Lexed rest lexemes → Lexed (word ++ rest) (.word word :: lexemes)

namespace Lexeme

theorem ofText_space {character : Char} (space : isSpace character = true) (rest : Text) :
    ofText (character :: rest) = ofText rest := by
  have notOpening : character ≠ '(' := by
    intro equal
    subst equal
    simp [isSpace] at space
  have notClosing : character ≠ ')' := by
    intro equal
    subst equal
    simp [isSpace] at space
  rw [ofText.eq_def]
  simp [notOpening, notClosing, space]

theorem ofText_opening (rest : Text) : ofText ('(' :: rest) = .opening :: ofText rest := by
  rw [ofText.eq_def]
  rfl

theorem ofText_closing (rest : Text) : ofText (')' :: rest) = .closing :: ofText rest := by
  rw [ofText.eq_def]
  rfl

theorem ofText_word_append {word rest : Text} (isWord : IsWord word)
    (ended : rest.head?.all endsWord = true) :
    ofText (word ++ rest) = .word word :: ofText rest := by
  rcases isWord with ⟨nonempty, inWord⟩
  induction word with
  | nil => exact absurd rfl nonempty
  | cons head word induction =>
      have headInWord := inWord head List.mem_cons_self
      simp only [endsWord, Bool.or_eq_false_iff, decide_eq_false_iff_not] at headInWord
      rcases headInWord with ⟨⟨notSpace, notOpening⟩, notClosing⟩
      rw [List.cons_append, ofText.eq_def]
      simp only [notOpening, notClosing, notSpace, if_false, Bool.false_eq_true]
      cases word with
      | nil =>
          cases rest with
          | nil => rfl
          | cons next rest =>
              have nextEnds : endsWord next = true := ended
              simp [nextEnds]
      | cons next word =>
          have others := induction (by simp) fun character member =>
            inWord character (List.mem_cons_of_mem head member)
          have nextInWord := inWord next (by simp)
          rw [List.cons_append] at others ⊢
          simp only [nextInWord, others, Bool.false_eq_true, if_false]

end Lexeme

theorem Lexed.ofText_eq {text : Text} {lexemes : List Lexeme} (lexed : Lexed text lexemes) :
    Lexeme.ofText text = lexemes := by
  induction lexed with
  | finished => rfl
  | space space _ induction => rw [Lexeme.ofText_space space, induction]
  | opening _ induction => rw [Lexeme.ofText_opening, induction]
  | closing _ induction => rw [Lexeme.ofText_closing, induction]
  | word isWord ended _ induction => rw [Lexeme.ofText_word_append isWord ended, induction]

/-- A character of a word begins a new word, or goes before the word that follows it. -/
theorem Lexed.exists_cons {head : Char} {rest : Text} {lexemes : List Lexeme}
    (inWord : Lexeme.endsWord head = false) (lexed : Lexed rest lexemes) :
    ∃ lexemes, Lexed (head :: rest) lexemes := by
  have single : IsWord [head] := isWord_cons inWord (by simp)
  cases lexed with
  | finished => exact ⟨_, .word single rfl .finished⟩
  | @space character rest _ space others =>
      have ended : Lexeme.endsWord character = true := by
        rw [Lexeme.endsWord, space]
        rfl
      exact ⟨_, .word single ended (.space space others)⟩
  | opening others => exact ⟨_, .word single rfl (.opening others)⟩
  | closing others => exact ⟨_, .word single rfl (.closing others)⟩
  | word isWord ended others => exact ⟨_, .word (isWord_cons inWord isWord.2) ended others⟩

theorem Lexed.exists (text : Text) : ∃ lexemes, Lexed text lexemes := by
  induction text with
  | nil => exact ⟨[], .finished⟩
  | cons head rest induction =>
      rcases induction with ⟨lexemes, lexed⟩
      by_cases ends : Lexeme.endsWord head = true
      · simp only [Lexeme.endsWord, Bool.or_eq_true, decide_eq_true_eq] at ends
        rcases ends with (space | rfl) | rfl
        · exact ⟨_, .space space lexed⟩
        · exact ⟨_, .opening lexed⟩
        · exact ⟨_, .closing lexed⟩
      · exact Lexed.exists_cons (by simpa using ends) lexed

/-- The scan finds the lexemes of a text. -/
theorem lexed_iff (text : Text) (lexemes : List Lexeme) :
    Lexed text lexemes ↔ Lexeme.ofText text = lexemes := by
  constructor
  · exact Lexed.ofText_eq
  · intro found
    subst found
    rcases Lexed.exists text with ⟨lexemes, lexed⟩
    rwa [lexed.ofText_eq]

/-! ## Tokens -/

theorem value_of_bind_eq_ok {ε α β : Type} {first : Except ε α} {next : α → Except ε β}
    {result : β}
    (bound : first >>= next = .ok result) :
    ∃ value, first = .ok value ∧ next value = .ok result := by
  cases first with
  | error fault => cases bound
  | ok value => exact ⟨value, rfl, bound⟩

namespace Token

/-- How a token is written. -/
def lexeme : Token → Lexeme
  | .opening => .opening
  | .closing => .closing
  | .negation => .word "not"
  | .conjunction => .word "and"
  | .disjunction => .word "or"
  | .tag name => .word ('@' :: name)

/-- A tag has a name. -/
def IsNamed : Token → Prop
  | .tag name => name ≠ []
  | _ => True

theorem lexeme_of_ofWord {word : Text} {token : Token} (found : ofWord word = some token) :
    token.lexeme = .word word ∧ token.IsNamed := by
  unfold ofWord at found
  split at found
  · next isNot =>
      cases found
      exact ⟨by rw [isNot, lexeme], trivial⟩
  · split at found
    · next isAnd =>
        cases found
        exact ⟨by rw [isAnd, lexeme], trivial⟩
    · split at found
      · next isOr =>
          cases found
          exact ⟨by rw [isOr, lexeme], trivial⟩
      · split at found
        · cases found
        · cases found
        · next name nonempty stripped =>
            cases found
            rw [strip_eq_some_iff] at stripped
            exact ⟨by rw [stripped, lexeme]; rfl, nonempty⟩

theorem ofWord_tag {name : Text} (nonempty : name ≠ []) :
    ofWord ('@' :: name) = some (.tag name) := by
  cases name with
  | nil => exact absurd rfl nonempty
  | cons head name => rfl

theorem ofLexeme_eq_ok_iff (lexeme : Lexeme) (token : Token) :
    ofLexeme lexeme = .ok token ↔ token.lexeme = lexeme ∧ token.IsNamed := by
  constructor
  · intro read
    cases lexeme with
    | opening =>
        cases read
        exact ⟨rfl, trivial⟩
    | closing =>
        cases read
        exact ⟨rfl, trivial⟩
    | word word =>
        rw [ofLexeme] at read
        split at read
        · cases read
        · next found =>
            cases read
            exact lexeme_of_ofWord found
  · intro written
    rcases written with ⟨rfl, named⟩
    cases token with
    | opening => rfl
    | closing => rfl
    | negation => rfl
    | conjunction => rfl
    | disjunction => rfl
    | tag name => rw [lexeme, ofLexeme, ofWord_tag named]

theorem mapM_ofLexeme_eq_ok_iff (lexemes : List Lexeme) (tokens : List Token) :
    lexemes.mapM ofLexeme = .ok tokens ↔
      tokens.map lexeme = lexemes ∧ ∀ token ∈ tokens, token.IsNamed := by
  induction lexemes generalizing tokens with
  | nil =>
      rw [List.mapM_nil]
      constructor
      · intro read
        cases read
        simp
      · intro spelt
        rcases spelt with ⟨written, -⟩
        rw [List.map_eq_nil_iff.mp written]
        rfl
  | cons head lexemes induction =>
      rw [List.mapM_cons]
      constructor
      · intro read
        rcases value_of_bind_eq_ok read with ⟨first, firstRead, read⟩
        rcases value_of_bind_eq_ok read with ⟨others, othersRead, read⟩
        cases read
        rcases (ofLexeme_eq_ok_iff ..).mp firstRead with ⟨rfl, firstNamed⟩
        rcases (induction others).mp othersRead with ⟨rfl, othersNamed⟩
        simpa using ⟨firstNamed, othersNamed⟩
      · intro spelt
        rcases spelt with ⟨written, named⟩
        rcases List.map_eq_cons_iff.mp written with ⟨first, others, rfl, firstWritten, written⟩
        have firstRead := (ofLexeme_eq_ok_iff head first).mpr
          ⟨firstWritten, named first List.mem_cons_self⟩
        have othersRead := (induction others).mpr
          ⟨written, fun token member => named token (List.mem_cons_of_mem first member)⟩
        rw [firstRead, othersRead]
        rfl

end Token

/-- The lexemes of a text write the tokens. -/
def Spells (text : Text) (tokens : List Token) : Prop :=
  Lexed text (tokens.map Token.lexeme) ∧ ∀ token ∈ tokens, token.IsNamed

theorem Token.ofText_eq_ok_iff (text : Text) (tokens : List Token) :
    Token.ofText text = .ok tokens ↔ Spells text tokens := by
  rw [Token.ofText, Token.mapM_ofLexeme_eq_ok_iff, Spells, lexed_iff, eq_comm]

end Scenarist.Tag
