import Scenarist.Load
import Scenarist.Proofs.Tag.Terms

/-! # Filters of alternatives

A text without parentheses is a filter in the older notation unless one of its words
is an operator. Where all terms are well formed there is no such word, for every word
begins with one of the marks that the notation is made of. -/

namespace Scenarist.Tag

open Text

/-! ## The words of well-formed terms -/

def isMark (character : Char) : Bool :=
  character = '~' || character = '@' || character = ',' || character = '&'

/-- A text of whitespace and of marks, each with more of a word behind it. -/
inductive Marked : Text → Prop
  | finished : Marked []
  | space {character : Char} {rest : Text} :
      isSpace character = true → Marked rest → Marked (character :: rest)
  | mark {mark : Char} {word rest : Text} :
      isMark mark = true → (∀ character ∈ word, isSpace character = false) →
      Marked rest → Marked (mark :: (word ++ rest))

theorem isSpace_of_isMark {mark : Char} (isMark : isMark mark = true) : isSpace mark = false := by
  simp only [Tag.isMark, Bool.or_eq_true, decide_eq_true_eq] at isMark
  rcases isMark with ((rfl | rfl) | rfl) | rfl <;> rfl

theorem isOperator_of_isMark {mark : Char} (isMark : isMark mark = true) (rest : Text) :
    isOperator (mark :: rest) = false := by
  simp only [Tag.isMark, Bool.or_eq_true, decide_eq_true_eq] at isMark
  rcases isMark with ((rfl | rfl) | rfl) | rfl <;> simp [isOperator]

/-- Characters of one word stay in one, whatever stands behind them. -/
theorem exists_words_append {word : Text} (spoken : word ≠ [])
    (spaceless : ∀ character ∈ word, isSpace character = false) (rest : Text) :
    ∃ more others, words (word ++ rest) = (word ++ more) :: others ∧
      ∀ other ∈ others, other ∈ words rest := by
  induction word with
  | nil => exact absurd rfl spoken
  | cons head word induction =>
      have headSpaceless := spaceless head List.mem_cons_self
      rw [List.cons_append, words.eq_def]
      simp only [headSpaceless, Bool.false_eq_true, if_false]
      -- Only the last character of the word meets the rest, and may go before its first word.
      cases word with
      | nil =>
          cases rest with
          | nil => exact ⟨[], [], rfl, by simp⟩
          | cons next rest =>
              by_cases space : isSpace next = true
              · exact ⟨[], words (next :: rest), by simp [space], by simp⟩
              · cases found : words (next :: rest) with
                | nil => exact ⟨[], [], by simp [space, found], by simp⟩
                | cons first others =>
                    exact ⟨first, others, by simp [space, found], by simp +contextual⟩
      | cons next word =>
          have nextSpaceless := spaceless next (by simp)
          rcases induction (by simp) fun character member =>
            spaceless character (List.mem_cons_of_mem head member) with ⟨more, others, found, rest⟩
          refine ⟨more, others, ?_, rest⟩
          rw [List.cons_append] at found
          simp [nextSpaceless, found]

namespace Marked

theorem exists_mark {text word : Text} (marked : Marked text) (member : word ∈ words text) :
    ∃ mark rest, isMark mark = true ∧ word = mark :: rest := by
  induction marked with
  | finished => cases member
  | @space character rest space _ induction =>
      rw [words.eq_def] at member
      simp only [space, if_true] at member
      exact induction member
  | @mark mark begun rest isMark spaceless _ induction =>
      have oneWord : ∀ character ∈ mark :: begun, isSpace character = false :=
        List.forall_mem_cons.mpr ⟨isSpace_of_isMark isMark, spaceless⟩
      rcases exists_words_append (List.cons_ne_nil mark begun) oneWord rest with
        ⟨more, others, found, inRest⟩
      rw [List.cons_append] at found
      rw [found] at member
      rcases List.mem_cons.mp member with rfl | inOthers
      · exact ⟨mark, begun ++ more, isMark, rfl⟩
      · exact induction (inRest word inOthers)

theorem isOperator_eq_false {text word : Text} (marked : Marked text)
    (member : word ∈ words text) : isOperator word = false := by
  rcases marked.exists_mark member with ⟨mark, rest, isMark, rfl⟩
  exact isOperator_of_isMark isMark rest

theorem append {first second : Text} (firstMarked : Marked first) (secondMarked : Marked second) :
    Marked (first ++ second) := by
  induction firstMarked with
  | finished => exact secondMarked
  | space space _ induction => exact .space space induction
  | @mark mark word rest isMark spaceless _ induction =>
      rw [List.cons_append, List.append_assoc]
      exact .mark isMark spaceless induction

theorem of_blank {gap : Text} (blank : ∀ character ∈ gap, isSpace character = true) :
    Marked gap := by
  induction gap with
  | nil => exact .finished
  | cons head gap induction =>
      rcases List.forall_mem_cons.mp blank with ⟨space, othersBlank⟩
      exact .space space (induction othersBlank)

theorem single {mark : Char} (isMark : isMark mark = true) : Marked [mark] :=
  @Marked.mark mark [] [] isMark (by simp) .finished

theorem join {separator : Text} {pieces : List Text} (separatorMarked : Marked separator)
    (piecesMarked : ∀ piece ∈ pieces, Marked piece) : Marked (Text.join separator pieces) := by
  induction pieces with
  | nil => exact .finished
  | cons piece pieces induction =>
      rcases List.forall_mem_cons.mp piecesMarked with ⟨pieceMarked, othersMarked⟩
      cases pieces with
      | nil => simpa [Text.join] using pieceMarked
      | cons next pieces =>
          rw [join_cons_cons]
          exact pieceMarked.append (separatorMarked.append (induction othersMarked))

end Marked

theorem Literal.WrittenAs.marked {literal : Literal} {term : Text}
    (written : literal.WrittenAs term) : Marked term := by
  rcases written with ⟨-, spaceless, gap, blank, rfl⟩
  have tag : Marked ('@' :: (literal.name ++ [])) := .mark rfl spaceless .finished
  rw [List.append_nil] at tag
  have behindTilde := (Marked.of_blank (List.all_eq_true.mp blank)).append tag
  cases literal.negated with
  | true => exact (Marked.single rfl).append behindTilde
  | false => exact behindTilde

theorem marked_of_trim {piece : Text} (trimmed : Marked (trim piece)) : Marked piece := by
  rcases (trims_trim piece).within with ⟨before, after, whole, spaces⟩
  have spacesBefore := fun character member => spaces character (List.mem_append_left after member)
  have spacesAfter := fun character member => spaces character (List.mem_append_right before member)
  rw [whole]
  exact ((Marked.of_blank spacesBefore).append trimmed).append (Marked.of_blank spacesAfter)

theorem splitAmpersands_ne_nil (text : Text) : splitAmpersands text ≠ [] := by
  fun_cases splitAmpersands text <;> simp

theorem join_splitAmpersands (text : Text) : join ['&', '&'] (splitAmpersands text) = text := by
  fun_induction splitAmpersands text with
  | case1 rest induction =>
      cases pieces : splitAmpersands rest with
      | nil => exact absurd pieces (splitAmpersands_ne_nil rest)
      | cons piece others =>
          rw [join_cons_cons, ← pieces, induction]
          rfl
  | case2 head rest notBoth nothing => exact absurd nothing (splitAmpersands_ne_nil rest)
  | case3 head rest notBoth piece pieces found induction =>
      rw [← induction, found]
      cases pieces with
      | nil => simp [join]
      | cons next others => rw [join_cons_cons, join_cons_cons, List.cons_append]
  | case4 => rfl

theorem marked_of_wellFormed {text : Text}
    (wellFormed : ∀ group ∈ terms text, ∀ term ∈ group, WellFormed term) : Marked text := by
  rw [← join_splitAmpersands text]
  apply Marked.join ((Marked.single rfl).append (Marked.single rfl))
  intro group inText
  rw [← join_split ',' group]
  apply Marked.join (Marked.single rfl)
  intro piece inGroup
  rcases wellFormed _ (List.mem_map.mpr ⟨group, inText, rfl⟩) _
    (List.mem_map.mpr ⟨piece, inGroup, rfl⟩) with ⟨literal, written⟩
  exact marked_of_trim written.marked

/-! ## What groups of alternatives demand -/

namespace Alternatives

variable {tags : List Text}

theorem eval_groupExpr {group : List Literal} {expr : Expr} (isExpr : groupExpr group = some expr) :
    expr.eval tags = true ↔ ∃ literal ∈ group, literal.Holds tags := by
  cases group with
  | nil => cases isExpr
  | cons first rest =>
      cases isExpr
      simp [Expr.eval_foldl_disjunction, Literal.eval_expr]

theorem keeps_joined (text : Text) (exprs : List Expr) :
    Filter.keeps ⟨text, Expr.joined .conjunction exprs⟩ tags = true ↔
      ∀ expr ∈ exprs, expr.eval tags = true := by
  cases exprs with
  | nil => simp [Expr.joined, Filter.keeps]
  | cons first rest => simp [Expr.joined, Filter.keeps, Expr.eval_foldl_conjunction]

/-- A list of tags passes if each group has a literal that holds of it. -/
theorem keeps_expr {alternatives : Alternatives}
    (inhabited : ∀ group ∈ alternatives, group ≠ []) (text : Text) :
    Filter.keeps ⟨text, alternatives.expr⟩ tags = true ↔
      ∀ group ∈ alternatives, ∃ literal ∈ group, literal.Holds tags := by
  rw [expr, keeps_joined]
  constructor
  · intro allHold group member
    rcases List.exists_cons_of_ne_nil (inhabited group member) with ⟨first, rest, rfl⟩
    exact (eval_groupExpr rfl).mp (allHold _ (List.mem_filterMap.mpr ⟨_, member, rfl⟩))
  · intro eachHolds expr member
    rcases List.mem_filterMap.mp member with ⟨group, inAlternatives, isExpr⟩
    exact (eval_groupExpr isExpr).mpr (eachHolds group inAlternatives)

end Alternatives

/-! ## Texts without parentheses -/

section

variable {text : Text}

theorem isExpression_eq_false (noOpening : '(' ∉ text) (noClosing : ')' ∉ text)
    (plain : ∀ word ∈ words text, isOperator word = false) : isExpression text = false := by
  simp only [isExpression, Bool.or_eq_false_iff, List.any_eq_false, decide_eq_true_eq,
    Bool.or_eq_true, not_or]
  refine ⟨?_, fun word member => by simp [plain word member]⟩
  intro character member
  exact ⟨fun opens => noOpening (opens ▸ member), fun closes => noClosing (closes ▸ member)⟩

theorem filterOf_eq (notExpression : isExpression text = false) :
    filterOf text = ((Alternatives.ofText text).map fun alternatives =>
      (⟨text, alternatives.expr⟩ : Filter)).mapError
        fun fault => .tagExpression text fault.message := by
  rw [filterOf, Filter.ofText, Filter.exprOf, notExpression, if_neg Bool.false_ne_true]
  cases Alternatives.ofText text <;> rfl

theorem malformed_eq_nil
    (wellFormed : ∀ group ∈ terms text, ∀ term ∈ group, WellFormed term) : malformed text = [] := by
  apply List.filter_eq_nil_iff.mpr
  intro term member
  rcases List.mem_flatten.mp member with ⟨group, inText, inGroup⟩
  rw [(wellFormed_iff inText inGroup).mp (wellFormed group inText term inGroup)]
  exact Bool.false_ne_true

/-- The literals that well-formed terms write. -/
theorem filterOf_of_wellFormed (noOpening : '(' ∉ text) (noClosing : ')' ∉ text)
    (spoken : isBlankText text = false)
    (wellFormed : ∀ group ∈ terms text, ∀ term ∈ group, WellFormed term) :
    filterOf text = .ok ⟨text, Alternatives.expr
      ((terms text).map fun group => group.filterMap Literal.ofTerm)⟩ := by
  have plain : ∀ word ∈ words text, isOperator word = false :=
    fun word member => (marked_of_wellFormed wellFormed).isOperator_eq_false member
  rw [filterOf_eq (isExpression_eq_false noOpening noClosing plain),
    Alternatives.ofText_eq spoken, malformed_eq_nil wellFormed]
  rfl

theorem exists_literal_iff {tags : List Text} {group : List Text} (inText : group ∈ terms text) :
    (∃ literal ∈ group.filterMap Literal.ofTerm, literal.Holds tags) ↔
      ∃ term ∈ group, Satisfies tags term := by
  constructor
  · rintro ⟨literal, read, holds⟩
    rcases List.mem_filterMap.mp read with ⟨term, inGroup, read⟩
    have unspaced := isSpace_head_of_mem_terms inText inGroup
    exact ⟨term, inGroup, literal, (Literal.ofTerm_eq_some_iff unspaced literal).mp read, holds⟩
  · rintro ⟨term, inGroup, literal, written, holds⟩
    have unspaced := isSpace_head_of_mem_terms inText inGroup
    have read := (Literal.ofTerm_eq_some_iff unspaced literal).mpr written
    exact ⟨literal, List.mem_filterMap.mpr ⟨term, inGroup, read⟩, holds⟩

theorem filterMap_ofTerm_ne_nil {group : List Text} (inText : group ∈ terms text)
    (wellFormed : ∀ term ∈ group, WellFormed term) : group.filterMap Literal.ofTerm ≠ [] := by
  have inhabited : group ≠ [] := by
    rcases List.mem_map.mp inText with ⟨source, -, rfl⟩
    simp [split_ne_nil]
  rcases List.exists_mem_of_ne_nil group inhabited with ⟨term, inGroup⟩
  rcases wellFormed term inGroup with ⟨literal, written⟩
  have read := (Literal.ofTerm_eq_some_iff (isSpace_head_of_mem_terms inText inGroup) literal).mpr
    written
  exact List.ne_nil_of_mem (List.mem_filterMap.mpr ⟨term, inGroup, read⟩)

theorem keeps_of_wellFormed (wellFormed : ∀ group ∈ terms text, ∀ term ∈ group, WellFormed term)
    (tags : List Text) :
    Filter.keeps ⟨text, Alternatives.expr
      ((terms text).map fun group => group.filterMap Literal.ofTerm)⟩ tags = true ↔
      ∀ group ∈ terms text, ∃ term ∈ group, Satisfies tags term := by
  rw [Alternatives.keeps_expr, List.forall_mem_map]
  · exact forall₂_congr fun group inText => exists_literal_iff inText
  · rw [List.forall_mem_map]
    exact fun group inText => filterMap_ofTerm_ne_nil inText (wellFormed group inText)

theorem filterOf_of_blank (noOpening : '(' ∉ text) (noClosing : ')' ∉ text)
    (blank : isBlankText text = true) : filterOf text = .ok ⟨text, none⟩ := by
  have marked : Marked text := .of_blank (List.all_eq_true.mp blank)
  have plain : ∀ word ∈ words text, isOperator word = false :=
    fun word member => marked.isOperator_eq_false member
  rw [filterOf_eq (isExpression_eq_false noOpening noClosing plain), Alternatives.ofText, blank]
  rfl

/-- The first malformed term is the fault. -/
theorem filterOf_of_malformed (noOpening : '(' ∉ text) (noClosing : ')' ∉ text)
    (spoken : isBlankText text = false) (plain : ∀ word ∈ words text, isOperator word = false)
    {term : Text} (isFirst : (malformed text).head? = some term) :
    filterOf text = .error (.tagExpression text (Fault.notATag term).message) := by
  rcases List.head?_eq_some_iff.mp isFirst with ⟨others, found⟩
  rw [filterOf_eq (isExpression_eq_false noOpening noClosing plain),
    Alternatives.ofText_eq spoken, found]
  rfl

theorem exists_first_malformed (faulty : ∃ group ∈ terms text, ∃ term ∈ group, ¬WellFormed term) :
    ∃ before term after, (terms text).flatten = before ++ term :: after ∧
      (∀ earlier ∈ before, WellFormed earlier) ∧ ¬WellFormed term ∧
      (malformed text).head? = some term := by
  have reads : ∀ term ∈ (terms text).flatten,
      (WellFormed term ↔ (Literal.ofTerm term).isNone = false) := by
    intro term member
    rcases List.mem_flatten.mp member with ⟨group, inText, inGroup⟩
    exact wellFormed_iff inText inGroup
  rcases faulty with ⟨group, inText, some, inGroup, isFaulty⟩
  have isMember := List.mem_flatten.mpr ⟨group, inText, inGroup⟩
  rw [reads some isMember, Bool.not_eq_false] at isFaulty
  rw [malformed, List.head?_filter]
  have found : ((terms text).flatten.find? fun term => (Literal.ofTerm term).isNone).isSome :=
    List.find?_isSome.mpr ⟨some, isMember, isFaulty⟩
  rcases Option.isSome_iff_exists.mp found with ⟨term, isFirst⟩
  rcases List.find?_eq_some_iff_append.mp isFirst with ⟨unread, before, after, whole, allRead⟩
  refine ⟨before, term, after, whole, ?_, ?_, isFirst⟩
  · intro earlier inBefore
    have inTerms : earlier ∈ (terms text).flatten := whole ▸ List.mem_append_left _ inBefore
    exact (reads earlier inTerms).mpr (by simpa using allRead earlier inBefore)
  · have inTerms : term ∈ (terms text).flatten := whole ▸ by simp
    rw [reads term inTerms, unread]
    exact Bool.noConfusion

end

/-- A text without parentheses is read term by term. A blank one lets everything pass. If all
terms are well formed, no word is an operator, and a list of tags passes that satisfies a term of
each group. Otherwise, unless an operator makes it a tag expression, the text is refused with the
first malformed term. -/
theorem filterOf_unparenthesised (text : Text) (noOpening : '(' ∉ text) (noClosing : ')' ∉ text) :
    (isBlankText text = true →
      ∃ filter, filterOf text = .ok filter ∧ ∀ tags, filter.keeps tags = true) ∧
    (isBlankText text = false → (∀ group ∈ terms text, ∀ term ∈ group, WellFormed term) →
      (∀ word ∈ words text, isOperator word = false) ∧
      ∃ filter, filterOf text = .ok filter ∧ ∀ tags, filter.keeps tags = true ↔
        ∀ group ∈ terms text, ∃ term ∈ group, Satisfies tags term) ∧
    (isBlankText text = false → (∀ word ∈ words text, isOperator word = false) →
      (∃ group ∈ terms text, ∃ term ∈ group, ¬WellFormed term) →
      ∃ before term after, (terms text).flatten = before ++ term :: after ∧
        (∀ earlier ∈ before, WellFormed earlier) ∧ ¬WellFormed term ∧
        filterOf text =
          .error (.tagExpression text ("`" ++ term ++ ("` is not a tag" : Text)))) := by
  refine ⟨?_, ?_, ?_⟩
  · intro blank
    exact ⟨_, filterOf_of_blank noOpening noClosing blank, fun _ => rfl⟩
  · intro spoken wellFormed
    refine ⟨fun word member => (marked_of_wellFormed wellFormed).isOperator_eq_false member,
      _, filterOf_of_wellFormed noOpening noClosing spoken wellFormed, ?_⟩
    exact keeps_of_wellFormed wellFormed
  · intro spoken plain faulty
    rcases exists_first_malformed faulty with
      ⟨before, term, after, whole, earlierFormed, isFaulty, isFirst⟩
    exact ⟨before, term, after, whole, earlierFormed, isFaulty,
      filterOf_of_malformed noOpening noClosing spoken plain isFirst⟩

theorem filterOf_unparenthesised_smoke :
    let blank : Text := " \t"
    let formed : Text := "~ @wip&&@smoke , @@slow"
    let faulty : Text := "@smoke,wip && ,"
    (isBlankText blank = true ∧
      ∃ filter, filterOf blank = .ok filter ∧ ∀ tags, filter.keeps tags = true) ∧
    (isBlankText formed = false ∧ (∀ group ∈ terms formed, ∀ term ∈ group, WellFormed term) ∧
      ∃ filter, filterOf formed = .ok filter ∧ ∀ tags, filter.keeps tags = true ↔
        ∀ group ∈ terms formed, ∃ term ∈ group, Satisfies tags term) ∧
    isBlankText faulty = false ∧ (∀ word ∈ words faulty, isOperator word = false) ∧
      (∃ group ∈ terms faulty, ∃ term ∈ group, ¬WellFormed term) ∧
      ∃ before term after, (terms faulty).flatten = before ++ term :: after ∧
        (∀ earlier ∈ before, WellFormed earlier) ∧ ¬WellFormed term ∧
        filterOf faulty =
          .error (.tagExpression faulty ("`" ++ term ++ ("` is not a tag" : Text))) := by
  intro blank formed faulty
  have cut : terms formed = ([["~ @wip"], ["@smoke", "@@slow"]] : List (List Text)) := by decide
  have wellFormed : ∀ group ∈ terms formed, ∀ term ∈ group, WellFormed term := by
    simp only [cut, List.forall_mem_cons, List.not_mem_nil, false_implies, implies_true, and_true]
    exact ⟨⟨⟨true, "wip"⟩, by decide, ((Literal.isName_iff _).mp rfl).2, [' '], rfl, rfl⟩,
      ⟨⟨false, "smoke"⟩, by decide, ((Literal.isName_iff _).mp rfl).2, [], rfl, rfl⟩,
      ⟨⟨false, "@slow"⟩, by decide, ((Literal.isName_iff _).mp rfl).2, [], rfl, rfl⟩⟩
  have notFormed : ∃ group ∈ terms faulty, ∃ term ∈ group, ¬WellFormed term := by
    have inText : (["@smoke", "wip"] : List Text) ∈ terms faulty := by decide
    refine ⟨_, inText, "wip", by simp, ?_⟩
    rw [wellFormed_iff inText (by simp)]
    decide
  rcases filterOf_unparenthesised blank (by decide) (by decide) with ⟨ofBlank, -, -⟩
  rcases filterOf_unparenthesised formed (by decide) (by decide) with ⟨-, ofFormed, -⟩
  rcases filterOf_unparenthesised faulty (by decide) (by decide) with ⟨-, -, ofFaulty⟩
  exact ⟨⟨rfl, ofBlank rfl⟩, ⟨rfl, wellFormed, (ofFormed rfl wellFormed).2⟩, rfl, by decide,
    notFormed, ofFaulty rfl (by decide) notFormed⟩

end Scenarist.Tag
