import Mathlib.Data.List.Infix
import Scenarist.Proofs.Tag.Meaning
import Scenarist.Proofs.Tag.Printing
import Scenarist.Proofs.Text.Lines
import Scenarist.Proofs.Text.Trimming

/-! # Filters of a single tag

The text of a tag may be given as a filter. It selects just this tag if no
separator of either notation stands in the tag's name. With a separator it does
not: no filter that is read from a text names a tag with a separator that its
notation knows. -/

namespace Scenarist.Tag

open Text

/-- A text that one of the notations parts: at a parenthesis, a comma or two ampersands. -/
def HoldsSeparator (text : Text) : Prop :=
  '(' ∈ text ∨ ')' ∈ text ∨ ',' ∈ text ∨ ['&', '&'] <:+: text

instance (text : Text) : Decidable (HoldsSeparator text) :=
  inferInstanceAs (Decidable ('(' ∈ text ∨ ')' ∈ text ∨ ',' ∈ text ∨ ['&', '&'] <:+: text))

/-- Read as a filter, the text of a tag lets those lists of tags pass that have this tag. -/
def SelectsItself (tag : Text) : Prop :=
  ∃ filter, Filter.ofText tag = .ok filter ∧
    ∀ tags, filter.keeps tags = true ↔ ∃ other ∈ tags, bare other = bare tag

/-! ## Words and pieces of a text without separators -/

theorem words_of_spaceless {text : Text} (spoken : text ≠ [])
    (spaceless : ∀ character ∈ text, isSpace character = false) : words text = [text] := by
  induction text with
  | nil => exact absurd rfl spoken
  | cons head rest induction =>
      have headSpaceless := spaceless head List.mem_cons_self
      rw [words.eq_def]
      simp only [headSpaceless, Bool.false_eq_true, if_false]
      cases rest with
      | nil => rfl
      | cons next rest =>
          have nextSpaceless := spaceless next (by simp)
          have others := induction (by simp) fun character member =>
            spaceless character (List.mem_cons_of_mem head member)
          simp only [nextSpaceless, others, Bool.false_eq_true, if_false]

theorem splitAmpersands_of_not_infix {text : Text} (whole : ¬['&', '&'] <:+: text) :
    splitAmpersands text = [text] := by
  fun_induction splitAmpersands text with
  | case1 rest => exact absurd (List.prefix_append ['&', '&'] rest).isInfix whole
  | case2 head rest notBoth nothing induction =>
      have others := induction fun within =>
        whole (within.trans (List.suffix_cons head rest).isInfix)
      simp [others] at nothing
  | case3 head rest notBoth piece pieces found induction =>
      have others := induction fun within =>
        whole (within.trans (List.suffix_cons head rest).isInfix)
      rw [others] at found
      cases found
      rfl
  | case4 => rfl

theorem isPrefix_of_splitAmpersands {text piece : Text} {pieces : List Text}
    (cuts : splitAmpersands text = piece :: pieces) : piece <+: text := by
  fun_induction splitAmpersands text generalizing piece pieces with
  | case1 rest =>
      cases cuts
      exact List.nil_prefix
  | case2 head rest notBoth nothing induction =>
      cases cuts
      exact List.prefix_append [head] rest
  | case3 head rest notBoth first others found induction =>
      cases cuts
      exact List.cons_prefix_cons.mpr ⟨rfl, induction found⟩
  | case4 =>
      cases cuts
      exact List.prefix_refl []

theorem not_infix_of_mem_splitAmpersands {text piece : Text}
    (member : piece ∈ splitAmpersands text) : ¬['&', '&'] <:+: piece := by
  fun_induction splitAmpersands text generalizing piece with
  | case1 rest induction =>
      rcases List.mem_cons.mp member with rfl | inOthers
      · simp
      · exact induction inOthers
  | case2 head rest notBoth nothing induction =>
      rw [List.mem_singleton.mp member]
      intro within
      simpa using within.length_le
  | case3 head rest notBoth first others found induction =>
      rcases List.mem_cons.mp member with rfl | inOthers
      · intro within
        rcases List.infix_cons_iff.mp within with begins | inFirst
        · rcases List.cons_prefix_cons.mp begins with ⟨isAmpersand, nextBegins⟩
          rcases nextBegins.trans (isPrefix_of_splitAmpersands found) with ⟨behind, restBegins⟩
          exact notBoth behind isAmpersand.symm restBegins.symm
        · exact induction (found ▸ List.mem_cons_self) inFirst
      · exact induction (found ▸ List.mem_cons_of_mem first inOthers)
  | case4 =>
      rw [List.mem_singleton.mp member]
      simp

/-! ## A tag without separators -/

section

variable {name : Text}

/-- No operator stands in the text of a tag, so a parenthesis makes it an expression. -/
theorem isExpression_tag (spaceless : ∀ character ∈ name, isSpace character = false) :
    isExpression ('@' :: name) = true ↔ '(' ∈ name ∨ ')' ∈ name := by
  have tagSpaceless : ∀ character ∈ '@' :: name, isSpace character = false := by
    intro character member
    rcases List.mem_cons.mp member with rfl | inName
    · rfl
    · exact spaceless character inName
  have noOperator : isOperator ('@' :: name) = false := by simp [isOperator]
  simp only [isExpression, words_of_spaceless (List.cons_ne_nil '@' name) tagSpaceless,
    List.any_cons, noOperator, List.any_nil, Bool.or_false, Bool.or_eq_true, List.any_eq_true,
    decide_eq_true_eq]
  constructor
  · intro parenthesised
    rcases parenthesised with isSign | ⟨character, member, rfl | rfl⟩
    · simp at isSign
    · exact .inl member
    · exact .inr member
  · intro parenthesised
    rcases parenthesised with opens | closes
    · exact .inr ⟨'(', opens, .inl rfl⟩
    · exact .inr ⟨')', closes, .inr rfl⟩

theorem ofText_tag (spoken : name ≠ [])
    (spaceless : ∀ character ∈ name, isSpace character = false) :
    Literal.ofText ('@' :: name) = .ok ⟨false, name⟩ := by
  have isName : Literal.isName name = true := by
    have noSpace : name.any isSpace = false := List.any_eq_false.mpr fun character member => by
      simp [spaceless character member]
    simp [Literal.isName, spoken, noSpace]
  have trimmed : trim ('@' :: name) = '@' :: name := by
    apply trim_of_spaceless
    intro character member
    rcases List.mem_cons.mp member with rfl | inName
    · rfl
    · exact spaceless character inName
  simp [Literal.ofText, trimmed, Literal.ofTerm, Literal.ofTag, strip, isName]

theorem exprOf_tag (spoken : name ≠ [])
    (spaceless : ∀ character ∈ name, isSpace character = false) (whole : ¬HoldsSeparator name) :
    Filter.exprOf ('@' :: name) = .ok (some (.tag name)) := by
  simp only [HoldsSeparator, not_or] at whole
  rcases whole with ⟨noOpening, noClosing, noComma, noAmpersands⟩
  have notExpression : isExpression ('@' :: name) = false := by
    rw [Bool.eq_false_iff, Ne, isExpression_tag spaceless]
    simp [noOpening, noClosing]
  have notBlank : isBlankText ('@' :: name) = false := rfl
  have oneGroup : splitAmpersands ('@' :: name) = ['@' :: name] := by
    apply splitAmpersands_of_not_infix
    rw [List.infix_cons_iff]
    simp [noAmpersands]
  have oneTerm : split ',' ('@' :: name) = ['@' :: name] := split_of_not_mem (by simp [noComma])
  simp only [Filter.exprOf, notExpression, Alternatives.ofText, notBlank, oneGroup,
    Bool.false_eq_true, if_false, List.mapM_cons, List.mapM_nil, oneTerm,
    ofText_tag spoken spaceless]
  rfl

theorem selectsItself_of_whole (spoken : name ≠ []) (unsigned : bare name = name)
    (spaceless : ∀ character ∈ name, isSpace character = false) (whole : ¬HoldsSeparator name) :
    SelectsItself ('@' :: name) := by
  refine ⟨⟨'@' :: name, some (.tag name)⟩, ?_, ?_⟩
  · rw [Filter.ofText, exprOf_tag spoken spaceless whole]
    rfl
  · intro tags
    have signed : bare ('@' :: name) = name := rfl
    simp [Filter.keeps, Expr.eval, carries, signed, unsigned]

end

/-! ## The names of a filter -/

theorem exists_mem_of_mapM_eq_ok {ε α β : Type} {read : α → Except ε β} {sources : List α}
    {results : List β} (allRead : sources.mapM read = .ok results) :
    ∀ result ∈ results, ∃ source ∈ sources, read source = .ok result := by
  induction sources generalizing results with
  | nil =>
      rw [List.mapM_nil] at allRead
      cases allRead
      simp
  | cons source sources induction =>
      rw [List.mapM_cons] at allRead
      rcases value_of_bind_eq_ok allRead with ⟨first, firstRead, othersRead⟩
      rcases value_of_bind_eq_ok othersRead with ⟨others, restRead, whole⟩
      cases whole
      intro result member
      rcases List.mem_cons.mp member with rfl | inOthers
      · exact ⟨source, List.mem_cons_self, firstRead⟩
      · rcases induction restRead result inOthers with ⟨other, inSources, otherRead⟩
        exact ⟨other, List.mem_cons_of_mem source inSources, otherRead⟩

theorem Lexed.isWord_of_mem {text word : Text} {lexemes : List Lexeme}
    (lexed : Lexed text lexemes) (member : .word word ∈ lexemes) : IsWord word := by
  induction lexed with
  | finished => cases member
  | space _ _ induction => exact induction member
  | opening _ induction => exact induction (by simpa using member)
  | closing _ induction => exact induction (by simpa using member)
  | word isWord _ _ induction =>
      rcases List.mem_cons.mp member with isFirst | inOthers
      · cases isFirst
        exact isWord
      · exact induction inOthers

theorem Derives.tag_mem_of_mem_names {level : Level} {tokens : List Token} {expr : Expr}
    {name : Text} (derives : Derives level tokens expr) (member : name ∈ expr.names) :
    .tag name ∈ tokens := by
  induction derives with
  | tag => simpa [Expr.names] using member
  | negation _ induction => exact List.mem_cons_of_mem _ (induction member)
  | parenthesised _ induction => simp [induction member]
  | firstConjunct _ induction => exact induction member
  | nextConjunct _ _ beforeInduction afterInduction =>
      rcases List.mem_append.mp member with inLeft | inRight
      · exact List.mem_append_left _ (beforeInduction inLeft)
      · exact List.mem_append_right _ (List.mem_cons_of_mem _ (afterInduction inRight))
  | firstDisjunct _ induction => exact induction member
  | nextDisjunct _ _ beforeInduction afterInduction =>
      rcases List.mem_append.mp member with inLeft | inRight
      · exact List.mem_append_left _ (beforeInduction inLeft)
      · exact List.mem_append_right _ (List.mem_cons_of_mem _ (afterInduction inRight))

/-- An expression names no tag with a parenthesis. -/
theorem not_parenthesised_of_ofText {text name : Text} {expr : Expr}
    (read : Expr.ofText text = .ok expr) (member : name ∈ expr.names) :
    '(' ∉ name ∧ ')' ∉ name := by
  rcases (Expr.ofText_eq_ok_iff text expr).mp read with ⟨tokens, spells, derives⟩
  have inTokens := derives.tag_mem_of_mem_names member
  have isWord : IsWord ('@' :: name) :=
    spells.1.isWord_of_mem (List.mem_map.mpr ⟨.tag name, inTokens, rfl⟩)
  constructor
  · intro opens
    have inWord := isWord.2 '(' (List.mem_cons_of_mem _ opens)
    cases inWord
  · intro closes
    have inWord := isWord.2 ')' (List.mem_cons_of_mem _ closes)
    cases inWord

namespace Literal

theorem name_suffix_of_ofTag {negated : Bool} {tag : Text} {literal : Literal}
    (read : ofTag negated tag = some literal) : literal.name <:+ tag := by
  rw [ofTag] at read
  split at read
  · cases read
  · next name stripped =>
      rw [strip_eq_some_iff] at stripped
      split at read
      · cases read
        exact ⟨['@'], stripped.symm⟩
      · cases read

theorem name_suffix_of_ofTerm {term : Text} {literal : Literal}
    (read : ofTerm term = some literal) : literal.name <:+ term := by
  rw [ofTerm] at read
  split at read
  · next tag stripped =>
      rw [strip_eq_some_iff] at stripped
      have behindTilde : tag <:+ term := ⟨['~'], stripped.symm⟩
      exact (name_suffix_of_ofTag read).trans
        ((List.dropWhile_suffix isSpace).trans behindTilde)
  · exact name_suffix_of_ofTag read

theorem name_infix_of_ofText {term : Text} {literal : Literal}
    (read : ofText term = .ok literal) : literal.name <:+: term := by
  simp only [ofText] at read
  split at read
  · cases read
  · next found =>
      cases read
      exact (name_suffix_of_ofTerm found).isInfix.trans (trim_within term)

theorem names_expr (literal : Literal) : literal.expr.names = [literal.name] := by
  rw [expr]
  split <;> rfl

end Literal

theorem Expr.exists_mem_of_joined {combine : Expr → Expr → Expr} {exprs : List Expr} {expr : Expr}
    {name : Text} (combines : ∀ left right, (combine left right).names = left.names ++ right.names)
    (isJoined : joined combine exprs = some expr) (member : name ∈ expr.names) :
    ∃ part ∈ exprs, name ∈ part.names := by
  cases exprs with
  | nil => cases isJoined
  | cons first rest =>
      cases isJoined
      induction rest generalizing first with
      | nil => exact ⟨first, List.mem_cons_self, member⟩
      | cons next rest induction =>
          rcases induction (combine first next) member with ⟨part, inParts, inPart⟩
          rcases List.mem_cons.mp inParts with rfl | inRest
          · rw [combines] at inPart
            rcases List.mem_append.mp inPart with inFirst | inNext
            · exact ⟨first, by simp, inFirst⟩
            · exact ⟨next, by simp, inNext⟩
          · exact ⟨part, by simp [inRest], inPart⟩

theorem Alternatives.exists_literal {alternatives : Alternatives} {expr : Expr} {name : Text}
    (isExpr : alternatives.expr = some expr) (member : name ∈ expr.names) :
    ∃ group ∈ alternatives, ∃ literal ∈ group, literal.name = name := by
  rcases Expr.exists_mem_of_joined (fun _ _ => rfl) isExpr member with ⟨part, isPart, inPart⟩
  rcases List.mem_filterMap.mp isPart with ⟨group, inAlternatives, isGroup⟩
  rcases Expr.exists_mem_of_joined (fun _ _ => rfl) isGroup inPart with ⟨single, isSingle, inSingle⟩
  rcases List.mem_map.mp isSingle with ⟨literal, inGroup, rfl⟩
  rw [literal.names_expr, List.mem_singleton] at inSingle
  exact ⟨group, inAlternatives, literal, inGroup, inSingle.symm⟩

/-- Groups of alternatives name no tag with a comma or with two ampersands. -/
theorem not_parted_of_ofText {text name : Text} {alternatives : Alternatives} {expr : Expr}
    (read : Alternatives.ofText text = .ok alternatives) (isExpr : alternatives.expr = some expr)
    (member : name ∈ expr.names) : ',' ∉ name ∧ ¬['&', '&'] <:+: name := by
  rcases Alternatives.exists_literal isExpr member with ⟨group, inAlternatives, literal, inGroup,
    rfl⟩
  rw [Alternatives.ofText] at read
  split at read
  · cases read
    cases inAlternatives
  · rcases exists_mem_of_mapM_eq_ok read group inAlternatives with ⟨source, isSource, groupRead⟩
    rcases exists_mem_of_mapM_eq_ok groupRead literal inGroup with ⟨term, isTerm, literalRead⟩
    have inTerm := Literal.name_infix_of_ofText literalRead
    constructor
    · intro comma
      exact not_mem_of_mem_split isTerm (inTerm.subset comma)
    · intro ampersands
      have inSource := ampersands.trans (inTerm.trans (infix_of_mem_split isTerm))
      exact not_infix_of_mem_splitAmpersands isSource inSource

/-! ## A tag with separators -/

theorem Expr.eval_congr {expr : Expr} {first second : List Text}
    (alike : ∀ name ∈ expr.names, carries first name = carries second name) :
    expr.eval first = expr.eval second := by
  induction expr with
  | tag name => exact alike name (List.mem_singleton_self name)
  | negation inner induction => simp only [eval, induction alike]
  | conjunction left right leftInduction rightInduction =>
      simp only [eval, leftInduction fun name member => alike name (List.mem_append_left _ member),
        rightInduction fun name member => alike name (List.mem_append_right _ member)]
  | disjunction left right leftInduction rightInduction =>
      simp only [eval, leftInduction fun name member => alike name (List.mem_append_left _ member),
        rightInduction fun name member => alike name (List.mem_append_right _ member)]

theorem bare_suffix (tag : Text) : bare tag <:+ tag := by
  rw [bare]
  cases stripped : strip ['@'] tag with
  | none => exact List.suffix_refl tag
  | some name =>
      rw [strip_eq_some_iff] at stripped
      exact ⟨['@'], stripped.symm⟩

/-- A filter that selects a tag by itself names this tag. -/
theorem SelectsItself.exists_name {tag : Text} (selects : SelectsItself tag) :
    ∃ filter expr, Filter.ofText tag = .ok filter ∧ filter.expr = some expr ∧
      ∃ name ∈ expr.names, bare name = bare tag := by
  rcases selects with ⟨filter, read, keeps⟩
  have present : filter.keeps [tag] = true := (keeps [tag]).mpr ⟨tag, by simp, rfl⟩
  have absent : filter.keeps [] ≠ true := by simp [keeps]
  cases isExpr : filter.expr with
  | none => simp [Filter.keeps, isExpr] at absent
  | some expr =>
      refine ⟨filter, expr, read, isExpr, ?_⟩
      by_contra unnamed
      push Not at unnamed
      have alike : ∀ name ∈ expr.names, carries [tag] name = carries [] name := by
        intro name member
        simp [carries, Ne.symm (unnamed name member)]
      simp only [Filter.keeps, isExpr, Expr.eval_congr alike] at present absent
      exact absent present

/-- A filter with an expression was read in one of the two notations. -/
theorem Filter.notation_of_ofText {text : Text} {filter : Filter} {expr : Expr}
    (read : Filter.ofText text = .ok filter) (isExpr : filter.expr = some expr) :
    (isExpression text = true ∧ Expr.ofText text = .ok expr) ∨
      (isExpression text = false ∧ ∃ alternatives,
        Alternatives.ofText text = .ok alternatives ∧ alternatives.expr = some expr) := by
  have exprRead : exprOf text = .ok (some expr) := by
    rw [ofText] at read
    cases found : exprOf text with
    | error fault =>
        rw [found] at read
        cases read
    | ok answer =>
        rw [found] at read
        cases read
        exact congrArg Except.ok isExpr
  cases isExpression : isExpression text with
  | true =>
      left
      rw [exprOf, isExpression, if_pos rfl] at exprRead
      cases found : Expr.ofText text with
      | error fault =>
          rw [found] at exprRead
          cases exprRead
      | ok answer =>
          rw [found] at exprRead
          cases exprRead
          exact ⟨rfl, rfl⟩
  | false =>
      right
      rw [exprOf, isExpression, if_neg Bool.false_ne_true] at exprRead
      cases found : Alternatives.ofText text with
      | error fault =>
          rw [found] at exprRead
          cases exprRead
      | ok alternatives =>
          rw [found] at exprRead
          exact ⟨rfl, alternatives, rfl, Except.ok.inj exprRead⟩

theorem SelectsItself.whole {name : Text} (selects : SelectsItself ('@' :: name))
    (spaceless : ∀ character ∈ name, isSpace character = false) : ¬HoldsSeparator name := by
  rcases selects.exists_name with ⟨filter, expr, read, isExpr, other, member, same⟩
  have bareTag : bare ('@' :: name) = name := rfl
  have inOther : name <:+: other := by
    rw [← bareTag, ← same]
    exact (bare_suffix other).isInfix
  intro separator
  rcases Filter.notation_of_ofText read isExpr with
    ⟨parenthesised, exprRead⟩ | ⟨notExpression, alternatives, alternativesRead, isAlternatives⟩
  · rcases not_parenthesised_of_ofText exprRead member with ⟨noOpening, noClosing⟩
    rcases (isExpression_tag spaceless).mp parenthesised with opens | closes
    · exact noOpening (inOther.subset opens)
    · exact noClosing (inOther.subset closes)
  · have noParenthesis : ¬('(' ∈ name ∨ ')' ∈ name) := by
      rw [← isExpression_tag spaceless, notExpression]
      simp
    rcases not_parted_of_ofText alternativesRead isAlternatives member with ⟨noComma, noAmpersands⟩
    rcases separator with opens | closes | comma | ampersands
    · exact noParenthesis (.inl opens)
    · exact noParenthesis (.inr closes)
    · exact noComma (inOther.subset comma)
    · exact noAmpersands (ampersands.trans inOther)

/-- The text of a tag is a filter for this tag alone if its name holds no separator, and only
then. -/
theorem selectsItself_iff {name : Text} (spoken : name ≠ []) (unsigned : bare name = name)
    (spaceless : ∀ character ∈ name, isSpace character = false) :
    SelectsItself ('@' :: name) ↔ ¬HoldsSeparator name :=
  ⟨fun selects => selects.whole spaceless, selectsItself_of_whole spoken unsigned spaceless⟩

end Scenarist.Tag
