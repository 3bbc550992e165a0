import Scenarist.Proofs.Tag.Alternatives

/-! # Two wordings of one filter

Groups of literals are worded with signs and marks in the older notation, and with
operators and parentheses as a tag expression. A reader of its own reads each wording,
and both readers come to the same expression, whatever whitespace parts the words. -/

namespace Scenarist.Tag

open Text

/-! ## Pieces with separators between them -/

/-- The pieces that write the items, one after the other with the separator between each two. -/
inductive Joined {α β : Type} (writes : α → List β → Prop) (separator : List β) :
    List α → List β → Prop
  | last {item : α} {piece : List β} : writes item piece → Joined writes separator [item] piece
  | more {item : α} {others : List α} {piece rest : List β} :
      writes item piece → Joined writes separator others rest →
      Joined writes separator (item :: others) (piece ++ (separator ++ rest))

namespace Joined

variable {α β γ : Type} {writes : α → List β → Prop} {separator whole : List β} {items : List α}

theorem ne_nil (joined : Joined writes separator items whole) : items ≠ [] := by
  cases joined <;> simp

theorem exists_of_pieces (nonempty : items ≠ [])
    (each : ∀ item ∈ items, ∃ piece, writes item piece) :
    ∃ whole, Joined writes separator items whole := by
  induction items with
  | nil => exact absurd rfl nonempty
  | cons first others induction =>
      rcases List.forall_mem_cons.mp each with ⟨⟨piece, written⟩, othersWritten⟩
      cases others with
      | nil => exact ⟨piece, .last written⟩
      | cons next others =>
          rcases induction (by simp) othersWritten with ⟨rest, joined⟩
          exact ⟨_, .more written joined⟩

theorem exists_piece (joined : Joined writes separator items whole) {item : α}
    (member : item ∈ items) : ∃ piece, writes item piece ∧ piece ⊆ whole := by
  induction joined with
  | @last _ piece written =>
      rw [List.mem_singleton.mp member]
      exact ⟨piece, written, List.Subset.refl piece⟩
  | @more _ _ piece rest written _ induction =>
      rcases List.mem_cons.mp member with rfl | inOthers
      · exact ⟨piece, written, List.subset_append_left piece (separator ++ rest)⟩
      · rcases induction inOthers with ⟨other, written, within⟩
        have behind := List.subset_append_of_subset_right separator within
        exact ⟨other, written, List.subset_append_of_subset_right piece behind⟩

theorem mem_cases (joined : Joined writes separator items whole) {value : β}
    (member : value ∈ whole) :
    value ∈ separator ∨ ∃ item ∈ items, ∃ piece, writes item piece ∧ value ∈ piece := by
  induction joined with
  | last written => exact .inr ⟨_, List.mem_cons_self, _, written, member⟩
  | more written _ induction =>
      rw [List.mem_append, List.mem_append] at member
      rcases member with inPiece | inSeparator | inRest
      · exact .inr ⟨_, List.mem_cons_self, _, written, inPiece⟩
      · exact .inl inSeparator
      · exact (induction inRest).imp_right fun ⟨item, inOthers, inItem⟩ =>
          ⟨item, List.mem_cons_of_mem _ inOthers, inItem⟩

/-- A cut at the separators finds the pieces again. -/
theorem map_cut {cut : List β → List (List β)} {isWhole : List β → Prop} {say : List β → γ}
    {meant : α → γ} (joined : Joined writes separator items whole)
    (cut_of_whole : ∀ piece, isWhole piece → cut piece = [piece])
    (cut_append : ∀ piece, isWhole piece → ∀ rest,
      cut (piece ++ (separator ++ rest)) = piece :: cut rest)
    (each : ∀ item ∈ items, ∀ piece, writes item piece → isWhole piece ∧ say piece = meant item) :
    (cut whole).map say = items.map meant := by
  induction joined with
  | @last item piece written =>
      rcases each item List.mem_cons_self piece written with ⟨isWhole, meaning⟩
      rw [cut_of_whole piece isWhole, List.map_cons, meaning]
      rfl
  | @more item others piece rest written _ induction =>
      rcases each item List.mem_cons_self piece written with ⟨isWhole, meaning⟩
      have othersSay := induction fun other member =>
        each other (List.mem_cons_of_mem item member)
      rw [cut_append piece isWhole, List.map_cons, meaning, othersSay, List.map_cons]

end Joined

/-! ## The older notation -/

/-- The characters that part a text in one of the notations. -/
def separators : List Char := ['(', ')', ',', '&']

theorem apart_of_mem_separators {separator : Char} (isSeparator : separator ∈ separators) :
    isSpace separator = false ∧ separator ≠ '~' ∧ separator ≠ '@' := by
  simp only [separators, List.mem_cons, List.not_mem_nil, or_false] at isSeparator
  rcases isSeparator with rfl | rfl | rfl | rfl <;> decide

/-- A name that neither notation parts. -/
structure IsPlain (name : Text) : Prop where
  spoken : name ≠ []
  spaceless : ∀ character ∈ name, isSpace character = false
  whole : ∀ separator ∈ separators, separator ∉ name

instance (name : Text) : Decidable (IsPlain name) :=
  decidable_of_iff
    (name ≠ [] ∧ name.any isSpace = false ∧ separators.any name.contains = false) (by
      constructor <;> rintro ⟨spoken, spaceless, whole⟩ <;>
        exact ⟨spoken, by simpa using spaceless, by simpa using whole⟩)

theorem IsPlain.isWord {name : Text} (plain : IsPlain name) : IsWord name := by
  refine ⟨plain.spoken, fun character member => ?_⟩
  have notParenthesis : character ≠ '(' ∧ character ≠ ')' := by
    constructor <;> rintro rfl <;> exact plain.whole _ (by decide) member
  simp [Lexeme.endsWord, plain.spaceless character member, notParenthesis]

theorem splitAmpersands_append {piece : Text} (absent : '&' ∉ piece) (rest : Text) :
    splitAmpersands (piece ++ (['&', '&'] ++ rest)) = piece :: splitAmpersands rest := by
  induction piece with
  | nil => rfl
  | cons head piece induction =>
      rcases List.ne_and_not_mem_of_not_mem_cons absent with ⟨different, absent⟩
      -- The equation for a text that does not begin with the mark.
      rw [List.cons_append, splitAmpersands.eq_2, induction absent]
      exact fun _ isAmpersand => absurd isAmpersand.symm different

namespace Literal

def signed (literal : Literal) : Text :=
  (if literal.negated then ['~'] else []) ++ '@' :: literal.name

variable {literal : Literal}

theorem spaceless_signed (plain : IsPlain literal.name) :
    ∀ character ∈ literal.signed, isSpace character = false := by
  have others := plain.spaceless
  rcases literal with ⟨_ | _, name⟩
  · exact List.forall_mem_cons.mpr ⟨rfl, others⟩
  · exact List.forall_mem_cons.mpr ⟨rfl, List.forall_mem_cons.mpr ⟨rfl, others⟩⟩

theorem writtenAs_signed (plain : IsPlain literal.name) : literal.WrittenAs literal.signed :=
  ⟨plain.spoken, plain.spaceless, [], rfl, rfl⟩

theorem ofTerm_signed (plain : IsPlain literal.name) : ofTerm literal.signed = some literal := by
  have unspaced : ∀ head ∈ literal.signed.head?, isSpace head = false :=
    fun head first => spaceless_signed plain head (List.mem_of_head? first)
  exact (ofTerm_eq_some_iff unspaced literal).mpr (writtenAs_signed plain)

theorem filterMap_ofTerm_signed {group : List Literal}
    (plain : ∀ literal ∈ group, IsPlain literal.name) :
    (group.map signed).filterMap ofTerm = group := by
  rw [List.filterMap_map, List.filterMap_congr, List.filterMap_some]
  exact fun literal member => ofTerm_signed (plain literal member)

theorem sign_mem_signed (literal : Literal) : '@' ∈ literal.signed :=
  List.mem_append_right _ List.mem_cons_self

theorem not_mem_signed (plain : IsPlain literal.name) {separator : Char}
    (isSeparator : separator ∈ separators) : separator ∉ literal.signed := by
  rcases apart_of_mem_separators isSeparator with ⟨-, notTilde, notSign⟩
  intro member
  rw [signed, List.mem_append, List.mem_cons] at member
  rcases member with inSign | isSign | inName
  · split at inSign
    · exact notTilde (List.mem_singleton.mp inSign)
    · cases inSign
  · exact notSign isSign
  · exact plain.whole separator isSeparator inName

theorem not_mem_of_trims_signed (plain : IsPlain literal.name) {piece : Text}
    (trims : Trims piece literal.signed) {separator : Char}
    (isSeparator : separator ∈ separators) : separator ∉ piece := by
  rcases trims.within with ⟨before, after, rfl, spaces⟩
  have notSpace := (apart_of_mem_separators isSeparator).1
  have notAround : separator ∉ before ++ after := fun around =>
    Bool.noConfusion (notSpace.symm.trans (spaces separator around))
  have notInside := not_mem_signed plain isSeparator
  simp only [List.mem_append, not_or] at notAround ⊢
  exact ⟨⟨notAround.1, notInside⟩, notAround.2⟩

end Literal

namespace Alternatives

variable {group : List Literal} {groups : Alternatives} {text : Text}

/-- The signed literals, each with any whitespace around it, with commas between them. -/
def WritesGroup : List Literal → Text → Prop :=
  Joined (fun literal piece => Trims piece literal.signed) [',']

/-- The groups with two ampersands between them. -/
def InMarks : Alternatives → Text → Prop :=
  Joined WritesGroup ['&', '&']

theorem exists_writesGroup (nonempty : group ≠ [])
    (plain : ∀ literal ∈ group, IsPlain literal.name) : ∃ text, WritesGroup group text :=
  Joined.exists_of_pieces nonempty fun literal member =>
    ⟨literal.signed,
      trims_iff.mpr (trim_of_spaceless (Literal.spaceless_signed (plain literal member))).symm⟩

theorem WritesGroup.map_trim_split (writes : WritesGroup group text)
    (plain : ∀ literal ∈ group, IsPlain literal.name) :
    (split ',' text).map trim = group.map Literal.signed := by
  apply Joined.map_cut writes (fun _ => split_of_not_mem) (fun _ => split_append_cons)
  intro literal member piece trims
  have noComma := Literal.not_mem_of_trims_signed (plain literal member) trims
    (by decide : ',' ∈ separators)
  exact ⟨noComma, trims.eq_trim.symm⟩

theorem WritesGroup.not_mem (writes : WritesGroup group text)
    (plain : ∀ literal ∈ group, IsPlain literal.name) {separator : Char}
    (isSeparator : separator ∈ separators) (notComma : separator ≠ ',') : separator ∉ text := by
  intro member
  rcases Joined.mem_cases writes member with isComma | ⟨literal, inGroup, piece, trims, inPiece⟩
  · exact notComma (List.mem_singleton.mp isComma)
  · exact Literal.not_mem_of_trims_signed (plain literal inGroup) trims isSeparator inPiece

theorem InMarks.sign_mem (inMarks : groups.InMarks text) : '@' ∈ text := by
  rcases List.exists_mem_of_ne_nil groups (Joined.ne_nil inMarks) with ⟨group, inGroups⟩
  rcases Joined.exists_piece inMarks inGroups with ⟨piece, writes, inText⟩
  rcases List.exists_mem_of_ne_nil group (Joined.ne_nil writes) with ⟨literal, inGroup⟩
  rcases Joined.exists_piece writes inGroup with ⟨term, trims, inPiece⟩
  rcases trims.within with ⟨before, after, rfl, -⟩
  have inTerm : '@' ∈ before ++ literal.signed ++ after :=
    List.mem_append_left after (List.mem_append_right before literal.sign_mem_signed)
  exact inText (inPiece inTerm)

section

variable (plain : ∀ group ∈ groups, ∀ literal ∈ group, IsPlain literal.name)

include plain

theorem InMarks.not_mem (inMarks : groups.InMarks text) {separator : Char}
    (isSeparator : separator ∈ separators) (notMark : separator ∉ [',', '&']) :
    separator ∉ text := by
  simp only [List.mem_cons, List.not_mem_nil, or_false, not_or] at notMark
  intro member
  rcases Joined.mem_cases inMarks member with isMark | ⟨group, inGroups, piece, writes, inPiece⟩
  · exact notMark.2 (by simpa using isMark)
  · exact writes.not_mem (plain group inGroups) isSeparator notMark.1 inPiece

theorem InMarks.terms_eq (inMarks : groups.InMarks text) :
    terms text = groups.map fun group => group.map Literal.signed := by
  refine Joined.map_cut inMarks ?_ (fun _ => splitAmpersands_append) ?_
  · intro piece absent
    exact splitAmpersands_of_not_infix fun within => absent (within.subset List.mem_cons_self)
  · intro group member piece writes
    exact ⟨writes.not_mem (plain group member) (by decide) (by decide),
      writes.map_trim_split (plain group member)⟩

theorem InMarks.filterOf_eq (inMarks : groups.InMarks text) :
    filterOf text = .ok ⟨text, groups.expr⟩ := by
  have spoken : isBlankText text = false :=
    List.all_eq_false.mpr ⟨'@', inMarks.sign_mem, by decide⟩
  have cut := inMarks.terms_eq plain
  have wellFormed : ∀ group ∈ terms text, ∀ term ∈ group, WellFormed term := by
    rw [cut, List.forall_mem_map]
    intro group inGroups
    rw [List.forall_mem_map]
    intro literal inGroup
    exact ⟨literal, Literal.writtenAs_signed (plain group inGroups literal inGroup)⟩
  have read : ((terms text).map fun group => group.filterMap Literal.ofTerm) = groups := by
    rw [cut, List.map_map]
    refine (List.map_congr_left fun group inGroups => ?_).trans (List.map_id groups)
    exact Literal.filterMap_ofTerm_signed (plain group inGroups)
  have noOpening := inMarks.not_mem plain (by decide : '(' ∈ separators) (by decide)
  have noClosing := inMarks.not_mem plain (by decide : ')' ∈ separators) (by decide)
  rw [filterOf_of_wellFormed noOpening noClosing spoken wellFormed, read]

end

end Alternatives

/-! ## Tag expressions -/

namespace IsChain

variable {α : Type} {level part : Level} {operator : Token} {combine : Expr → Expr → Expr}
  {writes : α → List Token → Prop} {means : α → Option Expr} {items : List α}
  {tokens : List Token}

/-- Behind an expression and the operator, the joined parts extend the expression one by one. -/
theorem derives_foldl (isChain : IsChain level part operator combine)
    (joined : Joined writes [operator] items tokens)
    (each : ∀ item ∈ items, ∀ piece, writes item piece →
      ∃ expr, means item = some expr ∧ Derives part piece expr)
    {before : List Token} {sofar : Expr} (derives : Derives level before sofar) :
    Derives level (before ++ operator :: tokens)
      ((items.filterMap means).foldl combine sofar) := by
  -- Chains group to the left, so what stands before the rest grows with each part.
  induction joined generalizing before sofar with
  | @last item piece written =>
      rcases each item List.mem_cons_self piece written with ⟨expr, meant, derivesPiece⟩
      rw [List.filterMap_cons_some meant]
      exact isChain.next before piece sofar expr derives derivesPiece
  | @more item others piece rest written _ induction =>
      rcases each item List.mem_cons_self piece written with ⟨expr, meant, derivesPiece⟩
      have extended := isChain.next before piece sofar expr derives derivesPiece
      have whole := induction (fun other member => each other (List.mem_cons_of_mem item member))
        extended
      rw [List.filterMap_cons_some meant, List.foldl_cons]
      simpa using whole

theorem derives_joined (isChain : IsChain level part operator combine)
    (joined : Joined writes [operator] items tokens)
    (each : ∀ item ∈ items, ∀ piece, writes item piece →
      ∃ expr, means item = some expr ∧ Derives part piece expr) :
    ∃ expr, Expr.joined combine (items.filterMap means) = some expr ∧
      Derives level tokens expr := by
  cases joined with
  | last written =>
      rcases each _ List.mem_cons_self _ written with ⟨expr, meant, derivesPiece⟩
      rw [List.filterMap_cons_some meant]
      exact ⟨expr, rfl, isChain.first _ expr derivesPiece⟩
  | @more item _ _ _ written joined =>
      rcases each item List.mem_cons_self _ written with ⟨expr, meant, derivesPiece⟩
      rw [List.filterMap_cons_some meant]
      refine ⟨_, rfl, isChain.derives_foldl joined ?_ (isChain.first _ expr derivesPiece)⟩
      exact fun other member => each other (List.mem_cons_of_mem item member)

end IsChain

namespace Literal

def tokens (literal : Literal) : List Token :=
  (if literal.negated then [.negation] else []) ++ [.tag literal.name]

theorem derives_tokens (literal : Literal) : Derives .negation literal.tokens literal.expr := by
  rcases literal with ⟨_ | _, name⟩
  · exact .tag
  · exact .negation .tag

theorem name_of_mem_tokens {literal : Literal} {name : Text}
    (member : .tag name ∈ literal.tokens) : name = literal.name := by
  rcases literal with ⟨_ | _, _⟩ <;> simpa [tokens] using member

end Literal

/-- A space before each token keeps the words apart. -/
theorem exists_written (tokens : List Token) : ∃ text, Written tokens text := by
  have apart : ∃ text, Written tokens text ∧ text.head?.all Lexeme.endsWord = true := by
    induction tokens with
    | nil => exact ⟨[], .finished rfl, rfl⟩
    | cons token tokens induction =>
        rcases induction with ⟨text, written, ended⟩
        exact ⟨[' '] ++ (token.text ++ text), .token rfl (fun _ => ended) written, rfl⟩
  rcases apart with ⟨text, written, -⟩
  exact ⟨text, written⟩

theorem Written.opening_mem {tokens : List Token} {text : Text} (written : Written tokens text)
    (opens : .opening ∈ tokens) : '(' ∈ text := by
  induction written with
  | finished => cases opens
  | @token gap text token tokens _ _ _ induction =>
      rw [List.mem_append, List.mem_append]
      rcases List.mem_cons.mp opens with rfl | behind
      · exact .inr (.inl (List.mem_singleton.mpr rfl))
      · exact .inr (.inr (induction behind))

namespace Alternatives

variable {group : List Literal} {groups : Alternatives} {tokens : List Token} {text : Text}

/-- The literals in parentheses, with an operator between them. -/
def SpellsGroup (group : List Literal) (tokens : List Token) : Prop :=
  ∃ inner, Joined (fun literal piece => piece = literal.tokens) [.disjunction] group inner ∧
    tokens = .opening :: (inner ++ [.closing])

/-- The groups with an operator between them, in tokens with any whitespace around them. -/
def InOperators (groups : Alternatives) (text : Text) : Prop :=
  ∃ tokens, Joined SpellsGroup [.conjunction] groups tokens ∧ Written tokens text

theorem exists_spellsGroup (nonempty : group ≠ []) : ∃ tokens, SpellsGroup group tokens := by
  have joinable : ∃ inner,
      Joined (fun literal piece => piece = literal.tokens) [Token.disjunction] group inner :=
    Joined.exists_of_pieces nonempty fun literal _ => ⟨literal.tokens, rfl⟩
  rcases joinable with ⟨inner, joined⟩
  exact ⟨_, inner, joined, rfl⟩

theorem exists_inOperators (someGroup : groups ≠ []) (inhabited : ∀ group ∈ groups, group ≠ []) :
    ∃ text, groups.InOperators text := by
  have spelt := fun group member => exists_spellsGroup (inhabited group member)
  rcases Joined.exists_of_pieces someGroup spelt with ⟨tokens, joined⟩
  rcases exists_written tokens with ⟨text, written⟩
  exact ⟨text, tokens, joined, written⟩

theorem SpellsGroup.derives (spells : SpellsGroup group tokens) :
    ∃ expr, groupExpr group = some expr ∧ Derives .negation tokens expr := by
  rcases spells with ⟨inner, joined, rfl⟩
  have literals : ∃ expr,
      Expr.joined .disjunction (group.filterMap fun literal => some literal.expr) = some expr ∧
        Derives .disjunction inner expr := by
    apply isChain_disjunction.derives_joined joined
    rintro literal - piece rfl
    exact ⟨literal.expr, rfl, .firstConjunct literal.derives_tokens⟩
  rcases literals with ⟨expr, isExpr, derives⟩
  rw [← Function.comp_def, List.filterMap_eq_map] at isExpr
  exact ⟨expr, isExpr, .parenthesised derives⟩

theorem SpellsGroup.exists_literal_of_mem (spells : SpellsGroup group tokens) {name : Text}
    (member : .tag name ∈ tokens) : ∃ literal ∈ group, name = literal.name := by
  rcases spells with ⟨inner, joined, rfl⟩
  have inInner : .tag name ∈ inner := by simpa using member
  rcases joined.mem_cases inInner with isOperator | ⟨literal, inGroup, piece, rfl, inPiece⟩
  · cases List.mem_singleton.mp isOperator
  · exact ⟨literal, inGroup, Literal.name_of_mem_tokens inPiece⟩

theorem InOperators.filterOf_eq (plain : ∀ group ∈ groups, ∀ literal ∈ group, IsPlain literal.name)
    (inOperators : groups.InOperators text) : filterOf text = .ok ⟨text, groups.expr⟩ := by
  rcases inOperators with ⟨tokens, joined, written⟩
  have opens : Token.opening ∈ tokens := by
    rcases List.exists_mem_of_ne_nil groups joined.ne_nil with ⟨group, inGroups⟩
    rcases joined.exists_piece inGroups with ⟨piece, ⟨inner, -, rfl⟩, within⟩
    exact within List.mem_cons_self
  have named : ∀ name, .tag name ∈ tokens → IsWord name := by
    intro name member
    rcases joined.mem_cases member with isOperator | ⟨group, inGroups, piece, spells, inPiece⟩
    · cases List.mem_singleton.mp isOperator
    · rcases spells.exists_literal_of_mem inPiece with ⟨literal, inGroup, rfl⟩
      exact (plain group inGroups literal inGroup).isWord
  have groupsDerive := isChain_conjunction.derives_joined joined fun _ _ _ => SpellsGroup.derives
  rcases groupsDerive with ⟨expr, isExpr, derives⟩
  have read : Expr.ofText text = .ok expr :=
    (Expr.ofText_eq_ok_iff text expr).mpr ⟨tokens, written.spells named, .firstDisjunct derives⟩
  have isExpression : isExpression text = true :=
    Bool.or_eq_true_iff.mpr (.inl (List.any_eq_true.mpr ⟨'(', written.opening_mem opens, rfl⟩))
  have exprOf : Filter.exprOf text = .ok groups.expr := by
    rw [Filter.exprOf, isExpression, if_pos rfl, read, Alternatives.expr, isExpr]
    rfl
  rw [filterOf, Filter.ofText, exprOf]
  rfl

end Alternatives

/-- Groups of literals can be worded in either notation. Any two wordings of them are filters,
and both let a list of tags pass if each group has a literal that holds of it. -/
theorem wordings_agree {groups : Alternatives} (someGroup : groups ≠ [])
    (inhabited : ∀ group ∈ groups, group ≠ [])
    (plain : ∀ group ∈ groups, ∀ literal ∈ group, IsPlain literal.name) :
    (∃ older, groups.InMarks older) ∧ (∃ newer, groups.InOperators newer) ∧
      ∀ older newer, groups.InMarks older → groups.InOperators newer →
        ∃ first second, filterOf older = .ok first ∧ filterOf newer = .ok second ∧
          ∀ tags, first.keeps tags = second.keeps tags ∧
            (first.keeps tags = true ↔
              ∀ group ∈ groups, ∃ literal ∈ group, literal.Holds tags) := by
  have written := fun group member =>
    Alternatives.exists_writesGroup (inhabited group member) (plain group member)
  refine ⟨Joined.exists_of_pieces someGroup written,
    Alternatives.exists_inOperators someGroup inhabited, ?_⟩
  intro older newer inMarks inOperators
  refine ⟨_, _, inMarks.filterOf_eq plain, inOperators.filterOf_eq plain, fun tags => ⟨rfl, ?_⟩⟩
  exact Alternatives.keeps_expr inhabited older

theorem wordings_agree_smoke :
    let groups : Alternatives := [[⟨true, "or"⟩], [⟨false, "@a"⟩, ⟨false, "~b"⟩]]
    let older : Text := "~@or &&\t@@a , @~b"
    let newer : Text := "(not  @or )and(@@a or\n@~b)"
    groups ≠ [] ∧ (∀ group ∈ groups, group ≠ []) ∧
      (∀ group ∈ groups, ∀ literal ∈ group, IsPlain literal.name) ∧
      groups.InMarks older ∧ groups.InOperators newer ∧
      ∃ first second, filterOf older = .ok first ∧ filterOf newer = .ok second ∧
        ∀ tags, first.keeps tags = second.keeps tags ∧
          (first.keeps tags = true ↔
            ∀ group ∈ groups, ∃ literal ∈ group, literal.Holds tags) := by
  intro groups older newer
  have someGroup : groups ≠ [] := by decide
  have inhabited : ∀ group ∈ groups, group ≠ [] := by decide
  have plain : ∀ group ∈ groups, ∀ literal ∈ group, IsPlain literal.name := by
    simp only [groups, List.forall_mem_cons, List.not_mem_nil, false_implies, implies_true,
      and_true]
    exact ⟨by decide, by decide, by decide⟩
  have single : Alternatives.WritesGroup [⟨true, "or"⟩] ("~@or " : Text) :=
    .last (trims_iff.mpr (by decide))
  have double : Alternatives.WritesGroup [⟨false, "@a"⟩, ⟨false, "~b"⟩] ("\t@@a , @~b" : Text) :=
    @Joined.more _ _ _ _ _ _ ("\t@@a " : Text) (" @~b" : Text) (trims_iff.mpr (by decide))
      (.last (trims_iff.mpr (by decide)))
  have inMarks : groups.InMarks older := .more single (.last double)
  have inOperators : groups.InOperators newer := by
    refine ⟨_, .more ⟨_, .last rfl, rfl⟩ (.last ⟨_, .more rfl (.last rfl), rfl⟩), ?_⟩
    refine @Written.token [] _ .opening _ rfl (by decide) ?_
    refine @Written.token [] _ .negation _ rfl (by decide) ?_
    refine @Written.token [' ', ' '] _ (.tag "or") _ rfl (by decide) ?_
    refine @Written.token [' '] _ .closing _ rfl (by decide) ?_
    refine @Written.token [] _ .conjunction _ rfl (by decide) ?_
    refine @Written.token [] _ .opening _ rfl (by decide) ?_
    refine @Written.token [] _ (.tag "@a") _ rfl (by decide) ?_
    refine @Written.token [' '] _ .disjunction _ rfl (by decide) ?_
    refine @Written.token ['\n'] _ (.tag "~b") _ rfl (by decide) ?_
    refine @Written.token [] _ .closing _ rfl (by decide) ?_
    exact .finished (by decide)
  rcases wordings_agree someGroup inhabited plain with ⟨-, -, agree⟩
  exact ⟨someGroup, inhabited, plain, inMarks, inOperators,
    agree older newer inMarks inOperators⟩

end Scenarist.Tag
