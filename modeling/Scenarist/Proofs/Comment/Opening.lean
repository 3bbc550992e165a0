import Scenarist.Comment.Declaration
import Scenarist.Proofs.Text.Lines
import Scenarist.Proofs.Text.Trimming

/-! # Lines that open a function

A line opens a function if it can be written as the parts of a declaration one
after the other, some of which may be absent. Reading takes each part as far as it
goes and never looks back. Nothing is lost by that: what may follow a part never
begins as the part does, so a line has no second way to be written. -/

namespace Scenarist.Comment

open Text

/-! ## Parts of a line -/

def AreBlanks (text : Text) : Prop :=
  ∀ character ∈ text, isBlank character = true

instance (text : Text) : Decidable (AreBlanks text) :=
  decidable_of_iff (text.all isBlank = true) List.all_eq_true

/-- At least one blank. -/
def IsGap (text : Text) : Prop :=
  text ≠ [] ∧ AreBlanks text

def IsParenthesised (text : Text) : Prop :=
  ∃ inner, ')' ∉ inner ∧ text = '(' :: (inner ++ [')'])

/-- One part right behind another. -/
def InRow (IsFirst IsSecond : Text → Prop) (text : Text) : Prop :=
  ∃ first second, IsFirst first ∧ IsSecond second ∧ text = first ++ second

/-- A part that may be absent. -/
def Perhaps (IsPart : Text → Prop) (text : Text) : Prop :=
  text = [] ∨ IsPart text

theorem perhaps_nil (IsPart : Text → Prop) : Perhaps IsPart [] :=
  .inl rfl

def functionKeywords : List Text :=
  ["func", "fn", "def"]

theorem func_mem_functionKeywords : ("func" : Text) ∈ functionKeywords :=
  List.mem_cons_self

def IsVisibility : Text → Prop :=
  InRow (· = ("pub" : Text)) (InRow (Perhaps IsParenthesised) IsGap)

def IsAsynchronous : Text → Prop :=
  InRow (· = ("async" : Text)) IsGap

def IsKeyword : Text → Prop :=
  InRow (· ∈ functionKeywords) IsGap

def IsReceiver : Text → Prop :=
  InRow IsParenthesised AreBlanks

/-! ## What readers take -/

/-- A reader takes just the parts of one kind, as long as what follows is as it should be. -/
structure Reads (reader : Text → Option Text) (IsPart Follows : Text → Prop) : Prop where
  sound : ∀ {text rest}, reader text = some rest → ∃ part, IsPart part ∧ text = part ++ rest
  complete : ∀ {part rest}, IsPart part → Follows rest → reader (part ++ rest) = some rest

namespace Reads

variable {reader next : Text → Option Text} {IsPart IsNext Follows FollowsNext : Text → Prop}

theorem bind (first : Reads reader IsPart Follows) (second : Reads next IsNext FollowsNext)
    (between : ∀ {part rest}, IsNext part → FollowsNext rest → Follows (part ++ rest)) :
    Reads (fun text => reader text >>= next) (InRow IsPart IsNext) FollowsNext where
  sound := by
    intro text rest taken
    rcases Option.bind_eq_some_iff.mp taken with ⟨middle, firstTaken, secondTaken⟩
    rcases first.sound firstTaken with ⟨part, isPart, rfl⟩
    rcases second.sound secondTaken with ⟨other, isNext, rfl⟩
    exact ⟨part ++ other, ⟨part, other, isPart, isNext, rfl⟩, (List.append_assoc ..).symm⟩
  complete := by
    rintro _ rest ⟨part, other, isPart, isNext, rfl⟩ follows
    simp only [List.append_assoc, first.complete isPart (between isNext follows),
      Option.bind_eq_bind, Option.bind_some, second.complete isNext follows]

/-- An absent part is not taken for another that follows. -/
theorem skip (present : Reads reader IsPart Follows)
    (refuses : ∀ {rest}, Follows rest → reader rest = none) :
    Reads (fun text => some (skip reader text)) (Perhaps IsPart) Follows where
  sound := by
    intro text rest taken
    cases found : reader text with
    | none =>
        rw [Comment.skip, found, Option.getD_none, Option.some.injEq] at taken
        exact ⟨[], .inl rfl, taken⟩
    | some left =>
        rw [Comment.skip, found, Option.getD_some, Option.some.injEq] at taken
        rcases present.sound found with ⟨part, isPart, whole⟩
        exact ⟨part, .inr isPart, taken ▸ whole⟩
  complete := by
    rintro part rest (rfl | isPart) follows
    · rw [List.nil_append, Comment.skip, refuses follows, Option.getD_none]
    · rw [Comment.skip, present.complete isPart follows, Option.getD_some]

end Reads

/-! What follows is told by its first character. -/

def BeginsWith (test : Char → Bool) (text : Text) : Prop :=
  ∃ head rest, text = head :: rest ∧ test head = true

namespace BeginsWith

variable {test weaker : Char → Bool} {text : Text}

theorem mono (begins : BeginsWith test text)
    (implied : ∀ character, test character = true → weaker character = true) :
    BeginsWith weaker text := by
  rcases begins with ⟨head, rest, rfl, holds⟩
  exact ⟨head, rest, rfl, implied head holds⟩

theorem append (begins : BeginsWith test text) (rest : Text) : BeginsWith test (text ++ rest) := by
  rcases begins with ⟨head, others, rfl, holds⟩
  exact ⟨head, others ++ rest, rfl, holds⟩

theorem strip_eq_none (begins : BeginsWith test text) {head : Char} (excluded : test head = false)
    (beginning : Text) : strip (head :: beginning) text = none := by
  rcases begins with ⟨first, rest, rfl, holds⟩
  have different : first ≠ head := fun same => by
    rw [same, excluded] at holds
    cases holds
  rw [strip, if_neg different]

end BeginsWith

theorem Perhaps.beginsWith {test : Char → Bool} {IsPart : Text → Prop} {part rest : Text}
    (perhaps : Perhaps IsPart part) (begins : ∀ {part}, IsPart part → BeginsWith test part)
    (follows : BeginsWith test rest) : BeginsWith test (part ++ rest) := by
  rcases perhaps with rfl | isPart
  · exact follows
  · exact (begins isPart).append rest

theorem InRow.beginsWith {test : Char → Bool} {IsFirst IsSecond : Text → Prop} {text : Text}
    (row : InRow IsFirst IsSecond text)
    (begins : ∀ {first}, IsFirst first → BeginsWith test first) : BeginsWith test text := by
  rcases row with ⟨first, second, isFirst, -, rfl⟩
  exact (begins isFirst).append second

theorem InRow.beginsWith_perhaps {test : Char → Bool} {IsPart IsSecond : Text → Prop} {text : Text}
    (row : InRow (Perhaps IsPart) IsSecond text)
    (begins : ∀ {part}, IsPart part → BeginsWith test part)
    (follows : ∀ {second}, IsSecond second → BeginsWith test second) : BeginsWith test text := by
  rcases row with ⟨part, second, perhaps, isSecond, rfl⟩
  exact perhaps.beginsWith begins (follows isSecond)

theorem IsGap.beginsWith {gap : Text} (isGap : IsGap gap) : BeginsWith isBlank gap := by
  rcases List.exists_cons_of_ne_nil isGap.1 with ⟨head, rest, rfl⟩
  exact ⟨head, rest, rfl, isGap.2 head List.mem_cons_self⟩

/-! ## The readers of a declaration -/

def isNoBlank (character : Char) : Bool :=
  !isBlank character

theorem reads_strip (word : Text) : Reads (strip word) (· = word) fun _ => True where
  sound := by
    intro text rest stripped
    exact ⟨word, rfl, (strip_eq_some_iff word text rest).mp stripped⟩
  complete := by
    rintro _ rest rfl -
    exact (strip_eq_some_iff _ _ _).mpr rfl

theorem reads_blanks :
    Reads (fun text => some (dropBlanks text)) AreBlanks (BeginsWith isNoBlank) where
  sound := by
    intro text rest dropped
    rw [Option.some.injEq] at dropped
    refine ⟨text.takeWhile isBlank, List.all_eq_true.mp List.all_takeWhile, ?_⟩
    rw [← dropped, dropBlanks, List.takeWhile_append_dropWhile]
  complete := by
    rintro blanks _ areBlanks ⟨head, rest, rfl, noBlank⟩
    rw [dropBlanks_append areBlanks, dropBlanks_of_not_blank (by simpa [isNoBlank] using noBlank)]

theorem reads_spaced : Reads spaced IsGap (BeginsWith isNoBlank) where
  sound := by
    intro text rest taken
    cases text with
    | nil => cases taken
    | cons head others =>
        rw [spaced] at taken
        split at taken
        · next blank =>
            rcases reads_blanks.sound taken with ⟨blanks, areBlanks, rfl⟩
            refine ⟨head :: blanks, ⟨List.cons_ne_nil head blanks, ?_⟩, rfl⟩
            exact List.forall_mem_cons.mpr ⟨blank, areBlanks⟩
        · cases taken
  complete := by
    rintro gap rest ⟨spoken, areBlanks⟩ follows
    rcases List.exists_cons_of_ne_nil spoken with ⟨head, others, rfl⟩
    rcases List.forall_mem_cons.mp areBlanks with ⟨blank, othersBlank⟩
    rw [List.cons_append, spaced, if_pos blank]
    exact reads_blanks.complete othersBlank follows

theorem afterClosing_append {inner : Text} (unclosed : ')' ∉ inner) (rest : Text) :
    afterClosing (inner ++ ')' :: rest) = some rest := by
  induction inner with
  | nil => rfl
  | cons head inner induction =>
      rcases List.ne_and_not_mem_of_not_mem_cons unclosed with ⟨different, innerUnclosed⟩
      rw [List.cons_append, afterClosing, if_neg (Ne.symm different), induction innerUnclosed]

theorem exists_of_afterClosing {text rest : Text} (found : afterClosing text = some rest) :
    ∃ inner, ')' ∉ inner ∧ text = inner ++ ')' :: rest := by
  induction text with
  | nil => cases found
  | cons head others induction =>
      rw [afterClosing] at found
      split at found
      · next closes =>
          cases found
          exact ⟨[], List.not_mem_nil, by rw [closes, List.nil_append]⟩
      · next different =>
          rcases induction found with ⟨inner, unclosed, rfl⟩
          exact ⟨head :: inner, List.not_mem_cons_of_ne_of_not_mem (Ne.symm different) unclosed,
            rfl⟩

theorem reads_parenthesised : Reads parenthesised IsParenthesised fun _ => True where
  sound := by
    intro text rest taken
    cases text with
    | nil => cases taken
    | cons head others =>
        rw [parenthesised] at taken
        split at taken
        · next opens =>
            rcases exists_of_afterClosing taken with ⟨inner, unclosed, rfl⟩
            refine ⟨'(' :: (inner ++ [')']), ⟨inner, unclosed, rfl⟩, ?_⟩
            rw [opens, List.cons_append, List.append_assoc, List.singleton_append]
        · cases taken
  complete := by
    rintro _ rest ⟨inner, unclosed, rfl⟩ -
    rw [List.cons_append, List.append_assoc, List.singleton_append, parenthesised, if_pos rfl,
      afterClosing_append unclosed]

theorem parenthesised_eq_none {test : Char → Bool} {rest : Text} (begins : BeginsWith test rest)
    (excluded : test '(' = false) : parenthesised rest = none := by
  rcases begins with ⟨head, others, rfl, holds⟩
  have different : head ≠ '(' := by
    rintro rfl
    rw [excluded] at holds
    cases holds
  rw [parenthesised, if_neg different]

theorem Reads.strengthen {reader : Text → Option Text} {IsPart Follows Narrower : Text → Prop}
    (reads : Reads reader IsPart Follows) (implied : ∀ {rest}, Narrower rest → Follows rest) :
    Reads reader IsPart Narrower :=
  ⟨reads.sound, fun isPart follows => reads.complete isPart (implied follows)⟩

theorem reads_visibility : Reads visibility IsVisibility (BeginsWith isNoBlank) := by
  have argument : Reads (fun text => some (skip parenthesised text)) (Perhaps IsParenthesised)
      (BeginsWith isBlank) :=
    (reads_parenthesised.strengthen fun _ => trivial).skip
      fun begins => parenthesised_eq_none begins rfl
  have behindWord := argument.bind reads_spaced fun isGap _ => isGap.beginsWith.append _
  exact (reads_strip "pub").bind behindWord fun _ _ => trivial

theorem reads_asynchronous : Reads asynchronous IsAsynchronous (BeginsWith isNoBlank) :=
  (reads_strip "async").bind reads_spaced fun _ _ => trivial

theorem reads_functionKeyword : Reads functionKeyword IsKeyword (BeginsWith isNoBlank) := by
  have word : Reads (fun text => strip "func" text <|> strip "fn" text <|> strip "def" text)
      (· ∈ functionKeywords) fun _ => True := by
    constructor
    · intro text rest taken
      simp only [Option.orElse_eq_orElse, Option.orElse_eq_or, Option.or_eq_some_iff,
        strip_eq_some_iff] at taken
      rcases taken with isFunc | ⟨-, isFn | ⟨-, isDef⟩⟩
      · exact ⟨"func", func_mem_functionKeywords, isFunc⟩
      · exact ⟨"fn", by decide, isFn⟩
      · exact ⟨"def", by decide, isDef⟩
    · intro word rest known _
      simp only [functionKeywords, List.mem_cons, List.not_mem_nil, or_false] at known
      rcases known with rfl | rfl | rfl <;> rfl
  exact word.bind reads_spaced fun _ _ => trivial

theorem reads_receiver : Reads receiver IsReceiver (BeginsWith isNoBlank) :=
  reads_parenthesised.bind reads_blanks fun _ _ => trivial

/-! ## Names -/

/-- A letter or underscore, with letters, digits and underscores behind it. -/
def IsName : Text → Prop
  | [] => False
  | head :: rest => startsName head = true ∧ ∀ character ∈ rest, continuesName character = true

instance : DecidablePred IsName
  | [] => inferInstanceAs (Decidable False)
  | head :: rest =>
    decidable_of_iff (startsName head = true ∧ rest.all continuesName = true)
      (and_congr_right fun _ => List.all_eq_true)

theorem IsName.continuesName {name : Text} (proper : IsName name) :
    ∀ character ∈ name, Comment.continuesName character = true := by
  cases name with
  | nil => exact proper.elim
  | cons head rest =>
      intro character member
      rcases List.mem_cons.mp member with rfl | inRest
      · have starts := proper.1
        simp only [startsName, Bool.or_eq_true] at starts
        simp only [Comment.continuesName, Char.isAlphanum, Bool.or_eq_true]
        exact starts.imp_left .inl
      · exact proper.2 character inRest

theorem IsName.not_mem {name : Text} (proper : IsName name) {character : Char}
    (outside : Comment.continuesName character = false) : character ∉ name := by
  intro member
  rw [proper.continuesName character member] at outside
  cases outside

/-- Letters, digits and underscores lie close together. -/
theorem code_of_continuesName {character : Char}
    (continues : Comment.continuesName character = true) :
    48 ≤ character.toNat ∧ character.toNat ≤ 122 := by
  have classes : character.isAlphanum =
      ((decide (65 ≤ character.val ∧ character.val ≤ 90) ||
        decide (97 ≤ character.val) && decide (character.val ≤ 122)) ||
          decide (48 ≤ character.val) && decide (character.val ≤ 57)) := rfl
  simp only [Comment.continuesName, classes, Bool.or_eq_true, Bool.and_eq_true, decide_eq_true_eq,
    UInt32.le_iff_toNat_le] at continues
  rcases continues with ((upper | lower) | digit) | rfl
  · exact ⟨Nat.le_trans (by decide) upper.1, Nat.le_trans upper.2 (by decide)⟩
  · exact ⟨Nat.le_trans (by decide) lower.1, Nat.le_trans lower.2 (by decide)⟩
  · exact ⟨Nat.le_trans (by decide) digit.1, Nat.le_trans digit.2 (by decide)⟩
  · decide

theorem isSpace_of_continuesName {character : Char}
    (continues : Comment.continuesName character = true) : isSpace character = false := by
  have code := code_of_continuesName continues
  simp only [isSpace, Bool.or_eq_false_iff, Bool.and_eq_false_iff, decide_eq_false_iff_not]
  omega

theorem isBlank_of_startsName {character : Char} (starts : startsName character = true) :
    isBlank character = false := by
  simp only [isBlank, Bool.or_eq_false_iff, decide_eq_false_iff_not]
  constructor
  · intro equal
    subst equal
    cases starts
  · intro equal
    subst equal
    cases starts

theorem continuesName_of_isBlank {character : Char} (blank : isBlank character = true) :
    continuesName character = false := by
  simp only [isBlank, Bool.or_eq_true, decide_eq_true_eq] at blank
  rcases blank with rfl | rfl <;> rfl

theorem opensList_parenthesis : opensList '(' = true := rfl

theorem ends_of_opensList {character : Char} (opens : opensList character = true) :
    continuesName character = false ∧ isBlank character = false := by
  simp only [opensList, Bool.or_eq_true, decide_eq_true_eq] at opens
  rcases opens with (rfl | rfl) | rfl <;> exact ⟨rfl, rfl⟩

theorem boundName_append {name : Text} (proper : IsName name) {gap : Text}
    (areBlanks : AreBlanks gap) {bracket : Char} (opens : opensList bracket = true)
    (rest : Text) : boundName (name ++ (gap ++ bracket :: rest)) = some name := by
  cases name with
  | nil => exact proper.elim
  | cons head others =>
      have ends : ∀ first ∈ (gap ++ bracket :: rest).head?, continuesName first = false := by
        intro first isFirst
        cases gap with
        | nil =>
            cases isFirst
            exact (ends_of_opensList opens).1
        | cons blank more =>
            cases isFirst
            exact continuesName_of_isBlank (areBlanks first List.mem_cons_self)
      have cut := cutWhile_append proper.2 ends
      rw [cutWhile, Prod.mk.injEq] at cut
      rw [List.cons_append, boundName, if_pos proper.1, cut.2, dropBlanks_append areBlanks,
        dropBlanks_of_not_blank (ends_of_opensList opens).2, cut.1]
      exact if_pos opens

theorem exists_of_boundName {text name : Text} (bound : boundName text = some name) :
    IsName name ∧ ∃ gap bracket rest, AreBlanks gap ∧ opensList bracket = true ∧
      text = name ++ (gap ++ bracket :: rest) := by
  cases text with
  | nil => cases bound
  | cons head others =>
      rw [boundName] at bound
      split at bound
      · next starts =>
          rcases reads_blanks.sound (Eq.refl (some (dropBlanks (others.dropWhile continuesName))))
            with ⟨gap, areBlanks, behindName⟩
          split at bound
          · cases bound
          · next bracket rest dropped =>
              split at bound
              · next opens =>
                  cases bound
                  refine ⟨⟨starts, List.all_eq_true.mp List.all_takeWhile⟩, gap, bracket, rest,
                    areBlanks, opens, ?_⟩
                  rw [← dropped, ← behindName, List.cons_append, List.takeWhile_append_dropWhile]
              · cases bound
      · cases bound

/-! ## Everything before the name -/

/-! Each part is followed by a character that it does not begin with. -/

theorem IsKeyword.beginsWith {keyword : Text} (isKeyword : IsKeyword keyword) :
    BeginsWith ['f', 'd'].contains keyword := by
  rcases isKeyword with ⟨word, gap, known, -, rfl⟩
  simp only [functionKeywords, List.mem_cons, List.not_mem_nil, or_false] at known
  rcases known with rfl | rfl | rfl <;> exact ⟨_, _, rfl, rfl⟩

theorem IsAsynchronous.beginsWith {asynchronous : Text}
    (isAsynchronous : IsAsynchronous asynchronous) :
    BeginsWith ['a', 'f', 'd'].contains asynchronous := by
  rcases isAsynchronous with ⟨word, gap, rfl, -, rfl⟩
  exact ⟨_, _, rfl, rfl⟩

theorem IsVisibility.beginsWith {visibility : Text} (isVisibility : IsVisibility visibility) :
    BeginsWith isNoBlank visibility := by
  rcases isVisibility with ⟨word, others, rfl, -, rfl⟩
  exact ⟨_, _, rfl, rfl⟩

theorem IsReceiver.beginsWith {receiver : Text} (isReceiver : IsReceiver receiver) :
    BeginsWith isNoBlank receiver := by
  rcases isReceiver with ⟨parenthesised, blanks, ⟨inner, -, rfl⟩, -, rfl⟩
  exact ⟨_, _, rfl, rfl⟩

theorem IsName.beginsWith {name : Text} (proper : IsName name) : BeginsWith startsName name := by
  cases name with
  | nil => exact proper.elim
  | cons head others => exact ⟨head, others, rfl, proper.1⟩

theorem isNoBlank_of_startsName (character : Char) (starts : startsName character = true) :
    isNoBlank character = true := by
  rw [isNoBlank, isBlank_of_startsName starts, Bool.not_false]

theorem isNoBlank_of_contains (character : Char)
    (member : ['a', 'f', 'd'].contains character = true) : isNoBlank character = true := by
  simp only [List.contains_iff_mem, List.mem_cons, List.not_mem_nil, or_false] at member
  rcases member with rfl | rfl | rfl <;> rfl

theorem contains_of_keyword (character : Char) (member : ['f', 'd'].contains character = true) :
    ['a', 'f', 'd'].contains character = true := by
  simp only [List.contains_iff_mem, List.mem_cons, List.not_mem_nil, or_false] at member ⊢
  exact .inr member

/-! What a line holds up to the name of the function, from the end on. -/

def FromKeyword : Text → Prop :=
  InRow IsKeyword (Perhaps IsReceiver)

def FromAsynchronous : Text → Prop :=
  InRow (Perhaps IsAsynchronous) FromKeyword

def FromVisibility : Text → Prop :=
  InRow (Perhaps IsVisibility) FromAsynchronous

theorem FromKeyword.beginsWith {text : Text} (fromKeyword : FromKeyword text) :
    BeginsWith ['f', 'd'].contains text :=
  InRow.beginsWith fromKeyword IsKeyword.beginsWith

theorem FromAsynchronous.beginsWith {text : Text} (fromAsynchronous : FromAsynchronous text) :
    BeginsWith ['a', 'f', 'd'].contains text :=
  InRow.beginsWith_perhaps fromAsynchronous IsAsynchronous.beginsWith
    fun fromKeyword => fromKeyword.beginsWith.mono contains_of_keyword

theorem FromVisibility.beginsWith {text : Text} (fromVisibility : FromVisibility text) :
    BeginsWith isNoBlank text :=
  InRow.beginsWith_perhaps fromVisibility IsVisibility.beginsWith
    fun fromAsynchronous => fromAsynchronous.beginsWith.mono isNoBlank_of_contains

theorem asynchronous_eq_none {rest : Text} (begins : BeginsWith ['f', 'd'].contains rest) :
    asynchronous rest = none := by
  have absent : strip "async" rest = none := begins.strip_eq_none rfl "sync"
  rw [asynchronous, absent]
  rfl

theorem visibility_eq_none {rest : Text} (begins : BeginsWith ['a', 'f', 'd'].contains rest) :
    visibility rest = none := by
  have absent : strip "pub" rest = none := begins.strip_eq_none rfl "ub"
  rw [visibility, absent]
  rfl

theorem receiver_eq_none {rest : Text} (begins : BeginsWith startsName rest) :
    receiver rest = none := by
  rw [receiver, parenthesised_eq_none begins rfl]
  rfl

/-- Takes everything up to the name of the function. -/
def afterIntroduction (line : Text) : Option Text :=
  functionKeyword (skip asynchronous (skip visibility (dropBlanks line))) >>=
    fun text => some (skip receiver text)

theorem reads_afterIntroduction :
    Reads afterIntroduction (InRow AreBlanks FromVisibility) (BeginsWith startsName) := by
  have perhapsReceiver := (reads_receiver.strengthen fun begins =>
    begins.mono isNoBlank_of_startsName).skip receiver_eq_none
  have fromKeyword := reads_functionKeyword.bind perhapsReceiver fun perhaps begins =>
    perhaps.beginsWith IsReceiver.beginsWith (begins.mono isNoBlank_of_startsName)
  have perhapsAsynchronous := (reads_asynchronous.strengthen fun begins =>
    (begins.mono contains_of_keyword).mono isNoBlank_of_contains).skip asynchronous_eq_none
  have fromAsynchronous := perhapsAsynchronous.bind fromKeyword fun isFromKeyword _ =>
    (FromKeyword.beginsWith isFromKeyword).append _
  have perhapsVisibility := (reads_visibility.strengthen fun begins =>
    begins.mono isNoBlank_of_contains).skip visibility_eq_none
  have fromVisibility := perhapsVisibility.bind fromAsynchronous fun isFromAsynchronous _ =>
    (FromAsynchronous.beginsWith isFromAsynchronous).append _
  exact reads_blanks.bind fromVisibility fun isFromVisibility _ =>
    (FromVisibility.beginsWith isFromVisibility).append _

theorem nameInLine_eq (line : Text) : nameInLine line = afterIntroduction line >>= boundName := by
  simp only [nameInLine, afterIntroduction, Option.bind_eq_bind, Option.bind_assoc,
    Option.bind_some]

/-! ## Declarations -/

/-- The parts of a line that opens a function. -/
structure Opening where
  indent : Text
  visibility : Text
  asynchronous : Text
  keyword : Text
  receiver : Text
  name : Text
  gap : Text
  bracket : Char
  rest : Text
  blankIndent : AreBlanks indent
  isVisibility : Perhaps IsVisibility visibility
  isAsynchronous : Perhaps IsAsynchronous asynchronous
  isKeyword : IsKeyword keyword
  isReceiver : Perhaps IsReceiver receiver
  properName : IsName name
  blankGap : AreBlanks gap
  opensList : opensList bracket = true

namespace Opening

def line (opening : Opening) : Text :=
  opening.indent ++ (opening.visibility ++ (opening.asynchronous ++ (opening.keyword ++
    (opening.receiver ++ (opening.name ++ (opening.gap ++ opening.bracket :: opening.rest))))))

/-- What stands before the name. -/
def introduction (opening : Opening) : Text :=
  opening.indent ++ (opening.visibility ++ (opening.asynchronous ++
    (opening.keyword ++ opening.receiver)))

/-- What stands behind the name. -/
def behind (opening : Opening) : Text :=
  opening.gap ++ opening.bracket :: opening.rest

theorem line_eq (opening : Opening) :
    opening.line = opening.introduction ++ (opening.name ++ opening.behind) := by
  simp only [line, introduction, behind, List.append_assoc]

theorem isIntroduction (opening : Opening) :
    InRow AreBlanks FromVisibility opening.introduction :=
  ⟨_, _, opening.blankIndent, ⟨_, _, opening.isVisibility, ⟨_, _, opening.isAsynchronous,
    ⟨_, _, opening.isKeyword, opening.isReceiver, rfl⟩, rfl⟩, rfl⟩, rfl⟩

theorem nameInLine_line (opening : Opening) : nameInLine opening.line = some opening.name := by
  have begins : BeginsWith startsName (opening.name ++ opening.behind) :=
    opening.properName.beginsWith.append opening.behind
  rw [nameInLine_eq, line_eq, reads_afterIntroduction.complete opening.isIntroduction begins]
  exact boundName_append opening.properName opening.blankGap opening.opensList opening.rest

end Opening

theorem exists_opening_of_nameInLine {line name : Text} (found : nameInLine line = some name) :
    ∃ opening : Opening, opening.line = line ∧ opening.name = name := by
  rw [nameInLine_eq] at found
  rcases Option.bind_eq_some_iff.mp found with ⟨text, taken, bound⟩
  rcases reads_afterIntroduction.sound taken with ⟨_, ⟨indent, _, blankIndent,
    ⟨visibility, _, isVisibility, ⟨asynchronous, _, isAsynchronous,
      ⟨keyword, receiver, isKeyword, isReceiver, rfl⟩, rfl⟩, rfl⟩, rfl⟩, rfl⟩
  rcases exists_of_boundName bound with ⟨proper, gap, bracket, rest, blankGap, opens, rfl⟩
  refine ⟨⟨indent, visibility, asynchronous, keyword, receiver, name, gap, bracket, rest,
    blankIndent, isVisibility, isAsynchronous, isKeyword, isReceiver, proper, blankGap, opens⟩, ?_,
    rfl⟩
  simp only [Opening.line, List.append_assoc]

/-- A text declares the name that its first line opens a function with. No line opens functions of
two names. -/
theorem declaredName_eq_some_iff :
    (∀ text name : Text, declaredName text = some name ↔
      ∃ opening : Opening, (lines text).head? = some opening.line ∧ opening.name = name) ∧
    ∀ first second : Opening, first.name ≠ second.name → first.line ≠ second.line := by
  constructor
  · intro text name
    rw [declaredName, Option.bind_eq_bind, Option.bind_eq_some_iff]
    constructor
    · rintro ⟨line, isFirst, found⟩
      rcases exists_opening_of_nameInLine found with ⟨opening, rfl, named⟩
      exact ⟨opening, isFirst, named⟩
    · rintro ⟨opening, isFirst, rfl⟩
      exact ⟨opening.line, isFirst, opening.nameInLine_line⟩
  · intro first second different same
    have firstNamed := first.nameInLine_line
    rw [same, second.nameInLine_line] at firstNamed
    exact different (Option.some.inj firstNamed).symm

/-! An opening with all its parts, and one with few. -/

def parseOpening : Opening where
  indent := "\t"
  visibility := "pub(crate) "
  asynchronous := "async "
  keyword := "fn "
  receiver := []
  name := "parse"
  gap := " "
  bracket := '<'
  rest := "T>(text: T)"
  blankIndent := by decide
  isVisibility := .inr ⟨"pub", "(crate) ", rfl, ⟨"(crate)", " ", .inr ⟨"crate", by decide, rfl⟩,
    ⟨by decide, by decide⟩, rfl⟩, rfl⟩
  isAsynchronous := .inr ⟨"async", " ", rfl, ⟨by decide, by decide⟩, rfl⟩
  isKeyword := ⟨"fn", " ", by decide, ⟨by decide, by decide⟩, rfl⟩
  isReceiver := perhaps_nil IsReceiver
  properName := by decide
  blankGap := by decide
  opensList := rfl

def totalOpening : Opening where
  indent := []
  visibility := []
  asynchronous := []
  keyword := "func "
  receiver := "(s *Suite) "
  name := "Test_total"
  gap := []
  bracket := '('
  rest := "t *T) \x7b"
  blankIndent := isBlank_of_mem_nil
  isVisibility := perhaps_nil IsVisibility
  isAsynchronous := perhaps_nil IsAsynchronous
  isKeyword := ⟨"func", " ", func_mem_functionKeywords, ⟨by decide, by decide⟩, rfl⟩
  isReceiver := .inr ⟨"(s *Suite)", " ", ⟨"s *Suite", by decide, rfl⟩,
    by decide, rfl⟩
  properName := by decide
  blankGap := isBlank_of_mem_nil
  opensList := opensList_parenthesis

theorem declaredName_eq_some_iff_parse :
    declaredName "\tpub(crate) async fn parse <T>(text: T)\n" = some ("parse" : Text) ∧
      parseOpening.name ≠ totalOpening.name ∧ parseOpening.line ≠ totalOpening.line := by
  have different : parseOpening.name ≠ totalOpening.name := by decide
  exact ⟨(declaredName_eq_some_iff.1 _ _).mpr ⟨parseOpening, by decide, rfl⟩, different,
    declaredName_eq_some_iff.2 parseOpening totalOpening different⟩

end Scenarist.Comment
