import Scenarist.Proofs.Gherkin.Grammar

/-! # Tags of parts

The tags of a part are written in the text before it, each with its at sign, and
are read in the order in which they stand there. Tags on lines of their own come
first among the tags of the part that follows them. -/

namespace Scenarist.Gherkin

open Text Reader

variable {cursor next last : Cursor}

/-- A name that stands behind an at sign as one tag. -/
def IsTagName (name : Text) : Prop :=
  name ≠ [] ∧ ∀ character ∈ name, isTagCharacter character = true

/-- The text writes the tag. -/
def Writes (text name : Text) : Prop :=
  IsTagName name ∧ '@' :: name <:+: text

def WritesAll (text : Text) (names : List Text) : Prop :=
  ∀ name ∈ names, Writes text name

theorem Writes.mono {piece text name : Text} (within : piece <:+: text)
    (writes : Writes piece name) : Writes text name :=
  ⟨writes.1, writes.2.trans within⟩

theorem lineFeed_not_mem_tag {name : Text} (isName : IsTagName name) : '\n' ∉ '@' :: name := by
  intro member
  rcases List.mem_cons.mp member with isSign | inName
  · exact absurd isSign (by decide)
  · exact absurd (isName.2 '\n' inName) (by decide)

/-- The text writes the tags one behind the other. -/
def WritesInOrder : Text → List Text → Prop
  | _, [] => True
  | text, name :: names =>
    IsTagName name ∧ ∃ behind, '@' :: (name ++ behind) <:+ text ∧ WritesInOrder behind names

namespace WritesInOrder

variable {names others : List Text} {text piece opening rest name : Text}

theorem mono (suffix : piece <:+ text) (written : WritesInOrder piece names) :
    WritesInOrder text names := by
  cases names with
  | nil => trivial
  | cons name names =>
      rcases written with ⟨isName, behind, here, others⟩
      exact ⟨isName, behind, here.trans suffix, others⟩

theorem writesAll (written : WritesInOrder text names) : WritesAll text names := by
  induction names generalizing text with
  | nil => simp [WritesAll]
  | cons name names induction =>
      rcases written with ⟨isName, behind, here, others⟩
      have inBehind : behind <:+: text :=
        (List.suffix_append ('@' :: name) behind).isInfix.trans here.isInfix
      intro tag member
      rcases List.mem_cons.mp member with rfl | inOthers
      · exact ⟨isName, (List.prefix_append ('@' :: tag) behind).isInfix.trans here.isInfix⟩
      · exact (induction others tag inOthers).mono inBehind

theorem suffix_of_append (unmarked : '@' ∉ opening) (here : '@' :: piece <:+ opening ++ rest) :
    '@' :: piece <:+ rest := by
  rcases here with ⟨front, whole⟩
  rcases List.append_eq_append_iff.mp whole with ⟨part, isOpening, isHere⟩ | ⟨part, -, isRest⟩
  · cases part with
    | nil => exact ⟨[], isHere⟩
    | cons head part =>
        cases isHere
        exact absurd (isOpening ▸ List.mem_append_right front List.mem_cons_self) unmarked
  · exact ⟨part, isRest.symm⟩

/-- No tag is written where there is no at sign. -/
theorem of_append (unmarked : '@' ∉ opening) (written : WritesInOrder (opening ++ rest) names) :
    WritesInOrder rest names := by
  cases names with
  | nil => trivial
  | cons name names =>
      rcases written with ⟨isName, behind, here, others⟩
      exact ⟨isName, behind, suffix_of_append unmarked here, others⟩

/-- Behind a tag, the text writes the tags that come after it. -/
theorem of_cons (isName : IsTagName name)
    (written : WritesInOrder ('@' :: (name ++ rest)) (name :: names)) :
    WritesInOrder rest names := by
  have unmarked : '@' ∉ name := fun member => absurd (isName.2 '@' member) (by decide)
  rcases written with ⟨-, behind, here, others⟩
  rcases List.suffix_cons_iff.mp here with isWhole | inRest
  · rw [List.append_cancel_left (List.cons.inj isWhole).2] at others
    exact others
  · have later := suffix_of_append unmarked inRest
    exact others.mono ((List.suffix_append ('@' :: name) behind).trans later)

/-- A tag does not end in a line feed. -/
theorem of_append_lineFeed (written : WritesInOrder (text ++ ['\n']) names) :
    WritesInOrder text names := by
  induction names generalizing text with
  | nil => trivial
  | cons name names induction =>
      rcases written with ⟨isName, behind, ⟨front, whole⟩, others⟩
      rcases List.eq_nil_or_concat behind with rfl | ⟨inner, last, ends⟩
      · have isLast : ('@' :: name).getLast? = some '\n' := by
          simpa using congrArg List.getLast? whole
        exact absurd (List.mem_of_getLast? isLast) (lineFeed_not_mem_tag isName)
      · rw [List.concat_eq_append] at ends
        subst ends
        have regrouped : (front ++ '@' :: (name ++ inner)) ++ [last] = text ++ ['\n'] := by
          rw [← whole]
          simp
        rcases List.append_inj' regrouped rfl with ⟨isText, isLast⟩
        cases isLast
        exact ⟨isName, inner, ⟨front, isText⟩, induction others⟩

end WritesInOrder

/-! ## One tag -/

theorem tag_append {name : Text} (isName : IsTagName name) (line : Nat) (rest : Text) :
    tag ⟨line, '@' :: (name ++ '\n' :: rest)⟩ = some (name, ⟨line, '\n' :: rest⟩) := by
  have marked : expecting ['@'] ⟨line, '@' :: (name ++ '\n' :: rest)⟩ =
      some ((), ⟨line, name ++ '\n' :: rest⟩) := expecting_append ['@'] _ line
  have ends : ∀ head ∈ ('\n' :: rest).head?, isTagCharacter head = false := by
    intro head first
    cases first
    rfl
  rw [tag, bind_of_reads marked]
  exact nonempty_of_reads isName.1 (taking_cutWhile rfl isName.2 ends line)

theorem tag_of_not_sign (unmarked : ∀ head ∈ cursor.rest.head?, head ≠ '@') :
    tag cursor = none := by
  rw [tag, bind_of_refuses (expecting_of_not_head unmarked)]

/-! ## The tags before a part -/

/-- The tags of what the reader takes are written in their order, before all that it leaves. -/
def KeepsOrder (reader : Reader α) (tagsOf : α → List Text) : Prop :=
  ∀ ⦃cursor value next⦄, reader cursor = some (value, next) → ∀ names,
    WritesInOrder next.rest names → WritesInOrder cursor.rest (tagsOf value ++ names)

namespace KeepsOrder

variable {reader : Reader α} {tagsOf : α → List Text} (keeps : KeepsOrder reader tagsOf)

include keeps

theorem seqRight {before : Reader β} [LeavesEnd before] : KeepsOrder (before *> reader) tagsOf := by
  intro cursor value last reads names written
  rcases bind_eq_some_iff.mp reads with ⟨_, next, first, second⟩
  exact (keeps second names written).mono (LeavesEnd.suffix first)

theorem repeated (cursor : Cursor) (names : List Text)
    (written : WritesInOrder (repeated reader cursor).2.rest names) :
    WritesInOrder cursor.rest ((repeated reader cursor).1.flatMap tagsOf ++ names) := by
  fun_induction Reader.repeated reader cursor with
  | case1 cursor refuses => exact written
  | case2 cursor first next reads shorter values last answer induction =>
      rw [answer] at induction
      rw [List.flatMap_cons, List.append_assoc]
      exact keeps reads _ (induction written)
  | case3 cursor => exact written

theorem separated {separator : Reader β} [LeavesEnd separator] :
    KeepsOrder (separated separator reader) (List.flatMap tagsOf) := by
  intro cursor values last reads names written
  rcases separated_cases reads with ⟨rfl, rfl⟩ | ⟨first, next, firstTaken, rfl, rfl⟩
  · exact written
  · rw [List.flatMap_cons, List.append_assoc]
    exact keeps firstTaken _ (keeps.seqRight.repeated next names written)

end KeepsOrder

theorem keepsOrder_tag : KeepsOrder tag fun name => [name] := by
  intro cursor name last reads names written
  rcases bind_eq_some_iff.mp reads with ⟨_, next, marked, named⟩
  rcases reads_of_nonempty named with ⟨spoken, taken⟩
  rcases taken_of_taking taken with ⟨whole, inName⟩
  refine ⟨⟨spoken, inName⟩, last.rest, ?_, written⟩
  rw [rest_of_expecting marked, whole]
  exact List.suffix_rfl

theorem keepsOrder_tags : KeepsOrder tags id := by
  intro cursor names last reads others written
  rcases bind_eq_some_iff.mp reads with ⟨taken, next, separate, reads⟩
  rcases bind_eq_some_iff.mp reads with ⟨_, apart, blanksTaken, reads⟩
  rcases bind_eq_some_iff.mp reads with ⟨_, _, linesTaken, reads⟩
  cases reads
  have inNext := (LeavesEnd.suffix linesTaken).trans (LeavesEnd.suffix blanksTaken)
  have keeps := keepsOrder_tag.separated separate others (written.mono inNext)
  rwa [List.flatMap_singleton'] at keeps

theorem tags_of_startsPart (starts : StartsPart cursor.rest)
    (unmarked : ∀ head ∈ cursor.rest.head?, head ≠ '@') : tags cursor = some ([], cursor) := by
  rw [tags, bind_of_reads (separated_of_refuses (tag_of_not_sign unmarked)),
    bind_of_reads (blanks_of_startsPart starts), bind_of_reads (emptyLines_of_startsPart starts),
    pure_apply]

/-! ## Tags on lines of their own -/

/-- A part at this place carries the given tags first. -/
structure StandsTagged (names : List Text) (place : Cursor) : Prop where
  starts : StartsPart place.rest
  spoken : place.rest ≠ []
  carries : ∀ ⦃carried next⦄, tags place = some (carried, next) → names <+: carried

/-- Each tag on a line of its own, all indented alike. -/
def tagLines (indent : Text) (names : List Text) : Text :=
  unlines (names.map fun name => indent ++ '@' :: name)

theorem tagLines_cons (indent name : Text) (names : List Text) (rest : Text) :
    tagLines indent (name :: names) ++ rest =
      indent ++ '@' :: (name ++ '\n' :: (tagLines indent names ++ rest)) := by
  simp [tagLines]

section

variable {indent : Text} (blank : ∀ character ∈ indent, isBlank character = true)

include blank

theorem WritesInOrder.of_tagLines {names others : List Text} {rest : Text}
    (areNames : ∀ name ∈ names, IsTagName name)
    (written : WritesInOrder (tagLines indent names ++ rest) (names ++ others)) :
    WritesInOrder rest others := by
  have unmarked : '@' ∉ indent := fun member => absurd (blank '@' member) (by decide)
  induction names with
  | nil => exact written
  | cons name names induction =>
      rw [tagLines_cons, List.cons_append] at written
      have behind := (written.of_append unmarked).of_cons (areNames name List.mem_cons_self)
      have others := @of_append _ ['\n'] _ (by decide) behind
      exact induction (fun other member => areNames other (List.mem_cons_of_mem name member)) others

theorem gap_tag_append {name : Text} (isName : IsTagName name) (line : Nat) (rest : Text) :
    (gap *> tag) ⟨line, '\n' :: (indent ++ '@' :: (name ++ '\n' :: rest))⟩ =
      some (name, ⟨line + 1, '\n' :: rest⟩) := by
  have starts : StartsPart ('@' :: (name ++ '\n' :: rest)) := startsPart_cons rfl _
  have apart := gap_append (isLayout_cons_indent blank) starts line
  rw [lineFeeds_cons_indent blank] at apart
  rw [seqRight_eq_bind, ← List.cons_append, bind_of_reads apart, tag_append isName]

/-- Behind a tag the tag lines are read, and then what the rest of the text has to add. -/
theorem repeated_tagLines (names : List Text) (areNames : ∀ name ∈ names, IsTagName name)
    (line : Nat) (rest : Text) :
    repeated (gap *> tag) ⟨line, '\n' :: (tagLines indent names ++ rest)⟩ =
      (names ++ (repeated (gap *> tag) ⟨line + names.length, '\n' :: rest⟩).1,
        (repeated (gap *> tag) ⟨line + names.length, '\n' :: rest⟩).2) := by
  induction names generalizing line with
  | nil => rfl
  | cons name names induction =>
      have reads := gap_tag_append blank (areNames name List.mem_cons_self) line
        (tagLines indent names ++ rest)
      have others := induction
        (fun other member => areNames other (List.mem_cons_of_mem name member)) (line + 1)
      have moved : line + (name :: names).length = line + 1 + names.length := by
        rw [List.length_cons]
        omega
      rw [tagLines_cons, repeated_of_reads reads, others, moved]
      · rfl
      · simp
        omega

variable {first : Text} {names : List Text} (isName : IsTagName first)
  (areNames : ∀ name ∈ names, IsTagName name)

include isName areNames

theorem separated_tagLines (line : Nat) (rest : Text) :
    separated gap tag ⟨line, '@' :: (first ++ '\n' :: (tagLines indent names ++ rest))⟩ =
      some (first :: (names ++ (repeated (gap *> tag) ⟨line + names.length, '\n' :: rest⟩).1),
        (repeated (gap *> tag) ⟨line + names.length, '\n' :: rest⟩).2) := by
  rw [separated_of_reads (tag_append isName line _), repeated_tagLines blank names areNames]

theorem standsTagged_tagLines (line : Nat) (rest : Text) :
    StandsTagged (first :: names)
      ⟨line, '@' :: (first ++ '\n' :: (tagLines indent names ++ rest))⟩ where
  starts := startsPart_cons rfl _
  spoken := by simp
  carries := by
    intro carried next reads
    rw [tags, bind_of_reads (separated_tagLines blank isName areNames line rest)] at reads
    rcases bind_eq_some_iff.mp reads with ⟨_, _, _, reads⟩
    rcases bind_eq_some_iff.mp reads with ⟨_, _, _, reads⟩
    cases reads
    exact List.prefix_append (first :: names) _

/-- Where the part begins right behind them, the tag lines make up all of its tags. -/
theorem tags_tagLines {rest : Text} (starts : StartsPart rest)
    (unmarked : ∀ head ∈ rest.head?, head ≠ '@') (line : Nat) :
    tags ⟨line, '@' :: (first ++ '\n' :: (tagLines indent names ++ rest))⟩ =
      some (first :: names, ⟨line + names.length + 1, rest⟩) := by
  let behind : Cursor := ⟨line + names.length, '\n' :: rest⟩
  have refuses : (gap *> tag) behind = none := by
    have layout : IsLayout ['\n'] := by simp [IsLayout]
    have apart := gap_append layout starts (line + names.length)
    rw [List.singleton_append] at apart
    rw [seqRight_eq_bind, bind_of_reads apart, tag_of_not_sign unmarked]
  have unblank : blanks behind = some ((), behind) := by
    apply blanks_of_not_blank
    intro head isFirst
    cases isFirst
    rfl
  rw [tags, bind_of_reads (separated_tagLines blank isName areNames line rest),
    repeated_of_refuses refuses, bind_of_reads unblank,
    bind_of_reads (emptyLines_cons starts (line + names.length)), pure_apply, List.append_nil]

end

end Scenarist.Gherkin
