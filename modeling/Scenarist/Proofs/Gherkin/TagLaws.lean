import Scenarist.Proofs.Gherkin.Parts

/-! # What is relied on of parsers about tags

A program that writes tags above a text cannot look into the parser that reads
them. In the grammar of documents tags stand above the part that they belong to,
on one line or several, and two laws of it are relied on: a document has its tags
in the order in which its text writes them, and tag lines right behind the header
of a document belong to the first part. Then all other tags are written in the
text below. -/

namespace Scenarist.Gherkin

open Text

/-- The laws of tags. A parser may refuse what it will. -/
structure ReadsTags [Parser] : Prop where
  inOrder : ∀ {text : Text} {document : Feature}, Parser.parse text = .ok document →
    WritesInOrder text document.tagLists.flatten
  tagLines : ∀ {title indent rest : Text} {names : List Text} {document : Feature},
    IsTitle title → (∀ character ∈ indent, isBlank character = true) → names ≠ [] →
      (∀ name ∈ names, IsTagName name) →
        Parser.parse (wrapped title indent names rest) = .ok document →
          OpensWith names document.tagLists

theorem readsTags_reader : @ReadsTags reader where
  inOrder reads := writesInOrder_of_ofText (parse_eq_ok_iff.mp reads)
  tagLines isTitle blank tagged areNames reads :=
    opensWith_of_ofText isTitle blank tagged areNames (parse_eq_ok_iff.mp reads)

/-! ## Tags behind tag lines -/

/-- Given tags stand before all others, and the text writes those others. -/
def OpenedBy (names : List Text) (text : Text) (lists : List (List Text)) : Prop :=
  ∃ own others, lists = (names ++ own) :: others ∧ WritesAll text own ∧
    ∀ carried ∈ others, WritesAll text carried

theorem OpenedBy.of_writes {names : List Text} {piece text : Text} {lists : List (List Text)}
    (covered : ∀ name, Writes piece name → Writes text name) (opened : OpenedBy names piece lists) :
    OpenedBy names text lists := by
  rcases opened with ⟨own, others, whole, ownWritten, othersWritten⟩
  refine ⟨own, others, whole, fun name member => covered name (ownWritten name member), ?_⟩
  intro carried member name inCarried
  exact covered name (othersWritten carried member name inCarried)

/-- The tag stands in the first list, once, and in no other. -/
def OnlyFirst (name : Text) (lists : List (List Text)) : Prop :=
  ∃ first others, lists = first :: others ∧ first.count name = 1 ∧
    ∀ carried ∈ others, name ∉ carried

theorem OpenedBy.onlyFirst {names : List Text} {text name : Text} {lists : List (List Text)}
    (opened : OpenedBy names text lists) (distinct : names.Nodup) (member : name ∈ names)
    (unwritten : ¬Writes text name) : OnlyFirst name lists := by
  rcases opened with ⟨own, others, rfl, ownWritten, othersWritten⟩
  refine ⟨names ++ own, others, rfl, ?_, ?_⟩
  · have notOwn : own.count name = 0 :=
      List.count_eq_zero.mpr fun inOwn => unwritten (ownWritten name inOwn)
    rw [List.count_append, notOwn, distinct.count, if_pos member]
  · intro carried inOthers inCarried
    exact unwritten (othersWritten carried inOthers name inCarried)

/-- The tags of the lines stand first, and below them the text writes all tags that are left. -/
theorem ReadsTags.openedBy [Parser] (laws : ReadsTags) {title indent rest : Text}
    {names : List Text} {document : Feature} (isTitle : IsTitle title) (unmarked : '@' ∉ title)
    (blank : ∀ character ∈ indent, isBlank character = true) (tagged : names ≠ [])
    (areNames : ∀ name ∈ names, IsTagName name)
    (reads : Parser.parse (wrapped title indent names rest) = .ok document) :
    OpenedBy names rest document.tagLists := by
  rcases laws.tagLines isTitle blank tagged areNames reads with ⟨own, others, whole⟩
  have written := laws.inOrder reads
  rw [whole, List.flatten_cons, List.append_assoc] at written
  have header : '@' ∉ ("Feature: " : Text) ++ title ++ ['\n', '\n'] :=
    List.not_mem_append (List.not_mem_append (by decide) unmarked) (by decide)
  have left : WritesAll rest (own ++ others.flatten) :=
    (WritesInOrder.of_tagLines blank areNames (written.of_append header)).writesAll
  refine ⟨own, others, whole, fun name member => left name (List.mem_append_left _ member), ?_⟩
  intro carried inOthers name member
  exact left name (List.mem_append_right own (List.mem_flatten_of_mem inOthers member))

end Scenarist.Gherkin
