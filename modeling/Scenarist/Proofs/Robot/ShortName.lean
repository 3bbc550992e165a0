import Scenarist.Proofs.Pattern.Ends
import Scenarist.Robot.ShortName

/-! # The default short name

The default pattern has only one way to match a URI: up to its last slash or
backslash it takes the directories, behind it the short name, and the extension
at the end. -/

namespace Scenarist.Robot

open Text Pattern

def isSeparator (character : Char) : Bool :=
  character = '/' || character = '\\'

theorem contains_separator (character : Char) :
    separator.contains character = isSeparator character := by
  rw [Bool.eq_iff_iff]
  simp [isSeparator, separator, CharSet.contains, CharSet.contains_single]

/-- What stands before the last component: nothing, or a text on one line that ends with a
separator. -/
structure IsDirectory (text : Text) : Prop where
  onOneLine : '\n' ∉ text
  closed : ∀ last ∈ text.getLast?, isSeparator last = true

instance (text : Text) : Decidable (IsDirectory text) :=
  decidable_of_iff ('\n' ∉ text ∧ text.getLast?.toList.all isSeparator = true)
    ⟨fun both => ⟨both.1, fun last isLast =>
      List.all_eq_true.mp both.2 last (Option.mem_toList.mpr isLast)⟩,
    fun isDirectory => ⟨isDirectory.onOneLine, List.all_eq_true.mpr fun last isLast =>
      isDirectory.closed last (Option.mem_toList.mp isLast)⟩⟩

structure IsShortName (text : Text) : Prop where
  spoken : text ≠ []
  whole : ∀ character ∈ text, isSeparator character = false

instance (text : Text) : Decidable (IsShortName text) :=
  decidable_of_iff (text ≠ [] ∧ text.any isSeparator = false)
    ⟨fun both => ⟨both.1, by simpa using both.2⟩,
      fun isShort => ⟨isShort.spoken, by simpa using isShort.whole⟩⟩

theorem isDirectory_concat_iff {path : Text} {mark : Char} :
    IsDirectory (path ++ [mark]) ↔ '\n' ∉ path ∧ isSeparator mark = true := by
  constructor
  · intro isDirectory
    exact ⟨fun feed => isDirectory.onOneLine (List.mem_append_left _ feed),
      isDirectory.closed mark (by simp)⟩
  · rintro ⟨onOneLine, isMark⟩
    constructor
    · intro feed
      rcases List.mem_append.mp feed with inPath | isFeed
      · exact onOneLine inPath
      · rw [← List.mem_singleton.mp isFeed] at isMark
        exact absurd isMark (by decide)
    · intro last isLast
      rw [List.getLast?_concat, Option.mem_some_iff] at isLast
      exact isLast ▸ isMark

/-! ## One way to cut a URI -/

theorem IsShortName.eq_nil_of_append {directory piece short : Text} (isShort : IsShortName short)
    (isDirectory : IsDirectory (directory ++ piece)) (begins : piece <+: short) : piece = [] := by
  rcases List.eq_nil_or_concat piece with empty | ⟨before, last, ended⟩
  · exact empty
  · rw [List.concat_eq_append] at ended
    subst ended
    rw [← List.append_assoc, isDirectory_concat_iff] at isDirectory
    have inShort := begins.subset (List.mem_append_right before (List.mem_singleton_self last))
    rw [isShort.whole last inShort] at isDirectory
    cases isDirectory.2

theorem IsShortName.append_inj {first second short other : Text} (isShort : IsShortName short)
    (otherIsShort : IsShortName other) (isDirectory : IsDirectory first)
    (otherIsDirectory : IsDirectory second) (same : first ++ short = second ++ other) :
    first = second ∧ short = other := by
  rcases List.append_eq_append_iff.mp same with ⟨piece, rfl, rfl⟩ | ⟨piece, rfl, rfl⟩
  · have empty := isShort.eq_nil_of_append otherIsDirectory (List.prefix_append piece other)
    simp [empty]
  · have empty := otherIsShort.eq_nil_of_append isDirectory (List.prefix_append piece short)
    simp [empty]

/-! ## The parts of the default pattern -/

def extension : Text := ".feature"

theorem all_any_iff (path : Text) :
    (∀ character ∈ path, CharSet.any.contains character = true) ↔ '\n' ∉ path := by
  have isAny : ∀ character, CharSet.any.contains character = true ↔ character ≠ '\n' := by
    intro character
    rw [CharSet.any, CharSet.contains, Bool.not_eq_true', ← Bool.not_eq_true,
      CharSet.contains_single]
  simp only [isAny]
  exact ⟨fun others feed => others '\n' feed rfl, fun absent _ member feed => absent (feed ▸ member)⟩

theorem takes_directory : Takes (Node.repetition directoryPart 0 (some 1) true).ends
    fun taken _ captured => IsDirectory taken ∧ captured = [] := by
  have inRow := Node.takes_ends_seq (Node.takes_ends_run .any true) (Node.takes_ends_atom separator)
  refine (Node.takes_ends_optional true inRow).congr fun taken left captured => ?_
  constructor
  · rintro (⟨path, -, -, -, rfl, rfl, ⟨onOneLine, rfl⟩, ⟨mark, isMark, rfl⟩, rfl⟩ | ⟨rfl, rfl⟩)
    · rw [contains_separator] at isMark
      exact ⟨isDirectory_concat_iff.mpr ⟨(all_any_iff path).mp onOneLine, isMark⟩, rfl⟩
    · exact ⟨⟨by simp, by simp⟩, rfl⟩
  · rintro ⟨isDirectory, rfl⟩
    rcases List.eq_nil_or_concat taken with rfl | ⟨path, mark, ended⟩
    · exact .inr ⟨rfl, rfl⟩
    · rw [List.concat_eq_append] at ended
      subst ended
      rcases isDirectory_concat_iff.mp isDirectory with ⟨onOneLine, isMark⟩
      rw [← contains_separator] at isMark
      exact .inl ⟨path, [mark], [], [], rfl, rfl, ⟨(all_any_iff path).mpr onOneLine, rfl⟩,
        ⟨mark, isMark, rfl⟩, rfl⟩

theorem takes_name : Takes (Node.capture 1 namePart).ends
    fun taken _ captured => IsShortName taken ∧ captured = [(1, taken)] := by
  have someRun := Node.takes_ends_someRun (.complement separator) true
  refine (Node.takes_ends_capture 1 someRun).congr fun taken left captured => ?_
  have isOther : ∀ character, (CharSet.complement separator).contains character = true ↔
      isSeparator character = false := by
    intro character
    rw [CharSet.contains, contains_separator, Bool.not_eq_true']
  constructor
  · rintro ⟨-, rfl, spoken, others, rfl⟩
    exact ⟨⟨spoken, fun character member => (isOther character).mp (others character member)⟩, rfl⟩
  · rintro ⟨isShort, rfl⟩
    exact ⟨[], rfl, isShort.spoken,
      fun character member => (isOther character).mpr (isShort.whole character member), rfl⟩

/-- How the default pattern cuts a URI. -/
structure Cuts (uri directory short : Text) : Prop where
  isDirectory : IsDirectory directory
  isShort : IsShortName short
  whole : uri = directory ++ (short ++ extension)

theorem Cuts.unique {uri directory short other otherShort : Text} (cuts : Cuts uri directory short)
    (otherCuts : Cuts uri other otherShort) : directory = other ∧ short = otherShort := by
  have same := cuts.whole.symm.trans otherCuts.whole
  rw [← List.append_assoc, ← List.append_assoc, List.append_cancel_right_eq] at same
  exact cuts.isShort.append_inj otherCuts.isShort cuts.isDirectory otherCuts.isDirectory same

theorem takes_defaultPattern : Takes (Node.seq (.repetition directoryPart 0 (some 1) true)
    (.seq (.capture 1 namePart) extensionPart)).ends fun taken left captured =>
      left = [] ∧ ∃ directory short, Cuts taken directory short ∧ captured = [(1, short)] := by
  have inRow := Node.takes_ends_seq takes_directory
    (Node.takes_ends_seq takes_name (Node.takes_ends_word extension))
  refine inRow.congr fun taken left captured => ?_
  constructor
  · rintro ⟨directory, -, -, -, rfl, rfl, ⟨isDirectory, rfl⟩,
      short, -, -, -, rfl, rfl, ⟨isShort, rfl⟩, ⟨rfl, rfl⟩, rfl⟩
    exact ⟨rfl, directory, short, ⟨isDirectory, isShort, rfl⟩, rfl⟩
  · rintro ⟨rfl, directory, short, ⟨isDirectory, isShort, rfl⟩, rfl⟩
    exact ⟨directory, short ++ extension, [], [(1, short)], rfl, rfl, ⟨isDirectory, rfl⟩,
      short, extension, [(1, short)], [], rfl, rfl, ⟨isShort, rfl⟩, ⟨rfl, rfl⟩, rfl⟩

/-- The first end of a match has captured a short name. -/
theorem cuts_of_search {uri : Text} {state : State}
    (isFirst : defaultNode.search true uri = some state) :
    ∃ directory short, Cuts uri directory short ∧ state.groups.lookup 1 = some short := by
  rw [defaultNode, Node.search_start_seq] at isFirst
  rcases (takes_defaultPattern ⟨true, uri, []⟩).distinct.sound state (List.mem_of_head? isFirst)
    with ⟨taken, captured, whole, groups, finished, directory, short, cuts, rfl⟩
  have allTaken : uri = taken := by simpa [finished] using whole
  exact ⟨directory, short, allTaken ▸ cuts, by simp [groups]⟩

theorem exists_search_of_cuts {uri directory short : Text} (cuts : Cuts uri directory short) :
    ∃ state, defaultNode.search true uri = some state := by
  rcases (takes_defaultPattern ⟨true, uri, []⟩).distinct.complete uri [] _
    (List.append_nil uri).symm ⟨rfl, directory, short, cuts, rfl⟩ with ⟨next, member, -⟩
  rw [defaultNode, Node.search_start_seq]
  exact ⟨_, List.head?_eq_some_head (List.ne_nil_of_mem member)⟩

/-- The short name is what stands between the directories and the extension. -/
theorem shortName_eq_ok_iff (uri short : Text) :
    shortName defaultPattern uri = .ok short ↔ ∃ directory, Cuts uri directory short := by
  have answer : shortName defaultPattern uri = .ok short ↔
      defaultNode.firstGroup uri = some short := by
    rw [shortName, show defaultPattern.firstGroup uri = defaultNode.firstGroup uri from rfl]
    cases defaultNode.firstGroup uri <;> simp
  rw [answer, Node.firstGroup, Option.bind_eq_bind, Option.bind_eq_some_iff]
  constructor
  · rintro ⟨state, isFirst, captured⟩
    rcases cuts_of_search isFirst with ⟨directory, name, cuts, isName⟩
    exact ⟨directory, Option.some.inj (isName.symm.trans captured) ▸ cuts⟩
  · rintro ⟨directory, cuts⟩
    rcases exists_search_of_cuts cuts with ⟨state, isFirst⟩
    rcases cuts_of_search isFirst with ⟨other, name, otherCuts, isName⟩
    exact ⟨state, isFirst, isName.trans (congrArg some (otherCuts.unique cuts).2)⟩

theorem shortName_append {directory short : Text} (isDirectory : IsDirectory directory)
    (isShort : IsShortName short) :
    shortName defaultPattern (directory ++ (short ++ extension)) = .ok short :=
  (shortName_eq_ok_iff _ short).mpr ⟨directory, isDirectory, isShort, rfl⟩

end Scenarist.Robot
