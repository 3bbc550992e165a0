import Scenarist.Text.Line

/-! # Texts as sequences of lines

Cutting a text at its line feeds and writing its lines one after the other are
inverse to each other, as long as no line holds a line feed. Every text is a
sequence of ended lines and one last line without an end, so a change made line
by line can be followed on the lines alone. -/

namespace Scenarist.Text

theorem split_of_not_mem {separator : Char} {piece : Text} (absent : separator ∉ piece) :
    split separator piece = [piece] := by
  induction piece with
  | nil => rfl
  | cons head rest induction =>
      rcases List.ne_and_not_mem_of_not_mem_cons absent with ⟨different, restAbsent⟩
      simp [split, Ne.symm different, induction restAbsent]

theorem split_append_cons {separator : Char} {piece : Text} (absent : separator ∉ piece)
    (rest : Text) :
    split separator (piece ++ separator :: rest) = piece :: split separator rest := by
  induction piece with
  | nil => simp [split]
  | cons head piece induction =>
      rcases List.ne_and_not_mem_of_not_mem_cons absent with ⟨different, pieceAbsent⟩
      simp [split, Ne.symm different, induction pieceAbsent]

/-- Cutting two texts with a separator between them cuts each on its own. -/
theorem split_append (separator : Char) (first second : Text) :
    split separator (first ++ separator :: second) =
      split separator first ++ split separator second := by
  induction first with
  | nil => simp [split]
  | cons head rest induction =>
      rw [List.cons_append, split, split, induction]
      split
      · rfl
      · cases pieces : split separator rest with
        | nil => exact absurd pieces (split_ne_nil separator rest)
        | cons piece others => rfl

theorem not_mem_of_mem_split {separator : Char} {text piece : Text}
    (member : piece ∈ split separator text) : separator ∉ piece := by
  induction text generalizing piece with
  | nil =>
      rw [split, List.mem_singleton] at member
      simp [member]
  | cons head rest induction =>
      rw [split] at member
      split at member
      · rcases List.mem_cons.mp member with equal | member
        · simp [equal]
        · exact induction member
      · next different =>
          cases pieces : split separator rest with
          | nil => exact absurd pieces (split_ne_nil separator rest)
          | cons first others =>
              rw [pieces] at member induction
              rcases List.mem_cons.mp member with equal | member
              · have firstAbsent := induction List.mem_cons_self
                simp [equal, Ne.symm different, firstAbsent]
              · exact induction (List.mem_cons_of_mem first member)

theorem join_cons_cons (separator first second : Text) (others : List Text) :
    join separator (first :: second :: others) =
      first ++ (separator ++ join separator (second :: others)) := by
  simp [join, List.intercalate]

theorem split_join {separator : Char} {pieces : List Text} (nonempty : pieces ≠ [])
    (absent : ∀ piece ∈ pieces, separator ∉ piece) :
    split separator (join [separator] pieces) = pieces := by
  induction pieces with
  | nil => exact absurd rfl nonempty
  | cons piece others induction =>
      have pieceAbsent := absent piece List.mem_cons_self
      cases others with
      | nil => simpa [join] using split_of_not_mem pieceAbsent
      | cons next others =>
          rw [join_cons_cons, List.singleton_append, split_append_cons pieceAbsent,
            induction (by simp)]
          exact fun other member => absent other (List.mem_cons_of_mem piece member)

/-! ## The last piece -/

/-- Two ways to cut one text at a separator: the same, or one of them earlier. -/
theorem append_separator_eq_iff {separator : Char} {first second last other : Text} :
    first ++ separator :: last = second ++ separator :: other ↔
      first = second ∧ last = other ∨
        (∃ piece, second = first ++ separator :: piece ∧ last = piece ++ separator :: other) ∨
          ∃ piece, first = second ++ separator :: piece ∧ other = piece ++ separator :: last := by
  constructor
  · intro same
    rcases List.append_eq_append_iff.mp same with
      ⟨overlap, covered, left⟩ | ⟨overlap, covered, left⟩
    · cases overlap with
      | nil => exact .inl ⟨by simpa using covered.symm, (List.cons.inj left).2⟩
      | cons head piece =>
          rcases List.cons.inj left with ⟨rfl, rest⟩
          exact .inr (.inl ⟨piece, covered, rest⟩)
    · cases overlap with
      | nil => exact .inl ⟨by simpa using covered, (List.cons.inj left).2.symm⟩
      | cons head piece =>
          rcases List.cons.inj left with ⟨rfl, rest⟩
          exact .inr (.inr ⟨piece, covered, rest⟩)
  · rintro (⟨rfl, rfl⟩ | ⟨piece, rfl, rfl⟩ | ⟨piece, rfl, rfl⟩)
    · rfl
    · simp
    · simp

theorem append_separator_inj {separator : Char} {first second last other : Text}
    (absent : separator ∉ last) (otherAbsent : separator ∉ other) :
    first ++ separator :: last = second ++ separator :: other ↔ first = second ∧ last = other := by
  rw [append_separator_eq_iff, or_iff_left]
  rintro (⟨piece, -, rfl⟩ | ⟨piece, -, rfl⟩)
  · exact absent (by simp)
  · exact otherAbsent (by simp)

/-- A text is cut at the last of its separators. -/
theorem exists_append_separator {separator : Char} {text : Text} (member : separator ∈ text) :
    ∃ before last, text = before ++ separator :: last ∧ separator ∉ last := by
  rcases List.eq_append_cons_of_mem (List.mem_reverse.mpr member) with
    ⟨last, before, reversed, absent⟩
  refine ⟨before.reverse, last.reverse, ?_, by simpa using absent⟩
  simpa using congrArg List.reverse reversed

/-! ## Ended lines -/

/-- Writes lines one after the other, each with the line feed that ends it. -/
def unlines (content : List Text) : Text :=
  content.flatMap fun line => line ++ ['\n']

/-- No line of the list holds a line feed. -/
def AreLines (content : List Text) : Prop :=
  ∀ line ∈ content, '\n' ∉ line

@[simp] theorem unlines_nil : unlines [] = [] := rfl

@[simp] theorem unlines_cons (line : Text) (content : List Text) :
    unlines (line :: content) = line ++ '\n' :: unlines content := by
  simp [unlines]

@[simp] theorem unlines_append (first second : List Text) :
    unlines (first ++ second) = unlines first ++ unlines second := by
  simp [unlines]

theorem getLast?_append_of_ended {before text : Text} (ended : text.getLast? = some '\n') :
    (before ++ text).getLast? = some '\n' := by
  rw [List.getLast?_append, ended]
  rfl

theorem getLast?_unlines {content : List Text} (nonempty : content ≠ []) :
    (unlines content).getLast? = some '\n' := by
  rw [← List.dropLast_concat_getLast nonempty, unlines_append]
  simp

theorem split_unlines_append {content : List Text} (areLines : AreLines content)
    (last : Text) :
    split '\n' (unlines content ++ last) = content ++ split '\n' last := by
  induction content with
  | nil => rfl
  | cons line content induction =>
      rw [unlines_cons, List.append_assoc, List.cons_append,
        split_append_cons (areLines line List.mem_cons_self),
        induction fun other member => areLines other (List.mem_cons_of_mem line member)]
      rfl

theorem split_unlines {content : List Text} (areLines : AreLines content) :
    split '\n' (unlines content) = content ++ [[]] := by
  simpa [split] using split_unlines_append areLines []

/-- Cutting a text at its line feeds finds its ended lines and what follows them. -/
theorem exists_unlines_append (text : Text) : ∃ content last,
    AreLines content ∧ '\n' ∉ last ∧ text = unlines content ++ last ∧
      split '\n' text = content ++ [last] := by
  induction text with
  | nil => exact ⟨[], [], by simp [AreLines], by simp, rfl, rfl⟩
  | cons head rest induction =>
      rcases induction with ⟨content, last, areLines, lastLine, whole, pieces⟩
      by_cases feed : head = '\n'
      · refine ⟨[] :: content, last, ?_, lastLine, ?_, ?_⟩
        · intro line member
          rcases List.mem_cons.mp member with equal | member
          · simp [equal]
          · exact areLines line member
        · simp [feed, whole]
        · simp [split, feed, pieces]
      · cases content with
        | nil =>
            refine ⟨[], head :: last, areLines, ?_, ?_, ?_⟩
            · simp [Ne.symm feed, lastLine]
            · simp [whole]
            · simp [split, feed, pieces]
        | cons line content =>
            refine ⟨(head :: line) :: content, last, ?_, lastLine, ?_, ?_⟩
            · intro other member
              rcases List.mem_cons.mp member with equal | member
              · have lineFeedless := areLines line List.mem_cons_self
                simp [equal, Ne.symm feed, lineFeedless]
              · exact areLines other (List.mem_cons_of_mem line member)
            · simp [whole]
            · simp [split, feed, pieces]

/-! ## Texts whose last line is ended -/

/-- Nothing follows the last line feed of the text. -/
def IsEnded (text : Text) : Prop :=
  text = [] ∨ text.getLast? = some '\n'

instance (text : Text) : Decidable (IsEnded text) :=
  inferInstanceAs (Decidable (text = [] ∨ text.getLast? = some '\n'))

theorem isEnded_unlines (content : List Text) : IsEnded (unlines content) := by
  by_cases empty : content = []
  · exact .inl (by simp [empty])
  · exact .inr (getLast?_unlines empty)

theorem IsEnded.of_append {first second : Text} (ended : IsEnded (first ++ second)) :
    IsEnded second := by
  rcases List.eq_nil_or_concat second with empty | ⟨before, last, rfl⟩
  · exact .inl empty
  · rcases ended with empty | ended
    · simp at empty
    · exact .inr (by simpa [← List.append_assoc] using ended)

theorem IsEnded.exists_unlines {text : Text} (ended : IsEnded text) :
    ∃ content, AreLines content ∧ text = unlines content := by
  rcases exists_unlines_append text with ⟨content, last, areLines, lastLine, whole, -⟩
  have lastEmpty : last = [] := by
    rcases IsEnded.of_append (whole ▸ ended) with empty | feed
    · exact empty
    · exact absurd (List.mem_of_getLast? feed) lastLine
  exact ⟨content, areLines, by simpa [lastEmpty] using whole⟩

/-! ## Changes made line by line -/

theorem split_mapLines {change : Text → Text} (keeps : ∀ line, '\n' ∉ line → '\n' ∉ change line)
    (text : Text) : split '\n' (mapLines change text) = (split '\n' text).map change := by
  apply split_join
  · simpa using split_ne_nil '\n' text
  · intro piece member
    rcases List.mem_map.mp member with ⟨line, lineMember, rfl⟩
    exact keeps line (not_mem_of_mem_split lineMember)

theorem mapLines_mapLines {change : Text → Text}
    (keeps : ∀ line, '\n' ∉ line → '\n' ∉ change line) (next : Text → Text) (text : Text) :
    mapLines next (mapLines change text) = mapLines (fun line => next (change line)) text := by
  rw [mapLines, split_mapLines keeps, List.map_map]
  rfl

/-- A change of single characters is made line by line if it leaves the line feeds alone
and makes no new ones. -/
theorem flatMap_eq_mapLines {change : Char → Text} (feed : change '\n' = ['\n'])
    (text : Text) : text.flatMap change = mapLines (fun line => line.flatMap change) text := by
  rcases exists_unlines_append text with ⟨content, last, -, -, whole, pieces⟩
  rw [mapLines, pieces, whole]
  clear whole pieces
  induction content with
  | nil => simp [join]
  | cons line content induction =>
      rw [unlines_cons, List.append_assoc, List.flatMap_append, List.cons_append,
        List.flatMap_cons, feed, induction]
      cases content <;> simp [join, List.intercalate]

/-! ## Lines that are joined -/

theorem join_concat (content : List Text) (last : Text) :
    join ['\n'] (content ++ [last]) = unlines content ++ last := by
  induction content with
  | nil => simp [join]
  | cons line content induction =>
      cases content with
      | nil => simp [join, List.intercalate]
      | cons next content =>
          rw [List.cons_append, List.cons_append, join_cons_cons, ← List.cons_append, induction]
          simp

theorem join_concat_nil (content : List Text) :
    join ['\n'] (content ++ [[]]) = unlines content := by
  rw [join_concat, List.append_nil]

/-! ## Joining in two steps -/

theorem join_append (separator : Text) {first second : List Text} (firstSome : first ≠ [])
    (secondSome : second ≠ []) :
    join separator (first ++ second) =
      join separator first ++ (separator ++ join separator second) := by
  induction first with
  | nil => exact absurd rfl firstSome
  | cons piece others induction =>
      cases others with
      | nil =>
          rcases List.exists_cons_of_ne_nil secondSome with ⟨next, rest, rfl⟩
          rw [List.singleton_append, join_cons_cons]
          simp [join]
      | cons next rest =>
          rw [List.cons_append, List.cons_append, join_cons_cons, join_cons_cons,
            ← List.cons_append, induction (List.cons_ne_nil next rest)]
          simp only [List.append_assoc]

/-- Groups that are joined one by one and then together read like one group. -/
theorem join_map_join (separator : Text) {groups : List (List Text)}
    (inhabited : ∀ group ∈ groups, group ≠ []) :
    join separator (groups.map (join separator)) = join separator groups.flatten := by
  induction groups with
  | nil => rfl
  | cons group groups induction =>
      rcases List.forall_mem_cons.mp inhabited with ⟨groupSome, othersSome⟩
      cases groups with
      | nil => simp [join]
      | cons next rest =>
          have restSome : (next :: rest).flatten ≠ [] := by
            simp [othersSome next List.mem_cons_self]
          rw [List.map_cons, List.map_cons, join_cons_cons, ← List.map_cons,
            induction othersSome, ← join_append separator groupSome restSome]
          rfl

/-- Blocks of lines with one empty line between them. -/
def parted (blocks : List (List Text)) : List Text :=
  [([] : Text)].intercalate blocks

theorem join_map_unlines (blocks : List (List Text)) :
    join ['\n'] (blocks.map unlines) = unlines (parted blocks) := by
  induction blocks with
  | nil => rfl
  | cons block blocks induction =>
      cases blocks with
      | nil => simp [join, parted]
      | cons next rest =>
          rw [List.map_cons, List.map_cons, join_cons_cons, ← List.map_cons, induction, parted,
            parted, List.intercalate_cons_cons, unlines_append, unlines_append]
          simp

theorem mapLines_append (change : Text → Text) (first second : Text) :
    mapLines change (first ++ '\n' :: second) =
      mapLines change first ++ '\n' :: mapLines change second := by
  rw [mapLines, split_append, List.map_append, join_append]
  · rfl
  · simp [split_ne_nil]
  · simp [split_ne_nil]

/-! ## Pieces within a line -/

/-- A piece on one line does not reach across a line feed. -/
theorem infix_append_lineFeed {piece first second : Text} (lineFeedless : '\n' ∉ piece)
    (within : piece <:+: first ++ '\n' :: second) :
    piece <:+: first ∨ piece <:+: second := by
  rcases within with ⟨before, after, whole⟩
  rcases List.append_eq_append_iff.mp whole with ⟨behind, rfl, -⟩ | ⟨overlap, covered, left⟩
  · exact .inl ⟨before, behind, rfl⟩
  · cases overlap with
    | nil => exact .inl ⟨before, [], by simpa using covered⟩
    | cons feed overlap =>
        rcases List.cons.inj left with ⟨rfl, rfl⟩
        rcases List.append_eq_append_iff.mp covered with ⟨reach, -, piece⟩ | ⟨reach, -, pieces⟩
        · exact absurd (piece ▸ by simp) lineFeedless
        · cases reach with
          | nil =>
              rw [List.nil_append] at pieces
              exact absurd (pieces ▸ List.mem_cons_self) lineFeedless
          | cons other reach =>
              rcases List.cons.inj pieces with ⟨-, rfl⟩
              exact .inr ⟨reach, after, rfl⟩

theorem exists_infix_of_join {piece : Text} (spoken : piece ≠ []) (lineFeedless : '\n' ∉ piece)
    {pieces : List Text} (within : piece <:+: join ['\n'] pieces) :
    ∃ line ∈ pieces, piece <:+: line := by
  induction pieces with
  | nil => exact absurd (List.infix_nil.mp within) spoken
  | cons first pieces induction =>
      cases pieces with
      | nil => exact ⟨first, by simp, by simpa [join] using within⟩
      | cons second pieces =>
          rw [join_cons_cons, List.singleton_append] at within
          rcases infix_append_lineFeed lineFeedless within with inFirst | inOthers
          · exact ⟨first, by simp, inFirst⟩
          · rcases induction inOthers with ⟨line, member, inLine⟩
            exact ⟨line, List.mem_cons_of_mem first member, inLine⟩

theorem infix_join_of_mem {separator piece : Text} {pieces : List Text}
    (member : piece ∈ pieces) : piece <:+: join separator pieces := by
  induction pieces with
  | nil => cases member
  | cons first pieces induction =>
      cases pieces with
      | nil =>
          rw [List.mem_singleton.mp member]
          exact ⟨[], [], by simp [join]⟩
      | cons second pieces =>
          rw [join_cons_cons]
          rcases List.mem_cons.mp member with rfl | inOthers
          · exact (List.prefix_append ..).isInfix
          · have suffix := (List.suffix_append separator (join separator (second :: pieces))).trans
              (List.suffix_append first _)
            exact (induction inOthers).trans suffix.isInfix

theorem infix_of_mem_split {separator : Char} {text piece : Text}
    (member : piece ∈ split separator text) : piece <:+: text := by
  have joined : piece <:+: join [separator] (split separator text) := infix_join_of_mem member
  rwa [join_split] at joined

/-! ## Counting line feeds -/

theorem lineFeeds_append (first second : Text) :
    lineFeeds (first ++ second) = lineFeeds first + lineFeeds second :=
  List.count_append

theorem lineFeeds_cons (text : Text) : lineFeeds ('\n' :: text) = lineFeeds text + 1 :=
  List.count_cons_self

theorem lineFeeds_eq_zero {text : Text} (lineFeedless : '\n' ∉ text) : lineFeeds text = 0 :=
  List.count_eq_zero.mpr lineFeedless

theorem lineFeeds_unlines {content : List Text} (areLines : AreLines content) :
    lineFeeds (unlines content) = content.length := by
  induction content with
  | nil => rfl
  | cons line content induction =>
      rcases List.forall_mem_cons.mp areLines with ⟨lineFeedless, othersAreLines⟩
      rw [unlines_cons, lineFeeds_append, lineFeeds_cons, lineFeeds_eq_zero lineFeedless,
        induction othersAreLines, Nat.zero_add, List.length_cons]

/-! ## The first line as it is read -/

theorem lines_append_cons {line : Text} (lineFeedless : '\n' ∉ line) (rest : Text) :
    lines (line ++ '\n' :: rest) = dropReturn line :: lines rest := by
  rw [lines, lines, split_append_cons lineFeedless]
  cases pieces : split '\n' rest with
  | nil => exact absurd pieces (split_ne_nil '\n' rest)
  | cons next others => rfl

theorem head?_lines_append_cons {line : Text} (lineFeedless : '\n' ∉ line) (rest : Text) :
    (lines (line ++ '\n' :: rest)).head? = some (dropReturn line) := by
  rw [lines_append_cons lineFeedless]
  rfl

theorem dropReturn_of_not_mem {line : Text} (returnless : '\r' ∉ line) : dropReturn line = line :=
  if_neg fun returned => returnless (List.mem_of_getLast? returned)

theorem lines_unlines {content : List Text} (areLines : AreLines content) :
    lines (unlines content) = content.map dropReturn := by
  induction content with
  | nil => rfl
  | cons line content induction =>
      rcases List.forall_mem_cons.mp areLines with ⟨lineFeedless, othersAreLines⟩
      rw [unlines_cons, lines_append_cons lineFeedless, induction othersAreLines, List.map_cons]

/-- Dropping a carriage return off the end does not reach beyond another character. -/
theorem dropReturn_append_cons {character : Char} (different : character ≠ '\r')
    (before after : Text) : ∃ kept,
    dropReturn (before ++ character :: after) = before ++ character :: kept := by
  unfold dropReturn
  split
  · next returned =>
      cases after with
      | nil => simp [different] at returned
      | cons next after =>
          exact ⟨(next :: after).dropLast, by simp [List.dropLast_append_of_ne_nil]⟩
  · exact ⟨after, rfl⟩

end Scenarist.Text
