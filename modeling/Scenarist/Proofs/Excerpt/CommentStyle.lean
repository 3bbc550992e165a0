import Scenarist.Proofs.Excerpt.Embedding

/-! # The style of a comment

A block may stand behind two slashes on each of its lines or behind a number
sign. Slashes are stripped as often as they come and a number sign only once,
but what is extracted does not depend on which of them was written. -/

namespace Scenarist

open Text Comment

/-! ## Two styles -/

inductive CommentStyle where
  | slashes
  | numberSigns
deriving DecidableEq, Repr

def CommentStyle.token : CommentStyle → Text
  | .slashes => ['/', '/']
  | .numberSigns => ['#']

/-- The lines of a block as they stand behind the tokens of a comment. Each of them is empty or
set off by a blank, and none holds an end marker. -/
structure Remark where
  indent : Text
  content : List Text
  blankIndent : ∀ character ∈ indent, isBlank character = true
  areLines : AreLines content
  setOff : ∀ line ∈ content, ∀ head ∈ line.head?, isBlank head = true
  endless : ∀ line ∈ content, ¬Contains ({} : Markers).finish line

namespace Remark

/-- One line of a comment. -/
def mark (remark : Remark) (style : CommentStyle) (line : Text) : Text :=
  remark.indent ++ (style.token ++ line)

/-- The lines of the comment, with the two markers. -/
def lines (remark : Remark) (style : CommentStyle) : List Text :=
  (remark.mark style (' ' :: ({} : Markers).start) :: remark.content.map (remark.mark style)) ++
    [remark.mark style (' ' :: ({} : Markers).finish)]

/-- A source that begins with the comment. -/
def source (remark : Remark) (style : CommentStyle) (behind : Text) : Text :=
  unlines (remark.lines style) ++ behind

variable (remark : Remark) (style : CommentStyle)

/-! ## The block of a comment -/

/-- What stands before a marker on its line. -/
def lead : Text :=
  remark.mark style [' ']

def pieces (behind : Text) : Pieces :=
  markedPieces [] (remark.lead style) (remark.content.map (remark.mark style)) ('\n' :: behind)

theorem source_eq_pieces (behind : Text) :
    remark.source style behind = (remark.pieces style behind).source := by
  simp [source, lines, pieces, markedPieces, Pieces.source, lead, mark]

theorem bracket_not_mem_mark_nil : '[' ∉ remark.mark style [] := by
  intro member
  rcases List.mem_append.mp member with inIndent | inToken
  · cases remark.blankIndent '[' inIndent
  · cases style <;> simp [CommentStyle.token] at inToken

theorem lead_eq_append : remark.lead style = remark.mark style [] ++ [' '] := by
  simp [lead, mark]

theorem bracket_not_mem_lead : '[' ∉ remark.lead style := by
  rw [lead_eq_append, List.mem_append]
  simp [remark.bracket_not_mem_mark_nil style]

theorem marked_endless :
    ∀ line ∈ remark.content.map (remark.mark style), ¬Contains ({} : Markers).finish line := by
  intro line member contains
  rcases List.mem_map.mp member with ⟨body, bodyMember, rfl⟩
  have parted : remark.mark style body = remark.mark style [] ++ body := by simp [mark]
  rw [parted] at contains
  exact remark.endless body bodyMember (contains.of_neverBegins finish_nonempty
    (neverBegins_of_not_mem rfl (remark.bracket_not_mem_mark_nil style)))

theorem cut_source (behind : Text) :
    cut {} (remark.source style behind) = .closed (remark.pieces style behind) := by
  rw [source_eq_pieces]
  exact cut_markedPieces (by simp) (remark.bracket_not_mem_lead style)
    (remark.marked_endless style) ('\n' :: behind)

theorem trim_lead : trim (remark.lead style) = style.token := by
  have spaces : ∀ character ∈ remark.indent, isSpace character = true :=
    fun character member => isSpace_of_isBlank (remark.blankIndent character member)
  rw [trim, trimStart, lead, mark, List.dropWhile_append_of_pos spaces]
  cases style <;> rfl

/-! ## What cleaning leaves of it -/

theorem lineFeed_not_mem_mark {line : Text} (lineFeedless : '\n' ∉ line) :
    '\n' ∉ remark.mark style line := by
  have indentFeedless : '\n' ∉ remark.indent := fun member =>
    absurd (remark.blankIndent '\n' member) (by decide)
  cases style <;> simp [mark, CommentStyle.token, indentFeedless, lineFeedless]

theorem split_text (behind : Text) : split '\n' (remark.pieces style behind).text =
    (remark.content ++ [[' ']]).map (remark.mark style) := by
  have areLines : AreLines (remark.content.map (remark.mark style)) := by
    intro line member
    rcases List.mem_map.mp member with ⟨body, bodyMember, rfl⟩
    exact remark.lineFeed_not_mem_mark style (remark.areLines body bodyMember)
  have lastLine : '\n' ∉ remark.lead style := remark.lineFeed_not_mem_mark style (by decide)
  rw [pieces, markedPieces, split_unlines_append areLines, split_of_not_mem lastLine,
    List.map_append]
  rfl

theorem setOff_of_mem : ∀ line ∈ remark.content ++ [[' ']],
    ∀ head ∈ line.head?, isBlank head = true := by
  intro line member
  rcases List.mem_append.mp member with inContent | isLast
  · exact remark.setOff line inContent
  · rw [List.mem_singleton.mp isLast]
    simp [isBlank]

/-- A token with a blank behind it is stripped whole. -/
theorem cleanLine_mark_slashes {line : Text} (setOff : ∀ head ∈ line.head?, isBlank head = true) :
    cleanLine (remark.mark .slashes line) = cleanLine line := by
  have undocumented : documentationMark line = line := by
    cases line with
    | nil => rfl
    | cons head rest =>
        have blank := setOff head rfl
        simp only [isBlank, Bool.or_eq_true, decide_eq_true_eq] at blank
        rcases blank with rfl | rfl <;> rfl
  have stripped : afterToken (remark.mark .slashes line) = some (documentationMark line) :=
    afterToken_comment remark.blankIndent line
  rw [undocumented] at stripped
  rw [cleanLine, withoutTokens_of_afterToken stripped, cleanLine]

theorem withoutNumberSign_mark (line : Text) :
    withoutNumberSign (remark.mark .numberSigns line) = line := by
  rw [withoutNumberSign, mark, dropBlanks_append remark.blankIndent, CommentStyle.token,
    List.singleton_append, dropBlanks_of_not_blank rfl]
  simp [strip]

/-- In both styles the lines behind the tokens are cleaned. -/
theorem cleanBlock_pieces (behind : Text) :
    Excerpt.cleanBlock ((remark.pieces style behind).block {}) =
      clean (join ['\n'] (remark.content ++ [[' ']])) := by
  have lead : ((remark.pieces style behind).block {}).lead = style.token := by
    have before :
        (Place.after {} (remark.pieces style behind).before).lead = remark.lead style := by
      have lineFeedless : '\n' ∉ remark.lead style :=
        remark.lineFeed_not_mem_mark style (by decide)
      simp [pieces, markedPieces, Place.after, lineFeedless]
    rw [Pieces.block, before, trim_lead]
  have text : ((remark.pieces style behind).block {}).text =
      (remark.pieces style behind).text := rfl
  rw [Excerpt.cleanBlock, lead, text]
  cases style with
  | slashes =>
      have feedless : ∀ line ∈ remark.content ++ [[' ']], '\n' ∉ line := by
        intro line member
        rcases List.mem_append.mp member with inContent | isLast
        · exact remark.areLines line inContent
        · rw [List.mem_singleton.mp isLast]
          decide
      rw [if_neg (by decide), clean_eq_unlines, clean_eq_unlines, cleanedLines, cleanedLines,
        split_text, split_join (by simp) feedless, List.map_map]
      congr 2
      apply List.map_congr_left
      intro line member
      exact remark.cleanLine_mark_slashes (remark.setOff_of_mem line member)
  | numberSigns =>
      have isSign : CommentStyle.numberSigns.token.head? = some '#' := rfl
      rw [if_pos isSign, stripNumberSigns, mapLines, split_text, List.map_map]
      congr 2
      have stripped : withoutNumberSign ∘ remark.mark .numberSigns = id :=
        funext remark.withoutNumberSign_mark
      rw [stripped, List.map_id]

/-! ## The same extraction in both styles -/

theorem lineFeeds_lines : lineFeeds (unlines (remark.lines style)) = remark.content.length + 2 := by
  have areLines : AreLines (remark.lines style) := by
    intro line member
    rcases List.mem_append.mp member with inComment | isFinish
    · rcases List.mem_cons.mp inComment with rfl | isBody
      · exact remark.lineFeed_not_mem_mark style (by decide)
      · rcases List.mem_map.mp isBody with ⟨body, bodyMember, rfl⟩
        exact remark.lineFeed_not_mem_mark style (remark.areLines body bodyMember)
    · rw [List.mem_singleton.mp isFinish]
      exact remark.lineFeed_not_mem_mark style (by decide)
  rw [lineFeeds_unlines areLines]
  simp [lines]

theorem consumed_append (behind : Text) :
    (remark.pieces style behind).consumed ++ ['\n'] = unlines (remark.lines style) := by
  simp [pieces, markedPieces, Pieces.consumed, lines, lead, mark]

/-- The first occurrence is the block of the comment. The others are those of the text behind. -/
theorem occurrences_source (behind : Text) :
    occurrences {} (remark.source style behind) =
      .block ((remark.pieces style behind).block {}) ::
        (occurrences {} behind).map (Occurrence.below (remark.content.length + 2)) := by
  have passed := find?_append_of_neverBegins start_nonempty
    (neverBegins_of_not_mem rfl (by decide : '[' ∉ ['\n'])) behind
  have resumed := occurrencesFrom_append passed (remark.pieces style behind).consumed
  rw [consumed_append, Place.behind_ended (isEnded_unlines _), lineFeeds_lines,
    occurrencesFrom_below] at resumed
  rw [occurrences, occurrencesFrom_of_closed (remark.cut_source style behind)]
  refine congrArg (List.cons _) (Eq.trans ?_ resumed)
  exact congrArg (occurrencesFrom _ · _) (Place.after_behind [] _)

theorem ofBlock_pieces (file : Text) (index : Nat) (behind : Text) :
    Excerpt.ofBlock file index ((remark.pieces .slashes behind).block {}) =
      Excerpt.ofBlock file index ((remark.pieces .numberSigns behind).block {}) := by
  have sameLine : ∀ style, ((remark.pieces style behind).block {}).line = 1 := by
    intro style
    have lineFeedless : '\n' ∉ remark.lead style :=
      remark.lineFeed_not_mem_mark style (by decide)
    simp [Pieces.block, pieces, markedPieces, Place.after, lineFeeds_eq_zero lineFeedless]
  have sameIdentifier : ((remark.pieces .slashes behind).block {}).identifier =
      ((remark.pieces .numberSigns behind).block {}).identifier := rfl
  rw [Excerpt.ofBlock, Excerpt.ofBlock, cleanBlock_pieces, cleanBlock_pieces, sameLine, sameLine,
    sameIdentifier]

end Remark

/-- A comment yields the same excerpts and skips in either style, whatever text follows it. -/
theorem extract_commentStyle (file : Text) (remark : Remark) (behind : Text) :
    extract {} file (remark.source .slashes behind) =
      extract {} file (remark.source .numberSigns behind) := by
  rw [extract, extract, remark.occurrences_source, remark.occurrences_source, List.mapIdx_cons,
    List.mapIdx_cons]
  congr 2
  exact remark.ofBlock_pieces file 1 behind

/-- The lines of a block that hold further tokens. -/
def nestedContent : List Text :=
  [" Scenario:", "", "\t// # Given a", " //! When b"]

def nestedRemark : Remark where
  indent := "\t "
  content := nestedContent
  blankIndent := List.all_eq_true.mp (by decide)
  areLines := by
    unfold AreLines
    decide
  setOff := by
    have blank : ∀ line ∈ nestedContent, line.head?.all isBlank = true := by decide
    intro line member head first
    have all := blank line member
    rwa [Option.mem_def.mp first] at all
  endless := by
    have bracketless : ∀ line ∈ nestedContent, '[' ∉ line := by decide
    exact fun line member => not_contains_of_not_mem rfl (bracketless line member)

theorem extract_commentStyle_nested :
    let text : Text := "@file:a.py\n@test:test_a\nScenario: a\n# Given a\nWhen b\n"
    extract {} "a.py" (nestedRemark.source .slashes "def test_a():  # [Gherkin]") =
      ⟨[⟨.scenario "test_a", text, "a.py", 1⟩], [⟨"a.py", 7, .unterminated []⟩]⟩ ∧
    extract {} "a.py" (nestedRemark.source .numberSigns "def test_a():  # [Gherkin]") =
      ⟨[⟨.scenario "test_a", text, "a.py", 1⟩], [⟨"a.py", 7, .unterminated []⟩]⟩ := by
  intro text
  have extraction : extract {} "a.py" (nestedRemark.source .slashes "def test_a():  # [Gherkin]") =
      ⟨[⟨.scenario "test_a", text, "a.py", 1⟩], [⟨"a.py", 7, .unterminated []⟩]⟩ := by
    decide +kernel
  exact ⟨extraction, extract_commentStyle "a.py" nestedRemark _ ▸ extraction⟩

end Scenarist
