import Scenarist.Excerpt
import Scenarist.Proofs.Comment.Concatenation
import Scenarist.Proofs.Comment.Declaration
import Scenarist.Proofs.Comment.LineComment
import Scenarist.Proofs.Text.LineSearch

/-! # Embedded texts

A text is embedded in a source by writing it as a line comment between two
markers, right before the function it belongs to. Extraction finds each embedded
text again, and finds nothing else. -/

namespace Scenarist

open Text Comment

/-! Both markers stand on one line. -/

theorem start_nonempty : ({} : Markers).start ≠ [] := by decide

theorem finish_nonempty : ({} : Markers).finish ≠ [] := by decide

theorem lineFeed_not_mem_start : '\n' ∉ ({} : Markers).start := by decide

theorem lineFeed_not_mem_finish : '\n' ∉ ({} : Markers).finish := by decide

/-- A line of a source that opens no block. -/
def IsCode (line : Text) : Prop :=
  '\n' ∉ line ∧ ¬Contains ({} : Markers).start line

instance (line : Text) : Decidable (IsCode line) :=
  inferInstanceAs (Decidable ('\n' ∉ line ∧ ¬Contains ({} : Markers).start line))

/-! ## Blocks behind the mark of a comment -/

/-- A marker with an opening bracket begins nowhere else. -/
theorem neverBegins_of_not_mem {marker text : Text} (bracketed : marker.head? = some '[')
    (absent : '[' ∉ text) : NeverBegins marker text := by
  intro character member first isFirst same
  rw [bracketed, Option.mem_some_iff] at isFirst
  subst isFirst
  have isBracket : character = '[' := eq_of_toLower_eq rfl same
  exact absent (isBracket ▸ member)

theorem not_contains_of_not_mem {marker text : Text} (bracketed : marker.head? = some '[')
    (absent : '[' ∉ text) : ¬Contains marker text := by
  have nonempty : marker ≠ [] := by
    rintro rfl
    cases bracketed
  intro contains
  rw [← List.append_nil text] at contains
  rcases contains.of_neverBegins nonempty (neverBegins_of_not_mem bracketed absent) with
    ⟨position, stands⟩
  have fits := stands.add_length_le
  have positive := List.length_pos_iff.mpr nonempty
  simp only [List.length_nil] at fits
  omega

/-- The pieces of a block behind lines of code. Both markers stand behind the same mark. -/
def markedPieces (quiet : List Text) (lead : Text) (comments : List Text) (after : Text) :
    Pieces where
  before := unlines quiet ++ lead
  startLine := ({} : Markers).start ++ ['\n']
  text := unlines comments ++ lead
  endMarker := ({} : Markers).finish
  after := after

theorem cut_markedPieces {quiet : List Text} {lead : Text} {comments : List Text}
    (isCode : ∀ line ∈ quiet, IsCode line) (unbracketed : '[' ∉ lead)
    (endless : ∀ line ∈ comments, ¬Contains ({} : Markers).finish line) (after : Text) :
    cut {} (markedPieces quiet lead comments after).source =
      .closed (markedPieces quiet lead comments after) := by
  have opening : find? ({} : Markers).start (markedPieces quiet lead comments after).source =
      some ⟨unlines quiet ++ lead, ({} : Markers).start, '\n' :: (unlines comments ++
        (lead ++ (({} : Markers).finish ++ after)))⟩ := by
    simp only [Pieces.source, markedPieces, List.append_assoc]
    rw [find?_unlines_append lineFeed_not_mem_start fun line member => (isCode line member).2,
      find?_append_of_neverBegins start_nonempty (neverBegins_of_not_mem rfl unbracketed),
      find?_self_append rfl]
    simp [Found.behind]
  have closing : find? ({} : Markers).finish (unlines comments ++
      (lead ++ (({} : Markers).finish ++ after))) =
        some ⟨unlines comments ++ lead, ({} : Markers).finish, after⟩ := by
    rw [find?_unlines_append lineFeed_not_mem_finish endless,
      find?_append_of_neverBegins finish_nonempty (neverBegins_of_not_mem rfl unbracketed),
      find?_self_append rfl]
    simp [Found.behind]
  exact cut_eq_closed opening rfl lineFeed_not_mem_start closing

/-- A text to embed, with the lines of code before it and the function behind it. The text
may hold anything but the end marker. -/
structure Embedding where
  code : List Text
  indent : Text
  body : Text
  function : FunctionLine
  isCode : ∀ line ∈ code, IsCode line
  blankIndent : ∀ character ∈ indent, isBlank character = true
  nonempty : body ≠ []
  normal : Normal body
  endless : ¬Contains ({} : Markers).finish body
  isQuiet : ¬Contains ({} : Markers).start function.text

namespace Embedding

def bodyLines (block : Embedding) : List Text :=
  (split '\n' block.body).dropLast

def comments (block : Embedding) : List Text :=
  block.bodyLines.map (commentLine block.indent)

/-- The lines that an embedded text takes up in a source. -/
def lines (block : Embedding) : List Text :=
  block.code ++ (commentLine block.indent ({} : Markers).start ::
    (block.comments ++ [commentLine block.indent ({} : Markers).finish, block.function.text]))

/-- What is lifted out of a source for an embedded text. -/
def excerpt (block : Embedding) (file : Text) (index : Nat) : Excerpt :=
  if Provenance.isFeature block.body then
    ⟨.feature (some block.function.name), block.body, file, index⟩
  else
    ⟨.scenario block.function.name,
      Provenance.tag block.body file block.function.name, file, index⟩

/-! ## The comment of an embedded text -/

/-- What stands before a marker on its line. -/
def lead (block : Embedding) : Text :=
  commentLine block.indent []

theorem body_eq_unlines (block : Embedding) : AreLines block.bodyLines ∧
    (∀ line ∈ block.bodyLines, NormalLine line) ∧ block.body = unlines block.bodyLines := by
  rcases block.normal.exists_unlines with ⟨content, areLines, normalLines, whole⟩
  have same : block.bodyLines = content := by
    rw [bodyLines, whole, split_unlines areLines, List.dropLast_concat]
  rw [same]
  exact ⟨areLines, normalLines, whole⟩

theorem bracket_not_mem_mark {mark : Text}
    (marks : ∀ character ∈ mark, isBlank character = true ∨ character = '/') : '[' ∉ mark := by
  intro member
  rcases marks '[' member with blank | isSlash
  · cases blank
  · exact absurd isSlash (by decide)

theorem bracket_not_mem_lead (block : Embedding) : '[' ∉ block.lead := by
  rcases commentLine_eq_append block.blankIndent [] with ⟨mark, whole, marks⟩
  rw [lead, whole, List.append_nil]
  exact bracket_not_mem_mark marks

/-- Writing a line as a comment does not make an end marker. -/
theorem comments_endless (block : Embedding) :
    ∀ line ∈ block.comments, ¬Contains ({} : Markers).finish line := by
  intro line member contains
  rcases List.mem_map.mp member with ⟨source, sourceMember, rfl⟩
  rcases commentLine_eq_append block.blankIndent source with ⟨mark, whole, marks⟩
  rw [whole] at contains
  have inSource := contains.of_neverBegins finish_nonempty
    (neverBegins_of_not_mem rfl (bracket_not_mem_mark marks))
  apply block.endless
  rw [block.body_eq_unlines.2.2]
  exact inSource.unlines sourceMember

/-! ## The block of an embedded text -/

/-- The pieces of an embedded text behind lines of code. -/
def pieces (block : Embedding) (quiet : List Text) (after : Text) : Pieces where
  before := unlines quiet ++ block.lead
  startLine := ({} : Markers).start ++ ['\n']
  text := unlines block.comments ++ block.lead
  endMarker := ({} : Markers).finish
  after := after

theorem cut_eq_pieces (block : Embedding) {quiet : List Text}
    (isCode : ∀ line ∈ quiet, IsCode line) (after : Text) :
    cut {} (block.pieces quiet after).source = .closed (block.pieces quiet after) :=
  cut_markedPieces isCode block.bracket_not_mem_lead block.comments_endless after

theorem lead_after (block : Embedding) {quiet : List Text} {place : Place}
    (atLineStart : quiet = [] → place.lead = []) :
    (place.after (unlines quiet ++ block.lead)).lead = block.lead := by
  have lineFeedless : '\n' ∉ block.lead :=
    lineFeed_not_mem_commentLine block.blankIndent (by simp)
  cases quiet with
  | nil => simp [Place.after, lineFeedless, atLineStart rfl]
  | cons line quiet =>
      have feed : (unlines (line :: quiet) ++ block.lead).contains '\n' = true := by simp
      rw [Place.after, if_pos feed, lastLine_append, if_neg lineFeedless, lastLine_unlines]
      rfl

theorem trim_lead (block : Embedding) : trim block.lead = ['/', '/'] := by
  have spaces : ∀ character ∈ block.indent, isSpace character = true :=
    fun character member => isSpace_of_isBlank (block.blankIndent character member)
  rw [trim, trimStart, lead, commentLine, List.dropWhile_append_of_pos spaces]
  rfl

theorem cleanBlock_pieces (block : Embedding) {quiet : List Text} {place : Place}
    (atLineStart : quiet = [] → place.lead = []) (after : Text) :
    Excerpt.cleanBlock ((block.pieces quiet after).block place) = block.body := by
  rcases block.body_eq_unlines with ⟨areLines, normalLines, whole⟩
  have lead : ((block.pieces quiet after).block place).lead = ['/', '/'] := by
    rw [Pieces.block, pieces, block.lead_after atLineStart, block.trim_lead]
  rw [Excerpt.cleanBlock, lead, if_neg (by decide), whole]
  exact clean_commentLines areLines normalLines block.blankIndent

/-- The block in which an embedded text is found makes its excerpt, whatever else stands on
the function's line and behind it. -/
theorem ofBlock_pieces (block : Embedding) {quiet : List Text} {place : Place}
    (atLineStart : quiet = [] → place.lead = []) {behind : Text}
    (declares : declaredName behind = some block.function.name) (file : Text) (index : Nat) :
    Excerpt.ofBlock file index ((block.pieces quiet ('\n' :: behind)).block place) =
      .ok (block.excerpt file index) := by
  have cleaned := block.cleanBlock_pieces atLineStart ('\n' :: behind)
  have identifier : ((block.pieces quiet ('\n' :: behind)).block place).identifier =
      some block.function.name := declares
  have spoken : block.body.isEmpty = false := by simpa using block.nonempty
  rw [Excerpt.ofBlock, cleaned, spoken, identifier]
  by_cases isFeature : Provenance.isFeature block.body = true
  · simp [excerpt, isFeature]
  · simp [excerpt, isFeature]

theorem commentLine_marker (block : Embedding) {marker : Text}
    (bracketed : marker.head? = some '[') :
    commentLine block.indent marker = block.lead ++ marker := by
  simp [lead, commentLine, setOff, bracketed]

/-- The comment of an embedded text with the lines before it and the text behind it. -/
theorem unlines_comment (block : Embedding) (quiet : List Text) (behind : Text) :
    unlines quiet ++ (unlines (commentLine block.indent ({} : Markers).start ::
      (block.comments ++ [commentLine block.indent ({} : Markers).finish])) ++ behind) =
        (block.pieces quiet ('\n' :: behind)).source := by
  rw [block.commentLine_marker rfl, block.commentLine_marker rfl]
  simp [pieces, Pieces.source]

/-- The lines of an embedded text are its pieces, behind the lines before it. -/
theorem unlines_lines (block : Embedding) (quiet : List Text) (rest : Text) :
    unlines quiet ++ (unlines block.lines ++ rest) =
      (block.pieces (quiet ++ block.code)
        ('\n' :: (block.function.text ++ '\n' :: rest))).source := by
  rw [← unlines_comment, lines]
  simp

end Embedding

/-! ## Extraction -/

/-- The outcomes behind lines of code that have already been read. The number of the next
block is arbitrary. -/
theorem outcomes_embed (file trailing : Text)
    (isQuiet : ¬Contains ({} : Markers).start trailing) (blocks : List Embedding)
    (quiet : List Text) (isCode : ∀ line ∈ quiet, IsCode line) (place : Place)
    (atLineStart : quiet = [] → place.lead = []) (number : Nat) :
    (occurrencesFrom {} place
      (unlines quiet ++ (unlines (blocks.flatMap Embedding.lines) ++ trailing))).mapIdx
        (fun position occurrence => Excerpt.ofOccurrence file (position + number) occurrence) =
      blocks.mapIdx fun position block => .ok (block.excerpt file (position + number)) := by
  induction blocks generalizing quiet place number with
  | nil =>
      have missed : find? ({} : Markers).start (unlines quiet ++ trailing) = none := by
        rw [find?_unlines_append lineFeed_not_mem_start fun line member => (isCode line member).2,
          (find?_eq_none_iff ..).mpr isQuiet]
        rfl
      have isNothing : cut {} (unlines quiet ++ trailing) = .nothing := by
        rw [cut, missed]
      rw [List.flatMap_nil, unlines_nil, List.nil_append, occurrencesFrom_of_nothing isNothing]
      rfl
  | cons block blocks induction =>
      have allCode : ∀ line ∈ quiet ++ block.code, IsCode line := by
        intro line member
        rcases List.mem_append.mp member with inQuiet | inCode
        · exact isCode line inQuiet
        · exact block.isCode line inCode
      have starts : quiet ++ block.code = [] → place.lead = [] :=
        fun empty => atLineStart (List.append_eq_nil_iff.mp empty).1
      -- The rest of the end marker's line is empty, and the function's line is read as code.
      have behind : ∀ line ∈ [[], block.function.text], IsCode line := by
        intro line member
        rcases List.mem_cons.mp member with rfl | member
        · exact ⟨by simp, (find?_eq_none_iff ..).mp (by decide)⟩
        · rw [List.mem_singleton.mp member]
          exact ⟨block.function.lineFeed_not_mem_text, block.isQuiet⟩
      have renumbered : ∀ position, position + 1 + number = position + (number + 1) := by omega
      have afterwards : ∀ rest, '\n' :: (block.function.text ++ '\n' :: rest) =
          unlines [[], block.function.text] ++ rest := by simp
      rw [List.flatMap_cons, unlines_append, List.append_assoc, block.unlines_lines,
        occurrencesFrom_of_closed (block.cut_eq_pieces allCode _), List.mapIdx_cons,
        List.mapIdx_cons]
      have declares := block.function.declaredName_eq
        (unlines (blocks.flatMap Embedding.lines) ++ trailing)
      refine List.cons_eq_cons.mpr ⟨block.ofBlock_pieces starts declares file (0 + number), ?_⟩
      simp only [renumbered, Embedding.pieces, afterwards]
      exact induction _ behind _ (by simp) (number + 1)

theorem ofOutcomes_mapIdx_ok (blocks : List Embedding) (excerpt : Nat → Embedding → Excerpt) :
    Extraction.ofOutcomes (blocks.mapIdx fun position block => .ok (excerpt position block)) =
      ⟨blocks.mapIdx excerpt, []⟩ := by
  induction blocks generalizing excerpt with
  | nil => rfl
  | cons block blocks induction =>
      have others := induction fun position block => excerpt (position + 1) block
      rw [Extraction.ofOutcomes] at others ⊢
      rw [List.mapIdx_cons, List.foldr_cons, others, List.mapIdx_cons]
      rfl

/-- Extraction undoes embedding: it skips nothing and finds one excerpt for each embedded
text, in their order. -/
theorem extract_embed (file trailing : Text) (blocks : List Embedding)
    (isQuiet : ¬Contains ({} : Markers).start trailing) :
    extract {} file (unlines (blocks.flatMap Embedding.lines) ++ trailing) =
      ⟨blocks.mapIdx fun position block => block.excerpt file (position + 1), []⟩ := by
  have outcomes := outcomes_embed file trailing isQuiet blocks [] (by simp) {} (fun _ => rfl) 1
  rw [unlines_nil, List.nil_append] at outcomes
  rw [extract, occurrences, outcomes]
  exact ofOutcomes_mapIdx_ok blocks fun position block => block.excerpt file (position + 1)

/-- The last embedded text of a source, whether or not the function's line is ended. -/
theorem extract_pieces (block : Embedding) {quiet : List Text}
    (isCode : ∀ line ∈ quiet, IsCode line) {behind : Text}
    (declares : declaredName behind = some block.function.name)
    (isQuiet : ¬Contains ({} : Markers).start ('\n' :: behind)) (file : Text) :
    extract {} file (block.pieces quiet ('\n' :: behind)).source =
      ⟨[block.excerpt file 1], []⟩ := by
  have isNothing : cut {} ('\n' :: behind) = .nothing := by
    rw [cut, (find?_eq_none_iff ..).mpr isQuiet]
  have alone : occurrences {} (block.pieces quiet ('\n' :: behind)).source =
      [.block ((block.pieces quiet ('\n' :: behind)).block {})] := by
    rw [occurrences, occurrencesFrom_of_closed (block.cut_eq_pieces isCode _)]
    exact congrArg (List.cons _) (occurrencesFrom_of_nothing isNothing)
  rw [extract, alone, List.mapIdx_singleton, Excerpt.ofOccurrence,
    block.ofBlock_pieces (fun _ => rfl) declares]
  rfl

/-- A bare scenario, embedded before a test in a source. -/
def loginEmbedding : Embedding where
  code := ["package login", ""]
  indent := "\t"
  body := "Scenario:\n  Given [Gherkin]\n"
  function :=
    ⟨[], "func", "Test_login", "t *T) \x7b", by simp, by decide, by decide, by decide⟩
  isCode := by decide
  blankIndent := List.all_eq_true.mp (by decide)
  nonempty := by decide
  normal := by decide
  endless := by decide
  isQuiet := by decide

theorem extract_embed_login :
    ¬Contains ({} : Markers).start "\t// [end]" ∧
      extract {} "login_test.go" (unlines loginEmbedding.lines ++ "\t// [end]") =
        ⟨[⟨.scenario "Test_login",
          "@file:login_test.go\n@test:Test_login\nScenario: login\n  Given [Gherkin]\n",
          "login_test.go", 1⟩], []⟩ := by
  refine ⟨by decide, ?_⟩
  exact extract_embed "login_test.go" "\t// [end]" [loginEmbedding] (by decide)

end Scenarist
