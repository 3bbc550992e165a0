import Scenarist.Proofs.Comment.Declaration
import Scenarist.Proofs.Gherkin.Grammar
import Scenarist.Proofs.Text.Words

/-! # Plain steps

A plain step stands on one line: the word of its kind and a text of words with
single spaces between them. A list of plain steps is read back step by step,
whatever the kinds behind the first. -/

namespace Scenarist.Gherkin

open Text Reader

/-! ## Texts of words -/

/-- A nonempty run of letters and digits. -/
def IsWord (word : Text) : Prop :=
  word ≠ [] ∧ ∀ character ∈ word, character.isAlphanum = true

instance (word : Text) : Decidable (IsWord word) :=
  decidable_of_iff (word ≠ [] ∧ word.all Char.isAlphanum = true)
    (and_congr_right fun _ => List.all_eq_true)

theorem isSpace_of_isAlphanum {character : Char} (alphanumeric : character.isAlphanum = true) :
    isSpace character = false := by
  apply Comment.isSpace_of_continuesName
  rw [Comment.continuesName, alphanumeric, Bool.true_or]

theorem IsWord.isRun {word : Text} (isWord : IsWord word) : IsRun word where
  nonempty := isWord.1
  spaceless := fun character member => isSpace_of_isAlphanum (isWord.2 character member)

section

variable {words : List Text} (areWords : ∀ word ∈ words, IsWord word)

include areWords

theorem mem_join_words {character : Char} (member : character ∈ join [' '] words) :
    character = ' ' ∨ character.isAlphanum = true := by
  induction words with
  | nil => cases member
  | cons first words induction =>
      have inWord := (areWords first List.mem_cons_self).2 character
      cases words with
      | nil => exact .inr (inWord (by simpa [join] using member))
      | cons second words =>
          rw [join_cons_cons, List.mem_append, List.mem_append, List.mem_singleton] at member
          rcases member with inFirst | isSpace | inOthers
          · exact .inr (inWord inFirst)
          · exact .inl isSpace
          · exact induction (fun word member => areWords word (List.mem_cons_of_mem first member))
              inOthers

theorem isTitle_join_words (spoken : words ≠ []) : IsTitle (join [' '] words) := by
  have areRuns : ∀ word ∈ words, IsRun word := fun word member => (areWords word member).isRun
  have spaced := singleSpaced_join areRuns
  refine ⟨join_runs_ne_nil areRuns spoken, ?_, ?_, ?_, dropEndWhile_eq_self spaced.last⟩
  · intro member
    exact absurd (spaced.spaces '\n' member rfl) (by decide)
  · intro member
    exact absurd (spaced.spaces '\r' member rfl) (by decide)
  · intro head isFirst
    have spaceless := spaced.first head isFirst
    cases blank : isBlank head with
    | false => rfl
    | true =>
        rw [isSpace_of_isBlank blank] at spaceless
        cases spaceless

end

/-! ## One step -/

/-- The text begins with a letter, unless it is empty. -/
def StartsLetter (text : Text) : Prop :=
  ∀ head ∈ text.head?, head.isAlpha = true

theorem startsLetter_nil : StartsLetter [] := by
  intro head isFirst
  cases isFirst

variable {rest : Text} {cursor next : Cursor}

theorem StartsLetter.not_head {mark : Char} (starts : StartsLetter rest)
    (notLetter : mark.isAlpha = false) : ∀ head ∈ rest.head?, head ≠ mark := by
  rintro head isFirst rfl
  rw [starts head isFirst] at notLetter
  cases notLetter

theorem StartsLetter.startsPart (starts : StartsLetter rest) : StartsPart rest := by
  intro head isFirst
  have different : ∀ mark : Char, mark.isAlpha = false → head ≠ mark :=
    fun mark notLetter => starts.not_head notLetter head isFirst
  simp [isLayout, isBlank, different ' ' rfl, different '\t' rfl, different '\n' rfl,
    different '\r' rfl, different '#' rfl]

theorem docstring_of_startsLetter (starts : StartsLetter cursor.rest) :
    docstring cursor = none := by
  have unfenced : ∀ mark fence, mark.isAlpha = false → fenced (mark :: fence) cursor = none := by
    intro mark fence notLetter
    rw [fenced, bind_of_refuses (expecting_of_not_head (starts.not_head notLetter))]
  have quoteless : fenced "\"\"\"" cursor = none := unfenced _ _ rfl
  have tickless : fenced "```" cursor = none := unfenced _ _ rfl
  rw [docstring, orElse_of_refuses quoteless, tickless]

theorem table_of_startsLetter (starts : StartsLetter cursor.rest) : table cursor = none := by
  have barless : ∀ cells, expecting ('|' :: cells) cursor = none :=
    fun cells => expecting_of_not_head (starts.not_head rfl)
  have apart := blanks_of_startsPart starts.startsPart
  have cellless : cell cursor = none := by
    rw [cell, bind_of_refuses (barless [])]
  have rowless : row cursor = none := by
    rw [row, bind_of_reads (separated_of_refuses cellless), bind_of_reads apart,
      bind_of_refuses (barless [])]
  have rowsless : separatedOne blanks row cursor = none := by
    rw [separatedOne, bind_of_refuses rowless]
  rw [table, bind_of_reads apart, bind_of_refuses rowsless]

theorem stepAt_append {words : List Text} {line : Nat} {word text opened layout : Text}
    (opens : keyword words ⟨line, opened⟩ =
      some (word, ⟨line, text ++ '\n' :: (layout ++ rest)⟩))
    (isTitle : IsTitle text) (isLayout : IsLayout layout) (starts : StartsLetter rest) :
    stepAt words ⟨line, opened⟩ =
      some (⟨word, text, line, none, none⟩, ⟨line + 1 + lineFeeds layout, rest⟩) := by
  have here : here ⟨line, opened⟩ = some (line, ⟨line, opened⟩) := rfl
  have apart : blanks ⟨line, text ++ '\n' :: (layout ++ rest)⟩ =
      some ((), ⟨line, text ++ '\n' :: (layout ++ rest)⟩) :=
    blanks_of_not_blank (isTitle.begins_append _)
  have ended : blanks ⟨line, '\n' :: (layout ++ rest)⟩ =
      some ((), ⟨line, '\n' :: (layout ++ rest)⟩) := by
    apply blanks_of_not_blank
    intro head isFirst
    cases isFirst
    rfl
  have behind := lineEnds_append (by simp) isLayout.cons_lineFeed starts.startsPart line
  rw [List.cons_append, lineFeeds_cons] at behind
  have docstringless : docstring ⟨line + (lineFeeds layout + 1), rest⟩ = none :=
    docstring_of_startsLetter starts
  have tableless : table ⟨line + (lineFeeds layout + 1), rest⟩ = none :=
    table_of_startsLetter starts
  rw [stepAt, bind_of_reads here, bind_of_reads opens, bind_of_reads apart,
    bind_of_reads (restOfLine_append isTitle.spoken isTitle.lineFeedless isTitle.returnless line _),
    bind_of_reads ended, bind_of_reads behind,
    bind_of_reads (blanks_of_startsPart starts.startsPart),
    bind_of_reads (optional_of_refuses docstringless),
    bind_of_reads (optional_of_refuses tableless), pure_apply, isTitle.ends, Nat.add_right_comm,
    Nat.add_assoc]

theorem stepAt_of_refuses {words : List Text} (refuses : keyword words cursor = none) :
    stepAt words cursor = none := by
  have here : here cursor = some (cursor.line, cursor) := rfl
  rw [stepAt, bind_of_reads here, bind_of_refuses refuses]

/-! ## Plain steps -/

/-- The kinds of steps. The last two continue a step before them. -/
inductive StepKind where
  | context
  | action
  | outcome
  | conjunction
  | contrast
deriving DecidableEq, Repr

namespace StepKind

/-- The word that opens a step. -/
def word : StepKind → Text
  | context => "Given"
  | action => "When"
  | outcome => "Then"
  | conjunction => "And"
  | contrast => "But"

/-- Whether a step may stand first. -/
def leads : StepKind → Bool
  | context | action | outcome => true
  | conjunction | contrast => false

def words (language : Language) : StepKind → List Text
  | context => language.context
  | action => language.action
  | outcome => language.outcome
  | conjunction => language.conjunction
  | contrast => language.contrast

theorem openingWord_word (kind : StepKind) (line : Nat) (rest : Text) :
    openingWord (kind.words Language.english) ⟨line, kind.word ++ ' ' :: rest⟩ =
      some (kind.word ++ [' '], ⟨line, rest⟩) := by
  cases kind <;> rfl

theorem openingWord_other {kind other : StepKind} (different : kind ≠ other) (line : Nat)
    (rest : Text) :
    openingWord (other.words Language.english) ⟨line, kind.word ++ ' ' :: rest⟩ = none := by
  cases kind <;> cases other <;> first | rfl | exact absurd rfl different

theorem startsLetter_word (kind : StepKind) (rest : Text) :
    StartsLetter (kind.word ++ rest) := by
  intro head isFirst
  cases kind <;> cases isFirst <;> rfl

end StepKind

/-- A step of one line, with words of letters and digits. -/
structure PlainStep where
  kind : StepKind
  words : List Text
  spoken : words ≠ []
  areWords : ∀ word ∈ words, IsWord word

namespace PlainStep

def text (step : PlainStep) : Text :=
  join [' '] step.words

def line (step : PlainStep) : Text :=
  step.kind.word ++ ' ' :: step.text

theorem mem_line {step : PlainStep} {character : Char} (member : character ∈ step.line) :
    character = ' ' ∨ character.isAlphanum = true := by
  rcases List.mem_append.mp member with inWord | inText
  · have letters : ∀ letter ∈ step.kind.word, letter.isAlphanum = true := by
      cases step.kind <;> exact List.all_eq_true.mp (by decide)
    exact .inr (letters character inWord)
  · rcases List.mem_cons.mp inText with isSpace | inText
    · exact .inl isSpace
    · exact mem_join_words step.areWords inText

/-- The step as it is read from a line of the given number. -/
def toDocument (step : PlainStep) (line : Nat) : Step :=
  ⟨step.kind.word ++ [' '], step.text, line, none, none⟩

def toDocuments (steps : List PlainStep) (line : Nat) : List Step :=
  steps.mapIdx fun position step => step.toDocument (line + position)

theorem toDocuments_cons (step : PlainStep) (steps : List PlainStep) (line : Nat) :
    toDocuments (step :: steps) line = step.toDocument line :: toDocuments steps (line + 1) := by
  simp [toDocuments, Nat.add_assoc, Nat.add_comm 1]

/-- Steps on lines of their own, all indented but the first. -/
def written (indent : Text) : List PlainStep → Text
  | [] => []
  | step :: steps => step.line ++ '\n' :: unlines (steps.map fun other => indent ++ other.line)

theorem unlines_indented (indent : Text) (steps : List PlainStep) :
    ∃ layout, unlines (steps.map fun step => indent ++ step.line) = layout ++ written indent steps ∧
      (layout = [] ∨ layout = indent) := by
  cases steps with
  | nil => exact ⟨[], rfl, .inl rfl⟩
  | cons step steps => exact ⟨indent, by simp [written], .inr rfl⟩

theorem length_written_lt (indent : Text) (step : PlainStep) (steps : List PlainStep) :
    (written indent steps).length < (written indent (step :: steps)).length := by
  rcases unlines_indented indent steps with ⟨layout, whole, -⟩
  simp only [written, whole, List.length_append, List.length_cons]
  omega

theorem startsLetter_written (indent : Text) (steps : List PlainStep) :
    StartsLetter (written indent steps) := by
  cases steps with
  | nil => exact startsLetter_nil
  | cons step steps =>
      rw [written, line, List.append_assoc]
      exact step.kind.startsLetter_word _

section

variable {indent : Text} (blank : ∀ character ∈ indent, isBlank character = true)
  (step : PlainStep) (steps : List PlainStep) (line : Nat)

theorem keyword_written (kind : StepKind) :
    keyword (kind.words Language.english) ⟨line, written indent (step :: steps)⟩ =
      openingWord (kind.words Language.english) ⟨line, written indent (step :: steps)⟩ :=
  keyword_of_startsPart (startsLetter_written indent (step :: steps)).startsPart _

theorem stepAt_other {kind : StepKind} (different : step.kind ≠ kind) :
    stepAt (kind.words Language.english) ⟨line, written indent (step :: steps)⟩ = none := by
  apply stepAt_of_refuses
  rw [keyword_written, written, PlainStep.line, List.append_assoc, List.cons_append]
  exact StepKind.openingWord_other different line _

include blank

theorem stepAt_written :
    stepAt (step.kind.words Language.english) ⟨line, written indent (step :: steps)⟩ =
      some (step.toDocument line, ⟨line + 1, written indent steps⟩) := by
  rcases unlines_indented indent steps with ⟨layout, whole, isIndent⟩
  have blankLayout : ∀ character ∈ layout, isBlank character = true := by
    rcases isIndent with rfl | rfl
    · simp
    · exact blank
  have lineFeedless : lineFeeds layout = 0 :=
    lineFeeds_eq_zero fun member => absurd (blankLayout '\n' member) (by decide)
  have opens : keyword (step.kind.words Language.english)
      ⟨line, written indent (step :: steps)⟩ = some (step.kind.word ++ [' '],
        ⟨line, step.text ++ '\n' :: (layout ++ written indent steps)⟩) := by
    rw [keyword_written, written, PlainStep.line, whole, List.append_assoc, List.cons_append]
    exact step.kind.openingWord_word line _
  have reads := stepAt_append opens (isTitle_join_words step.areWords step.spoken)
    (fun character member => .inl (blankLayout character member))
    (startsLetter_written indent steps)
  rw [reads, lineFeedless]
  rfl

/-- A step is read by the words of its own kind alone. -/
theorem stepAt_kind (kind : StepKind) :
    stepAt (kind.words Language.english) ⟨line, written indent (step :: steps)⟩ =
      if step.kind = kind then
        some (step.toDocument line, ⟨line + 1, written indent steps⟩)
      else
        none := by
  by_cases same : step.kind = kind
  · rw [if_pos same, ← same]
    exact stepAt_written blank step steps line
  · rw [if_neg same]
    exact stepAt_other step steps line same

theorem leadingStep_written :
    leadingStep Language.english ⟨line, written indent (step :: steps)⟩ =
      if step.kind.leads then
        some (step.toDocument line, ⟨line + 1, written indent steps⟩)
      else
        none := by
  have starts := (startsLetter_written indent (step :: steps)).startsPart
  have uncommented : comments ⟨line, written indent (step :: steps)⟩ =
      some ((), ⟨line, written indent (step :: steps)⟩) := comments_of_startsPart starts
  have context : stepAt Language.english.context _ = _ := stepAt_kind blank step steps line .context
  have action : stepAt Language.english.action _ = _ := stepAt_kind blank step steps line .action
  have outcome : stepAt Language.english.outcome _ = _ := stepAt_kind blank step steps line .outcome
  rw [leadingStep, orElse_apply, orElse_apply, seqRight_eq_bind, bind_of_reads uncommented,
    context, action, outcome]
  cases step.kind <;> rfl

theorem followingStep_written :
    followingStep Language.english ⟨line, written indent (step :: steps)⟩ =
      some (step.toDocument line, ⟨line + 1, written indent steps⟩) := by
  have leading := leadingStep_written blank step steps line
  have conjunction : stepAt Language.english.conjunction _ = _ :=
    stepAt_kind blank step steps line .conjunction
  have contrast : stepAt Language.english.contrast _ = _ :=
    stepAt_kind blank step steps line .contrast
  rw [followingStep, orElse_apply, orElse_apply, leading, conjunction, contrast]
  cases step.kind <;> rfl

end

/-! ## Lists of plain steps -/

theorem followingStep_nil (line : Nat) : followingStep Language.english ⟨line, []⟩ = none := by
  have stepless : ∀ words : List Text, openingWord words ⟨line, []⟩ = none →
      stepAt words ⟨line, []⟩ = none := by
    intro words wordless
    apply stepAt_of_refuses
    rw [keyword_of_startsPart startsPart_nil, wordless]
  have uncommented : comments ⟨line, []⟩ = some ((), ⟨line, []⟩) :=
    comments_of_startsPart startsPart_nil
  simp only [followingStep, leadingStep, orElse_apply, seqRight_eq_bind, bind_of_reads uncommented]
  rw [stepless _ rfl, stepless _ rfl, stepless _ rfl, stepless _ rfl, stepless _ rfl]
  rfl

variable {indent : Text} (blank : ∀ character ∈ indent, isBlank character = true)

include blank

theorem repeated_written (steps : List PlainStep) (line : Nat) :
    repeated (blanks *> followingStep Language.english) ⟨line, written indent steps⟩ =
      (toDocuments steps line, ⟨line + steps.length, []⟩) := by
  induction steps generalizing line with
  | nil =>
      have refuses : (blanks *> followingStep Language.english) ⟨line, []⟩ = none := by
        rw [seqRight_eq_bind, bind_of_reads (blanks_of_startsPart startsPart_nil),
          followingStep_nil]
      exact repeated_of_refuses refuses
  | cons step steps induction =>
      have starts := (startsLetter_written indent (step :: steps)).startsPart
      have reads : (blanks *> followingStep Language.english)
          ⟨line, written indent (step :: steps)⟩ =
            some (step.toDocument line, ⟨line + 1, written indent steps⟩) := by
        rw [seqRight_eq_bind, bind_of_reads (blanks_of_startsPart starts),
          followingStep_written blank]
      have counted : line + (step :: steps).length = line + 1 + steps.length := by
        rw [List.length_cons]
        omega
      rw [repeated_of_reads reads (length_written_lt indent step steps), induction,
        toDocuments_cons, counted]

/-- All steps are read, if the first may stand first. -/
theorem steps_written {first : PlainStep} (leads : first.kind.leads = true)
    (others : List PlainStep) (line : Nat) :
    steps Language.english ⟨line, written indent (first :: others)⟩ =
      some (toDocuments (first :: others) line, ⟨line + (first :: others).length, []⟩) := by
  have reads := leadingStep_written blank first others line
  rw [if_pos leads] at reads
  have counted : line + (first :: others).length = line + 1 + others.length := by
    rw [List.length_cons]
    omega
  apply orElse_of_reads
  rw [bind_of_reads reads, bind_of_reads (many_apply ..), repeated_written blank, pure_apply,
    toDocuments_cons, counted]

end PlainStep

end Scenarist.Gherkin
