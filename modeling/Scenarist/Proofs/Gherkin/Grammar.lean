import Scenarist.Gherkin.Grammar
import Scenarist.Proofs.Gherkin.Layout

/-! # What the parts of a document leave

Every part of a document is taken from the beginning of the text, so the parts
behind it are read from an end of that text. -/

namespace Scenarist.Gherkin

open Text Reader

/-! ## Ends of the text -/

instance : LeavesEnd tag := by
  unfold tag
  infer_instance

instance : LeavesEnd tags := by
  unfold tags
  infer_instance

-- The instance of a sequence is built from those of its parts, twice as large with each part.
set_option synthInstance.maxSize 1000

instance (words : List Text) : LeavesEnd (descriptionLine words) := by
  unfold descriptionLine
  infer_instance

instance (words : List Text) : LeavesEnd (description words) := by
  unfold description
  infer_instance

theorem cutAtFence_suffix {fence : Text} {inComment : Bool} {text : Text} {cut : Text × Text}
    (found : cutAtFence fence inComment text = some cut) : cut.2 <:+ text := by
  fun_induction cutAtFence fence inComment text generalizing cut with
  | case1 => cases found
  | case2 =>
      cases found
      exact List.suffix_rfl
  | case3 inComment head rest _ induction =>
      rcases Option.map_eq_some_iff.mp found with ⟨inner, innerFound, rfl⟩
      exact (induction innerFound).trans (List.suffix_cons head rest)

instance (fence : Text) : LeavesEnd (fenced fence) where
  suffix reads := by
    rcases bind_eq_some_iff.mp reads with ⟨_, opened, first, reads⟩
    rcases bind_eq_some_iff.mp reads with ⟨current, _, got, reads⟩
    cases got
    cases found : cutAtFence fence false opened.rest with
    | none =>
        simp only [found] at reads
        cases reads
    | some cut =>
        simp only [found] at reads
        rcases bind_eq_some_iff.mp reads with ⟨text, next, taken, reads⟩
        cases taken
        have behind : LeavesEnd (do expecting fence; lineEnds; return dedent cut.1) :=
          inferInstance
        have inCut : _ <:+ cut.2 := behind.suffix reads
        exact (inCut.trans (cutAtFence_suffix found)).trans (LeavesEnd.suffix first)

instance : LeavesEnd docstring := by
  unfold docstring
  infer_instance

theorem cutAtBar_suffix (text : Text) : (cutAtBar text).2 <:+ text := by
  fun_induction cutAtBar text with
  | case1 => exact List.suffix_rfl
  | case2 => exact List.suffix_rfl
  | case3 => exact List.suffix_rfl
  | case4 => exact List.suffix_rfl
  | case5 head rest _ _ _ taken left answer induction =>
      rw [answer] at induction
      exact induction.trans (List.suffix_cons head rest)

instance : LeavesEnd (taking cutAtBar) :=
  leavesEnd_taking cutAtBar_suffix

instance : LeavesEnd cell := by
  unfold cell
  infer_instance

instance : LeavesEnd row := by
  unfold row
  infer_instance

instance : LeavesEnd table :=
  LeavesEnd.bind inferInstance fun _ => LeavesEnd.bind inferInstance fun rows => by
    split <;> infer_instance

instance (words : List Text) : LeavesEnd (stepAt words) := by
  unfold stepAt
  infer_instance

instance (language : Language) : LeavesEnd (leadingStep language) := by
  unfold leadingStep
  infer_instance

instance (language : Language) : LeavesEnd (followingStep language) := by
  unfold followingStep
  infer_instance

instance (language : Language) : LeavesEnd (steps language) := by
  unfold steps
  infer_instance

instance (words : List Text) : LeavesEnd (header words) := by
  unfold header
  infer_instance

instance (language : Language) : LeavesEnd (background language) := by
  unfold background
  infer_instance

instance (language : Language) : LeavesEnd (examples language) := by
  unfold examples
  infer_instance

instance : LeavesEnd languageName :=
  LeavesEnd.bind inferInstance fun _ => LeavesEnd.bind inferInstance fun _ =>
    LeavesEnd.bind inferInstance fun _ => inferInstance

instance : LeavesEnd language :=
  LeavesEnd.bind inferInstance fun
    | none => inferInstance
    | some name => by
      change LeavesEnd (match Language.named name with
        | none => failure
        | some language => pure language)
      split <;> infer_instance

/-! ## Headers -/

/-- A text that a header gives back as the name of its part. -/
structure IsTitle (name : Text) : Prop where
  spoken : name ≠ []
  lineFeedless : '\n' ∉ name
  returnless : '\r' ∉ name
  begins : ∀ head ∈ name.head?, isBlank head = false
  ends : trimEnd name = name

theorem isTitle_of_not_space {name : Text} (spoken : name ≠ [])
    (spaceless : ∀ character ∈ name, isSpace character = false) : IsTitle name := by
  refine ⟨spoken, ?_, ?_, ?_, ?_⟩
  · intro member
    exact absurd (spaceless '\n' member) (by decide)
  · intro member
    exact absurd (spaceless '\r' member) (by decide)
  · intro head first
    have notSpace := spaceless head (List.mem_of_mem_head? first)
    cases blank : isBlank head with
    | false => rfl
    | true => rw [isSpace_of_isBlank blank] at notSpace; cases notSpace
  · apply dropEndWhile_eq_self
    intro last ends
    exact spaceless last (List.mem_of_getLast? ends)

theorem isTitle_trim {text : Text} (spoken : trim text ≠ []) (lineFeedless : '\n' ∉ text)
    (returnless : '\r' ∉ text) : IsTitle (trim text) := by
  have begins : trim text <+: trimStart text := dropEndWhile_isPrefix _
  have within : trim text ⊆ text :=
    fun character member => (List.dropWhile_suffix isSpace).subset (begins.subset member)
  refine ⟨spoken, fun member => lineFeedless (within member),
    fun member => returnless (within member), ?_, ?_⟩
  · intro head first
    have firstOfStart : (trimStart text).head? = some head := by
      rcases begins with ⟨rest, whole⟩
      rw [← whole, List.head?_append, first]
      rfl
    cases blank : isBlank head with
    | false => rfl
    | true =>
        have spaceless : isSpace head = false := head?_dropWhile_kept firstOfStart
        rw [isSpace_of_isBlank blank] at spaceless
        cases spaceless
  · apply dropEndWhile_eq_self
    intro last ends
    exact getLast?_dropEndWhile_kept ends

theorem IsTitle.begins_append {name : Text} (isTitle : IsTitle name) (rest : Text) :
    ∀ head ∈ (name ++ rest).head?, isBlank head = false := by
  intro head first
  apply isTitle.begins head
  cases name with
  | nil => exact absurd rfl isTitle.spoken
  | cons other name => exact first

variable {line : Nat} {cursor next : Cursor} {words : List Text}

theorem header_append {word name opened layout rest : Text}
    (opens : keyword words ⟨line, opened⟩ =
      some (word, ⟨line, ':' :: ' ' :: (name ++ '\n' :: (layout ++ rest))⟩))
    (isTitle : IsTitle name) (isLayout : IsLayout layout) (starts : StartsPart rest) :
    header words ⟨line, opened⟩ = some ((word, name), ⟨line + 1 + lineFeeds layout, rest⟩) := by
  have colon : expecting [':'] ⟨line, ':' :: ' ' :: (name ++ '\n' :: (layout ++ rest))⟩ =
      some ((), ⟨line, ' ' :: (name ++ '\n' :: (layout ++ rest))⟩) := expecting_append [':'] _ line
  have blank : ∀ character ∈ [' '], isBlank character = true := by simp [isBlank]
  have apart : blanks ⟨line, ' ' :: (name ++ '\n' :: (layout ++ rest))⟩ =
      some ((), ⟨line, name ++ '\n' :: (layout ++ rest)⟩) :=
    blanks_append blank (isTitle.begins_append _)
  have behind := lineEnds_append (by simp) isLayout.cons_lineFeed starts line
  rw [List.cons_append, lineFeeds_cons] at behind
  rw [header, bind_of_reads opens, bind_of_reads colon, bind_of_reads apart,
    bind_of_reads (nameOfPart_append isTitle.spoken isTitle.lineFeedless isTitle.returnless line _),
    bind_of_reads behind, pure_apply, isTitle.ends, Nat.add_right_comm, Nat.add_assoc]

theorem header_of_refuses (refuses : keyword words cursor = none) :
    header words cursor = none := by
  rw [header, bind_of_refuses refuses]

/-! ## Absent parts -/

theorem description_of_refuses (starts : StartsPart cursor.rest)
    (refuses : descriptionLine words cursor = none) :
    description words cursor = some (none, cursor) := by
  rw [description, bind_of_reads (separated_of_refuses refuses),
    bind_of_reads (gap_of_startsPart starts)]
  rfl

theorem description_of_tag (line : Nat) (rest : Text) :
    description words ⟨line, '@' :: rest⟩ = some (none, ⟨line, '@' :: rest⟩) := by
  have starts : StartsPart ('@' :: rest) := startsPart_cons rfl rest
  have marked : expecting ['@'] ⟨line, '@' :: rest⟩ = some ((), ⟨line, rest⟩) :=
    expecting_append ['@'] rest line
  apply description_of_refuses starts
  rw [descriptionLine, bind_of_reads (blanks_of_startsPart starts),
    bind_of_refuses (refusing_of_reads marked)]

theorem description_of_keyword {word : Text} (starts : StartsPart cursor.rest)
    (unmarked : ∀ head ∈ cursor.rest.head?, head ≠ '@')
    (opens : keyword words cursor = some (word, next)) :
    description words cursor = some (none, cursor) := by
  apply description_of_refuses starts
  rw [descriptionLine, bind_of_reads (blanks_of_startsPart starts),
    bind_of_reads (refusing_of_refuses (expecting_of_not_head unmarked)),
    bind_of_refuses (refusing_of_reads opens)]

theorem background_of_refuses {language : Language} (starts : StartsPart cursor.rest)
    (refuses : keyword language.background cursor = none) : background language cursor = none := by
  rw [background, bind_of_reads (comments_of_startsPart starts),
    bind_of_reads (blanks_of_startsPart starts), bind_of_refuses (header_of_refuses refuses)]

/-! ## The reader as a parser -/

theorem parse_eq_ok_iff {text : Text} {document : Feature} :
    Parser.parse text = .ok document ↔ Feature.ofText text = some document := by
  have parsed : Parser.parse text =
      (Feature.ofText text).elim (Except.error unexplained) Except.ok := rfl
  rw [parsed]
  cases Feature.ofText text <;> simp

end Scenarist.Gherkin
