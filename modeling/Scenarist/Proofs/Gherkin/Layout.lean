import Scenarist.Gherkin.Layout
import Scenarist.Proofs.Gherkin.Reading

/-! # What layout readers take

Where a part begins there is no layout left to take. Before it, line feeds and
blanks are taken in any order, up to the part. -/

namespace Scenarist.Gherkin

open Text Reader

/-! ## Ends of the text -/

theorem cutAtLineEnd_suffix (text : Text) : (cutAtLineEnd text).2 <:+ text := by
  fun_induction cutAtLineEnd text with
  | case1 => exact List.suffix_rfl
  | case2 => exact List.suffix_rfl
  | case3 => exact List.suffix_rfl
  | case4 head rest _ _ taken left answer induction =>
      rw [answer] at induction
      exact induction.trans (List.suffix_cons head rest)

instance : LeavesEnd (taking cutAtLineEnd) :=
  leavesEnd_taking cutAtLineEnd_suffix

instance : LeavesEnd blanks := by
  unfold blanks
  infer_instance

instance : LeavesEnd oneBlank := by
  unfold oneBlank
  infer_instance

instance : LeavesEnd lineFeed := by
  unfold lineFeed
  infer_instance

instance : LeavesEnd commentText := by
  unfold commentText
  infer_instance

instance : LeavesEnd lineEnd := by
  unfold lineEnd
  infer_instance

instance : LeavesEnd lineEnds := by
  unfold lineEnds
  infer_instance

instance : LeavesEnd emptyLines := by
  unfold emptyLines
  infer_instance

instance : LeavesEnd gap := by
  unfold gap
  infer_instance

instance : LeavesEnd comments := by
  unfold comments
  infer_instance

instance : LeavesEnd restOfLine := by
  unfold restOfLine
  infer_instance

instance : LeavesEnd nameOfPart := by
  unfold nameOfPart
  infer_instance

instance (words : List Text) : LeavesEnd (openingWord words) where
  suffix reads := by
    rcases List.exists_of_findSome?_eq_some reads with ⟨word, -, found⟩
    rcases Option.map_eq_some_iff.mp found with ⟨⟨_, next⟩, expected, answer⟩
    cases answer
    exact LeavesEnd.suffix expected

instance (words : List Text) : LeavesEnd (keyword words) := by
  unfold keyword
  infer_instance

/-! ## Single readers -/

/-- A character that layout may begin with. -/
def isLayout (character : Char) : Bool :=
  isBlank character || character = '\n' || character = '\r' || character = '#'

/-- No layout stands at the beginning of the text. -/
def StartsPart (text : Text) : Prop :=
  ∀ head ∈ text.head?, isLayout head = false

theorem startsPart_cons {head : Char} (plain : isLayout head = false) (rest : Text) :
    StartsPart (head :: rest) := by
  intro other first
  cases first
  exact plain

theorem startsPart_nil : StartsPart [] := by
  intro head first
  cases first

variable {line : Nat} {indent rest : Text} {cursor next : Cursor}

theorem isLayout_eq_false_iff (character : Char) : isLayout character = false ↔
    isBlank character = false ∧ character ≠ '\n' ∧ character ≠ '\r' ∧ character ≠ '#' := by
  simp [isLayout, and_assoc]

theorem StartsPart.not_blank (starts : StartsPart rest) :
    ∀ head ∈ rest.head?, isBlank head = false := fun head first =>
  ((isLayout_eq_false_iff head).mp (starts head first)).1

theorem StartsPart.not_feed (starts : StartsPart rest) :
    ∀ head ∈ rest.head?, head ≠ '\n' ∧ head ≠ '\r' := by
  intro head first
  rcases (isLayout_eq_false_iff head).mp (starts head first) with ⟨-, notFeed, notReturn, -⟩
  exact ⟨notFeed, notReturn⟩

theorem StartsPart.not_sign (starts : StartsPart rest) : ∀ head ∈ rest.head?, head ≠ '#' :=
  fun head first => ((isLayout_eq_false_iff head).mp (starts head first)).2.2.2

theorem blanks_append (blank : ∀ character ∈ indent, isBlank character = true)
    (ends : ∀ head ∈ rest.head?, isBlank head = false) :
    blanks ⟨line, indent ++ rest⟩ = some ((), ⟨line, rest⟩) := by
  rw [blanks, bind_of_reads (taking_cutWhile rfl blank ends line), pure_apply]

theorem blanks_of_not_blank (ends : ∀ head ∈ cursor.rest.head?, isBlank head = false) :
    blanks cursor = some ((), cursor) :=
  blanks_append isBlank_of_mem_nil ends

theorem oneBlank_append (spoken : indent ≠ [])
    (blank : ∀ character ∈ indent, isBlank character = true)
    (ends : ∀ head ∈ rest.head?, isBlank head = false) :
    oneBlank ⟨line, indent ++ rest⟩ = some ((), ⟨line, rest⟩) := by
  rw [oneBlank, bind_of_reads (nonempty_of_reads spoken (taking_cutWhile rfl blank ends line)),
    pure_apply]

theorem oneBlank_of_not_blank (ends : ∀ head ∈ cursor.rest.head?, isBlank head = false) :
    oneBlank cursor = none := by
  have nothing : taking (cutWhile isBlank) cursor = some ([], cursor) :=
    taking_cutWhile rfl isBlank_of_mem_nil ends cursor.line
  rw [oneBlank, bind_of_refuses (nonempty_of_empty nothing)]

theorem lineFeed_cons (line : Nat) (rest : Text) :
    lineFeed ⟨line, '\n' :: rest⟩ = some ((), ⟨line + 1, rest⟩) := rfl

theorem lineFeed_of_not_feed
    (ends : ∀ head ∈ cursor.rest.head?, head ≠ '\n' ∧ head ≠ '\r') : lineFeed cursor = none := by
  have returnless : expecting ['\r', '\n'] cursor = none :=
    expecting_of_not_head fun head first => (ends head first).2
  have feedless : expecting ['\n'] cursor = none :=
    expecting_of_not_head fun head first => (ends head first).1
  rw [lineFeed, orElse_of_refuses returnless, feedless]

/-! A comment may follow blanks, so its absence is seen behind them. -/

theorem commentText_of_not_sign
    (signless : ∀ head ∈ (dropBlanks cursor.rest).head?, head ≠ '#') :
    commentText cursor = none := by
  rcases cursor with ⟨line, text⟩
  have blank : ∀ character ∈ text.takeWhile isBlank, isBlank character = true :=
    List.all_eq_true.mp List.all_takeWhile
  have ends : ∀ head ∈ (dropBlanks text).head?, isBlank head = false :=
    fun head first => head?_dropWhile_kept first
  have reads : blanks ⟨line, text⟩ = some ((), ⟨line, dropBlanks text⟩) := by
    have apart := @blanks_append line _ _ blank ends
    rwa [dropBlanks, List.takeWhile_append_dropWhile] at apart
  rw [commentText, bind_of_reads reads, bind_of_refuses (expecting_of_not_head signless)]

theorem lineEnd_of_not_sign
    (signless : ∀ head ∈ (dropBlanks cursor.rest).head?, head ≠ '#') :
    lineEnd cursor = lineFeed cursor := by
  rw [lineEnd, bind_of_reads (optional_of_refuses (commentText_of_not_sign signless))]

theorem lineEnd_cons (line : Nat) (rest : Text) :
    lineEnd ⟨line, '\n' :: rest⟩ = some ((), ⟨line + 1, rest⟩) := by
  rw [lineEnd_of_not_sign (by simp [dropBlanks, isBlank]), lineFeed_cons]

/-! ## Where a part begins -/

section

variable (starts : StartsPart cursor.rest)

include starts

theorem blanks_of_startsPart : blanks cursor = some ((), cursor) :=
  blanks_of_not_blank starts.not_blank

theorem oneBlank_of_startsPart : oneBlank cursor = none :=
  oneBlank_of_not_blank starts.not_blank

theorem lineFeed_of_startsPart : lineFeed cursor = none :=
  lineFeed_of_not_feed starts.not_feed

theorem commentText_of_startsPart : commentText cursor = none := by
  apply commentText_of_not_sign
  have same : dropBlanks cursor.rest = cursor.rest := dropWhile_eq_self starts.not_blank
  rw [same]
  exact starts.not_sign

theorem lineEnd_of_startsPart : lineEnd cursor = none := by
  rw [lineEnd, bind_of_reads (optional_of_refuses (commentText_of_startsPart starts)),
    lineFeed_of_startsPart starts]

theorem emptyLines_of_startsPart : emptyLines cursor = some ((), cursor) := by
  rw [emptyLines, bind_of_reads (many_of_refuses (lineEnd_of_startsPart starts)), pure_apply]

theorem gap_of_startsPart : gap cursor = some ((), cursor) := by
  have refuses : (oneBlank <|> lineEnd) cursor = none := by
    rw [orElse_of_refuses (oneBlank_of_startsPart starts), lineEnd_of_startsPart starts]
  rw [gap, bind_of_reads (many_of_refuses refuses), pure_apply]

theorem comments_of_startsPart : comments cursor = some ((), cursor) := by
  have refuses : (commentText *> lineEnds) cursor = none :=
    seqRight_of_refuses (commentText_of_startsPart starts) lineEnds
  rw [comments, bind_of_reads (many_of_refuses refuses), pure_apply]

theorem keyword_of_startsPart (words : List Text) :
    keyword words cursor = openingWord words cursor := by
  rw [keyword, bind_of_reads (comments_of_startsPart starts)]

end

/-! ## Before a part -/

/-- Blanks and line feeds only. -/
def IsLayout (text : Text) : Prop :=
  ∀ character ∈ text, isBlank character = true ∨ character = '\n'

theorem IsLayout.cons_lineFeed {text : Text} (isLayout : IsLayout text) :
    IsLayout ('\n' :: text) := by
  intro character member
  rcases List.mem_cons.mp member with rfl | member
  · exact .inr rfl
  · exact isLayout character member

theorem isLayout_cons_indent (blank : ∀ character ∈ indent, isBlank character = true) :
    IsLayout ('\n' :: indent) := by
  apply IsLayout.cons_lineFeed
  exact fun character member => .inl (blank character member)

theorem lineFeeds_cons_indent (blank : ∀ character ∈ indent, isBlank character = true) :
    lineFeeds ('\n' :: indent) = 1 := by
  have indentFeedless : '\n' ∉ indent := fun member => absurd (blank '\n' member) (by decide)
  rw [lineFeeds_cons, lineFeeds_eq_zero indentFeedless]

/-- A reader that takes a line feed, or blanks as far as they go. -/
structure TakesLayout (reader : Reader Unit) : Prop where
  feed : ∀ line rest, reader ⟨line, '\n' :: rest⟩ = some ((), ⟨line + 1, rest⟩)
  blanks : ∀ line indent rest, indent ≠ [] → (∀ character ∈ indent, isBlank character = true) →
    (∀ head ∈ rest.head?, isBlank head = false) → (∀ head ∈ rest.head?, head ≠ '#') →
      reader ⟨line, indent ++ rest⟩ = some ((), ⟨line, rest⟩)
  stops : ∀ cursor, StartsPart cursor.rest → reader cursor = none

theorem takesLayout_lineEnd_orElse : TakesLayout (lineEnd <|> oneBlank) where
  feed line rest := orElse_of_reads (lineEnd_cons line rest)
  blanks line indent rest spoken blank ends signless := by
    have shown : dropBlanks (indent ++ rest) = rest := by
      rw [dropBlanks_append blank]
      exact dropWhile_eq_self ends
    rw [orElse_of_refuses, oneBlank_append spoken blank ends]
    rw [lineEnd_of_not_sign (by simpa only [shown] using signless), lineFeed_of_not_feed]
    cases indent with
    | nil => exact absurd rfl spoken
    | cons first indent =>
        intro head isFirst
        cases isFirst
        constructor
        · rintro rfl
          exact absurd (blank '\n' List.mem_cons_self) (by decide)
        · rintro rfl
          exact absurd (blank '\r' List.mem_cons_self) (by decide)
  stops cursor starts := by
    rw [orElse_of_refuses (lineEnd_of_startsPart starts), oneBlank_of_startsPart starts]

theorem takesLayout_oneBlank_orElse : TakesLayout (oneBlank <|> lineEnd) where
  feed line rest := by
    rw [orElse_of_refuses, lineEnd_cons]
    apply oneBlank_of_not_blank
    intro head first
    cases first
    rfl
  blanks line indent rest spoken blank ends signless :=
    orElse_of_reads (oneBlank_append spoken blank ends)
  stops cursor starts := by
    rw [orElse_of_refuses (oneBlank_of_startsPart starts), lineEnd_of_startsPart starts]

/-- Behind a run of blanks there is a line feed or the part. -/
theorem isLayout_head_behind_blanks {layout : Text} (isLayout : IsLayout layout)
    (starts : StartsPart rest) :
    ∀ head ∈ (layout.dropWhile isBlank ++ rest).head?, isBlank head = false ∧ head ≠ '#' := by
  intro head first
  cases behind : layout.dropWhile isBlank with
  | nil =>
      rw [behind, List.nil_append] at first
      exact ⟨starts.not_blank head first, starts.not_sign head first⟩
  | cons other others =>
      rw [behind] at first
      cases first
      have notBlank : isBlank head = false := head?_dropWhile_kept (by rw [behind]; rfl)
      have member : head ∈ layout :=
        (List.dropWhile_suffix isBlank).subset (by rw [behind]; exact List.mem_cons_self)
      rcases isLayout head member with blank | rfl
      · rw [blank] at notBlank
        cases notBlank
      · exact ⟨rfl, by decide⟩

/-- Layout before a part is taken as a whole, one line feed or run of blanks after the other. -/
theorem TakesLayout.repeated {reader : Reader Unit} (takes : TakesLayout reader)
    (starts : StartsPart rest) (layout : Text) (isLayout : IsLayout layout) (line : Nat) :
    (repeated reader ⟨line, layout ++ rest⟩).2 = ⟨line + lineFeeds layout, rest⟩ := by
  cases layout with
  | nil =>
      rw [List.nil_append, repeated_of_refuses (takes.stops ⟨line, rest⟩ starts)]
      rfl
  | cons head layout =>
      rcases isLayout head List.mem_cons_self with blank | rfl
      · let run := (head :: layout).takeWhile isBlank
        let behind := (head :: layout).dropWhile isBlank
        have whole : run ++ behind = head :: layout := List.takeWhile_append_dropWhile
        have spoken : run ≠ [] := by simp [run, blank]
        have shorter : behind.length < (head :: layout).length := by
          rw [← whole, List.length_append]
          have positive := List.length_pos_iff.mpr spoken
          omega
        have blankRun : ∀ character ∈ run, isBlank character = true :=
          List.all_eq_true.mp List.all_takeWhile
        have runFeedless : lineFeeds run = 0 :=
          lineFeeds_eq_zero fun member => absurd (blankRun '\n' member) (by decide)
        have ends := isLayout_head_behind_blanks isLayout starts
        have reads := takes.blanks line run (behind ++ rest) spoken blankRun
          (fun other first => (ends other first).1) (fun other first => (ends other first).2)
        have others := takes.repeated starts behind
          (fun character member =>
            isLayout character ((List.dropWhile_suffix isBlank).subset member))
          line
        have counted : lineFeeds (head :: layout) = lineFeeds behind := by
          rw [← whole, lineFeeds_append, runFeedless, Nat.zero_add]
        rw [counted, ← others, ← whole, List.append_assoc,
          repeated_of_reads reads (by simp [List.length_pos_iff.mpr spoken])]
      · have others := takes.repeated starts layout
          (fun character member => isLayout character (List.mem_cons_of_mem _ member)) (line + 1)
        have counted : lineFeeds ('\n' :: layout) = lineFeeds layout + 1 := by simp [lineFeeds]
        rw [List.cons_append, repeated_of_reads (takes.feed line _) (by simp), others, counted,
          Nat.add_right_comm, Nat.add_assoc]
  termination_by layout.length

theorem lineEnds_append {layout : Text} (spoken : layout ≠ []) (isLayout : IsLayout layout)
    (starts : StartsPart rest) (line : Nat) :
    lineEnds ⟨line, layout ++ rest⟩ = some ((), ⟨line + lineFeeds layout, rest⟩) := by
  have taken := takesLayout_lineEnd_orElse.repeated starts layout isLayout line
  have progress : (repeated (lineEnd <|> oneBlank) ⟨line, layout ++ rest⟩).2 ≠
      ⟨line, layout ++ rest⟩ := by
    rw [taken]
    intro same
    have lengths := congrArg (fun cursor => cursor.rest.length) same
    simp [spoken] at lengths
  rw [lineEnds, orElse_of_reads (bind_of_reads (manyOne_of_progress progress) _), taken]

theorem gap_append {layout : Text} (isLayout : IsLayout layout) (starts : StartsPart rest)
    (line : Nat) :
    gap ⟨line, layout ++ rest⟩ = some ((), ⟨line + lineFeeds layout, rest⟩) := by
  rw [gap, bind_of_reads (many_apply ..),
    takesLayout_oneBlank_orElse.repeated starts layout isLayout,
    pure_apply]

/-- A single empty line, or the end of the line before. -/
theorem emptyLines_cons (starts : StartsPart rest) (line : Nat) :
    emptyLines ⟨line, '\n' :: rest⟩ = some ((), ⟨line + 1, rest⟩) := by
  have refuses : lineEnd ⟨line + 1, rest⟩ = none := lineEnd_of_startsPart starts
  rw [emptyLines, bind_of_reads (many_apply ..),
    repeated_of_reads (lineEnd_cons line rest) (by simp), repeated_of_refuses refuses, pure_apply]

/-! ## Up to the end of a line -/

theorem cutAtLineEnd_append {text : Text} (lineFeedless : '\n' ∉ text) (returnless : '\r' ∉ text)
    (rest : Text) : cutAtLineEnd (text ++ '\n' :: rest) = (text, '\n' :: rest) := by
  induction text with
  | nil => rfl
  | cons head text induction =>
      rcases List.ne_and_not_mem_of_not_mem_cons lineFeedless with ⟨notFeed, othersFeedless⟩
      rcases List.ne_and_not_mem_of_not_mem_cons returnless with ⟨notReturn, othersReturnless⟩
      rw [List.cons_append, cutAtLineEnd, induction othersFeedless othersReturnless]
      · exact fun feed => notFeed feed.symm
      · exact fun other returned => absurd returned.symm notReturn

theorem restOfLine_append {text : Text} (spoken : text ≠ []) (lineFeedless : '\n' ∉ text)
    (returnless : '\r' ∉ text) (line : Nat) (rest : Text) :
    restOfLine ⟨line, text ++ '\n' :: rest⟩ = some (text, ⟨line, '\n' :: rest⟩) := by
  apply nonempty_of_reads spoken
  simp [taking, cutAtLineEnd_append lineFeedless returnless, lineFeeds_eq_zero lineFeedless]

theorem nameOfPart_append {name : Text} (spoken : name ≠ []) (lineFeedless : '\n' ∉ name)
    (returnless : '\r' ∉ name) (line : Nat) (rest : Text) :
    nameOfPart ⟨line, name ++ '\n' :: rest⟩ = some (trimEnd name, ⟨line, '\n' :: rest⟩) := by
  rw [nameOfPart, bind_of_reads (optional_of_reads
    (restOfLine_append spoken lineFeedless returnless line rest)), pure_apply]
  rfl

end Scenarist.Gherkin
