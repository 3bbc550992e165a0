import Scenarist.Comment.Declaration
import Scenarist.Text.Search

/-! # Marked blocks

A block begins on the line after a start marker and ends right before the next
end marker. The line after the end marker may declare the function that the
block belongs to. A start marker without an end marker claims the rest of the
source, so it is the last thing found. -/

namespace Scenarist.Comment

open Text

/-- The texts that open and close a block. -/
structure Markers where
  start : Text := "[gherkin]"
  finish : Text := "[end]"
deriving DecidableEq, Repr

/-! `lead` is what stands before the start marker on its line, most often the
token of the comment. -/

structure Block where
  line : Nat
  text : Text
  identifier : Option Text
  lead : Text
deriving DecidableEq, Repr

/-- What a start marker turns out to open. -/
inductive Occurrence where
  | block (block : Block)
  | unterminated (line : Nat) (capture : Text)
deriving DecidableEq, Repr

/-! A preview names a block in a diagnostic: its first line that says
something, without comment tokens and cut to a fixed width. -/

def previewWidth : Nat := 40

def isCommentMark (character : Char) : Bool :=
  character = '/' || character = '#' || character = '*' || isBlank character

def shorten (width : Nat) (text : Text) : Text :=
  if text.length > width then text.take width ++ ("..." : Text) else text

def preview (text : Text) : Text :=
  let spoken := (lines text).map fun line => trimEnd (line.dropWhile isCommentMark)
  shorten previewWidth ((spoken.find? fun line => !line.isEmpty).getD [])

/-! A place in the source: the number of the line, and the text of that line
up to the place. -/

structure Place where
  line : Nat := 1
  lead : Text := []
deriving DecidableEq, Repr

def Place.after (place : Place) (text : Text) : Place where
  line := place.line + lineFeeds text
  lead := if text.contains '\n' then lastLine text else place.lead ++ text

/-! The pieces of one terminated block: the text before the start marker, the
rest of the marker's line with the line feed, the block's text, the end marker
and the text after it. -/

structure Pieces where
  before : Text
  startLine : Text
  text : Text
  endMarker : Text
  after : Text
deriving DecidableEq, Repr

def upToLineFeed : Text → Text
  | [] => []
  | head :: rest => if head = '\n' then ['\n'] else head :: upToLineFeed rest

theorem upToLineFeed_append {text rest : Text}
    (found : afterLineFeed text = some rest) : upToLineFeed text ++ rest = text := by
  induction text with
  | nil => simp [afterLineFeed] at found
  | cons head tail induction =>
      simp only [afterLineFeed] at found
      simp only [upToLineFeed]
      split
      · next equal =>
          rw [if_pos equal] at found
          cases found
          simp [equal]
      · next different =>
          rw [if_neg different] at found
          simp [induction found]

inductive Cut where
  | nothing
  | unclosed (before : Text) (capture : Text)
  | closed (pieces : Pieces)
deriving DecidableEq, Repr

/-- Cuts the first block off a source. -/
def cut (markers : Markers) (source : Text) : Cut :=
  match find? markers.start source with
  | none => .nothing
  | some opening =>
    let marked := opening.found ++ opening.after
    match afterLineFeed marked with
    | none => .unclosed opening.before []
    | some body =>
      match find? markers.finish body with
      | none => .unclosed opening.before (preview body)
      | some closing =>
        .closed ⟨opening.before, upToLineFeed marked, closing.before,
          closing.found, closing.after⟩

def Pieces.source (pieces : Pieces) : Text :=
  pieces.before ++ (pieces.startLine ++ (pieces.text ++ (pieces.endMarker ++ pieces.after)))

theorem source_of_cut {markers : Markers} {source : Text} {pieces : Pieces}
    (isClosed : cut markers source = .closed pieces) : pieces.source = source := by
  simp only [cut] at isClosed
  split at isClosed
  · cases isClosed
  · next opening openingFound =>
      split at isClosed
      · cases isClosed
      · next body bodyFound =>
          split at isClosed
          · cases isClosed
          · next closing closingFound =>
              cases isClosed
              simp only [Pieces.source]
              rw [Found.append_of_find? closingFound, upToLineFeed_append bodyFound,
                Found.append_of_find? openingFound]

theorem length_after_cut {markers : Markers} {source : Text} {pieces : Pieces}
    (isClosed : cut markers source = .closed pieces) :
    pieces.after.length < source.length := by
  have whole := congrArg List.length (source_of_cut isClosed)
  have nonempty : 0 < pieces.startLine.length := by
    simp only [cut] at isClosed
    split at isClosed
    · cases isClosed
    · split at isClosed
      · cases isClosed
      · next found =>
          split at isClosed
          · cases isClosed
          · cases isClosed
            have shorter := length_afterLineFeed found
            have whole := congrArg List.length (upToLineFeed_append found)
            simp only [List.length_append] at whole shorter ⊢
            omega
  simp only [Pieces.source, List.length_append] at whole
  omega

def Pieces.consumed (pieces : Pieces) : Text :=
  pieces.before ++ (pieces.startLine ++ (pieces.text ++ pieces.endMarker))

def Pieces.block (place : Place) (pieces : Pieces) : Block where
  line := (place.after pieces.before).line
  text := pieces.text
  identifier := afterLineFeed pieces.after >>= declaredName
  lead := trim (place.after pieces.before).lead

def occurrencesFrom (markers : Markers) (place : Place) (source : Text) :
    List Occurrence :=
  match _result : cut markers source with
  | .nothing => []
  | .unclosed before capture =>
    [.unterminated (place.after before).line capture]
  | .closed pieces =>
    .block (pieces.block place) ::
      occurrencesFrom markers (place.after pieces.consumed) pieces.after
termination_by source.length
decreasing_by exact length_after_cut (by assumption)

/-- All blocks of a source, in their order. -/
def occurrences (markers : Markers) (source : Text) : List Occurrence :=
  occurrencesFrom markers {} source

end Scenarist.Comment
