import Scenarist.Proofs.Comment.Opening

/-! # Plain function declarations

A line that opens a function in the plainest way, with nothing but blanks before
the keyword and an opening parenthesis right behind the name, declares this
name whatever stands behind the parenthesis. -/

namespace Scenarist.Comment

open Text

theorem lineFeed_not_mem_keyword {keyword : Text}
    (knownKeyword : keyword ∈ functionKeywords) : '\n' ∉ keyword := by
  simp only [functionKeywords, List.mem_cons, List.not_mem_nil, or_false] at knownKeyword
  rcases knownKeyword with rfl | rfl | rfl <;> decide

/-- A line that opens a function, such as `func name(`. -/
structure FunctionLine where
  indent : Text
  keyword : Text
  name : Text
  arguments : Text
  blankIndent : ∀ character ∈ indent, isBlank character = true
  knownKeyword : keyword ∈ functionKeywords
  properName : IsName name
  onOneLine : '\n' ∉ arguments

namespace FunctionLine

def text (line : FunctionLine) : Text :=
  line.indent ++ (line.keyword ++ (' ' :: (line.name ++ ('(' :: line.arguments))))

theorem lineFeed_not_mem_text (line : FunctionLine) : '\n' ∉ line.text := by
  intro member
  simp only [text, List.mem_append, List.mem_cons] at member
  rcases member with inIndent | inKeyword | isSpace | inName | isParenthesis | inArguments
  · exact absurd (line.blankIndent '\n' inIndent) (by decide)
  · exact lineFeed_not_mem_keyword line.knownKeyword inKeyword
  · exact absurd isSpace (by decide)
  · exact line.properName.not_mem rfl inName
  · exact absurd isParenthesis (by decide)
  · exact line.onOneLine inArguments

end FunctionLine

/-- A plain opening, of which only the arguments are left open. -/
def FunctionLine.opening (line : FunctionLine) (arguments : Text) : Opening where
  indent := line.indent
  visibility := []
  asynchronous := []
  keyword := line.keyword ++ [' ']
  receiver := []
  name := line.name
  gap := []
  bracket := '('
  rest := arguments
  blankIndent := line.blankIndent
  isVisibility := perhaps_nil IsVisibility
  isAsynchronous := perhaps_nil IsAsynchronous
  isKeyword := ⟨line.keyword, [' '], line.knownKeyword,
    ⟨List.cons_ne_nil _ _, List.forall_mem_singleton.mpr rfl⟩, rfl⟩
  isReceiver := perhaps_nil IsReceiver
  properName := line.properName
  blankGap := isBlank_of_mem_nil
  opensList := opensList_parenthesis

theorem FunctionLine.nameInLine_plain (line : FunctionLine) (arguments : Text) :
    nameInLine (line.indent ++ (line.keyword ++ (' ' :: (line.name ++ '(' :: arguments)))) =
      some line.name := by
  have named := (line.opening arguments).nameInLine_line
  simpa [Opening.line, opening] using named

/-- Whatever else its line holds, a declared name is a proper one. -/
theorem isName_of_declaredName {text name : Text} (declared : declaredName text = some name) :
    IsName name := by
  rcases Option.bind_eq_some_iff.mp declared with ⟨line, -, inLine⟩
  rcases exists_opening_of_nameInLine inLine with ⟨opening, -, rfl⟩
  exact opening.properName

theorem FunctionLine.declaredName_eq (line : FunctionLine) (rest : Text) :
    declaredName (line.text ++ '\n' :: rest) = some line.name := by
  have regrouped : line.text =
      (line.indent ++ (line.keyword ++ (' ' :: line.name))) ++ '(' :: line.arguments := by
    simp [FunctionLine.text]
  rcases dropReturn_append_cons (by decide : '(' ≠ '\r')
    (line.indent ++ (line.keyword ++ (' ' :: line.name))) line.arguments with ⟨kept, dropped⟩
  rw [declaredName, head?_lines_append_cons line.lineFeed_not_mem_text, regrouped, dropped]
  simpa using line.nameInLine_plain kept

/-- The last line of a source declares its function without a line feed, too. -/
theorem FunctionLine.declaredName_text (line : FunctionLine) :
    declaredName line.text = some line.name := by
  have spoken : line.text.isEmpty = false := by simp [FunctionLine.text]
  have alone : lines line.text = [line.text] := by
    rw [lines, split_of_not_mem line.lineFeed_not_mem_text, closedLines, spoken]
    rfl
  rw [declaredName, alone]
  exact line.nameInLine_plain line.arguments

end Scenarist.Comment
