import Scenarist.Proofs.Robot.Cases
import Scenarist.Proofs.Text.Words

/-! # Documentation of test cases

The description of a feature may go over any number of lines. The test case
documents it by its words alone, so the documentation takes a single line. -/

namespace Scenarist.Robot

open Text

def documentationLine (description : Text) : Text :=
  ("    [Documentation]    " : Text) ++ flatten description

theorem fieldsLine_documentation (description : Text) :
    fieldsLine ["[Documentation]", flatten description] = documentationLine description := by
  rw [fieldsLine, List.flatMap_cons, List.flatMap_singleton]
  rfl

theorem documentation_eq_line (description : Text) :
    documentation description =
      if description.isEmpty then [] else documentationLine description ++ ['\n'] := by
  rw [documentation_eq, documentationLines, fieldsLine_documentation]
  split
  · rfl
  · exact List.flatMap_singleton ..

/-- No line break of any kind is in the line, for a line break is whitespace. -/
theorem eq_space_of_mem_documentationLine (description : Text) :
    ∀ character ∈ documentationLine description, isSpace character = true → character = ' ' := by
  refine List.forall_mem_append.mpr ⟨?_, (singleSpaced_flatten description).spaces⟩
  intro character inField space
  have spaces : ("    [Documentation]    " : Text).filter isSpace = List.replicate 8 ' ' := by
    decide
  exact List.eq_of_mem_replicate (spaces ▸ List.mem_filter.mpr ⟨inField, space⟩)

/-- A flattened text is its words, in their order, with single spaces between them, and flattening
it again changes nothing. The documentation made of it is one line, or none where the description
is empty. -/
theorem flatten_keeps_words (text : Text) :
    (∀ runs, Runs text runs ↔ runs = words text) ∧ flatten text = join [' '] (words text) ∧
      flatten (flatten text) = flatten text ∧ SingleSpaced (flatten text) ∧
      documentation text =
        (if text.isEmpty then [] else documentationLine text ++ ['\n']) ∧
      ∀ character ∈ documentationLine text, isSpace character = true → character = ' ' := by
  refine ⟨fun runs => runs_iff_eq_words, flatten_eq_join_words text, flatten_flatten text,
    singleSpaced_flatten text, documentation_eq_line text, ?_⟩
  exact eq_space_of_mem_documentationLine text

example : documentation "As a customer\r\n\u2003 I want\tto pay\n" =
    "    [Documentation]    As a customer I want to pay\n" := by decide

end Scenarist.Robot
