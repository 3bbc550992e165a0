import Scenarist.Excerpt
import Scenarist.Proofs.Comment.LineEnds

/-! # Excerpts of sources whose lines end with carriage returns

What is lifted out of a source, and what is skipped, does not depend on the
convention that the source ends its lines by. -/

namespace Scenarist

open Text Comment

namespace Excerpt

theorem cleanBlock_withReturns (block : Block) :
    cleanBlock { block with text := withReturns block.text } = cleanBlock block := by
  simp only [cleanBlock, stripNumberSigns_withReturns, clean_withReturns]

theorem ofOccurrence_withReturns (file : Text) (index : Nat) (occurrence : Occurrence) :
    ofOccurrence file index occurrence.withReturns = ofOccurrence file index occurrence := by
  cases occurrence with
  | unterminated line capture => rfl
  | block block =>
      simp only [Occurrence.withReturns, ofOccurrence, ofBlock, cleanBlock_withReturns]

end Excerpt

/-- A carriage return before each line feed changes neither the excerpts of a source nor what is
skipped. -/
theorem extract_withReturns (markers : Markers) (file source : Text)
    (withinLine : markers.WithinLine) :
    extract markers file (withReturns source) = extract markers file source := by
  have sameOccurrences : occurrences markers (withReturns source) =
      (occurrences markers source).map Occurrence.withReturns :=
    occurrencesFrom_withReturns withinLine {} source
  rw [extract, extract, sameOccurrences, List.mapIdx_eq_zipIdx_map, List.mapIdx_eq_zipIdx_map,
    List.zipIdx_map, List.map_map]
  congr 2
  funext numbered
  exact Excerpt.ofOccurrence_withReturns file (numbered.2 + 1) numbered.1

/-- A source that ends some of its lines with carriage returns already, behind a blank comment
and in the line of a function, and an end marker that stands everywhere. -/
theorem extract_withReturns_mixed :
    let source : Text := "# [gherkin]\r\n# \n#\tFeature: a\r\r\n# [gherkin]\nfn\t\rt(\r\n"
    ({} : Markers).WithinLine ∧ ({ finish := [] } : Markers).WithinLine ∧
      extract {} "a.py" (withReturns source) = extract {} "a.py" source ∧
      extract { finish := [] } "a.py" (withReturns source) =
        extract { finish := [] } "a.py" source := by
  have usual : ({} : Markers).WithinLine := ⟨by decide, by decide⟩
  have everywhere : ({ finish := [] } : Markers).WithinLine := ⟨by decide, by decide⟩
  exact ⟨usual, everywhere, extract_withReturns {} "a.py" _ usual,
    extract_withReturns { finish := [] } "a.py" _ everywhere⟩

end Scenarist
