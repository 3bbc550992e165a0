import Scenarist.Proofs.Attempts
import Scenarist.Proofs.Tag.SingleTag

/-! # The terms of the older notation

Two ampersands part a text into groups, and commas part a group into terms. A term
that is well formed writes one literal, which is said here without the reader. The
groups are read if all their terms are well formed, and otherwise the first term that
is not is the fault. -/

namespace Scenarist.Tag

open Text

/-! ## Terms -/

namespace Literal

/-- The term is a tilde if the literal is negated, any whitespace, the at sign and the name. -/
structure WrittenAs (literal : Literal) (term : Text) : Prop where
  named : literal.name ≠ []
  spaceless : ∀ character ∈ literal.name, isSpace character = false
  spelt : ∃ gap, isBlankText gap = true ∧
    term = (if literal.negated then ['~'] else []) ++ (gap ++ '@' :: literal.name)

theorem isName_iff (name : Text) :
    isName name = true ↔ name ≠ [] ∧ ∀ character ∈ name, isSpace character = false := by
  simp [isName]

theorem ofTag_eq_some_iff (negated : Bool) (tag : Text) (literal : Literal) :
    ofTag negated tag = some literal ↔
      literal.negated = negated ∧ isName literal.name = true ∧ tag = '@' :: literal.name := by
  rcases literal with ⟨sign, name⟩
  rw [ofTag]
  constructor
  · intro read
    split at read
    · cases read
    · next body stripped =>
        rw [strip_eq_some_iff] at stripped
        split at read
        · next isName =>
            cases read
            exact ⟨rfl, isName, stripped⟩
        · cases read
  · rintro ⟨rfl, isName, rfl⟩
    simp only [strip, if_true]
    exact if_pos isName

/-- Behind what is not whitespace, a term is read as the literal that it writes. -/
theorem ofTerm_eq_some_iff {term : Text} (unspaced : ∀ head ∈ term.head?, isSpace head = false)
    (literal : Literal) : ofTerm term = some literal ↔ literal.WrittenAs term := by
  rcases literal with ⟨negated, name⟩
  rw [ofTerm]
  split
  · next tag stripped =>
      rw [strip_eq_some_iff] at stripped
      subst stripped
      rw [ofTag_eq_some_iff, isName_iff, trimStart_eq_cons_iff rfl]
      constructor
      · rintro ⟨rfl, ⟨named, spaceless⟩, gap, blank, rfl⟩
        exact ⟨named, spaceless, gap, blank, rfl⟩
      · rintro ⟨named, spaceless, gap, blank, whole⟩
        cases negated with
        | true => exact ⟨rfl, ⟨named, spaceless⟩, gap, blank, List.append_cancel_left whole⟩
        | false =>
            cases gap with
            | nil => cases whole
            | cons head gap =>
                cases whole
                cases blank
  · next untilded =>
      have noTilde : ∀ rest, term ≠ '~' :: rest := by
        intro rest equal
        rw [(strip_eq_some_iff ['~'] term rest).mpr equal] at untilded
        cases untilded
      rw [ofTag_eq_some_iff, isName_iff]
      constructor
      · rintro ⟨rfl, ⟨named, spaceless⟩, rfl⟩
        exact ⟨named, spaceless, [], rfl, rfl⟩
      · rintro ⟨named, spaceless, gap, blank, whole⟩
        cases negated with
        | true => exact absurd whole (noTilde _)
        | false =>
            -- Without a tilde before it, whitespace would be the beginning of the term.
            cases gap with
            | nil => exact ⟨rfl, ⟨named, spaceless⟩, whole⟩
            | cons head gap =>
                have notSpace := unspaced head (by rw [whole]; rfl)
                simp [isBlankText, notSpace] at blank

/-- What a literal demands of a list of tags. -/
def Holds (tags : List Text) : Literal → Prop
  | ⟨false, name⟩ => ∃ tag ∈ tags, bare tag = bare name
  | ⟨true, name⟩ => ¬∃ tag ∈ tags, bare tag = bare name

theorem eval_expr (tags : List Text) (literal : Literal) :
    literal.expr.eval tags = true ↔ literal.Holds tags := by
  rcases literal with ⟨negated, name⟩
  cases negated <;> simp [expr, Expr.eval, carries, Holds]

end Literal

/-! ## Reading terms -/

/-- The groups of terms in a text, without the whitespace around the terms. -/
def terms (text : Text) : List (List Text) :=
  (splitAmpersands text).map fun group => (split ',' group).map trim

def WellFormed (term : Text) : Prop :=
  ∃ literal : Literal, literal.WrittenAs term

/-- The literal that the term writes holds of the tags. -/
def Satisfies (tags : List Text) (term : Text) : Prop :=
  ∃ literal : Literal, literal.WrittenAs term ∧ literal.Holds tags

/-- The terms that cannot be read, in their order. -/
def malformed (text : Text) : List Text :=
  (terms text).flatten.filter fun term => (Literal.ofTerm term).isNone

theorem Literal.results_ofText (pieces : List Text) :
    Attempts.results (pieces.map ofText) = (pieces.map trim).filterMap ofTerm := by
  induction pieces with
  | nil => rfl
  | cons piece pieces induction =>
      rw [List.map_cons, List.map_cons, ofText]
      cases read : ofTerm (trim piece) with
      | none => rw [Attempts.results_cons_error, induction, List.filterMap_cons_none read]
      | some literal => rw [Attempts.results_cons_ok, induction, List.filterMap_cons_some read]

theorem Literal.failures_ofText (pieces : List Text) :
    Attempts.failures (pieces.map ofText) =
      ((pieces.map trim).filter fun term => (ofTerm term).isNone).map .notATag := by
  induction pieces with
  | nil => rfl
  | cons piece pieces induction =>
      rw [List.map_cons, List.map_cons, ofText]
      cases read : ofTerm (trim piece) with
      | none =>
          rw [Attempts.failures_cons_error, induction, List.filter_cons_of_pos (by simp [read])]
          rfl
      | some literal =>
          rw [Attempts.failures_cons_ok, induction, List.filter_cons_of_neg (by simp [read])]

/-- Either all terms are read, or the first that cannot be is the fault. -/
theorem Alternatives.ofText_eq {text : Text} (spoken : isBlankText text = false) :
    Alternatives.ofText text =
      Attempts.unlessFailed ((terms text).map fun group => group.filterMap Literal.ofTerm)
        ((malformed text).map .notATag) := by
  have grouped : Alternatives.ofText text =
      ((splitAmpersands text).map (split ',')).mapM fun group => group.mapM Literal.ofText := by
    rw [ofText, spoken, List.mapM_map]
    rfl
  have flattened : (terms text).flatten =
      ((splitAmpersands text).map (split ',')).flatten.map trim := by
    rw [List.map_flatten, List.map_map]
    rfl
  rw [grouped, Attempts.mapM_mapM_eq_unlessFailed, Literal.failures_ofText, ← flattened,
    List.map_map, terms, List.map_map]
  congr 2
  funext group
  exact Literal.results_ofText (split ',' group)

theorem isSpace_head_of_mem_terms {text : Text} {group : List Text} {term : Text}
    (inText : group ∈ terms text) (inGroup : term ∈ group) :
    ∀ head ∈ term.head?, isSpace head = false := by
  rcases List.mem_map.mp inText with ⟨source, -, rfl⟩
  rcases List.mem_map.mp inGroup with ⟨piece, -, rfl⟩
  exact (trims_trim piece).first

theorem wellFormed_iff {text : Text} {group : List Text} {term : Text}
    (inText : group ∈ terms text) (inGroup : term ∈ group) :
    WellFormed term ↔ (Literal.ofTerm term).isNone = false := by
  have unspaced := isSpace_head_of_mem_terms inText inGroup
  simp [WellFormed, ← Literal.ofTerm_eq_some_iff unspaced, Option.isSome_iff_exists]

end Scenarist.Tag
