import Scenarist.Proofs.Excerpt.Provenance
import Scenarist.Proofs.Text.Numbers

/-! # The addresses of excerpts

The URI of an excerpt ends in a name without dots and slashes, so it gives back
the name and, but for odd paths, the file. It does not tell apart two functions
of one name in one file, nor a function from a block that is called by its
number. -/

namespace Scenarist

open Text Comment

namespace Path

/-! ## Stems -/

theorem mem_split_of_mem_components {path name : Text} (member : .name name ∈ components path) :
    name ∈ split '/' path := by
  have isPiece : ∀ piece, component? piece = some (.name name) → piece = name := by
    intro piece found
    rw [component?] at found
    split at found
    · cases found
    · split at found
      · cases found
      · cases found
        rfl
  rw [components] at member
  split at member
  · cases member
  · next first others pieces =>
      rw [pieces]
      rcases List.mem_append.mp member with isFirst | inOthers
      · have found : firstComponent? path first = some (.name name) := Option.mem_toList.mp isFirst
        rw [firstComponent?] at found
        split at found
        · split at found <;> cases found
        · split at found
          · cases found
          · exact isPiece first found ▸ List.mem_cons_self
      · rcases List.mem_filterMap.mp inOthers with ⟨piece, inPieces, found⟩
        exact List.mem_cons_of_mem first (isPiece piece found ▸ inPieces)

theorem stemOfName_isPrefix (name : Text) : stemOfName name <+: name := by
  rw [stemOfName]
  split
  · exact List.take_prefix ..
  · exact List.prefix_rfl

theorem slash_not_mem_stem {path stem : Text} (found : stem? path = some stem) : '/' ∉ stem := by
  rcases Option.map_eq_some_iff.mp found with ⟨name, named, rfl⟩
  have isLast : (components path).getLast? = some (.name name) := by
    rw [fileName?] at named
    split at named
    · next last =>
        cases named
        exact last
    · cases named
  intro slash
  have inName := (stemOfName_isPrefix name).subset slash
  exact not_mem_of_mem_split (mem_split_of_mem_components (List.mem_of_getLast? isLast)) inName

/-! ## Files with a stem behind them -/

/-- A file as the first part of a URI. A file without a stem stands for its own stem. -/
def address (file : Text) : Text :=
  file ++ '/' :: (stem? file).getD file

/-- A file without a stem whose address is read as that of another file, as it is with
`...x/..` and `...x/../...x`. -/
def Doubles (file other : Text) : Prop :=
  stem? file = none ∧ ∃ directory last, '/' ∉ last ∧ file = directory ++ '/' :: last ∧
    other = file ++ '/' :: directory ∧ stem? other = some last

theorem Doubles.address_eq {file other : Text} (doubles : Doubles file other) :
    address file = address other := by
  rcases doubles with ⟨stemless, directory, last, -, whole, rfl, stem⟩
  rw [address, address, stemless, stem, Option.getD_none, Option.getD_some, List.append_assoc,
    List.cons_append, ← whole]

theorem doubles_of_address_eq {file other stem : Text} (stemless : stem? file = none)
    (hasStem : stem? other = some stem) (same : address file = address other) :
    Doubles file other := by
  have stemAbsent := slash_not_mem_stem hasStem
  rw [address, address, stemless, hasStem, Option.getD_none, Option.getD_some] at same
  by_cases parted : '/' ∈ file
  · rcases exists_append_separator parted with ⟨directory, last, whole, absent⟩
    have regrouped : (file ++ '/' :: directory) ++ '/' :: last = other ++ '/' :: stem := by
      rw [← same, List.append_assoc, List.cons_append, ← whole]
    rcases (append_separator_inj absent stemAbsent).mp regrouped with ⟨isOther, isStem⟩
    exact ⟨stemless, directory, last, absent, whole, isOther.symm, isStem ▸ hasStem⟩
  · have isOther := ((append_separator_inj parted stemAbsent).mp same).1
    rw [isOther, hasStem] at stemless
    cases stemless

theorem address_eq_iff (file other : Text) :
    address file = address other ↔ file = other ∨ Doubles file other ∨ Doubles other file := by
  constructor
  · intro same
    cases fileStem : stem? file with
    | none =>
        cases otherStem : stem? other with
        | none =>
            rw [address, address, fileStem, otherStem] at same
            have lengths := congrArg List.length same
            simp only [Option.getD_none, List.length_append, List.length_cons] at lengths
            exact .inl (List.append_inj same (by omega)).1
        | some stem => exact .inr (.inl (doubles_of_address_eq fileStem otherStem same))
    | some stem =>
        cases otherStem : stem? other with
        | none => exact .inr (.inr (doubles_of_address_eq otherStem fileStem same.symm))
        | some last =>
            rw [address, address, fileStem, otherStem] at same
            exact .inl ((append_separator_inj (slash_not_mem_stem fileStem)
              (slash_not_mem_stem otherStem)).mp same).1
  · rintro (rfl | doubles | doubles)
    · rfl
    · exact doubles.address_eq
    · exact doubles.address_eq.symm

end Path

namespace Excerpt

/-! ## Names and files in URIs -/

theorem uri_eq_address (excerpt : Excerpt) :
    excerpt.uri = Path.address excerpt.file ++ '.' :: excerpt.name ++ ".feature" := by
  simp [uri, Path.address]

/-- The name is made of letters, digits and underscores. -/
def IsPlain (excerpt : Excerpt) : Prop :=
  ∀ character ∈ excerpt.name, continuesName character = true

theorem IsPlain.dotless {excerpt : Excerpt} (plain : excerpt.IsPlain) : '.' ∉ excerpt.name := by
  intro dot
  cases plain '.' dot

theorem uri_eq_iff {first second : Excerpt} (firstPlain : first.IsPlain)
    (secondPlain : second.IsPlain) :
    first.uri = second.uri ↔ first.name = second.name ∧
      (first.file = second.file ∨ Path.Doubles first.file second.file ∨
        Path.Doubles second.file first.file) := by
  rw [uri_eq_address, uri_eq_address, List.append_left_inj,
    append_separator_inj firstPlain.dotless secondPlain.dotless, Path.address_eq_iff, and_comm]

/-- Two excerpts of one name, both of one file and not both called by the number of their
block, or of files with one address. -/
def Clash (first second : Excerpt) : Prop :=
  first.name = second.name ∧
    (first.file = second.file ∧ (first.identifier.isSome ∨ second.identifier.isSome) ∨
      Path.Doubles first.file second.file ∨ Path.Doubles second.file first.file)

/-- The numbers of two blocks keep their names apart. -/
theorem isSome_of_name_eq {first second : Excerpt} (same : first.name = second.name)
    (different : first.index ≠ second.index) :
    first.identifier.isSome ∨ second.identifier.isSome := by
  cases firstNamed : first.identifier with
  | some identifier => exact .inl rfl
  | none =>
      cases secondNamed : second.identifier with
      | some identifier => exact .inr rfl
      | none =>
          rw [name, name, firstNamed, secondNamed, Option.getD_none, Option.getD_none,
            List.append_cancel_left_eq] at same
          exact absurd (ofNat_injective same) different

theorem continuesName_of_mem_ofNat {value : Nat} {character : Char}
    (member : character ∈ Text.ofNat value) : continuesName character = true := by
  have digit := isDigit_of_mem_ofNat member
  simp [continuesName, Char.isAlphanum, digit]

theorem isPlain_of_identifier {excerpt : Excerpt}
    (proper : ∀ identifier, excerpt.identifier = some identifier → IsName identifier) :
    excerpt.IsPlain := by
  rw [IsPlain, name]
  cases named : excerpt.identifier with
  | some identifier => exact (proper identifier named).continuesName
  | none =>
      have plain : ∀ character ∈ ("block" : Text), continuesName character = true :=
        List.all_eq_true.mp (by decide)
      intro character member
      rcases List.mem_append.mp member with inWord | inNumber
      · exact plain character inWord
      · exact continuesName_of_mem_ofNat inNumber

/-! ## Excerpts of one source -/

theorem identifier_of_ofOccurrence {file : Text} {index : Nat} {occurrence : Occurrence}
    {excerpt : Excerpt} (outcome : ofOccurrence file index occurrence = .ok excerpt) :
    excerpt.file = file ∧ excerpt.index = index ∧
      ∃ block, occurrence = .block block ∧ excerpt.identifier = block.identifier := by
  rcases cases_of_ofOccurrence outcome with ⟨block, rfl, rfl | ⟨function, named, rfl⟩⟩
  · exact ⟨rfl, rfl, block, rfl, rfl⟩
  · exact ⟨rfl, rfl, block, rfl, named.symm⟩

end Excerpt

theorem mem_excerpts_extract {markers : Markers} {file source : Text} {excerpt : Excerpt}
    (lifted : excerpt ∈ (extract markers file source).excerpts) :
    excerpt.file = file ∧ excerpt.IsPlain := by
  rw [excerpts_extract] at lifted
  rcases List.mem_filterMap.mp lifted with ⟨⟨occurrence, index⟩, numbered, found⟩
  rcases Excerpt.identifier_of_ofOccurrence (Excerpt.ofNumbered?_eq_some_iff.mp found) with
    ⟨sameFile, -, block, rfl, sameIdentifier⟩
  refine ⟨sameFile, Excerpt.isPlain_of_identifier ?_⟩
  intro identifier named
  exact isName_of_mem_occurrencesFrom (List.fst_mem_of_mem_zipIdx numbered)
    (sameIdentifier.symm.trans named)

theorem pairwise_index_extract (markers : Markers) (file source : Text) :
    (extract markers file source).excerpts.Pairwise fun first second =>
      first.index < second.index := by
  have numbers : ((occurrences markers source).zipIdx 1).Pairwise fun first second =>
      first.2 < second.2 := by
    rw [← List.pairwise_map, List.zipIdx_map_snd]
    exact List.pairwise_lt_range'
  rw [excerpts_extract, List.pairwise_filterMap]
  refine numbers.imp ?_
  intro first second before firstExcerpt firstFound secondExcerpt secondFound
  rcases Excerpt.identifier_of_ofOccurrence (Excerpt.ofNumbered?_eq_some_iff.mp firstFound) with
    ⟨-, firstIndex, -⟩
  rcases Excerpt.identifier_of_ofOccurrence (Excerpt.ofNumbered?_eq_some_iff.mp secondFound) with
    ⟨-, secondIndex, -⟩
  rwa [firstIndex, secondIndex]

/-! ## Excerpts of many sources -/

/-- All excerpts of some sources, each of which is a file and its text. -/
def corpus (markers : Markers) (sources : List (Text × Text)) : List Excerpt :=
  sources.flatMap fun source => (extract markers source.1 source.2).excerpts

/-- Two excerpts of different files, or of different blocks, have one URI just if they clash. -/
theorem pairwise_uri_corpus (markers : Markers) {sources : List (Text × Text)}
    (distinct : (sources.map Prod.fst).Nodup) :
    (corpus markers sources).Pairwise fun first second =>
      first.uri = second.uri ↔ first.Clash second := by
  rw [corpus, List.pairwise_flatMap]
  constructor
  · intro source member
    refine (pairwise_index_extract markers source.1 source.2).imp_of_mem ?_
    intro first second firstLifted secondLifted before
    rw [Excerpt.uri_eq_iff (mem_excerpts_extract firstLifted).2
      (mem_excerpts_extract secondLifted).2, Excerpt.Clash]
    refine and_congr_right fun same => or_congr_left (Iff.symm (and_iff_left ?_))
    exact Excerpt.isSome_of_name_eq same (Nat.ne_of_lt before)
  · refine (List.pairwise_map.mp distinct).imp ?_
    intro source other different first firstLifted second secondLifted
    rcases mem_excerpts_extract firstLifted with ⟨firstFile, firstPlain⟩
    rcases mem_excerpts_extract secondLifted with ⟨secondFile, secondPlain⟩
    have apart : first.file ≠ second.file := by rwa [firstFile, secondFile]
    simp only [Excerpt.uri_eq_iff firstPlain secondPlain, Excerpt.Clash, apart, false_and]

/-! The same test in two files, and a block behind it that is called by its number. -/

def loginSource : Text :=
  ("// [gherkin]\n// Scenario: a\n// [end]\nfunc Test_login(\n" : Text) ++
    "// [gherkin]\n// Feature: b\n// [end]\n"

def loginSources : List (Text × Text) :=
  [("pkg/a_test.go", loginSource), ("pkg/b_test.go", loginSource)]

theorem pairwise_uri_corpus_login :
    (loginSources.map Prod.fst).Nodup ∧
      (corpus {} loginSources).Pairwise fun first second =>
        first.uri = second.uri ↔ first.Clash second := by
  have distinct : (loginSources.map Prod.fst).Nodup := by decide
  exact ⟨distinct, pairwise_uri_corpus {} distinct⟩

/-! Methods of one name on two receivers, a function with the name of a block, and a test in two
files of one address. -/

def refundSource : Text :=
  ("// [gherkin]\n// Feature: a\n// [end]\nfunc (c *Card) Test_refund(\n" : Text) ++
    "// [gherkin]\n// Feature: b\n// [end]\nfunc (b *Bank) Test_refund(\n"

def numberedSource : Text :=
  ("// [gherkin]\n// Feature: a\n// [end]\nfunc block2(\n" : Text) ++
    "// [gherkin]\n// Feature: b\n// [end]\n"

def paySource : Text :=
  "// [gherkin]\n// Feature: a\n// [end]\nfunc Test_pay(\n"

theorem not_nodup_uris :
    (corpus {} [("pay.go", refundSource)]).map Excerpt.uri =
        List.replicate 2 ("pay.go/pay.Test_refund.feature" : Text) ∧
      (corpus {} [("pay.go", numberedSource)]).map Excerpt.uri =
        List.replicate 2 ("pay.go/pay.block2.feature" : Text) ∧
      (corpus {} [("...x/..", paySource), ("...x/../...x", paySource)]).map Excerpt.uri =
        List.replicate 2 ("...x/../...x/...Test_pay.feature" : Text) ∧
      ¬∀ sources : List (Text × Text), (sources.map Prod.fst).Nodup →
        ((corpus {} sources).map Excerpt.uri).Nodup := by
  have twice : (corpus {} [("pay.go", refundSource)]).map Excerpt.uri =
      List.replicate 2 ("pay.go/pay.Test_refund.feature" : Text) := by decide +kernel
  refine ⟨twice, by decide +kernel, by decide +kernel, ?_⟩
  intro distinguishes
  have distinct := distinguishes [("pay.go", refundSource)] (by decide)
  rw [twice] at distinct
  exact absurd distinct (by decide)

end Scenarist
