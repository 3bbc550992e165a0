import Scenarist.Proofs.Excerpt.Addresses
import Scenarist.Proofs.Robot.ShortName

/-! # Short names of excerpts

What the default pattern captures can be said without the pattern: cut behind its
last separator, a URI has a base name, and that is the short name and the
extension. The URI of an excerpt is made so that its short name tells the file and
the block. -/

namespace Scenarist.Robot

open Text Comment

/-! A URI is cut behind its last separator. Without one it is a base name. -/

def isOfBaseName (character : Char) : Bool :=
  !isSeparator character

def directories (uri : Text) : Text :=
  dropEndWhile isOfBaseName uri

def baseName (uri : Text) : Text :=
  (uri.reverse.takeWhile isOfBaseName).reverse

example : directories "a/b\\c.d" = "a/b\\" := by decide
example : baseName "a/b\\c.d" = "c.d" := by decide

theorem directories_append_baseName (uri : Text) : directories uri ++ baseName uri = uri := by
  rw [directories, dropEndWhile, baseName, ← List.reverse_append, List.takeWhile_append_dropWhile,
    List.reverse_reverse]

theorem isSeparator_of_mem_baseName {uri : Text} :
    ∀ character ∈ baseName uri, isSeparator character = false := by
  intro character member
  have isOf : isOfBaseName character = true := List.mem_takeWhile_imp (List.mem_reverse.mp member)
  simpa [isOfBaseName] using isOf

theorem isSeparator_of_getLast?_directories {uri : Text} :
    ∀ last ∈ (directories uri).getLast?, isSeparator last = true := by
  intro last isLast
  have ends : isOfBaseName last = false := getLast?_dropEndWhile_kept isLast
  simpa [isOfBaseName] using ends

/-- Where the cut falls. -/
theorem directories_append {directory base : Text} (isDirectory : IsDirectory directory)
    (whole : ∀ character ∈ base, isSeparator character = false) :
    directories (directory ++ base) = directory := by
  have isOf : ∀ character ∈ base, isOfBaseName character = true :=
    fun character member => by simp [isOfBaseName, whole character member]
  rw [directories, dropEndWhile_append isOf]
  apply dropEndWhile_eq_self
  intro last isLast
  simp [isOfBaseName, isDirectory.closed last isLast]

theorem extension_eq : extension = (".feature" : Text) := rfl

theorem isSeparator_of_mem_extension :
    ∀ character ∈ extension, isSeparator character = false := by
  intro character member
  have separatorless : extension.any isSeparator = false := by decide
  exact Bool.eq_false_iff.mpr (List.any_eq_false.mp separatorless character member)

theorem Cuts.directories_eq {uri directory short : Text} (cuts : Cuts uri directory short) :
    directories uri = directory := by
  rw [cuts.whole]
  apply directories_append cuts.isDirectory
  rw [List.forall_mem_append]
  exact ⟨cuts.isShort.whole, isSeparator_of_mem_extension⟩

/-- The pattern cuts a URI where its base name begins. -/
theorem exists_cuts_iff (uri short : Text) : (∃ directory, Cuts uri directory short) ↔
    '\n' ∉ directories uri ∧ baseName uri = short ++ extension ∧ short ≠ [] := by
  constructor
  · rintro ⟨directory, cuts⟩
    have isBaseName : baseName uri = short ++ extension := by
      have same := (directories_append_baseName uri).trans cuts.whole
      rw [cuts.directories_eq] at same
      exact List.append_cancel_left same
    exact ⟨cuts.directories_eq ▸ cuts.isDirectory.onOneLine, isBaseName, cuts.isShort.spoken⟩
  · rintro ⟨onOneLine, isBaseName, spoken⟩
    have isShort : IsShortName short := by
      have whole : ∀ character ∈ baseName uri, isSeparator character = false :=
        isSeparator_of_mem_baseName
      rw [isBaseName, List.forall_mem_append] at whole
      exact ⟨spoken, whole.1⟩
    refine ⟨directories uri, ⟨onOneLine, isSeparator_of_getLast?_directories⟩, isShort, ?_⟩
    rw [← isBaseName, directories_append_baseName]

/-! ## Excerpts -/

theorem isSeparator_of_absent {text : Text} (slash : '/' ∉ text) (backslash : '\\' ∉ text) :
    ∀ character ∈ text, isSeparator character = false := by
  intro character member
  have notSlash : character ≠ '/' := fun isSlash => slash (isSlash ▸ member)
  have notBackslash : character ≠ '\\' := fun isBackslash => backslash (isBackslash ▸ member)
  simp [isSeparator, notSlash, notBackslash]

theorem shortName_uri {excerpt : Excerpt} {stem : Text} (plain : excerpt.IsPlain)
    (hasStem : Path.stem? excerpt.file = some stem) (onOneLine : '\n' ∉ excerpt.file)
    (unescaped : '\\' ∉ stem) :
    shortName defaultPattern excerpt.uri = .ok (stem ++ '.' :: excerpt.name) := by
  have isDirectory : IsDirectory (excerpt.file ++ ['/']) :=
    isDirectory_concat_iff.mpr ⟨onOneLine, rfl⟩
  have isShort : IsShortName (stem ++ '.' :: excerpt.name) := by
    refine ⟨by simp, ?_⟩
    rw [List.forall_mem_append, List.forall_mem_cons]
    have slash : '/' ∉ excerpt.name := fun member => by cases plain '/' member
    have backslash : '\\' ∉ excerpt.name := fun member => by cases plain '\\' member
    exact ⟨isSeparator_of_absent (Path.slash_not_mem_stem hasStem) unescaped, rfl,
      isSeparator_of_absent slash backslash⟩
  have cut : excerpt.uri =
      (excerpt.file ++ ['/']) ++ ((stem ++ '.' :: excerpt.name) ++ extension) := by
    rw [excerpt.uri_eq_address, Path.address, hasStem, Option.getD_some, ← extension_eq]
    simp only [List.append_assoc, List.cons_append, List.nil_append]
  rw [cut]
  exact shortName_append isDirectory isShort

/-- The short name of a URI is its base name without the extension, if there is something before the
extension and the directories stand on one line. An excerpt has one, made of the stem of its file
and of the name of its function, or else the number of its block. -/
theorem shortName_eq_baseName :
    (∀ uri short : Text, shortName defaultPattern uri = .ok short ↔
      '\n' ∉ directories uri ∧ baseName uri = short ++ (".feature" : Text) ∧ short ≠ []) ∧
    ∀ (markers : Markers) (file source stem : Text) (excerpt : Excerpt),
      excerpt ∈ (extract markers file source).excerpts → '\n' ∉ file →
        Path.stem? file = some stem → '\\' ∉ stem →
          shortName defaultPattern excerpt.uri = .ok (stem ++ '.' ::
            excerpt.identifier.getD (("block" : Text) ++ Text.ofNat excerpt.index)) := by
  refine ⟨?_, ?_⟩
  · intro uri short
    rw [← extension_eq, shortName_eq_ok_iff, exists_cuts_iff]
  · intro markers file source stem excerpt lifted onOneLine hasStem unescaped
    rcases mem_excerpts_extract lifted with ⟨rfl, plain⟩
    have named := shortName_uri plain hasStem onOneLine unescaped
    rw [Excerpt.name] at named
    exact named

/-! A block without a function, in a file with two extensions. -/

def cartSource : Text :=
  "// [gherkin]\n// Feature: cart\n// [end]\n"

def cartExcerpt : Excerpt :=
  ⟨.feature none, "Feature: cart\n", "shop/cart.feature.go", 1⟩

theorem shortName_eq_baseName_cart :
    (cartExcerpt ∈ (extract {} "shop/cart.feature.go" cartSource).excerpts ∧
      '\n' ∉ ("shop/cart.feature.go" : Text) ∧
      Path.stem? "shop/cart.feature.go" = some ("cart.feature" : Text) ∧
      '\\' ∉ ("cart.feature" : Text)) ∧
    shortName defaultPattern cartExcerpt.uri = .ok ("cart.feature.block1" : Text) := by
  have lifted : (extract {} "shop/cart.feature.go" cartSource).excerpts = [cartExcerpt] := by
    decide +kernel
  have member : cartExcerpt ∈ (extract {} "shop/cart.feature.go" cartSource).excerpts :=
    lifted ▸ List.mem_singleton_self cartExcerpt
  have onOneLine : '\n' ∉ ("shop/cart.feature.go" : Text) := by decide
  have hasStem : Path.stem? "shop/cart.feature.go" = some ("cart.feature" : Text) := by decide
  have unescaped : '\\' ∉ ("cart.feature" : Text) := by decide
  have named := shortName_eq_baseName.2 {} "shop/cart.feature.go" cartSource "cart.feature"
    cartExcerpt member onOneLine hasStem unescaped
  have spelled : ("cart.feature" : Text) ++ '.' :: cartExcerpt.identifier.getD
      (("block" : Text) ++ Text.ofNat cartExcerpt.index) = ("cart.feature.block1" : Text) := by
    decide
  rw [spelled] at named
  exact ⟨⟨member, onOneLine, hasStem, unescaped⟩, named⟩

end Scenarist.Robot
