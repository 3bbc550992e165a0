import Scenarist.Load
import Scenarist.Files.Store
import Scenarist.Gherkin.Grammar
import Scenarist.Proofs.Path.Entries
import Scenarist.Proofs.Text.Searching

/-! # Walking a directory

The entries below a directory come in any order. What is read of them does not
depend on it: the feature files are read in the order of their names, each on its
own, and each answer stands where the entry stands. -/

namespace Scenarist.Files

open Text Scenarist.Path App

/-! ## Trees -/

/-- All that is below a directory, each entry once. -/
structure Tree where
  entries : List Names
  distinct : entries.Nodup
  areEntries : ∀ names ∈ entries, IsEntry names

/-- A directory with a tree below it. Its entries may be told in any order. -/
structure Shows (files : Files) (directory : Text) (tree : Tree) : Prop where
  notFile : files.isFile directory = false
  below : (files.below directory).Perm (tree.entries.map relativePath)

/-! ## Feature files -/

/-- The last name ends in the extension of feature files, in any case. -/
def IsFeature (names : Names) : Prop :=
  ∃ folders stem ending, names = folders ++ [stem ++ ending] ∧ Folds ending ".feature"

theorem isFeatureName_iff (path : Text) :
    isFeatureName path = true ↔
      ∃ stem ending, path = stem ++ ending ∧ Folds ending ".feature" := by
  rw [isFeatureName, Option.isSome_iff_exists]
  constructor
  · rintro ⟨⟨taken, left⟩, stripped⟩
    rcases (stripFolded_eq_some_iff ..).mp stripped with ⟨reversed, folds⟩
    refine ⟨left.reverse, taken.reverse, by simpa using congrArg List.reverse reversed, ?_⟩
    simpa [Folds, List.map_reverse] using congrArg List.reverse folds
  · rintro ⟨stem, ending, rfl, folds⟩
    refine ⟨(ending.reverse, stem.reverse), (stripFolded_eq_some_iff ..).mpr ⟨by simp, ?_⟩⟩
    simpa [Folds, List.map_reverse] using folds

theorem slashless_of_folds {ending : Text} (folds : Folds ending ".feature") : '/' ∉ ending := by
  intro member
  have folded : '/'.toLower ∈ ((".feature" : String).toList).map Char.toLower :=
    folds ▸ List.mem_map_of_mem member
  exact absurd folded (by decide)

theorem isFeatureName_relativePath {names : Names} (isEntry : IsEntry names) :
    isFeatureName (relativePath names) = true ↔ IsFeature names := by
  rw [isFeatureName_iff]
  constructor
  · rintro ⟨stem, ending, isPath, folds⟩
    have slashless := slashless_of_folds folds
    have pieces := isEntry.split_relativePath
    rw [isPath] at pieces
    by_cases member : '/' ∈ stem
    · rcases exists_append_separator member with ⟨before, last, rfl, absent⟩
      rw [List.append_assoc, List.cons_append, split_append,
        split_of_not_mem (List.not_mem_append absent slashless)] at pieces
      exact ⟨split '/' before, last, ending, pieces.symm, folds⟩
    · rw [split_of_not_mem (List.not_mem_append member slashless)] at pieces
      exact ⟨[], stem, ending, pieces.symm, folds⟩
  · rintro ⟨folders, stem, ending, rfl, folds⟩
    cases folders with
    | nil => exact ⟨stem, ending, by simp [relativePath, Text.join], folds⟩
    | cons folder others =>
        refine ⟨Text.join ['/'] (folder :: others) ++ '/' :: stem, ending, ?_, folds⟩
        rw [relativePath, join_append ['/'] (by simp) (by simp)]
        simp [Text.join]

/-! ## The walk -/

/-- The feature files of a tree, each once, in the order in which they are read: the
bytes of their names compare one name after the other. -/
structure Tree.IsWalk (tree : Tree) (walk : List Names) : Prop where
  members : ∀ names, names ∈ walk ↔ names ∈ tree.entries ∧ IsFeature names
  ordered : walk.Pairwise fun first second => first.map encode < second.map encode

theorem Tree.IsWalk.nodup {tree : Tree} {walk : List Names} (isWalk : tree.IsWalk walk) :
    walk.Nodup :=
  isWalk.ordered.imp fun before same => by
    rw [same] at before
    exact List.lt_irrefl _ before

theorem Tree.IsWalk.unique {tree : Tree} {first second : List Names} (isWalk : tree.IsWalk first)
    (otherIsWalk : tree.IsWalk second) : first = second := by
  have sameMembers : ∀ names, names ∈ first ↔ names ∈ second := fun names => by
    rw [isWalk.members, otherIsWalk.members]
  refine List.Perm.eq_of_pairwise (fun names other _ _ before after => ?_) isWalk.ordered
    otherIsWalk.ordered
    ((List.perm_ext_iff_of_nodup isWalk.nodup otherIsWalk.nodup).mpr sameMembers)
  exact absurd after (List.lt_asymm before)

namespace Tree

variable (tree : Tree)

def features : List Names :=
  tree.entries.filter fun names => isFeatureName (relativePath names)

def walk : List Names :=
  tree.features.mergeSort fun first second => (compareNames first second).isLE

variable {tree}

theorem isEntry_of_mem_features {names : Names} (member : names ∈ tree.features) :
    IsEntry names :=
  tree.areEntries names (List.mem_filter.mp member).1

theorem mem_walk {names : Names} : names ∈ tree.walk ↔ names ∈ tree.features :=
  List.mem_mergeSort

theorem isEntry_of_mem_walk {names : Names} (member : names ∈ tree.walk) : IsEntry names :=
  isEntry_of_mem_features (mem_walk.mp member)

variable (tree)

theorem nodup_walk : tree.walk.Nodup :=
  (List.mergeSort_perm ..).nodup_iff.mpr (tree.distinct.filter _)

theorem map_walk (directory : Text) :
    tree.walk.map (entryPath directory) =
      (tree.features.map (entryPath directory)).mergeSort precedes := by
  refine List.map_mergeSort fun first member second otherMember => ?_
  exact (precedes_entryPath (isEntry_of_mem_features member)
    (isEntry_of_mem_features otherMember)).symm

theorem isWalk_walk : tree.IsWalk tree.walk where
  members := by
    intro names
    rw [mem_walk, features, List.mem_filter]
    refine and_congr_right fun member => ?_
    exact isFeatureName_relativePath (tree.areEntries names member)
  ordered := by
    have sorted : (tree.walk.map (entryPath [])).Pairwise fun first second =>
        precedes first second = true := by
      rw [map_walk]
      exact pairwise_mergeSort_precedes _
    refine ((List.pairwise_map.mp sorted).and tree.nodup_walk).imp_of_mem ?_
    rintro first second member otherMember ⟨notAfter, different⟩
    rw [precedes_entryPath (isEntry_of_mem_walk member) (isEntry_of_mem_walk otherMember)]
      at notAfter
    rcases Ordering.isLE_iff_eq_lt_or_eq_eq.mp notAfter with before | same
    · exact map_encode_lt_of_compareNames before
    · exact absurd (eq_of_compareNames same) different

end Tree

/-! ## Reading a tree -/

theorem Shows.featureFiles_eq {files : Files} {directory : Text} {tree : Tree}
    (shows : Shows files directory tree) :
    featureFiles files directory = tree.walk.map (entryPath directory) := by
  have found : (((files.below directory).filter isFeatureName).map (Path.join directory)).Perm
      (tree.features.map (entryPath directory)) := by
    have perm := (shows.below.filter isFeatureName).map (Path.join directory)
    rw [List.filter_map, List.map_map] at perm
    exact perm
  rw [featureFiles, Tree.map_walk]
  refine List.Perm.eq_of_pairwise (fun path other isFound isOther notAfter notBefore => ?_)
    (pairwise_mergeSort_precedes _) (pairwise_mergeSort_precedes _)
    (((List.mergeSort_perm ..).trans found).trans (List.mergeSort_perm ..).symm)
  rcases List.mem_map.mp (found.mem_iff.mp (List.mem_mergeSort.mp isFound)) with
    ⟨names, member, rfl⟩
  rcases List.mem_map.mp (List.mem_mergeSort.mp isOther) with ⟨others, otherMember, rfl⟩
  have isEntry := Tree.isEntry_of_mem_features member
  have otherIsEntry := Tree.isEntry_of_mem_features otherMember
  rw [precedes_entryPath isEntry otherIsEntry] at notAfter
  rw [precedes_entryPath otherIsEntry isEntry] at notBefore
  rw [eq_of_compareNames_isLE notAfter notBefore]

/-- Changing what one member of a list is mapped to changes one place. -/
theorem map_eq_set_map {α β : Type} {members : List α} (once : members.Nodup) {position : Nat}
    {member : α} (found : members[position]? = some member) {first second : α → β}
    (same : ∀ sibling ∈ members, sibling ≠ member → second sibling = first sibling) :
    members.map second = (members.map first).set position (second member) := by
  refine List.ext_getElem? fun place => ?_
  by_cases isHere : position = place
  · subst isHere
    have inside : position < (members.map first).length := by
      simpa using (List.getElem?_eq_some_iff.mp found).1
    rw [List.getElem?_set_self inside, List.getElem?_map, found]
    rfl
  · rw [List.getElem?_set_ne isHere, List.getElem?_map, List.getElem?_map]
    cases isThere : members[place]? with
    | none => rfl
    | some sibling =>
        have different : sibling ≠ member := by
          rintro rfl
          have inside := (List.getElem?_eq_some_iff.mp found).1
          exact isHere ((List.getElem?_inj inside once).mp (found.trans isThere.symm))
        exact congrArg some (same sibling (List.mem_of_getElem? isThere) different)

section

variable [Gherkin.Parser]

/-- What is read of an entry. -/
def entryFeature (files : Files) (directory : Text) (names : Names) :
    Except Error Gherkin.Feature :=
  featureFile files (entryPath directory names)

theorem featureFile_congr {files other : Files} {path : Text}
    (same : other.read path = files.read path) :
    featureFile other path = featureFile files path := by
  rw [featureFile, featureFile, same]

theorem Shows.featuresAt_eq {files : Files} {directory : Text} {tree : Tree}
    (shows : Shows files directory tree) :
    featuresAt files directory = tree.walk.map (entryFeature files directory) := by
  rw [featuresAt, shows.notFile, if_neg Bool.false_ne_true, shows.featureFiles_eq, List.map_map]
  rfl

/-- A directory is read in the order of the names in its tree, whatever the order in
which its entries are told. What an entry holds counts for its own result only. -/
theorem featuresAt_eq_walk (tree : Tree) : ∃ walk, tree.IsWalk walk ∧ ∀ directory,
    (walk.map (entryPath directory)).Pairwise (fun first second =>
      componentBytes first < componentBytes second) ∧
    ∀ files, Shows files directory tree →
      featuresAt files directory = walk.map (entryFeature files directory) ∧
      ∀ position names, walk[position]? = some names →
        (∀ fault, files.read (entryPath directory names) = .error fault →
          (featuresAt files directory)[position]? =
            some (.error (.featureUnreadable (entryPath directory names) fault.message))) ∧
        (∀ text complaint, files.read (entryPath directory names) = .ok text →
          Gherkin.Parser.parse text = .error complaint →
            (featuresAt files directory)[position]? =
              some (.error (.featureMalformed ⟨entryPath directory names, complaint⟩))) ∧
        ∀ other, Shows other directory tree →
          (∀ sibling ∈ walk, sibling ≠ names → other.read (entryPath directory sibling) =
            files.read (entryPath directory sibling)) →
          featuresAt other directory =
            (featuresAt files directory).set position (entryFeature other directory names) := by
  refine ⟨tree.walk, tree.isWalk_walk, fun directory => ⟨?_, fun files shows => ?_⟩⟩
  · refine List.pairwise_map.mpr (tree.isWalk_walk.ordered.imp_of_mem ?_)
    intro first second member otherMember before
    exact componentBytes_entryPath_lt (Tree.isEntry_of_mem_walk member)
      (Tree.isEntry_of_mem_walk otherMember) before
  refine ⟨shows.featuresAt_eq, fun position names found => ?_⟩
  have here : (featuresAt files directory)[position]? =
      some (entryFeature files directory names) := by
    rw [shows.featuresAt_eq, List.getElem?_map, found]
    rfl
  refine ⟨fun fault unreadable => ?_, fun text complaint readable malformed => ?_,
    fun other alsoShows same => ?_⟩
  · rw [here, entryFeature, featureFile, unreadable]
  · rw [here, entryFeature, featureFile, readable]
    simp only [malformed]
  · rw [shows.featuresAt_eq, alsoShows.featuresAt_eq]
    exact map_eq_set_map tree.nodup_walk found fun sibling member different =>
      featureFile_congr (same sibling member different)

end

def shopTree : Tree where
  entries := [["a.FEATURE"], ["a-b"], ["a-b", "x.feature"], ["a"], ["notes"], ["a", "z.feature"]]
  distinct := by decide
  areEntries := by decide

/-- The tree in a store, one of its files with given contents. -/
def shopFiles (contents : Contents) : Files :=
  Store.toFiles {
    entries := [(["specs"], .directory), (["specs", "a.FEATURE"], .file (.text "Feature: Cart\n")),
      (["specs", "a-b"], .directory), (["specs", "a-b", "x.feature"], .file contents),
      (["specs", "a"], .directory), (["specs", "a", "z.feature"], .file (.text "Total\n")),
      (["specs", "notes"], .file (.text "later"))] }

theorem isWalk_shopTree :
    shopTree.IsWalk [["a", "z.feature"], ["a-b", "x.feature"], ["a.FEATURE"]] where
  members := by
    intro names
    have found : ([["a", "z.feature"], ["a-b", "x.feature"], ["a.FEATURE"]] : List Names).Perm
        shopTree.features := by decide
    rw [found.mem_iff, ← shopTree.isWalk_walk.members, Tree.mem_walk]
  ordered := by decide

theorem shows_shopFiles (contents : Contents) :
    Shows (shopFiles contents) "specs" shopTree where
  notFile := rfl
  below := by
    have told : (shopFiles contents).below "specs" =
        (["a.FEATURE", "a-b", "a-b/x.feature", "a", "a/z.feature", "notes"] : List Text) := rfl
    rw [told]
    decide

theorem parse_total :
    Gherkin.Parser.parse "Total\n" = .error Gherkin.unexplained := by
  have refused : Gherkin.Feature.ofText "Total\n" = none := by decide +kernel
  exact congrArg
    (fun taken => taken.elim (Except.error Gherkin.unexplained) Except.ok) refused

theorem featuresAt_eq_walk_shop :
    featuresAt (shopFiles .malformed) "specs" =
        ([["a", "z.feature"], ["a-b", "x.feature"], ["a.FEATURE"]] : List Names).map
          (entryFeature (shopFiles .malformed) "specs") ∧
      (featuresAt (shopFiles .malformed) "specs")[0]? =
        some (.error (.featureMalformed ⟨"specs/a/z.feature", Gherkin.unexplained⟩)) ∧
      (featuresAt (shopFiles .malformed) "specs")[1]? = some (.error
        (.featureUnreadable "specs/a-b/x.feature" "stream did not contain valid UTF-8")) ∧
      featuresAt (shopFiles (.text "Feature: Till\n")) "specs" =
        (featuresAt (shopFiles .malformed) "specs").set 1
          (entryFeature (shopFiles (.text "Feature: Till\n")) "specs" ["a-b", "x.feature"]) := by
  rcases featuresAt_eq_walk shopTree with ⟨walk, isWalk, walked⟩
  cases isWalk.unique isWalk_shopTree
  rcases (walked "specs").2 (shopFiles .malformed) (shows_shopFiles _) with ⟨inOrder, own⟩
  refine ⟨inOrder, (own 0 _ rfl).2.1 "Total\n" _ rfl parse_total,
    (own 1 _ rfl).1 .notText rfl, (own 1 _ rfl).2.2 _ (shows_shopFiles _) ?_⟩
  intro sibling member different
  simp only [List.mem_cons, List.not_mem_nil, or_false] at member
  rcases member with rfl | rfl | rfl
  · rfl
  · exact absurd rfl different
  · rfl

end Scenarist.Files
