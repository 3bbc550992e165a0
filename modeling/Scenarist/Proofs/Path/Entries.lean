import Scenarist.Path
import Scenarist.Proofs.Text.ByteOrder
import Scenarist.Proofs.Text.Lines

/-! # Paths of entries

An entry below a directory is told by the names that lead to it. Its path begins
with the directory, whose components come first and are the same for all entries,
so the order of the paths is the order of the names. -/

namespace Scenarist.Path

open Text App

/-- A name that stands for itself in a path. -/
structure IsEntryName (name : Text) : Prop where
  nonempty : name ≠ []
  notCurrent : name ≠ ['.']
  notParent : name ≠ ['.', '.']
  slashless : '/' ∉ name

/-- The names that lead from a directory to an entry below it. -/
structure IsEntry (names : List Text) : Prop where
  nonempty : names ≠ []
  areNames : ∀ name ∈ names, IsEntryName name

instance : DecidablePred IsEntryName := fun name =>
  decidable_of_iff (name ≠ [] ∧ name ≠ ['.'] ∧ name ≠ ['.', '.'] ∧ '/' ∉ name)
    ⟨fun ⟨nonempty, notCurrent, notParent, slashless⟩ =>
        ⟨nonempty, notCurrent, notParent, slashless⟩,
      fun isName => ⟨isName.nonempty, isName.notCurrent, isName.notParent, isName.slashless⟩⟩

instance : DecidablePred IsEntry := fun names =>
  decidable_of_iff (names ≠ [] ∧ ∀ name ∈ names, IsEntryName name)
    ⟨fun ⟨nonempty, areNames⟩ => ⟨nonempty, areNames⟩,
      fun isEntry => ⟨isEntry.nonempty, isEntry.areNames⟩⟩

def relativePath (names : List Text) : Text :=
  Text.join ['/'] names

/-- The path of an entry below a directory. -/
def entryPath (directory : Text) (names : List Text) : Text :=
  join directory (relativePath names)

example : entryPath "features" ["cart", "a.feature"] = "features/cart/a.feature" := by decide

/-! ## Components -/

theorem IsEntryName.component? {name : Text} (isName : IsEntryName name) :
    component? name = some (.name name) := by
  simp [Path.component?, isName.nonempty, isName.notCurrent, isName.notParent]

theorem filterMap_component? {names : List Text} (areNames : ∀ name ∈ names, IsEntryName name) :
    names.filterMap component? = names.map .name := by
  induction names with
  | nil => rfl
  | cons name names induction =>
      rcases List.forall_mem_cons.mp areNames with ⟨isName, othersAre⟩
      rw [List.filterMap_cons_some isName.component?, induction othersAre, List.map_cons]

theorem IsEntry.split_relativePath {names : List Text} (isEntry : IsEntry names) :
    split '/' (relativePath names) = names :=
  split_join isEntry.nonempty fun name member => (isEntry.areNames name member).slashless

/-- What is put behind a directory stands behind a slash. -/
theorem exists_join_eq (directory : Text) :
    ∃ before, ∀ relative, join directory relative = before ++ '/' :: relative := by
  by_cases closed : directory.getLast? = some '/'
  · rcases List.getLast?_eq_some_iff.mp closed with ⟨before, rfl⟩
    exact ⟨before, fun relative => by simp [join]⟩
  · exact ⟨directory, fun relative => by simp [join, closed]⟩

theorem components_append_slash (before : Text) : ∃ leading, ∀ relative,
    components (before ++ '/' :: relative) =
      leading ++ (split '/' relative).filterMap component? := by
  rcases List.exists_cons_of_ne_nil (split_ne_nil '/' before) with ⟨first, others, pieces⟩
  refine ⟨(firstComponent? (before ++ ['/']) first).toList ++ others.filterMap component?,
    fun relative => ?_⟩
  have sameFirst : firstComponent? (before ++ '/' :: relative) first =
      firstComponent? (before ++ ['/']) first := by
    simp [firstComponent?]
  simp [components, split_append, pieces, sameFirst]

/-- The components of a directory come first, then the names. -/
theorem components_entryPath (directory : Text) : ∃ leading, ∀ names, IsEntry names →
    components (entryPath directory names) = leading ++ names.map .name := by
  rcases exists_join_eq directory with ⟨before, joined⟩
  rcases components_append_slash before with ⟨leading, led⟩
  refine ⟨leading, fun names isEntry => ?_⟩
  rw [entryPath, joined, led, isEntry.split_relativePath, filterMap_component? isEntry.areNames]

/-! ## The order of names -/

/-- Compares names one by one. -/
def compareNames (first second : List Text) : Ordering :=
  compareKeys (first.map fun name => (Component.name name).key)
    (second.map fun name => (Component.name name).key)

theorem compareNames_cons_cons (name other : Text) (names others : List Text) :
    compareNames (name :: names) (other :: others) =
      (List.compareLex compare (name.map Char.toNat) (other.map Char.toNat)).then
        (compareNames names others) := by
  rw [compareNames, List.map_cons, List.map_cons, compareKeys, List.compareLex_cons_cons]
  rfl

theorem eq_of_compareNames {first second : List Text}
    (same : compareNames first second = .eq) : first = second := by
  induction first generalizing second with
  | nil =>
      cases second with
      | nil => rfl
      | cons other others => nomatch same
  | cons name names induction =>
      cases second with
      | nil => nomatch same
      | cons other others =>
          rw [compareNames_cons_cons, Ordering.then_eq_eq] at same
          rw [eq_of_compare_codes same.1, induction same.2]

theorem eq_of_compareNames_isLE {first second : List Text}
    (notAfter : (compareNames first second).isLE = true)
    (notBefore : (compareNames second first).isLE = true) : first = second :=
  eq_of_compareNames (@Std.OrientedCmp.isLE_antisymm _ compareKeys _ _ _ notAfter notBefore)

theorem map_encode_lt_of_compareNames {first second : List Text}
    (before : compareNames first second = .lt) : first.map encode < second.map encode := by
  induction first generalizing second with
  | nil =>
      cases second with
      | nil => nomatch before
      | cons other others => exact List.nil_lt_cons ..
  | cons name names induction =>
      cases second with
      | nil => nomatch before
      | cons other others =>
          rw [compareNames_cons_cons, Ordering.then_eq_lt] at before
          rw [List.map_cons, List.map_cons, List.cons_lt_cons_iff]
          rcases before with smaller | ⟨same, behind⟩
          · exact .inl (encode_lt_of_compare_codes smaller)
          · exact .inr ⟨congrArg encode (eq_of_compare_codes same), induction behind⟩

/-! ## The order of paths -/

theorem compareKeys_append_left (shared first second : List (List Nat)) :
    compareKeys (shared ++ first) (shared ++ second) = compareKeys first second := by
  induction shared with
  | nil => rfl
  | cons key shared induction =>
      rw [List.cons_append, List.cons_append, compareKeys, List.compareLex_cons_cons,
        show List.compareLex compare key key = .eq from Std.ReflCmp.compare_self]
      exact induction

/-- Below one directory, paths stand in the order of the names. -/
theorem precedes_entryPath {directory : Text} {first second : List Text}
    (isEntry : IsEntry first) (otherIsEntry : IsEntry second) :
    precedes (entryPath directory first) (entryPath directory second) =
      (compareNames first second).isLE := by
  rcases components_entryPath directory with ⟨leading, led⟩
  simp only [precedes, key, led first isEntry, led second otherIsEntry, List.map_append,
    List.map_map, compareKeys_append_left]
  rfl

theorem pairwise_mergeSort_precedes (paths : List Text) :
    (paths.mergeSort precedes).Pairwise fun first second => precedes first second = true :=
  @List.pairwise_mergeSort Text precedes (fun _ _ _ => precedes_trans) precedes_total paths

/-! The bytes of a path, component by component. -/

def Component.bytes : Component → List UInt8
  | .root => encode ['/']
  | .current => encode ['.']
  | .parent => encode ['.', '.']
  | .name text => encode text

def componentBytes (path : Text) : List (List UInt8) :=
  (components path).map Component.bytes

theorem componentBytes_entryPath_lt {directory : Text} {first second : List Text}
    (isEntry : IsEntry first) (otherIsEntry : IsEntry second)
    (before : first.map encode < second.map encode) :
    componentBytes (entryPath directory first) < componentBytes (entryPath directory second) := by
  rcases components_entryPath directory with ⟨leading, led⟩
  simp only [componentBytes, led first isEntry, led second otherIsEntry, List.map_append,
    List.map_map]
  exact List.append_left_lt before

end Scenarist.Path
