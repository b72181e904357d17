import Statecharts.Files.Path
import Statecharts.Proofs.Files.Changes

/-!
# Listings

The names that a directory lists are in ascending order, and each of them is
listed as often as an entry of the directory has it.  A name that ends in a dot
and an extension is cut there, unless nothing stands in front of the dot.
-/

namespace Statecharts

/-! ## Extensions -/

namespace Path

variable {name stem extension : String}

theorem splitExtension_append (hstem : stem ≠ "") (hdotless : '.' ∉ extension.toList) :
    splitExtension (stem ++ "." ++ extension) = (stem, some extension) := by
  have hbehind : ∀ c ∈ extension.toList.reverse, decide (c ≠ '.') = true := by
    intro c hc
    rw [decide_eq_true_eq]
    rintro rfl
    exact hdotless (List.mem_reverse.mp hc)
  have hreversed : (stem ++ "." ++ extension).toList.reverse =
      extension.toList.reverse ++ '.' :: stem.toList.reverse := by
    simp
  have hfront : stem.toList.reverse ≠ [] := by simpa using hstem
  unfold splitExtension
  dsimp only
  rw [hreversed, List.takeWhile_append_of_pos hbehind,
    List.dropWhile_append_of_pos hbehind, List.takeWhile_cons_of_neg (by simp),
    List.dropWhile_cons_of_neg (by simp), List.append_nil]
  cases hlist : stem.toList.reverse with
  | nil => exact absurd hlist hfront
  | cons c rest => simp [← hlist]

theorem eq_append_of_extension (hname : (splitExtension name).2 = some extension) :
    (splitExtension name).1 ≠ "" ∧
      name = (splitExtension name).1 ++ "." ++ extension := by
  have hcut := List.takeWhile_append_dropWhile
    (p := fun c => decide (c ≠ '.')) (l := name.toList.reverse)
  unfold splitExtension at hname ⊢
  dsimp only at hname ⊢
  split at hname
  next => cases hname
  next => cases hname
  next c front hlong hdrop =>
    cases hname
    have hhead := List.head?_dropWhile_not (fun c => decide (c ≠ '.')) name.toList.reverse
    rw [hdrop] at hcut hhead
    obtain rfl : c = '.' := by simpa using hhead
    have hfront : front ≠ [] := fun hnil => hlong hnil
    refine ⟨by simpa using hfront, ?_⟩
    have hname := congrArg List.reverse hcut
    rw [List.reverse_reverse] at hname
    apply String.toList_inj.mp
    apply hname.symm.trans
    simp

end Path

namespace FileTree

/-! ## Names in a directory -/

/-- How many entries of a directory are called by a name. -/
def countIn (tree : FileTree) (directory name : String) : Nat :=
  match tree.find directory with
  | .ok (place, .directory) => (tree.entries.map Prod.fst).count (place ++ [name])
  | _ => 0

/-- The names of the entries of a directory in ascending order. -/
def namesIn (tree : FileTree) (directory : String) : List String :=
  ((tree.list directory).toOption.getD []).mergeSort (· ≤ ·)

theorem sortedNames_run (directory : String) (tree : FileTree) :
    (FileAccess.sortedNames directory : StateM FileTree _) tree =
      (tree.namesIn directory, tree) := by
  have hlist : (FileAccess.list directory : StateM FileTree _) tree =
      (tree.list directory, tree) := rfl
  simp only [FileAccess.sortedNames, namesIn, bind, StateT.bind, hlist]
  cases tree.list directory with
  | error error =>
      simp only [Except.toOption, Option.getD_none, List.mergeSort_nil]
      rfl
  | ok names => rfl

theorem namesIn_ascending (tree : FileTree) (directory : String) :
    (tree.namesIn directory).Pairwise (· ≤ ·) := by
  have htrans : ∀ name other later : String, decide (name ≤ other) = true →
      decide (other ≤ later) = true → decide (name ≤ later) = true := by
    intro name other later hfirst hsecond
    rw [decide_eq_true_eq] at hfirst hsecond ⊢
    exact String.le_trans hfirst hsecond
  have htotal : ∀ name other : String,
      (decide (name ≤ other) || decide (other ≤ name)) = true := by
    intro name other
    rw [Bool.or_eq_true, decide_eq_true_eq, decide_eq_true_eq]
    exact String.le_total name other
  have hsorted := List.pairwise_mergeSort htrans htotal
    ((tree.list directory).toOption.getD [])
  rw [namesIn]
  simpa using hsorted

theorem dropLast_getLast?_iff {place other : Place} {name : String} :
    other.dropLast = place ∧ other.getLast? = some name ↔ other = place ++ [name] := by
  constructor
  · rintro ⟨hfront, hlast⟩
    rw [← hfront]
    exact (List.dropLast_append_getLast? name hlast).symm
  · rintro rfl
    simp

theorem count_namesIn (tree : FileTree) (directory name : String) :
    (tree.namesIn directory).count name = tree.countIn directory name := by
  have hnames : ∀ place : Place, (tree.entries.filterMap fun entry =>
      if entry.1.dropLast = place then entry.1.getLast? else none).count name =
        (tree.entries.map Prod.fst).count (place ++ [name]) := by
    intro place
    rw [List.count, List.count, List.countP_filterMap, List.countP_map]
    apply List.countP_congr
    intro entry _
    rw [Function.comp_apply, beq_iff_eq, ← dropLast_getLast?_iff]
    by_cases hplace : entry.1.dropLast = place
    · cases entry.1.getLast? <;> simp [hplace]
    · simp [hplace]
  unfold namesIn countIn list
  rw [(List.mergeSort_perm _ _).count_eq]
  cases tree.find directory with
  | error error => rfl
  | ok found =>
      rcases found with ⟨place, entry⟩
      cases entry with
      | directory => exact hnames place
      | text content => rfl
      | binary bytes => rfl

end FileTree

end Statecharts
