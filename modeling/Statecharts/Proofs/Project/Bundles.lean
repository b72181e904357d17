import Statecharts.Project.Bundles
import Statecharts.Proofs.Files.Changes
import Statecharts.Proofs.Files.Components

/-!
# Where bundles stand

The name of a chart that is accepted has no slash in it, so the path of its
bundle has one name more than the path of the output directory, and is followed
from the same place.
-/

namespace Statecharts

/-! ## The names of a path -/

theorem FileTree.names_ofList_slash (before after : List Char) :
    names (String.ofList (before ++ '/' :: after)) =
      names (String.ofList before) ++ names (String.ofList after) := by
  simp only [names, String.toList_ofList, List.splitOn_append_cons_self,
    List.filter_append, List.map_append]

theorem FileTree.names_of_slashless {file : String} (hslash : '/' ∉ file.toList)
    (hfile : file ≠ "") : names file = [file] := by
  have hnonempty : file.toList ≠ [] := by simpa using hfile
  rw [names, List.splitOn_eq_singleton hslash]
  simp [hnonempty]

theorem FileTree.names_join (directory : String) {file : String}
    (hslash : '/' ∉ file.toList) (hfile : file ≠ "") :
    names (Path.join directory file) = names directory ++ [file] := by
  rw [← names_of_slashless hslash hfile]
  rcases Path.join_slashless directory hslash with
    ⟨rfl, hjoined⟩ | ⟨front, hjoined, rfl | ⟨rfl, -⟩⟩
  · rw [hjoined]
    simp [names]
  · rw [hjoined, names_ofList_slash, names_ofList_slash, String.ofList_toList]
    simp [names]
  · rw [hjoined, names_ofList_slash, String.ofList_toList]

theorem FileTree.start_join (tree : FileTree) (directory : String) {file : String}
    (hslash : '/' ∉ file.toList) :
    tree.start (Path.join directory file) = tree.start directory := by
  have hfile : file.toList.head? ≠ some '/' :=
    fun hhead => hslash (List.mem_of_mem_head? hhead)
  rcases Path.join_slashless directory hslash with
    ⟨rfl, hjoined⟩ | ⟨front, hjoined, rfl | ⟨rfl, hfront⟩⟩
  · rw [hjoined]
    simp [start, hfile]
  · rw [hjoined]
    simp [start, List.head?_append]
  · rw [hjoined]
    cases front with
    | nil => exact absurd rfl hfront
    | cons c front => simp [start]

/-! ## Names of files -/

theorem Path.Plain.append_json {name : String} (hplain : Path.Plain name) :
    Path.Plain (name ++ ".json") := by
  have hlength : 5 ≤ (name ++ ".json").toList.length := by
    rw [String.toList_append, List.length_append]
    exact Nat.le_add_left 5 _
  have hlonger : ∀ short : String, short.toList.length < 5 →
      name ++ ".json" ≠ short := by
    rintro short hshort rfl
    omega
  constructor
  case nonempty => exact hlonger "" (by decide)
  case slashless => simpa using hplain.slashless
  case here => exact hlonger "." (by decide)
  case up => exact hlonger ".." (by decide)

theorem Project.bundlePath_endsIn (directory : String) {name : String}
    (hname : Path.isFileName name = true) :
    FileTree.EndsIn (bundlePath directory name) (name ++ ".json") := by
  have hplain := ((Path.isFileName_iff_plain name).mp hname).append_json
  exact ⟨⟨_, FileTree.names_join directory hplain.slashless hplain.nonempty⟩,
    hplain.here, hplain.up⟩

end Statecharts
