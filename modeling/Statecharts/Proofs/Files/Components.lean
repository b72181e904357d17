import Statecharts.Files.Path
import Statecharts.Proofs.Text.Lines

/-!
# Components of paths

A text is the name of a file when it is not empty, has no slash in it and is
neither of the two names that lead elsewhere.  A path that is joined to a
directory by such a name has the components of the directory and that name
behind them, however the path of the directory was written.
-/

namespace Statecharts.Path

/-! ## Parts -/

/-- What the leading part of a path stands for. -/
def leading : List Char → List Component
  | ['/'] => [.root]
  | ['.'] => [.here]
  | _ => []

/-- What parts stand for behind the leading one. -/
def named (parts : List (List Char)) : List Component :=
  (parts.filter (!isVoid ·)).map fun part =>
    if part = ['.', '.'] then .up else .name (String.ofList part)

theorem components_eq (path : String) :
    components path = leading (lead path.toList) ++ named (parts path.toList) := rfl

theorem named_append (parts later : List (List Char)) :
    named (parts ++ later) = named parts ++ named later := by
  simp [named]

theorem lead_append_slash {front : List Char} (hfront : front ≠ []) (rest : List Char) :
    lead (front ++ '/' :: rest) = lead front := by
  match front with
  | [c] =>
      by_cases hroot : c = '/'
      · simp [lead, hroot]
      · by_cases hhere : c = '.' <;> simp [lead, hroot, hhere]
  | c :: d :: front =>
      simp only [List.cons_append]
      unfold lead
      split <;> simp_all

theorem length_lead_le (path : List Char) : (lead path).length ≤ path.length := by
  unfold lead
  split <;> simp

theorem components_append_slash {front : List Char} (hfront : front ≠ [])
    (rest : List Char) :
    components (String.ofList (front ++ '/' :: rest)) =
      components (String.ofList front) ++ named (rest.splitOn '/') := by
  have hlength := length_lead_le front
  simp only [components_eq, parts, String.toList_ofList, lead_append_slash hfront,
    List.drop_append_of_le_length hlength, List.splitOn_append_cons_self, named_append,
    List.append_assoc]

/-! ## Names of files -/

/-- The text names one thing in a directory, and neither the directory nor the
one above it. -/
structure Plain (text : String) : Prop where
  nonempty : text ≠ ""
  slashless : '/' ∉ text.toList
  here : text ≠ "."
  up : text ≠ ".."

theorem Plain.named_splitOn {text : String} (hplain : Plain text) :
    named (text.toList.splitOn '/') = [.name text] := by
  have hempty : text.toList ≠ [] := by simpa using hplain.nonempty
  have hhere : text.toList ≠ ['.'] := fun hsame => hplain.here (String.toList_inj.mp hsame)
  have hup : text.toList ≠ ['.', '.'] := fun hsame => hplain.up (String.toList_inj.mp hsame)
  rw [List.splitOn_eq_singleton hplain.slashless]
  simp [named, isVoid, hempty, hhere, hup]

theorem Plain.lead_eq {text : String} (hplain : Plain text) : lead text.toList = [] := by
  unfold lead
  split
  next htext => exact absurd (htext ▸ List.mem_cons_self) hplain.slashless
  next htext => exact absurd (String.toList_inj.mp htext) hplain.here
  next htext => exact absurd (by simp [htext]) hplain.slashless
  next => rfl

theorem Plain.components_eq {text : String} (hplain : Plain text) :
    components text = [.name text] := by
  rw [Path.components_eq, parts, hplain.lead_eq, List.length_nil, List.drop_zero,
    hplain.named_splitOn]
  rfl

theorem slashless_of_isFileName {text : String}
    (htext : isFileName text = true) : '/' ∉ text.toList ∧ text ≠ "" := by
  rw [isFileName, decide_eq_true_eq, components] at htext
  split at htext
  next => simp at htext
  next => simp at htext
  next =>
    obtain ⟨part, hparts, hname⟩ := List.map_eq_singleton_iff.mp htext
    have hmem : part ∈ (parts text.toList).filter (!isVoid ·) := by simp [hparts]
    rw [List.mem_filter] at hmem
    obtain rfl : text = String.ofList part := by
      split at hname <;> cases hname
      rfl
    rw [String.toList_ofList]
    refine ⟨Text.not_mem_of_mem_splitOn hmem.1, ?_⟩
    rintro hempty
    obtain rfl : part = [] := by simpa using hempty
    simp [isVoid] at hmem

theorem isFileName_iff_plain (text : String) : isFileName text = true ↔ Plain text := by
  constructor
  · intro htext
    obtain ⟨hslash, hempty⟩ := slashless_of_isFileName htext
    constructor
    case nonempty => exact hempty
    case slashless => exact hslash
    case here =>
      rintro rfl
      exact absurd htext (by decide)
    case up =>
      rintro rfl
      exact absurd htext (by decide)
  · intro hplain
    rw [isFileName, decide_eq_true_eq]
    exact hplain.components_eq

/-! ## Joined paths -/

theorem not_isAbsolute_of_slashless {file : String}
    (hslash : '/' ∉ file.toList) : Path.isAbsolute file = false := by
  rw [isAbsolute, decide_eq_false_iff_not]
  exact fun hhead => hslash (List.mem_of_mem_head? hhead)

/-- A name is joined to a path behind a slash, which may be there already. -/
theorem join_slashless (directory : String) {file : String}
    (hslash : '/' ∉ file.toList) :
    directory = "" ∧ join directory file = file ∨
      ∃ front, join directory file = String.ofList (front ++ '/' :: file.toList) ∧
        (directory = String.ofList (front ++ ['/']) ∨
          directory = String.ofList front ∧ front ≠ []) := by
  rw [join, not_isAbsolute_of_slashless hslash]
  simp only [Bool.false_eq_true, if_false]
  split
  next hlast =>
    obtain rfl : directory = "" := by simpa using hlast
    exact Or.inl ⟨rfl, String.empty_append⟩
  next hlast =>
    obtain ⟨front, hfront⟩ := List.getLast?_eq_some_iff.mp hlast
    refine Or.inr ⟨front, ?_, Or.inl ?_⟩
    · apply String.toList_inj.mp
      simp [hfront]
    · rw [← hfront, String.ofList_toList]
  next hlast =>
    refine Or.inr ⟨directory.toList, ?_, Or.inr ⟨String.ofList_toList.symm, ?_⟩⟩
    · apply String.toList_inj.mp
      simp
    · intro hempty
      simp [hempty] at hlast

theorem components_join (directory : String) {file : String} (hplain : Plain file) :
    components (join directory file) = components directory ++ [.name file] := by
  rcases join_slashless directory hplain.slashless with
    ⟨rfl, hjoined⟩ | ⟨front, hjoined, rfl | ⟨rfl, hfront⟩⟩
  · rw [hjoined, hplain.components_eq]
    rfl
  · rw [hjoined, ← hplain.named_splitOn]
    by_cases hfront : front = []
    · simp only [hfront, List.nil_append, Path.components_eq, String.toList_ofList]
      rfl
    · rw [components_append_slash hfront, components_append_slash hfront]
      simp [named, isVoid]
  · rw [hjoined, ← hplain.named_splitOn, components_append_slash hfront]

end Statecharts.Path
