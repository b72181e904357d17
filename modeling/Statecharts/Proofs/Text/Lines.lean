import Mathlib.Tactic
import Statecharts.Text.Messages

/-!
# Lines of texts

A text is cut at its line feeds, so none of its lines has one.  Lines without
line feeds that are written with one behind each are found again by cutting,
and the empty text behind the last line feed comes after them.
-/

namespace Statecharts.Text

theorem not_mem_of_mem_splitOn {text part : List Char} {c : Char}
    (hpart : part ∈ text.splitOn c) : c ∉ part := by
  induction text generalizing part with
  | nil =>
      obtain rfl : part = [] := by simpa using hpart
      simp
  | cons d text ih =>
      obtain ⟨first, others, hsplit⟩ :=
        List.exists_cons_of_ne_nil (List.splitOn_ne_nil c text)
      rw [hsplit] at ih
      rw [List.splitOn_cons_eq_if_modifyHead, hsplit] at hpart
      split at hpart
      next =>
        rcases List.mem_cons.mp hpart with rfl | hmem
        · simp
        · exact ih hmem
      next hother =>
        rcases List.mem_cons.mp hpart with rfl | hmem
        · have hdiffers : c ≠ d := by
            rintro rfl
            simp at hother
          exact List.not_mem_cons_of_ne_of_not_mem hdiffers
            (ih List.mem_cons_self)
        · exact ih (List.mem_cons_of_mem first hmem)

theorem not_mem_linesOfPieces {pieces : List (List Char)}
    (hpieces : ∀ piece ∈ pieces, '\n' ∉ piece) :
    ∀ line ∈ linesOfPieces pieces, '\n' ∉ line := by
  induction pieces with
  | nil => simp [linesOfPieces]
  | cons piece pieces ih =>
      rw [List.forall_mem_cons] at hpieces
      cases pieces with
      | nil =>
          unfold linesOfPieces
          split
          · simp
          · simpa using hpieces.1
      | cons next pieces =>
          rw [linesOfPieces, List.forall_mem_cons]
          · refine ⟨?_, ih hpieces.2⟩
            unfold dropReturn
            split
            · intro hfeed
              exact hpieces.1 (List.mem_of_mem_dropLast hfeed)
            · exact hpieces.1
          · simp

theorem not_mem_lines (text : String) :
    ∀ line ∈ lines text, '\n' ∉ line.toList := by
  have hpieces : ∀ piece ∈ text.toList.splitOn '\n', '\n' ∉ piece :=
    fun piece hpiece => not_mem_of_mem_splitOn hpiece
  rw [lines, List.forall_mem_map]
  intro line hline
  rw [String.toList_ofList]
  exact not_mem_linesOfPieces hpieces line hline

/-! ## Written lines -/

/-- The text of lines, each of which is ended by a line feed. -/
def written (lines : List String) : String :=
  String.join (lines.map (· ++ "\n"))

theorem written_append (lines later : List String) :
    written (lines ++ later) = written lines ++ written later := by
  simp [written]

theorem splitOn_written {lines : List String}
    (hlines : ∀ line ∈ lines, '\n' ∉ line.toList) :
    (written lines).toList.splitOn '\n' = lines.map String.toList ++ [[]] := by
  induction lines with
  | nil => rfl
  | cons line lines ih =>
      rw [List.forall_mem_cons] at hlines
      have htext : (written (line :: lines)).toList =
          line.toList ++ '\n' :: (written lines).toList := by
        simp [written]
      rw [htext, List.splitOn_append_cons_self,
        List.splitOn_eq_singleton hlines.1, ih hlines.2]
      rfl

end Statecharts.Text
