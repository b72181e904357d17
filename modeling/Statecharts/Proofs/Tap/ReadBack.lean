import Statecharts.Proofs.Resolution.Sweep
import Statecharts.Proofs.Text.Lines
import Statecharts.Tap.Report

/-!
# Reports are read back

A reader cuts a report at its line feeds, takes the lines that start with a
status for points and skips everything else.  Every line of diagnostics is
indented as a comment, so it starts with none of the leads that a reader goes
by: neither with a status nor with that of the plan or of a count.  What is left
are the points as they were made, with their numbers.
-/

namespace Statecharts.Tap

open Text (written written_append splitOn_written)

/-! ## A reader -/

/-- What the line of a point tells about it. -/
structure PointLine where
  passed : Bool
  number : Nat
  description : String
  deriving DecidableEq, Repr

/-- The status that a line starts with, and what stands behind it. -/
def status? : List Char → Option (Bool × List Char)
  | 'o' :: 'k' :: ' ' :: rest => some (true, rest)
  | 'n' :: 'o' :: 't' :: ' ' :: 'o' :: 'k' :: ' ' :: rest => some (false, rest)
  | _ => none

/-- The number that is written in decimal digits. -/
def number? (digits : List Char) : Option Nat :=
  if digits.isEmpty || digits.any (!·.isDigit) then none
  else some (Nat.ofDigitChars 10 digits 0)

/-- Reads a number and, behind a dash, a description. -/
def PointLine.read? : Bool × List Char → Option PointLine
  | (passed, rest) =>
    match rest.dropWhile Char.isDigit with
    | ' ' :: '-' :: ' ' :: description =>
      (number? (rest.takeWhile Char.isDigit)).map fun number =>
        ⟨passed, number, String.ofList description⟩
    | _ => none

/-- Takes the lines that start with a status for points, and reads nothing if
one of them is not the line of a point. -/
def readPoints (text : String) : Option (List PointLine) :=
  ((text.toList.splitOn '\n').filterMap status?).mapM PointLine.read?

/-- What stands behind a lead, if the line starts with it, read as a number. -/
def countBehind? (lead : String) (line : List Char) : Option (Option Nat) :=
  (line.dropPrefix? lead.toList).map number?

/-- The numbers of the lines that start with a lead. -/
def readCounts (lead text : String) : List (Option Nat) :=
  (text.toList.splitOn '\n').filterMap (countBehind? lead)

/-! ## The lines of a report -/

namespace Point

/-- The lines of a point: its own and those of its diagnostics. -/
def lines (point : Point) (number : Nat) : List String :=
  (point.statusText ++ " " ++ toString number ++ " - " ++ point.description) ::
    point.diagnosticLines.map fun line => "  # " ++ line

theorem render_eq_written (point : Point) (number : Nat) :
    point.render number = written (point.lines number) := by
  simp only [render, written, lines, List.map_cons, String.join_cons, List.map_map]
  rfl

end Point

def PointLine.of : Point × Nat → PointLine
  | (point, number) => ⟨!point.isFailure, number, point.description⟩

theorem toList_toString (number : Nat) :
    (toString number).toList = Nat.toDigits 10 number :=
  Nat.toList_repr

theorem isDigit_of_mem_toString {number : Nat} {c : Char}
    (hc : c ∈ (toString number).toList) : c.isDigit = true := by
  rw [toList_toString] at hc
  exact Nat.isDigit_of_mem_toDigits (by decide) (by decide) hc

theorem number?_toString (number : Nat) :
    number? (toString number).toList = some number := by
  have hwritten : (toString number).toList.isEmpty = false := by
    rw [toList_toString, List.isEmpty_eq_false_iff]
    exact Nat.toDigits_ne_nil
  have hall : (toString number).toList.any (!·.isDigit) = false := by
    rw [List.any_eq_false]
    intro c hc
    simp [isDigit_of_mem_toString hc]
  unfold number?
  rw [hwritten, hall, Bool.or_self, if_neg Bool.false_ne_true, toList_toString,
    Nat.ofDigitChars_toDigits (by decide) (by decide)]

theorem PointLine.read?_line (passed : Bool) (number : Nat) (description : String) :
    PointLine.read? (passed, (toString number ++ " - " ++ description).toList) =
      some ⟨passed, number, description⟩ := by
  have hdigits : ∀ c ∈ (toString number).toList, c.isDigit = true :=
    fun c hc => isDigit_of_mem_toString hc
  have hspace : Char.isDigit ' ' = false := by decide
  have htext : (toString number ++ " - " ++ description).toList =
      (toString number).toList ++ ' ' :: '-' :: ' ' :: description.toList := by
    simp only [String.toList_append, List.append_assoc]
    rfl
  rw [read?, htext, List.dropWhile_append_of_pos hdigits,
    List.takeWhile_append_of_pos hdigits, List.takeWhile_cons_of_neg (by simp [hspace]),
    List.dropWhile_cons_of_neg (by simp [hspace]), List.append_nil,
    number?_toString]
  simp only [Option.map_some, String.ofList_toList]

theorem Point.filterMap_status?_lines (point : Point) (number : Nat) :
    ((point.lines number).map String.toList).filterMap status? =
      [(!point.isFailure, (toString number ++ " - " ++ point.description).toList)] := by
  have hown : status? (point.statusText ++ " " ++ toString number ++ " - " ++
      point.description).toList =
        some (!point.isFailure, (toString number ++ " - " ++ point.description).toList) := by
    cases hfailure : point.isFailure <;>
      simp [statusText, hfailure, status?]
  have hcomments : ∀ line : String, status? ("  # " ++ line).toList = none := by
    intro line
    simp [status?]
  rw [lines, List.map_cons, List.filterMap_cons_some hown, List.map_map,
    List.filterMap_map]
  congr 1
  apply List.filterMap_eq_nil_iff.mpr
  intro line _
  exact hcomments line

theorem filterMap_status?_points (points : List (Point × Nat)) :
    ((points.flatMap fun (point, number) => point.lines number).map
        String.toList).filterMap status? =
      points.map fun (point, number) =>
        (!point.isFailure, (toString number ++ " - " ++ point.description).toList) := by
  induction points with
  | nil => rfl
  | cons first points ih =>
      rw [List.flatMap_cons, List.map_append, List.filterMap_append, ih,
        Point.filterMap_status?_lines]
      rfl

theorem mapM_read?_points (points : List (Point × Nat)) :
    (points.map fun (point, number) =>
        (!point.isFailure, (toString number ++ " - " ++ point.description).toList)).mapM
      PointLine.read? = some (points.map PointLine.of) := by
  rw [List.mapM_map]
  exact mapM_eq_some_map fun point _ => PointLine.read?_line _ _ _

theorem not_mem_toString (number : Nat) : '\n' ∉ (toString number).toList := by
  intro hfeed
  have hdigit := isDigit_of_mem_toString hfeed
  exact absurd hdigit (by decide)

theorem Point.not_mem_lines {point : Point} (number : Nat)
    (hdescription : '\n' ∉ point.description.toList) :
    ∀ line ∈ point.lines number, '\n' ∉ line.toList := by
  have hstatus : '\n' ∉ point.statusText.toList := by
    unfold statusText
    split <;> decide
  have hnumber := not_mem_toString number
  rw [lines, List.forall_mem_cons, List.forall_mem_map]
  constructor
  · simp only [String.toList_append, List.mem_append, not_or]
    exact ⟨⟨⟨⟨hstatus, by decide⟩, hnumber⟩, by decide⟩, hdescription⟩
  · intro line hline
    simp only [String.toList_append, List.mem_append, not_or]
    refine ⟨by decide, ?_⟩
    unfold diagnosticLines at hline
    split at hline
    · cases hline
    · exact Text.not_mem_lines _ line hline

/-! ## Counts -/

theorem countBehind?_lead (lead : String) (number : Nat) :
    countBehind? lead (lead ++ toString number).toList = some (some number) := by
  have hdrop : (lead ++ toString number).toList.dropPrefix? lead.toList =
      some (toString number).toList := by
    rw [String.toList_append]
    exact List.dropPrefix?_append_of_beq _ (by simp)
  rw [countBehind?, hdrop, Option.map_some, number?_toString]

theorem countBehind?_of_head {lead : String} {line : List Char} {c d : Char}
    (hlead : lead.toList.head? = some c) (hline : line.head? = some d) (hne : c ≠ d) :
    countBehind? lead line = none := by
  obtain ⟨rest, hrest⟩ := List.head?_eq_some_iff.mp hlead
  obtain ⟨later, hlater⟩ := List.head?_eq_some_iff.mp hline
  simp [countBehind?, hrest, hlater, List.dropPrefix?, hne.symm]

theorem Point.head?_lines (point : Point) (number : Nat) :
    ∀ line ∈ point.lines number,
      ∃ c, line.toList.head? = some c ∧ c ≠ '1' ∧ c ≠ '#' := by
  rw [lines, List.forall_mem_cons, List.forall_mem_map]
  constructor
  · cases hfailure : point.isFailure
    · exact ⟨'o', by simp [statusText, hfailure], by decide, by decide⟩
    · exact ⟨'n', by simp [statusText, hfailure], by decide, by decide⟩
  · intro line _
    exact ⟨' ', by simp, by decide, by decide⟩

namespace Report

def lines (report : Report) : List String :=
  let count := report.points.length
  let failures := report.failureCount
  ["TAP version 14", "1.." ++ toString count] ++
    report.numbered.flatMap (fun (point, number) => point.lines number) ++
    ["# tests " ++ toString count, "# pass  " ++ toString (count - failures),
      "# fail  " ++ toString failures]

theorem renderPoints_eq_written (points : List (Point × Nat)) :
    renderPoints points =
      written (points.flatMap fun (point, number) => point.lines number) := by
  induction points with
  | nil => rfl
  | cons first points ih =>
      rw [List.flatMap_cons, written_append, ← ih, ← Point.render_eq_written]
      simp [renderPoints]

theorem render_eq_written (report : Report) : report.render = written report.lines := by
  have htext : ∀ text : String, toString text = text := fun _ => rfl
  have hopening : ∀ count : Nat, s!"TAP version 14\n1..{count}\n" =
      written ["TAP version 14", "1.." ++ toString count] := by
    intro count
    apply String.toList_inj.mp
    simp [written, htext]
  have hsummary : ∀ count passes failures : Nat,
      s!"# tests {count}\n# pass  {passes}\n# fail  {failures}\n" =
        written ["# tests " ++ toString count, "# pass  " ++ toString passes,
          "# fail  " ++ toString failures] := by
    intro count passes failures
    apply String.toList_inj.mp
    simp [written, htext]
  unfold render lines
  dsimp only
  rw [written_append, written_append, hopening, hsummary, renderPoints_eq_written]

theorem not_mem_lines (report : Report)
    (hdescriptions : ∀ point ∈ report.points, '\n' ∉ point.description.toList) :
    ∀ line ∈ report.lines, '\n' ∉ line.toList := by
  have hcount : ∀ (lead : String) (number : Nat), '\n' ∉ lead.toList →
      '\n' ∉ (lead ++ toString number).toList := by
    intro lead number hlead
    rw [String.toList_append, List.mem_append, not_or]
    exact ⟨hlead, not_mem_toString number⟩
  unfold lines
  dsimp only
  rw [List.forall_mem_append, List.forall_mem_append, List.forall_mem_flatMap]
  refine ⟨⟨?_, ?_⟩, ?_⟩
  · simp only [List.forall_mem_cons, List.not_mem_nil]
    exact ⟨by decide, hcount _ _ (by decide), by simp⟩
  · intro point hpoint
    have hmem : point.1 ∈ report.points := List.fst_mem_of_mem_zipIdx hpoint
    exact point.1.not_mem_lines point.2 (hdescriptions _ hmem)
  · simp only [List.forall_mem_cons, List.not_mem_nil]
    exact ⟨hcount _ _ (by decide), hcount _ _ (by decide), hcount _ _ (by decide),
      by simp⟩

end Report

/-! ## Reading a report -/

variable {lines : List String}

theorem readPoints_written (hlines : ∀ line ∈ lines, '\n' ∉ line.toList) :
    readPoints (written lines) =
      ((lines.map String.toList).filterMap status?).mapM PointLine.read? := by
  have hend : [[]].filterMap status? = [] := rfl
  rw [readPoints, splitOn_written hlines, List.filterMap_append, hend, List.append_nil]

theorem readCounts_written {lead : String} (hlead : lead ≠ "")
    (hlines : ∀ line ∈ lines, '\n' ∉ line.toList) :
    readCounts lead (written lines) =
      lines.filterMap fun line => countBehind? lead line.toList := by
  have hend : countBehind? lead [] = none := by
    cases hlist : lead.toList with
    | nil => exact absurd (by simpa using hlist) hlead
    | cons c rest => simp [countBehind?, hlist, List.dropPrefix?]
  rw [readCounts, splitOn_written hlines, List.filterMap_append, List.filterMap_map]
  simp only [List.filterMap_cons_none hend, List.filterMap_nil, List.append_nil]
  rfl

theorem countBehind?_points {lead : String} {c : Char} (hlead : lead.toList.head? = some c)
    (hc : c = '1' ∨ c = '#') (points : List (Point × Nat)) :
    (points.flatMap fun (point, number) => point.lines number).filterMap
      (fun line => countBehind? lead line.toList) = [] := by
  apply List.filterMap_eq_nil_iff.mpr
  intro line hline
  rcases List.mem_flatMap.mp hline with ⟨point, _, hmem⟩
  rcases point.1.head?_lines point.2 line hmem with ⟨d, hhead, hone, hhash⟩
  apply countBehind?_of_head hlead hhead
  rcases hc with rfl | rfl
  · exact hone.symm
  · exact hhash.symm

theorem readPoints_renderPoints {points : List (Point × Nat)}
    (hdescriptions : ∀ point ∈ points, '\n' ∉ point.1.description.toList) :
    readPoints (Report.renderPoints points) = some (points.map PointLine.of) := by
  have hlines : ∀ line ∈ points.flatMap (fun (point, number) => point.lines number),
      '\n' ∉ line.toList := by
    rw [List.forall_mem_flatMap]
    intro point hpoint
    exact point.1.not_mem_lines point.2 (hdescriptions point hpoint)
  rw [Report.renderPoints_eq_written, readPoints_written hlines, filterMap_status?_points,
    mapM_read?_points]

namespace Report

variable {report : Report}

theorem readPoints_render
    (hdescriptions : ∀ point ∈ report.points, '\n' ∉ point.description.toList) :
    readPoints report.render = some (report.numbered.map PointLine.of) := by
  have hopening : ∀ count : Nat,
      (["TAP version 14", "1.." ++ toString count].map String.toList).filterMap status? =
        [] := by
    intro count
    simp [status?]
  have hsummary : ∀ count passes failures : Nat,
      (["# tests " ++ toString count, "# pass  " ++ toString passes,
        "# fail  " ++ toString failures].map String.toList).filterMap status? = [] := by
    intro count passes failures
    simp [status?]
  rw [render_eq_written, readPoints_written (report.not_mem_lines hdescriptions)]
  unfold lines
  dsimp only
  rw [List.map_append, List.map_append, List.filterMap_append, List.filterMap_append,
    hopening, hsummary, List.nil_append, List.append_nil, filterMap_status?_points,
    mapM_read?_points]

theorem readCounts_render
    (hdescriptions : ∀ point ∈ report.points, '\n' ∉ point.description.toList) :
    readCounts "1.." report.render = [some report.points.length] ∧
    readCounts "# tests " report.render = [some report.points.length] ∧
    readCounts "# pass  " report.render =
      [some (report.points.length - report.failureCount)] ∧
    readCounts "# fail  " report.render = [some report.failureCount] := by
  have hread : ∀ (lead : String) (c : Char), lead.toList.head? = some c →
      c = '1' ∨ c = '#' → readCounts lead report.render =
        ["TAP version 14", "1.." ++ toString report.points.length].filterMap
            (fun line => countBehind? lead line.toList) ++
          ["# tests " ++ toString report.points.length,
            "# pass  " ++ toString (report.points.length - report.failureCount),
            "# fail  " ++ toString report.failureCount].filterMap
              (fun line => countBehind? lead line.toList) := by
    intro lead c hhead hc
    have hlead : lead ≠ "" := by
      rintro rfl
      cases hhead
    rw [render_eq_written, readCounts_written hlead (report.not_mem_lines hdescriptions)]
    unfold lines
    dsimp only
    rw [List.filterMap_append, List.filterMap_append, countBehind?_points hhead hc,
      List.append_nil]
  refine ⟨?_, ?_, ?_, ?_⟩
  · rw [hread "1.." '1' rfl (Or.inl rfl)]
    simp only [List.filterMap_cons, countBehind?_lead]
    simp [countBehind?, List.dropPrefix?]
  · rw [hread "# tests " '#' rfl (Or.inr rfl)]
    simp only [List.filterMap_cons, countBehind?_lead]
    simp [countBehind?, List.dropPrefix?]
  · rw [hread "# pass  " '#' rfl (Or.inr rfl)]
    simp only [List.filterMap_cons, countBehind?_lead]
    simp [countBehind?, List.dropPrefix?]
  · rw [hread "# fail  " '#' rfl (Or.inr rfl)]
    simp only [List.filterMap_cons, countBehind?_lead]
    simp [countBehind?, List.dropPrefix?]

theorem points_foldl_add (report : Report) (calls : List Point) :
    (calls.foldl add report).points = report.points ++ calls := by
  induction calls generalizing report with
  | nil => simp
  | cons call calls ih =>
      rw [List.foldl_cons, ih, add, List.append_assoc]
      rfl

end Report

/-- Whatever diagnostics are given, a report and its short form are read as the
points that were made, numbered in order, and the counts are theirs. -/
theorem report_reads_back (calls : List Point)
    (hdescriptions : ∀ call ∈ calls, '\n' ∉ call.description.toList) :
    let report := calls.foldl Report.add .empty
    let told := calls.mapIdx fun index call =>
      (⟨!call.isFailure, index + 1, call.description⟩ : PointLine)
    readPoints report.render = some told ∧
    readPoints report.renderFailures = some (told.filter (!·.passed)) ∧
    readCounts "1.." report.render = [some calls.length] ∧
    readCounts "# tests " report.render = [some calls.length] ∧
    ∃ passes failures, readCounts "# pass  " report.render = [some passes] ∧
      readCounts "# fail  " report.render = [some failures] ∧
      failures = calls.countP Point.isFailure ∧ passes + failures = calls.length := by
  intro report told
  have hpoints : report.points = calls := Report.points_foldl_add .empty calls
  have htold : report.numbered.map PointLine.of = told := by
    rw [Report.numbered, hpoints]
    apply List.ext_getElem
    · simp [told]
    · intro index _ _
      simp [told, PointLine.of, Nat.add_comm]
  rw [← hpoints] at hdescriptions
  obtain ⟨hplan, htests, hpasses, hfailures⟩ := Report.readCounts_render hdescriptions
  refine ⟨?_, ?_, hpoints ▸ hplan, hpoints ▸ htests, _, _, hpasses, hfailures, ?_, ?_⟩
  · rw [Report.readPoints_render hdescriptions, htold]
  · have hfailed : ∀ point ∈ report.numbered.filter (·.1.isFailure),
        '\n' ∉ point.1.description.toList := by
      intro point hpoint
      exact hdescriptions _ (List.fst_mem_of_mem_zipIdx (List.mem_of_mem_filter hpoint))
    have hstatus : (fun line : PointLine => !line.passed) ∘ PointLine.of =
        fun point : Point × Nat => point.1.isFailure := by
      funext point
      simp [PointLine.of]
    rw [Report.renderFailures, readPoints_renderPoints hfailed, ← htold, List.filter_map,
      hstatus]
  · rw [Report.failureCount, hpoints]
  · have hle : report.failureCount ≤ report.points.length := List.countP_le_length
    rw [hpoints] at hle
    rw [hpoints]
    omega

/-- Diagnostics that look like points, a plan and a count, behind line ends of
both kinds and behind a carriage return. -/
theorem sham_lines_are_not_read :
    let calls : List Point := [.ok "positive/door\r",
      .notOk "negative/resolve/x" "ok 3 - sham\r\n1..9\n\nnot ok 4 - sham\r# fail  0\n",
      .ok "lex/a - b"]
    let report := calls.foldl Report.add .empty
    (∀ call ∈ calls, '\n' ∉ call.description.toList) ∧
    readPoints report.render = some [⟨true, 1, "positive/door\r"⟩,
      ⟨false, 2, "negative/resolve/x"⟩, ⟨true, 3, "lex/a - b"⟩] ∧
    readPoints report.renderFailures = some [⟨false, 2, "negative/resolve/x"⟩] ∧
    readCounts "1.." report.render = [some 3] ∧
    ∃ passes failures, readCounts "# pass  " report.render = [some passes] ∧
      readCounts "# fail  " report.render = [some failures] ∧
      failures = 1 ∧ passes + failures = 3 := by
  intro calls report
  have hdescriptions : ∀ call ∈ calls, '\n' ∉ call.description.toList := by
    decide
  obtain ⟨hpoints, hfailures, hplan, -, hsummary⟩ := report_reads_back calls hdescriptions
  exact ⟨hdescriptions, hpoints, hfailures, hplan, hsummary⟩

end Statecharts.Tap
