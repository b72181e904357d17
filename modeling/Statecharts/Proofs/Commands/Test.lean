import Statecharts.Commands.Inspect
import Statecharts.Proofs.Conformance.Fixtures

/-!
# Running a suite

A run over a suite that is there reports one point for every fixture and leaves
the files as they are.  It succeeds exactly when all of them pass.

The folder of a faulty chart names a stage, but only the file with the expected
error is compared with the error that occurs.  So a chart that fails in the
other stage passes in this folder as well, if that file says so.
-/

namespace Statecharts.Commands

open Conformance

variable {tree : FileTree} {suite : String}

theorem test_run (presentation : Presentation) (hsuite : tree.pathExists suite = true) :
    ∃ folders : List (List Tap.Point),
      (test presentation suite : StateM FileTree Outcome) tree =
        (presentReport presentation ⟨folders.flatten⟩, tree) ∧
      List.Forall₂ (Covers tree suite) kinds folders := by
  have hexists : (FileAccess.pathExists suite : StateM FileTree _) tree = (true, tree) :=
    congrArg (·, tree) hsuite
  obtain ⟨folders, hrun, hfolders⟩ := run_covers suite tree
  refine ⟨folders, ?_, hfolders⟩
  simp only [test, bind, StateT.bind, hexists, if_true, hrun]
  rfl

theorem exitCode_presentReport (presentation : Presentation) (report : Tap.Report) :
    (presentReport presentation report).exitCode = 1 ↔
      ∃ point ∈ report.points, point.verdict ≠ .passed := by
  have hfailures : report.failureCount = 0 ↔
      ¬ ∃ point ∈ report.points, point.verdict ≠ .passed := by
    rw [Tap.Report.failureCount, List.countP_eq_zero]
    simp [Tap.Point.isFailure]
  unfold presentReport
  dsimp only
  split
  next hnone => simpa using hfailures.mp hnone
  next hsome =>
    rw [hfailures, not_not] at hsome
    simp [hsome]

/-- A run gives one point for each chart in the folders of charts and for each
description in the folder of descriptions, in the order of the folders and of
the names in them.  A point is passed exactly when what its file gives equals
what is expected, and one that is not passed fails the run. -/
theorem each_fixture_gives_a_point (presentation : Presentation) (suite : String)
    (tree : FileTree) (hsuite : tree.pathExists suite = true) :
    ∃ folders : List (List Tap.Point),
      (test presentation suite : StateM FileTree Outcome) tree =
        (presentReport presentation ⟨folders.flatten⟩, tree) ∧
      List.Forall₂ (Covers tree suite)
        [.positive, .negative "resolve", .negative "validate", .lex] folders ∧
      ((presentReport presentation ⟨folders.flatten⟩).exitCode = 1 ↔
        ∃ point ∈ folders.flatten, point.verdict ≠ .passed) := by
  obtain ⟨folders, hrun, hfolders⟩ := test_run presentation hsuite
  exact ⟨folders, hrun, hfolders, exitCode_presentReport presentation _⟩

/-- A chart with no expected bundle beside it. -/
theorem fixture_without_expectation_fails :
    let tree : FileTree :=
      { workingDirectory := []
        entries := [(["suite"], .directory), (["suite", "positive"], .directory),
          (["suite", "positive", "lamp.yaml"], .text "name: Lamp\n")] }
    tree.pathExists "suite" = true ∧
      ((test {} "suite" : StateM FileTree Outcome) tree).1.exitCode = 1 := by
  intro tree
  have hsuite : tree.pathExists "suite" = true := by
    subst tree
    decide +kernel
  obtain ⟨folders, hrun, hfolders, hcode⟩ := each_fixture_gives_a_point {} "suite" tree hsuite
  have hlamp : 0 < tree.countIn (Path.join "suite" "positive") "lamp.yaml" := by
    subst tree
    decide +kernel
  have habsent : tree.readText
      (Path.join (Path.join "suite" "positive") "lamp.expected.json") = .error .notFound := by
    subst tree
    decide +kernel
  refine ⟨hsuite, ?_⟩
  rw [hrun, hcode]
  have hkind : FixtureKind.positive ∈ kinds := List.mem_cons_self
  have hstem : "lamp" ≠ "" := by decide
  obtain ⟨point, hpoint, hjudge⟩ := exists_judges hfolders hkind hstem hlamp
  refine ⟨point, hpoint, ?_⟩
  rw [ne_eq, hjudge.passed]
  rintro ⟨expected, ⟨text, htext, -⟩, -⟩
  cases habsent.symm.trans htext

/-! ## The stage of an error -/

/-- A chart in a folder that names a stage passes exactly when it fails with the
message and in the stage that the file with its expected error states.  The name
of the folder is not compared with that stage. -/
theorem negative_ok_iff_fails_as_stated (presentation : Presentation) (suite : String)
    (tree : FileTree) (hsuite : tree.pathExists suite = true) :
    ∃ report : Tap.Report,
      (test presentation suite : StateM FileTree Outcome) tree =
        (presentReport presentation report, tree) ∧
      ∀ stage ∈ ["resolve", "validate"], ∀ stem,
        let directory := Path.join suite ("negative/" ++ stage)
        .ok ("negative/" ++ stage ++ "/" ++ stem) ∈ report.points ↔
          stem ≠ "" ∧ 0 < tree.countIn directory (stem ++ ".yaml") ∧
          ∃ error,
            ((elaborateFile (Path.join directory (stem ++ ".yaml")) :
              StateM FileTree _) tree).1 = .error error ∧
            Holds tree (Path.join directory (stem ++ ".expected-error.json"))
              (.object [("message", .string error.message),
                ("stage", .string error.stage)]) := by
  obtain ⟨folders, hrun, hfolders⟩ := test_run presentation hsuite
  refine ⟨⟨folders.flatten⟩, hrun, ?_⟩
  intro stage hstage stem directory
  have hkind : FixtureKind.negative stage ∈ kinds := by
    simpa [kinds] using hstage
  have hok : .ok ("negative/" ++ stage ++ "/" ++ stem) ∈ folders.flatten ↔
      stem ≠ "" ∧ 0 < tree.countIn directory (stem ++ "." ++ "yaml") ∧
        Passes tree directory (.negative stage) stem :=
    ok_mem_flatten_iff hfolders hkind
  have hfile : stem ++ "." ++ "yaml" = stem ++ ".yaml" := String.append_assoc ..
  rw [hok, hfile, passes_negative_iff]

/-- A suite in which a chart without states, which is refused in validation, is
a fixture of the folder for the other stage. -/
def doorSuite : FileTree where
  workingDirectory := []
  entries := [
    (["suite"], .directory), (["suite", "negative"], .directory),
    (["suite", "negative", "resolve"], .directory),
    (["suite", "negative", "resolve", "door.yaml"], .text "name: Door\n"),
    (["suite", "negative", "resolve", "door.expected-error.json"],
      .text ((CompileError.validation .noRoots).toJson.pretty ++ "\n"))]

theorem doorSuite_exists : doorSuite.pathExists "suite" = true := by
  decide +kernel

theorem doorSuite_lists_door :
    0 < doorSuite.countIn (Path.join "suite" "negative/resolve") "door.yaml" := by
  decide +kernel

theorem elaborateFile_door :
    ((elaborateFile (Path.join (Path.join "suite" "negative/resolve") "door.yaml") :
      StateM FileTree _) doorSuite).1 = .error (.validation .noRoots) := by
  decide +kernel

theorem doorSuite_holds_error :
    Holds doorSuite
      (Path.join (Path.join "suite" "negative/resolve") "door.expected-error.json")
      (CompileError.validation .noRoots).toJson := by
  have hreadable := CompileError.readable_toJson 126 (.validation .noRoots)
  refine ⟨_, ?_, Json.read_pretty hreadable⟩
  decide +kernel

theorem door_is_listed_and_passes :
    doorSuite.pathExists "suite" = true ∧
    ∃ report : Tap.Report,
      (test {} "suite" : StateM FileTree Outcome) doorSuite =
        (presentReport {} report, doorSuite) ∧
      .ok "negative/resolve/door" ∈ report.points := by
  obtain ⟨report, hrun, hok⟩ :=
    negative_ok_iff_fails_as_stated {} "suite" doorSuite doorSuite_exists
  refine ⟨doorSuite_exists, report, hrun, ?_⟩
  exact (hok "resolve" List.mem_cons_self "door").mpr ⟨by decide, doorSuite_lists_door,
    _, elaborateFile_door, doorSuite_holds_error⟩

/-- The folder names the stage of resolution, the chart fails in validation, and
its point is passed. -/
theorem ok_in_folder_of_other_stage :
    ∃ report : Tap.Report,
      (test {} "suite" : StateM FileTree Outcome) doorSuite =
        (presentReport {} report, doorSuite) ∧
      .ok "negative/resolve/door" ∈ report.points ∧
      ∃ error, ((elaborateFile "suite/negative/resolve/door.yaml" :
          StateM FileTree _) doorSuite).1 = .error error ∧
        error.stage ≠ "resolve" := by
  obtain ⟨folders, hrun, hfolders⟩ := test_run {} doorSuite_exists
  have hkind : FixtureKind.negative "resolve" ∈ kinds := by simp [kinds]
  have hfile : Path.join (Path.join "suite" "negative/resolve") "door.yaml" =
      "suite/negative/resolve/door.yaml" := by decide
  have hpasses : Passes doorSuite (Path.join "suite" "negative/resolve")
      (.negative "resolve") "door" :=
    passes_negative_iff.mpr ⟨_, elaborateFile_door, doorSuite_holds_error⟩
  have hok : .ok ("negative/resolve" ++ "/" ++ "door") ∈ folders.flatten :=
    (ok_mem_flatten_iff hfolders hkind).mpr ⟨by decide, doorSuite_lists_door, hpasses⟩
  exact ⟨⟨folders.flatten⟩, hrun, hok, _, hfile ▸ elaborateFile_door, by decide⟩

end Statecharts.Commands
