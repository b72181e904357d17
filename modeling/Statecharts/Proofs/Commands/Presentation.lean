import Statecharts.CommandLine.Run
import Mathlib.Tactic

/-!
# Presentation and effect

A command first does its work on the files, and then it presents the result.
The work knows nothing of the presentation, and the exit code is told by the
result in whatever way it is presented.  So the code and the files are the same
for all presentations, whatever kind of files the command works on.
-/

namespace Statecharts

/-! ## Results -/

/-- The exit code is told by the result alone. -/
def TellsCode {α : Type} (present : Presentation → α → Outcome) : Prop :=
  ∀ presentation presentation' result,
    (present presentation result).exitCode = (present presentation' result).exitCode

namespace Commands

theorem tellsCode_presentChart : TellsCode presentChart := by
  intro presentation presentation' result
  cases result <;> rfl

theorem tellsCode_presentSummary : TellsCode presentSummary := by
  intro presentation presentation' result
  cases result <;> rfl

theorem tellsCode_presentBuild : TellsCode presentBuild := by
  intro presentation presentation' result
  cases result <;> rfl

theorem tellsCode_presentScan (file : String) :
    TellsCode fun presentation text =>
      presentScan presentation file (Description.scan text) :=
  fun _ _ _ => rfl

theorem tellsCode_presentFaults : TellsCode presentFaults := by
  intro presentation presentation' faults
  cases faults <;> rfl

theorem tellsCode_presentBundle (file : String) :
    TellsCode fun presentation text => presentBundle presentation file text := by
  intro presentation presentation' text
  simp only [presentBundle]
  cases Json.read text with
  | error error => rfl
  | ok json => exact tellsCode_presentFaults presentation presentation' _

/-- What is presented of a file: its text, or that it cannot be read. -/
def presentRead (file : String) (present : Presentation → String → Outcome)
    (presentation : Presentation) : Except FileError String → Outcome
  | .error error => presentation.reportError (readingError file error)
  | .ok text => present presentation text

theorem tellsCode_presentRead {present : Presentation → String → Outcome}
    (htells : TellsCode present) (file : String) :
    TellsCode (presentRead file present) := by
  intro presentation presentation' read
  cases read with
  | error error => rfl
  | ok text => exact htells presentation presentation' text

/-- What is presented of a suite: its report, or that it is not there. -/
def presentSuite (suite : String) (presentation : Presentation) :
    Option Tap.Report → Outcome
  | none => .failure s!"error: conformance suite directory not found: {suite}\n"
  | some report => presentReport presentation report

theorem tellsCode_presentSuite (suite : String) : TellsCode (presentSuite suite) := by
  intro presentation presentation' report?
  cases report? <;> rfl

/-! ## Work -/

variable {m : Type → Type} [Monad m] [LawfulMonad m] [FileAccess m]

theorem lex_eq (presentation : Presentation) (file : String) :
    (lex presentation file : m Outcome) =
      presentRead file (fun presentation text =>
        presentScan presentation file (Description.scan text)) presentation <$>
          FileAccess.readText file := by
  rw [lex, ← bind_pure_comp]
  refine bind_congr fun read => ?_
  cases read <;> rfl

theorem validate_eq (presentation : Presentation) (file : String) :
    (validate presentation file : m Outcome) =
      presentRead file (fun presentation text =>
        presentBundle presentation file text) presentation <$>
          FileAccess.readText file := by
  rw [validate, ← bind_pure_comp]
  refine bind_congr fun read => ?_
  cases read <;> rfl

def reportOn (suite : String) : m (Option Tap.Report) := do
  if ← FileAccess.pathExists suite then
    return some (← Conformance.run suite)
  else
    return none

theorem test_eq (presentation : Presentation) (suite : String) :
    (test presentation suite : m Outcome) =
      presentSuite suite presentation <$> reportOn suite := by
  rw [test, reportOn, map_bind]
  refine bind_congr fun isThere => ?_
  cases isThere with
  | false => simp [presentSuite]
  | true => simp [presentSuite]

end Commands

/-- Every command is some work, and then a presentation of its result. -/
theorem Command.exists_work (m : Type → Type) [Monad m] [LawfulMonad m]
    [FileAccess m] (command : Command) :
    ∃ (α : Type) (present : Presentation → α → Outcome) (work : m α),
      TellsCode present ∧
        ∀ presentation, command.run presentation = present presentation <$> work := by
  cases command with
  | lex file =>
      exact ⟨_, _, _, Commands.tellsCode_presentRead
        (Commands.tellsCode_presentScan file) file,
        fun presentation => Commands.lex_eq presentation file⟩
  | elaborate file =>
      exact ⟨_, _, elaborateFile file, Commands.tellsCode_presentChart, fun _ => rfl⟩
  | check file =>
      exact ⟨_, _, elaborateFile file, Commands.tellsCode_presentSummary, fun _ => rfl⟩
  | build project =>
      exact ⟨_, _, Commands.buildProject project, Commands.tellsCode_presentBuild,
        fun _ => rfl⟩
  | validate bundle =>
      exact ⟨_, _, _, Commands.tellsCode_presentRead
        (Commands.tellsCode_presentBundle bundle) bundle,
        fun presentation => Commands.validate_eq presentation bundle⟩
  | test suite =>
      exact ⟨_, _, _, Commands.tellsCode_presentSuite suite,
        fun presentation => Commands.test_eq presentation suite⟩

theorem Command.exitCode_run {m : Type → Type} [Monad m] [LawfulMonad m]
    [FileAccess m] (command : Command) (presentation presentation' : Presentation) :
    Outcome.exitCode <$> (command.run presentation : m Outcome) =
      Outcome.exitCode <$> command.run presentation' := by
  obtain ⟨α, present, work, htells, hrun⟩ := command.exists_work m
  have hcode : Outcome.exitCode ∘ present presentation =
      Outcome.exitCode ∘ present presentation' :=
    funext (htells presentation presentation')
  rw [hrun, hrun, ← comp_map, ← comp_map, hcode]

/-! ## File trees -/

/-- Two runs that end with the same code and leave the same files. -/
def SameEffect (first second : StateM FileTree Outcome) : Prop :=
  ∀ tree, (first tree).1.exitCode = (second tree).1.exitCode ∧
    (first tree).2 = (second tree).2

theorem Command.sameEffect_run (command : Command)
    (presentation presentation' : Presentation) :
    SameEffect (command.run presentation) (command.run presentation') := by
  intro tree
  let run (presentation : Presentation) : Outcome × FileTree :=
    (command.run presentation : StateM FileTree Outcome) tree
  have hruns : ((run presentation).1.exitCode, (run presentation).2) =
      ((run presentation').1.exitCode, (run presentation').2) :=
    congrArg (fun code : StateM FileTree Nat => code tree)
      (command.exitCode_run presentation presentation')
  exact Prod.mk.inj hruns

end Statecharts
