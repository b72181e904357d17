import Statecharts.Conformance.Suite
import Statecharts.Proofs.Bundle.Layout
import Statecharts.Proofs.Files.Listing
import Statecharts.Proofs.Json.Agreement

/-!
# Fixtures and their points

A fixture passes when the text in its file gives what the file beside it says:
a chart its bundle, a faulty chart its error.  Neither of these values has a
number in it, so they agree with what is expected only by being equal to it.

A run over a suite goes through the folders in order and through the fixtures of
a folder in the order of their file names.  Every way through the judgement of
a fixture ends with one point, so there are as many points as fixtures.
-/

namespace Statecharts

theorem CompileError.readable_toJson (levels : Nat) (error : CompileError) :
    Json.Readable (levels + 1) error.toJson := by
  have hkeys : ["message", "stage"].Pairwise (· < ·) := by decide
  refine .object hkeys ?_
  simp [Json.Readable.string]

theorem mapM_run {σ α β : Type} {visit : α → StateM σ β} {R : α → β → Prop}
    {items : List α} {state : σ}
    (hitems : ∀ item ∈ items, ∃ value, visit item state = (value, state) ∧ R item value) :
    ∃ values, (items.mapM visit) state = (values, state) ∧ List.Forall₂ R items values := by
  induction items with
  | nil => exact ⟨[], rfl, .nil⟩
  | cons item items ih =>
      rw [List.forall_mem_cons] at hitems
      obtain ⟨value, hvisit, hvalue⟩ := hitems.1
      obtain ⟨values, hrest, hvalues⟩ := ih hitems.2
      refine ⟨value :: values, ?_, .cons hvalue hvalues⟩
      simp only [List.mapM_cons, bind, StateT.bind, hvisit, hrest]
      rfl

namespace Conformance

variable {tree : FileTree} {suite directory stem path : String} {kind : FixtureKind}

/-! ## What a fixture is to give -/

/-- The text in a file gives a value of the kind of the fixture. -/
def Gives (tree : FileTree) (path : String) (expected : Json) : FixtureKind → Prop
  | .positive => ∃ chart,
      ((elaborateFile path : StateM FileTree _) tree).1 = .ok chart ∧
      chart.toJson = expected
  | .negative _ => ∃ error,
      ((elaborateFile path : StateM FileTree _) tree).1 = .error error ∧
      .object [("message", .string error.message), ("stage", .string error.stage)] =
        expected
  | .lex => ∃ text, tree.readText path = .ok text ∧
      (Description.scan text).toJson.agrees expected = true

/-- The text in a file reads as a value. -/
def Holds (tree : FileTree) (path : String) (value : Json) : Prop :=
  ∃ text, tree.readText path = .ok text ∧ Json.read text = .ok value

/-- A fixture gives the value that the file beside it holds. -/
def Passes (tree : FileTree) (directory : String) (kind : FixtureKind) (stem : String) :
    Prop :=
  ∃ expected,
    Holds tree (Path.join directory (stem ++ "." ++ kind.expectedName ++ ".json"))
      expected ∧
    Gives tree (Path.join directory (stem ++ "." ++ kind.extension)) expected kind

/-- The point of a fixture. -/
structure Judges (tree : FileTree) (directory : String) (kind : FixtureKind)
    (stem : String) (point : Tap.Point) : Prop where
  description : point.description = kind.folder ++ "/" ++ stem
  passed : point.verdict = .passed ↔ Passes tree directory kind stem

/-- Every entry of a directory with an extension is listed once, in the order of
the names of the entries. -/
structure Lists (tree : FileTree) (directory extension : String)
    (stems : List String) : Prop where
  ascending : (stems.map fun stem => stem ++ "." ++ extension).Pairwise (· ≤ ·)
  nonempty : "" ∉ stems
  count : ∀ stem ≠ "",
    stems.count stem = tree.countIn directory (stem ++ "." ++ extension)

/-- The points of a folder are those of the fixtures in it. -/
def Covers (tree : FileTree) (suite : String) (kind : FixtureKind)
    (points : List Tap.Point) : Prop :=
  ∃ stems, Lists tree (Path.join suite kind.folder) kind.extension stems ∧
    List.Forall₂ (Judges tree (Path.join suite kind.folder) kind) stems points

/-! ## Verdicts -/

theorem compare_passed_iff {label : String} {expected got : Json} :
    compare label expected got = .passed ↔ got.agrees expected = true := by
  unfold compare
  split
  next hagrees => simp [hagrees]
  next hdiffers => simp [hdiffers]

theorem judgePositive_passed_iff {expected : Json} (hexpected : expected.Ordered)
    (result : Except CompileError Chart) :
    judgePositive expected result = .passed ↔
      ∃ chart, result = .ok chart ∧ chart.toJson = expected := by
  cases result with
  | error error => simp [judgePositive]
  | ok chart =>
      have hagrees : chart.toJson.agrees expected = true ↔ chart.toJson = expected :=
        (chart.bundle.readable_toJson 0).agrees_iff hexpected
      simp [judgePositive, compare_passed_iff, hagrees]

theorem judgeNegative_passed_iff {stage : String} {expected : Json}
    (hexpected : expected.Ordered) (result : Except CompileError Chart) :
    judgeNegative stage expected result = .passed ↔
      ∃ error, result = .error error ∧ error.toJson = expected := by
  cases result with
  | ok chart => simp [judgeNegative]
  | error error =>
      have hagrees : error.toJson.agrees expected = true ↔ error.toJson = expected :=
        (error.readable_toJson 0).agrees_iff hexpected
      simp [judgeNegative, compare_passed_iff, hagrees]

/-! ## One fixture -/

theorem elaborateFile_run (path : String) (tree : FileTree) :
    ∃ result, (elaborateFile path : StateM FileTree _) tree = (result, tree) := by
  simp only [elaborateFile, Source.ofFile, bind, StateT.bind, FileTree.readText_run]
  exact ⟨_, rfl⟩

theorem readJson_run (path : String) (tree : FileTree) :
    ∃ result, (readJson path : StateM FileTree _) tree = (result, tree) ∧
      ∀ value, result = .ok value ↔ Holds tree path value := by
  simp only [readJson, bind, StateT.bind, FileTree.readText_run]
  refine ⟨_, rfl, fun value => ?_⟩
  unfold Holds
  cases tree.readText path with
  | error error => simp
  | ok text => simp [Except.mapError_eq_ok_iff]

theorem judgeFixture_run {expected : Json} (hexpected : expected.Ordered)
    (kind : FixtureKind) (path : String) (tree : FileTree) :
    ∃ verdict, (judgeFixture kind path expected : StateM FileTree _) tree =
        (verdict, tree) ∧
      (verdict = .passed ↔ Gives tree path expected kind) := by
  obtain ⟨result, hresult⟩ := elaborateFile_run path tree
  cases kind with
  | positive =>
      refine ⟨judgePositive expected result, ?_, ?_⟩
      · simp only [judgeFixture, judgeChart, Functor.map, StateT.map, bind, hresult]
        rfl
      · simp [judgePositive_passed_iff hexpected, Gives, hresult]
  | negative stage =>
      refine ⟨judgeNegative stage expected result, ?_, ?_⟩
      · simp only [judgeFixture, judgeChart, Functor.map, StateT.map, bind, hresult]
        rfl
      · simp [judgeNegative_passed_iff hexpected, Gives, hresult, CompileError.toJson]
  | lex =>
      simp only [judgeFixture, judgeDescription, bind, StateT.bind, FileTree.readText_run]
      refine ⟨_, rfl, ?_⟩
      unfold Gives
      cases tree.readText path with
      | error error => simp
      | ok text => simp [judgeLex, compare_passed_iff]

theorem FixtureKind.dotless_extension (kind : FixtureKind) :
    '.' ∉ kind.extension.toList := by
  cases kind with
  | positive => decide
  | negative stage => exact (by decide : '.' ∉ "yaml".toList)
  | lex => decide

theorem pathExists_of_holds {value : Json} (hholds : Holds tree path value) :
    tree.pathExists path = true := by
  obtain ⟨text, htext, -⟩ := hholds
  obtain ⟨found, hfind, -⟩ := Except.bind_eq_ok_iff.mp htext
  rw [FileTree.pathExists, hfind]
  rfl

theorem runFixture_run (directory : String) (kind : FixtureKind) (tree : FileTree)
    (hstem : stem ≠ "") :
    ∃ point, (runFixture directory kind (stem ++ "." ++ kind.extension) :
        StateM FileTree _) tree = (point, tree) ∧
      Judges tree directory kind stem point := by
  have hcut := Path.splitExtension_append hstem kind.dotless_extension
  have hexists : ∀ path, (FileAccess.pathExists path : StateM FileTree _) tree =
      (tree.pathExists path, tree) := fun _ => rfl
  have htext : ∀ text : String, toString text = text := fun _ => rfl
  obtain ⟨read, hread, hholds⟩ := readJson_run
    (Path.join directory (stem ++ "." ++ kind.expectedName ++ ".json")) tree
  have hpasses : Passes tree directory kind stem ↔ ∃ expected, read = .ok expected ∧
      Gives tree (Path.join directory (stem ++ "." ++ kind.extension)) expected kind := by
    simp only [Passes, hholds]
  unfold runFixture
  simp only [hcut, bind, StateT.bind, hexists, htext]
  split
  next hmissing =>
    -- What is not there cannot be read, so the fixture does not pass.
    refine ⟨_, rfl, rfl, ?_⟩
    simp only [reduceCtorEq, false_iff]
    rintro ⟨expected, hexpected, -⟩
    rw [pathExists_of_holds hexpected] at hmissing
    simp at hmissing
  next =>
    simp only [StateT.bind, hread]
    cases read with
    | error message => exact ⟨_, rfl, rfl, by simp [hpasses]⟩
    | ok expected =>
        obtain ⟨text, -, hparsed⟩ := (hholds expected).mp rfl
        obtain ⟨verdict, hjudge, hpassed⟩ := judgeFixture_run
          (Json.ordered_of_read hparsed) kind
          (Path.join directory (stem ++ "." ++ kind.extension)) tree
        simp only [bind, StateT.bind, hjudge]
        exact ⟨_, rfl, rfl, by simp [hpasses, hpassed]⟩

/-! ## A folder of fixtures -/

theorem isFixture_iff {name : String} :
    isFixture kind name = true ↔
      ∃ stem, stem ≠ "" ∧ stem ++ "." ++ kind.extension = name := by
  rw [isFixture, decide_eq_true_eq]
  constructor
  · intro hextension
    obtain ⟨hstem, hname⟩ := Path.eq_append_of_extension hextension
    exact ⟨_, hstem, hname.symm⟩
  · rintro ⟨stem, hstem, rfl⟩
    rw [Path.splitExtension_append hstem kind.dotless_extension]

theorem exists_lists (tree : FileTree) (directory : String) (kind : FixtureKind) :
    ∃ stems, Lists tree directory kind.extension stems ∧
      (tree.namesIn directory).filter (isFixture kind) =
        stems.map fun stem => stem ++ "." ++ kind.extension := by
  have hinjective : Function.Injective fun stem => stem ++ "." ++ kind.extension := by
    intro stem other hsame
    simpa using hsame
  have hstems : ∃ stems : List String, (stems.map fun stem =>
      stem ++ "." ++ kind.extension) = (tree.namesIn directory).filter (isFixture kind) := by
    rw [← Set.mem_range, Set.range_list_map]
    intro name hname
    obtain ⟨stem, -, hstem⟩ := isFixture_iff.mp (List.mem_filter.mp hname).2
    exact ⟨stem, hstem⟩
  obtain ⟨stems, hstems⟩ := hstems
  refine ⟨stems, ⟨?_, ?_, ?_⟩, hstems.symm⟩
  · rw [hstems]
    exact (tree.namesIn_ascending directory).filter _
  · intro hempty
    have hmem := List.mem_map_of_mem (f := fun stem => stem ++ "." ++ kind.extension) hempty
    rw [hstems, List.mem_filter, isFixture_iff] at hmem
    obtain ⟨-, stem, hstem, hsame⟩ := hmem
    exact hstem (hinjective hsame)
  · intro stem hstem
    rw [← List.count_map_of_injective stems _ hinjective, hstems,
      List.count_filter (isFixture_iff.mpr ⟨stem, hstem, rfl⟩), FileTree.count_namesIn]

theorem runFolder_run (suite : String) (kind : FixtureKind) (tree : FileTree) :
    ∃ points, (runFolder suite kind : StateM FileTree _) tree = (points, tree) ∧
      Covers tree suite kind points := by
  obtain ⟨stems, hlists, hnames⟩ :=
    exists_lists tree (Path.join suite kind.folder) kind
  have hfixtures : ∀ stem ∈ stems, ∃ point, (runFixture (Path.join suite kind.folder) kind
      (stem ++ "." ++ kind.extension) : StateM FileTree _) tree = (point, tree) ∧
        Judges tree (Path.join suite kind.folder) kind stem point := by
    intro stem hmem
    apply runFixture_run
    rintro rfl
    exact hlists.nonempty hmem
  obtain ⟨points, hrun, hpoints⟩ := mapM_run hfixtures
  refine ⟨points, ?_, stems, hlists, hpoints⟩
  simp only [runFolder, bind, StateT.bind, FileTree.sortedNames_run, hnames]
  rw [List.mapM_map]
  exact hrun

theorem run_covers (suite : String) (tree : FileTree) :
    ∃ folders, (run suite : StateM FileTree _) tree = (⟨folders.flatten⟩, tree) ∧
      List.Forall₂ (Covers tree suite) kinds folders := by
  have hkinds : ∀ kind ∈ kinds, ∃ points,
      (runFolder suite kind : StateM FileTree _) tree = (points, tree) ∧
        Covers tree suite kind points := fun kind _ => runFolder_run suite kind tree
  obtain ⟨folders, hrun, hfolders⟩ := mapM_run hkinds
  refine ⟨folders, ?_, hfolders⟩
  simp only [run, bind, StateT.bind, hrun]
  rfl

/-! ## Points by their descriptions -/

theorem Lists.mem_iff {extension : String} {stems : List String}
    (hlists : Lists tree directory extension stems) :
    stem ∈ stems ↔
      stem ≠ "" ∧ 0 < tree.countIn directory (stem ++ "." ++ extension) := by
  by_cases hstem : stem = ""
  · subst hstem
    simp [hlists.nonempty]
  · rw [← hlists.count stem hstem, List.count_pos_iff]
    simp [hstem]

theorem Judges.eq_ok {point : Tap.Point} (hjudges : Judges tree directory kind stem point)
    (hpasses : Passes tree directory kind stem) :
    point = .ok (kind.folder ++ "/" ++ stem) := by
  rw [← hjudges.description, Tap.Point.ok, ← hjudges.passed.mpr hpasses]

/-- The kind and the name of a fixture are told by the description of its point. -/
theorem description_injective {other : FixtureKind} (hkind : kind ∈ kinds)
    (hother : other ∈ kinds) {name : String}
    (hsame : kind.folder ++ "/" ++ stem = other.folder ++ "/" ++ name) :
    kind = other ∧ stem = name := by
  rw [← String.toList_inj] at hsame
  simp only [kinds, List.mem_cons, List.not_mem_nil, or_false] at hkind hother
  rcases hkind with rfl | rfl | rfl | rfl <;>
    rcases hother with rfl | rfl | rfl | rfl <;>
    simp [FixtureKind.folder, String.toList_inj] at hsame ⊢ <;>
    exact hsame

theorem exists_judges {folders : List (List Tap.Point)}
    (hfolders : List.Forall₂ (Covers tree suite) kinds folders) (hkind : kind ∈ kinds)
    (hstem : stem ≠ "") (hlisted : 0 < tree.countIn (Path.join suite kind.folder)
      (stem ++ "." ++ kind.extension)) :
    ∃ point ∈ folders.flatten,
      Judges tree (Path.join suite kind.folder) kind stem point := by
  obtain ⟨points, hpoints, stems, hlists, hjudges⟩ :=
    exists_mem_left_of_forall₂ hfolders.flip hkind
  obtain ⟨point, hpoint, hjudge⟩ :=
    exists_mem_left_of_forall₂ hjudges.flip (hlists.mem_iff.mpr ⟨hstem, hlisted⟩)
  exact ⟨point, List.mem_flatten_of_mem hpoints hpoint, hjudge⟩

theorem ok_mem_flatten_iff {folders : List (List Tap.Point)}
    (hfolders : List.Forall₂ (Covers tree suite) kinds folders) (hkind : kind ∈ kinds) :
    .ok (kind.folder ++ "/" ++ stem) ∈ folders.flatten ↔
      stem ≠ "" ∧
      0 < tree.countIn (Path.join suite kind.folder) (stem ++ "." ++ kind.extension) ∧
      Passes tree (Path.join suite kind.folder) kind stem := by
  constructor
  · intro hok
    obtain ⟨points, hpoints, hpoint⟩ := List.mem_flatten.mp hok
    obtain ⟨other, hother, stems, hlists, hjudges⟩ :=
      exists_mem_left_of_forall₂ hfolders hpoints
    obtain ⟨name, hname, hjudge⟩ := exists_mem_left_of_forall₂ hjudges hpoint
    obtain ⟨rfl, rfl⟩ := description_injective hkind hother hjudge.description
    obtain ⟨hstem, hlisted⟩ := hlists.mem_iff.mp hname
    exact ⟨hstem, hlisted, hjudge.passed.mp rfl⟩
  · rintro ⟨hstem, hlisted, hpasses⟩
    obtain ⟨point, hpoint, hjudge⟩ := exists_judges hfolders hkind hstem hlisted
    exact hjudge.eq_ok hpasses ▸ hpoint

theorem passes_negative_iff {stage : String} :
    Passes tree directory (.negative stage) stem ↔ ∃ error,
      ((elaborateFile (Path.join directory (stem ++ ".yaml")) :
        StateM FileTree _) tree).1 = .error error ∧
      Holds tree (Path.join directory (stem ++ ".expected-error.json"))
        (.object [("message", .string error.message),
          ("stage", .string error.stage)]) := by
  have hfile : stem ++ "." ++ "yaml" = stem ++ ".yaml" := String.append_assoc ..
  have hbeside : stem ++ "." ++ "expected-error" ++ ".json" =
      stem ++ ".expected-error.json" := by
    rw [String.append_assoc, String.append_assoc]
    rfl
  unfold Passes Gives FixtureKind.expectedName FixtureKind.extension
  dsimp only
  rw [hfile, hbeside]
  constructor
  · rintro ⟨expected, hexpected, error, herror, rfl⟩
    exact ⟨error, herror, hexpected⟩
  · rintro ⟨error, herror, hexpected⟩
    exact ⟨_, hexpected, error, herror, rfl⟩

end Conformance

end Statecharts
