import Statecharts.Commands.Build
import Statecharts.Commands.Inspect
import Statecharts.Proofs.Bundle.Content
import Statecharts.Proofs.Compilation.Naming
import Statecharts.Proofs.Project.Naming

/-!
# Building a project

Building first reads: the project, then the file of every chart.  What is to be
written is then settled without any file, so a fault of the project or of one
of its charts shows while the files are as they were.  Only after that the
output directory is made and the bundles are written, each into a file of its
own, with what printing the chart alone would have printed before the run.
-/

namespace Statecharts

/-! ## What is read -/

/-- The chart that the text in the file of an entry describes, under the name
that it gives itself. -/
def ChartEntry.CompilesTo (tree : FileTree) (entry : ChartEntry) (chart : Chart) :
    Prop :=
  ∃ text records, tree.readText entry.path = .ok text ∧
    ChartRecords.ofYaml text = .ok records ∧
    Chart.build records = .ok chart ∧ chart.validate = .ok ()

/-- The name that the entry gives, or else the chart. -/
def ChartEntry.title (entry : ChartEntry) (chart : Chart) : String :=
  entry.name.getD chart.name

def ChartEntry.retitled (entry : ChartEntry) (chart : Chart) : Chart :=
  entry.name.elim chart chart.withName

theorem ChartEntry.name_retitled (entry : ChartEntry) (chart : Chart) :
    (entry.retitled chart).name = entry.title chart := by
  rw [retitled, title]
  cases entry.name <;> rfl

theorem ChartEntry.toJson_retitled (entry : ChartEntry) (chart : Chart) :
    (entry.retitled chart).toJson =
      entry.name.elim chart.toJson chart.toJson.retitle := by
  rw [retitled]
  cases entry.name with
  | none => rfl
  | some name => exact chart.toJson_withName name

theorem Project.charts_ne_nil_of_read {file text : String} {project : Project}
    (hread : Project.read file text = .ok project) : project.charts ≠ [] := by
  rw [Project.read] at hread
  obtain ⟨table, -, hread⟩ := Except.bind_eq_ok_iff.mp hread
  obtain ⟨found, -, hread⟩ := Except.bind_eq_ok_iff.mp hread
  split at hread
  next => cases hread
  next hlisted =>
    cases hread
    simpa [Project.resolve] using hlisted

namespace Commands

/-- A project that can be read, lists charts all of which compile, and gives
them names under which they can be written. -/
structure Ready (tree : FileTree) (file : String) (project : Project)
    (charts : List Chart) (paths : List String) : Prop where
  read : ∃ text, tree.readText file = .ok text ∧
    Project.read file text = .ok project
  listed : project.charts ≠ []
  compiled : List.Forall₂ (ChartEntry.CompilesTo tree) project.charts charts
  named : Project.bundlePaths project.outputDirectory
    ((project.charts.zip charts).map fun (entry, chart) =>
      (entry.label, entry.title chart)) = .ok paths

variable {tree after : FileTree} {file : String}

def projectIn (tree : FileTree) (file : String) : Except BuildError Project :=
  match tree.readText file with
  | .error error => .error (.project (.unreadable file error))
  | .ok text => (Project.read file text).mapError .project

def sourceIn (tree : FileTree) (entry : ChartEntry) :
    Except BuildError (String × Source) :=
  match tree.readText entry.path with
  | .error error => .error (.source entry.label (.unreadable entry.path error))
  | .ok text =>
    .ok (entry.label, entry.name.elim (.yaml entry.path text)
      (Source.renamed · (.yaml entry.path text)))

/-- What is to be written, as the files tell it before anything is. -/
def planIn (tree : FileTree) (file : String) :
    Except BuildError (Project × List Product) := do
  let project ← projectIn tree file
  let sources ← project.charts.mapM (sourceIn tree)
  let products ← compile project.outputDirectory sources
  return (project, products)

theorem readProject_run (file : String) (tree : FileTree) :
    (readProject file : StateM FileTree _) tree = (projectIn tree file, tree) := by
  simp only [readProject, bind, StateT.bind, FileTree.readText_run, projectIn]
  cases tree.readText file <;> rfl

theorem openEntry_run (entry : ChartEntry) (tree : FileTree) :
    (openEntry entry : StateM FileTree _) tree = (sourceIn tree entry, tree) := by
  simp only [openEntry, Source.ofFile, bind, StateT.bind, FileTree.readText_run,
    sourceIn]
  cases tree.readText entry.path <;> rfl

theorem openEntries_run (entries : List ChartEntry) (tree : FileTree) :
    (openEntries entries : StateM FileTree _) tree =
      (entries.mapM (sourceIn tree), tree) := by
  induction entries with
  | nil => rfl
  | cons entry rest ih =>
      simp only [openEntries, bind, StateT.bind, openEntry_run, List.mapM_cons]
      cases sourceIn tree entry with
      | error error => rfl
      | ok source =>
          simp only [ih, StateT.bind, bind]
          cases rest.mapM (sourceIn tree) <;> rfl

theorem buildProject_run (file : String) (tree : FileTree) :
    (buildProject file : StateM FileTree _) tree =
      match planIn tree file with
      | .error error => (.error error, tree)
      | .ok (project, products) =>
        let (result, after) :=
          (writeInto project.outputDirectory products : StateM FileTree _) tree
        (result.map fun () => products.map Product.path, after) := by
  simp only [buildProject, bind, StateT.bind, readProject_run, planIn]
  cases projectIn tree file with
  | error error => rfl
  | ok project =>
      simp only [bind, StateT.bind, openEntries_run, Except.bind]
      cases project.charts.mapM (sourceIn tree) with
      | error error => rfl
      | ok sources =>
          simp only
          cases compile project.outputDirectory sources <;> rfl

/-! ## What is planned -/

theorem projectIn_ok {project : Project}
    (hproject : projectIn tree file = .ok project) :
    ∃ text, tree.readText file = .ok text ∧ Project.read file text = .ok project := by
  rw [projectIn] at hproject
  split at hproject
  next => cases hproject
  next text htext => exact ⟨text, htext, Except.mapError_eq_ok_iff.mp hproject⟩

theorem compilesTo_of_sourceIn {entry : ChartEntry} {source : String × Source}
    {made : Chart} (hsource : sourceIn tree entry = .ok source)
    (hmade : Statecharts.elaborate source.2 = .ok made) :
    source.1 = entry.label ∧
      ∃ chart, entry.CompilesTo tree chart ∧ made = entry.retitled chart := by
  rw [sourceIn] at hsource
  split at hsource
  next => cases hsource
  next text htext =>
    cases hsource
    refine ⟨rfl, ?_⟩
    have hown : ∃ chart, Statecharts.elaborate (.yaml entry.path text) = .ok chart ∧
        made = entry.retitled chart := by
      simp only [ChartEntry.retitled]
      cases hname : entry.name with
      | none =>
          rw [hname] at hmade
          exact ⟨made, hmade, rfl⟩
      | some name =>
          rw [hname, Option.elim_some, elaborate_renamed] at hmade
          obtain ⟨chart, hchart, hrenamed⟩ := Except.map_eq_ok_iff.mp hmade
          exact ⟨chart, hchart, hrenamed.symm⟩
    obtain ⟨chart, hchart, hmade⟩ := hown
    obtain ⟨records, hread, hbuild, hvalid⟩ := elaborate_yaml_ok_iff.mp hchart
    exact ⟨chart, ⟨text, records, htext, hread, hbuild, hvalid⟩, hmade⟩

theorem compiled_of_sources {entries : List ChartEntry}
    {sources : List (String × Source)} {made : List Chart}
    (hsources : List.Forall₂ (fun entry source => sourceIn tree entry = .ok source)
      entries sources)
    (hmade : List.Forall₂
      (fun source chart => Statecharts.elaborate source.2 = .ok chart)
      sources made) :
    ∃ charts, List.Forall₂ (ChartEntry.CompilesTo tree) entries charts ∧
      made = (entries.zip charts).map (fun (entry, chart) => entry.retitled chart) ∧
      (sources.map Prod.fst).zip (made.map Chart.name) =
        (entries.zip charts).map fun (entry, chart) =>
          (entry.label, entry.title chart) := by
  induction hsources generalizing made with
  | nil =>
      cases hmade
      exact ⟨[], .nil, rfl, rfl⟩
  | cons hsource _ ih =>
      cases hmade with
      | cons hfirst hrest =>
          obtain ⟨hlabel, chart, hchart, rfl⟩ := compilesTo_of_sourceIn hsource hfirst
          obtain ⟨charts, hcharts, rfl, hnames⟩ := ih hrest
          refine ⟨chart :: charts, .cons hchart hcharts, rfl, ?_⟩
          simp only [List.map_cons, List.zip_cons_cons, hlabel, hnames,
            ChartEntry.name_retitled]

/-- What is written for an entry and its chart. -/
def productOf (directory : String) (entry : ChartEntry) (chart : Chart) : Product where
  path := Project.bundlePath directory (entry.title chart)
  chart := entry.retitled chart

def productsOf (project : Project) (charts : List Chart) : List Product :=
  (project.charts.zip charts).map fun (entry, chart) =>
    productOf project.outputDirectory entry chart

theorem Ready.accepts {project : Project} {charts : List Chart} {paths : List String}
    (hready : Ready tree file project charts paths) :
    Project.AcceptsNames project.outputDirectory []
      ((project.charts.zip charts).map fun (entry, chart) =>
        (entry.label, entry.title chart)) paths :=
  Project.acceptsNames_of_bundlePaths hready.named

theorem Ready.paths_eq {project : Project} {charts : List Chart} {paths : List String}
    (hready : Ready tree file project charts paths) :
    paths = (productsOf project charts).map Product.path := by
  rw [hready.accepts.paths, productsOf, List.map_map, List.map_map, List.map_map]
  rfl

theorem ready_of_planIn {project : Project} {products : List Product}
    (hplan : planIn tree file = .ok (project, products)) :
    ∃ charts paths, Ready tree file project charts paths ∧
      products = productsOf project charts := by
  obtain ⟨found, hproject, hplan⟩ := Except.bind_eq_ok_iff.mp hplan
  obtain ⟨sources, hsources, hplan⟩ := Except.bind_eq_ok_iff.mp hplan
  obtain ⟨planned, hcompile, hplan⟩ := Except.bind_eq_ok_iff.mp hplan
  cases hplan
  obtain ⟨made, hmade, hcompile⟩ := Except.bind_eq_ok_iff.mp hcompile
  obtain ⟨paths, hpaths, hcompile⟩ := Except.bind_eq_ok_iff.mp hcompile
  cases hcompile
  rw [Except.mapError_eq_ok_iff] at hmade hpaths
  have helaborated : List.Forall₂
      (fun (source : String × Source) chart =>
        Statecharts.elaborate source.2 = .ok chart) sources made :=
    (mapM_ok_iff.mp hmade).imp fun _ _ hchart => Except.mapError_eq_ok_iff.mp hchart
  obtain ⟨charts, hcharts, rfl, hnames⟩ :=
    compiled_of_sources (mapM_ok_iff.mp hsources) helaborated
  obtain ⟨text, htext, hread⟩ := projectIn_ok hproject
  have hready : Ready tree file project charts paths :=
    ⟨⟨text, htext, hread⟩, Project.charts_ne_nil_of_read hread, hcharts,
      hnames ▸ hpaths⟩
  refine ⟨charts, paths, hready, ?_⟩
  rw [hready.paths_eq, productsOf, List.map_map, List.zipWith_map,
    List.zipWith_self]
  rfl

/-! ## What is written -/

/-- Every product is found at its path, and nothing else is changed. -/
structure Writes (products : List Product) (tree after : FileTree) : Prop where
  grows : tree.Extends after
  found : ∀ product ∈ products, ∃ place,
    after.find product.path = .ok (place, .text product.content)
  unchanged : ∀ place, after.entry? place = tree.entry? place ∨
    ∃ product ∈ products,
      after.find product.path = .ok (place, .text product.content)

theorem writes_of_writeProducts {products : List Product} {names : List String}
    (hnames : List.Forall₂ (fun product name => FileTree.EndsIn product.path name)
      products names) (hnodup : names.Nodup)
    (hrun : (writeProducts products : StateM FileTree _) tree = (.ok (), after)) :
    Writes products tree after := by
  induction hnames generalizing tree with
  | nil =>
      cases hrun
      exact ⟨.refl _, by simp, fun _ => Or.inl rfl⟩
  | @cons product name products names hname hrest ih =>
      rw [List.nodup_cons] at hnodup
      simp only [writeProducts, bind, StateT.bind, FileAccess.writeText] at hrun
      rcases FileTree.change_run (·.writeText product.path product.content) tree with
        ⟨middle, hwrite, hchange⟩ | ⟨error, -, hchange⟩
      · rw [hchange] at hrun
        have hlater := ih hnodup.2 hrun
        obtain ⟨place, hsets⟩ := FileTree.writeText_ok hwrite
        have hplace : middle.entry? place = some (.text product.content) :=
          (FileTree.find_ok_iff.mp hsets.found).2.2.1
        -- A later product has another last name, so it stands elsewhere.
        have hkept : after.entry? place = middle.entry? place := by
          rcases hlater.unchanged place with hsame | ⟨other, hother, hfind⟩
          · exact hsame
          · obtain ⟨last, hlast, hends⟩ :=
              exists_mem_left_of_forall₂ hrest.flip hother
            have hfirst := hname.getLast?_of_find hsets.found
            rw [hends.getLast?_of_find hfind] at hfirst
            cases hfirst
            exact absurd hlast hnodup.1
        have hfound : after.find product.path = .ok (place, .text product.content) :=
          hlater.grows.find hsets.found (hkept.trans hplace)
        constructor
        case grows => exact hsets.grows.trans hlater.grows
        case found =>
          exact List.forall_mem_cons.mpr ⟨⟨place, hfound⟩, hlater.found⟩
        case unchanged =>
          intro other
          by_cases hother : other = place
          · subst hother
            exact Or.inr ⟨product, List.mem_cons_self, hfound⟩
          · rcases hlater.unchanged other with hsame | ⟨later, hlater, hfind⟩
            · exact Or.inl (hsame.trans (hsets.unchanged other hother))
            · exact Or.inr ⟨later, List.mem_cons_of_mem product hlater, hfind⟩
      · rw [hchange] at hrun
        cases hrun

/-- The bundle of a listed chart: it stands in the output directory under its
name, and says what printing the chart said before the run, with the name that
its entry gives instead of its own. -/
structure BundleOf (tree after : FileTree) (directory : String)
    (entry : ChartEntry) (chart : Chart) (path : String) : Prop where
  located : path = Project.bundlePath directory (entry.title chart)
  printed : ∀ presentation,
    (elaborate presentation entry.path : StateM FileTree Outcome) tree =
      (.success (prettyLine chart.toJson), tree)
  written : after.readText path =
    .ok (prettyLine (entry.name.elim chart.toJson chart.toJson.retitle))

/-- What a run leaves that built a project. -/
structure Built (tree after : FileTree) (project : Project) (charts : List Chart)
    (paths : List String) : Prop where
  bundles : List.Forall₂
    (fun (entry, chart) path =>
      BundleOf tree after project.outputDirectory entry chart path)
    (project.charts.zip charts) paths
  distinct : (paths.map after.find).Nodup
  unchanged : ∀ place, after.entry? place = tree.entry? place ∨
    (∃ path ∈ paths, ∃ content, after.find path = .ok (place, .text content)) ∨
    tree.entry? place = none ∧
      ∃ path ∈ Path.ancestors project.outputDirectory,
        after.find path = .ok (place, .directory)

theorem elaborate_run {entry : ChartEntry} {chart : Chart}
    (hcompiles : entry.CompilesTo tree chart) (presentation : Presentation) :
    (elaborate presentation entry.path : StateM FileTree Outcome) tree =
      (.success (prettyLine chart.toJson), tree) := by
  obtain ⟨text, records, htext, hread, hbuild, hvalid⟩ := hcompiles
  have helaborate : Statecharts.elaborate (.yaml entry.path text) = .ok chart :=
    elaborate_yaml_ok_iff.mpr ⟨records, hread, hbuild, hvalid⟩
  have hfile : (elaborateFile entry.path : StateM FileTree _) tree =
      (.ok chart, tree) := by
    simp only [elaborateFile, Source.ofFile, bind, StateT.bind,
      FileTree.readText_run, htext]
    exact congrArg (·, tree) helaborate
  simp only [elaborate, Functor.map, StateT.map, bind, hfile]
  rfl

theorem content_productOf (directory : String) (entry : ChartEntry) (chart : Chart) :
    (productOf directory entry chart).content =
      prettyLine (entry.name.elim chart.toJson chart.toJson.retitle) :=
  congrArg prettyLine (entry.toJson_retitled chart)

/-- The last name of what was found. -/
def lastName (found : Except FileError (Place × FileEntry)) : Option String :=
  found.toOption.bind fun (place, _) => place.getLast?

/-- The writing phase: directories first, and then the bundles in them. -/
theorem writes_of_writeInto {directory : String} {products : List Product}
    {names : List String}
    (hnames : List.Forall₂ (fun product name => FileTree.EndsIn product.path name)
      products names) (hnodup : names.Nodup)
    (hrun : (writeInto directory products : StateM FileTree _) tree = (.ok (), after)) :
    ∃ middle, FileTree.OnlyMakes (Path.ancestors directory) tree middle ∧
      Writes products middle after := by
  have hmakes := FileTree.createChain_onlyMakes (Path.ancestors directory) tree
  simp only [writeInto, FileAccess.createDirectories, bind, StateT.bind] at hrun
  generalize (FileAccess.createChain (Path.ancestors directory) : StateM FileTree _)
    tree = run at hmakes hrun
  rcases run with ⟨result, middle⟩
  cases result with
  | error error => cases hrun
  | ok made => exact ⟨middle, hmakes, writes_of_writeProducts hnames hnodup hrun⟩

namespace Ready

variable {project : Project} {charts : List Chart} {paths : List String}

/-- The last names of the bundles, all of them different. -/
theorem endsIn (hready : Ready tree file project charts paths) :
    ∃ names : List String, names.Nodup ∧
      List.Forall₂ FileTree.EndsIn paths names := by
  have haccepts := hready.accepts
  have hinjective : Function.Injective fun name : String => name ++ ".json" :=
    fun name name' hsame => by simpa using hsame
  refine ⟨_, haccepts.nodup.map hinjective, ?_⟩
  rw [haccepts.paths, List.forall₂_map_left_iff, List.forall₂_map_right_iff,
    List.forall₂_same]
  intro name hname
  exact Project.bundlePath_endsIn _ (haccepts.fileNames name hname)

theorem built (hready : Ready tree file project charts paths)
    (hrun : (writeInto project.outputDirectory (productsOf project charts) :
      StateM FileTree _) tree = (.ok (), after)) :
    Built tree after project charts paths := by
  obtain ⟨names, hnodup, hends⟩ := hready.endsIn
  have hnames : List.Forall₂ (fun product name => FileTree.EndsIn product.path name)
      (productsOf project charts) names := by
    rwa [hready.paths_eq, List.forall₂_map_left_iff] at hends
  obtain ⟨middle, hmakes, hwrites⟩ := writes_of_writeInto hnames hnodup hrun
  constructor
  case bundles =>
    rw [hready.paths_eq, productsOf, List.map_map, List.forall₂_map_right_iff,
      List.forall₂_same]
    rintro ⟨entry, chart⟩ hlisted
    have hcompiles := (List.forall₂_iff_zip.mp hready.compiled).2 hlisted
    obtain ⟨place, hfind⟩ := hwrites.found _ (List.mem_map_of_mem hlisted)
    refine ⟨rfl, elaborate_run hcompiles, ?_⟩
    rw [← content_productOf project.outputDirectory]
    exact FileTree.readText_of_find hfind
  case distinct =>
    have hlasts : (paths.map after.find).map lastName = names.map some := by
      rw [hready.paths_eq, ← List.forall₂_eq_eq_eq, List.map_map, List.map_map,
        List.forall₂_map_left_iff, List.forall₂_map_right_iff]
      refine List.forall₂_iff_zip.mpr
        ⟨hnames.length_eq, fun {product name} hmem => ?_⟩
      obtain ⟨place, hfind⟩ := hwrites.found product (List.of_mem_zip hmem).1
      have hname := (List.forall₂_iff_zip.mp hnames).2 hmem
      simpa [lastName, hfind, Except.toOption] using hname.getLast?_of_find hfind
    exact List.Nodup.of_map lastName
      (hlasts ▸ hnodup.map (Option.some_injective _))
  case unchanged =>
    intro place
    rcases hwrites.unchanged place with hsame | ⟨product, hproduct, hfind⟩
    · rcases hmakes.made place with hsame' | ⟨hnone, path, hpath, hfind⟩
      · exact Or.inl (hsame.trans hsame')
      · exact Or.inr (Or.inr ⟨hnone, path, hpath,
          hwrites.grows.find_directory hfind⟩)
    · refine Or.inr (Or.inl ⟨product.path, ?_, product.content, hfind⟩)
      rw [hready.paths_eq]
      exact List.mem_map_of_mem hproduct

end Ready

/-! ## A run -/

theorem build_run (presentation : Presentation) (file : String) (tree : FileTree) :
    (build presentation file : StateM FileTree Outcome) tree =
      (presentBuild presentation
          ((buildProject file : StateM FileTree _) tree).1,
        ((buildProject file : StateM FileTree _) tree).2) := rfl

/-- A project that is not ready is refused before any file is touched.  When a
run succeeds the project was ready, and its bundles are all that was written. -/
theorem build_all_or_nothing (presentation : Presentation) (file : String)
    (tree : FileTree) :
    let run := (build presentation file : StateM FileTree Outcome) tree
    ((¬ ∃ project charts paths, Ready tree file project charts paths) →
      run.1.exitCode = 1 ∧ run.2 = tree) ∧
    (run.1.exitCode = 0 → ∃ project charts paths,
      Ready tree file project charts paths ∧
        Built tree run.2 project charts paths) := by
  intro run
  have hrun : run = _ := build_run presentation file tree
  rw [buildProject_run] at hrun
  cases hplan : planIn tree file with
  | error error =>
      simp only [hplan] at hrun
      have hcode : run.1.exitCode = 1 := by
        rw [hrun]
        rfl
      refine ⟨fun _ => ⟨hcode, by rw [hrun]⟩, fun hsuccess => ?_⟩
      rw [hcode] at hsuccess
      cases hsuccess
  | ok plan =>
      rcases plan with ⟨project, products⟩
      obtain ⟨charts, paths, hready, rfl⟩ := ready_of_planIn hplan
      refine ⟨fun hnot => absurd ⟨project, charts, paths, hready⟩ hnot,
        fun hsuccess => ⟨project, charts, paths, hready, ?_⟩⟩
      cases hwrite : (writeInto project.outputDirectory (productsOf project charts) :
        StateM FileTree _) tree with
      | mk result after =>
          simp only [hplan, hwrite] at hrun
          cases result with
          | error error =>
              rw [hrun] at hsuccess
              cases hsuccess
          | ok written =>
              rw [hrun]
              exact hready.built hwrite

/-- A chart is described in the very file that its bundle is written to: the
bundle is made of what the file said before.  Once the project lists a file
that is missing, nothing is written. -/
theorem gate_replaces_its_description :
    let description := "name: Door\nstates:\n  - name: Shut\n    initial: true\n"
    let listed := "[[statechart]]\npath = \"out/Gate.json\"\nname = \"Gate\"\n"
    let missing := "[[statechart]]\npath = \"Wall.yaml\"\n"
    let tree (project : String) : FileTree :=
      { workingDirectory := []
        entries := [
          (["project.toml"], .text ("[project]\nout_dir = \"out\"\n" ++ project)),
          (["out"], .directory), (["out", "Gate.json"], .text description)] }
    let run (project : String) :=
      (build {} "project.toml" : StateM FileTree Outcome) (tree project)
    ((run listed).1.exitCode = 0 ∧
      (run listed).2.readText "out/Gate.json" ≠ .ok description ∧
      ∃ project charts paths, Ready (tree listed) "project.toml" project charts paths ∧
        Built (tree listed) (run listed).2 project charts paths) ∧
    (run (listed ++ missing)).1.exitCode = 1 ∧
      (run (listed ++ missing)).2 = tree (listed ++ missing) := by
  intro description listed missing tree run
  constructor
  · obtain ⟨-, hbuilt⟩ := build_all_or_nothing {} "project.toml" (tree listed)
    have hrun : (run listed).1.exitCode = 0 ∧
        (run listed).2.readText "out/Gate.json" ≠ .ok description := by
      subst description listed missing tree run
      decide +kernel
    exact ⟨hrun.1, hrun.2, hbuilt hrun.1⟩
  · obtain ⟨hrefused, -⟩ :=
      build_all_or_nothing {} "project.toml" (tree (listed ++ missing))
    apply hrefused
    rintro ⟨project, charts, paths, hready⟩
    obtain ⟨text, htext, hread⟩ := hready.read
    have hcharts : (((tree (listed ++ missing)).readText "project.toml").toOption.bind
        fun text => (Project.read "project.toml" text).toOption).map Project.charts =
          some [⟨"out/Gate.json", some "Gate"⟩, ⟨"Wall.yaml", none⟩] := by
      subst description listed missing tree run
      decide +kernel
    have habsent :
        (tree (listed ++ missing)).readText "Wall.yaml" = .error .notFound := by
      subst description listed missing tree run
      decide +kernel
    have hcompiled := hready.compiled
    simp only [htext, hread, Except.toOption, Option.bind_some, Option.map_some,
      Option.some.injEq] at hcharts
    rw [hcharts] at hcompiled
    rcases hcompiled with _ | ⟨-, _ | ⟨⟨wall, _, hwall, -⟩, -⟩⟩
    rw [habsent] at hwall
    cases hwall

end Commands

end Statecharts
