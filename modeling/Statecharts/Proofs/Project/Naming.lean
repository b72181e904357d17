import Statecharts.Proofs.Project.Bundles
import Statecharts.Proofs.Resolution.Sweep

/-!
# Names of charts as names of bundles

The charts of a project are gone through in order, and the names that were seen
are kept with the labels of their charts.  A chart is refused when its name is
not that of a file, and otherwise when the name was seen before.  If none is
refused, every bundle stands right in the output directory under its own name.
-/

namespace Statecharts

namespace Project

variable {charts : List (String × String)}

/-- What is wrong with the name of the chart at an index. -/
inductive NameFault (charts : List (String × String)) : Nat → BundleNameError → Prop
  | notFileName {index : Nat} {label name : String} :
      charts[index]? = some (label, name) → ¬ Path.Plain name →
      NameFault charts index (.notFileName label name)
  | shared {earlier index : Nat} {first label name : String} :
      charts[index]? = some (label, name) → Path.Plain name →
      earlier < index → charts[earlier]? = some (first, name) →
      NameFault charts index (.shared first label name)

/-- One step along the charts, which keeps the names that were seen. -/
def seeName (seen : List (String × String)) (_ : Nat) (chart : String × String) :
    Except BundleNameError (List (String × String)) :=
  if !Path.isFileName chart.2 then .error (.notFileName chart.1 chart.2)
  else
    match seen.lookup chart.2 with
    | some first => .error (.shared first chart.1 chart.2)
    | none => .ok ((chart.2, chart.1) :: seen)

theorem bundlePathsAfter_eq_sweep (directory : String) (seen : List (String × String))
    (index : Nat) (charts : List (String × String)) :
    bundlePathsAfter directory seen charts =
      (sweep seeName seen index charts).map fun _ =>
        charts.map fun chart => bundlePath directory chart.2 := by
  induction charts generalizing seen index with
  | nil => rfl
  | cons chart charts ih =>
      rcases chart with ⟨label, name⟩
      rw [bundlePathsAfter, sweep, seeName]
      by_cases hname : Path.isFileName name
      · simp only [hname, Bool.not_true, Bool.false_eq_true, if_false]
        cases seen.lookup name with
        | some first => rfl
        | none =>
            simp only [ih _ (index + 1), Except.ok_bind]
            cases sweep seeName ((name, label) :: seen) (index + 1) charts <;> rfl
      · simp [hname]
        rfl

/-- The names of the charts in front of an index were seen, with the labels of
these charts. -/
def SeenUpTo (charts : List (String × String)) (index : Nat)
    (seen : List (String × String)) : Prop :=
  ∀ name first, seen.lookup name = some first ↔
    ∃ earlier < index, charts[earlier]? = some (first, name)

theorem seenUpTo_zero (charts : List (String × String)) : SeenUpTo charts 0 [] := by
  simp [SeenUpTo]

theorem SeenUpTo.see {index : Nat} {seen : List (String × String)} {label name : String}
    (hseen : SeenUpTo charts index seen)
    (hchart : charts[index]? = some (label, name)) (hnew : seen.lookup name = none) :
    SeenUpTo charts (index + 1) ((name, label) :: seen) := by
  intro other first
  rw [List.lookup_cons]
  by_cases hother : other = name
  · subst other
    simp only [beq_self_eq_true, Option.some.injEq]
    constructor
    · rintro rfl
      exact ⟨index, Nat.lt_succ_self index, hchart⟩
    · rintro ⟨earlier, hearlier, hfirst⟩
      by_cases hlast : earlier = index
      · subst earlier
        rw [hchart] at hfirst
        cases hfirst
        rfl
      · have hfound := (hseen name first).mpr ⟨earlier, by omega, hfirst⟩
        rw [hnew] at hfound
        cases hfound
  · have hdiffers : (other == name) = false := by simp [hother]
    simp only [hdiffers, hseen other first]
    constructor
    · rintro ⟨earlier, hearlier, hfirst⟩
      exact ⟨earlier, by omega, hfirst⟩
    · rintro ⟨earlier, hearlier, hfirst⟩
      refine ⟨earlier, ?_, hfirst⟩
      by_contra hlast
      have hlast : earlier = index := by omega
      rw [hlast, hchart] at hfirst
      cases hfirst
      exact hother rfl

theorem NameFault.index_lt {index : Nat} {error : BundleNameError}
    (hfault : NameFault charts index error) : index < charts.length := by
  cases hfault with
  | notFileName hchart _ => exact (List.getElem?_eq_some_iff.mp hchart).1
  | shared hchart _ _ _ => exact (List.getElem?_eq_some_iff.mp hchart).1

theorem see_rule (charts : List (String × String)) :
    StepRule seeName charts (NameFault charts) (SeenUpTo charts) where
  bound := NameFault.index_lt
  fails_iff := by
    rintro index ⟨label, name⟩ seen hchart hseen error
    unfold seeName
    by_cases hname : Path.isFileName name
    · have hplain := (Path.isFileName_iff_plain name).mp hname
      simp only [hname]
      constructor
      · intro hfails
        cases hlookup : seen.lookup name with
        | none => simp [hlookup] at hfails
        | some first =>
            obtain ⟨earlier, hearlier, hfirst⟩ := (hseen name first).mp hlookup
            simp only [hlookup] at hfails
            cases hfails
            exact .shared hchart hplain hearlier hfirst
      · intro hfault
        cases hfault with
        | notFileName hchart' hnot =>
            rw [hchart] at hchart'
            cases hchart'
            exact absurd hplain hnot
        | shared hchart' _ hearlier hfirst =>
            rw [hchart] at hchart'
            cases hchart'
            simp [(hseen name _).mpr ⟨_, hearlier, hfirst⟩]
    · have hnot : ¬ Path.Plain name :=
        fun hplain => hname ((Path.isFileName_iff_plain name).mpr hplain)
      simp only [hname]
      constructor
      · intro hfails
        cases hfails
        exact .notFileName hchart hnot
      · intro hfault
        cases hfault with
        | notFileName hchart' _ =>
            rw [hchart] at hchart'
            cases hchart'
            rfl
        | shared hchart' hplain _ _ =>
            rw [hchart] at hchart'
            cases hchart'
            exact absurd hplain hnot
  keeps := by
    rintro index ⟨label, name⟩ seen next hchart hseen hstep
    unfold seeName at hstep
    split at hstep
    next => cases hstep
    next =>
      split at hstep
      next => cases hstep
      next hnew =>
        cases hstep
        exact hseen.see hchart hnew

theorem bundlePaths_error_iff (directory : String) (charts : List (String × String))
    (error : BundleNameError) :
    bundlePaths directory charts = .error error ↔
      FirstFault (NameFault charts) error := by
  rw [bundlePaths, bundlePathsAfter_eq_sweep _ _ 0, ←
    (see_rule charts).sweep_error_iff (seenUpTo_zero charts) error]
  cases sweep seeName [] 0 charts <;> simp [Except.map]

theorem faultless_nameFault_iff (charts : List (String × String)) :
    Faultless (NameFault charts) ↔
      (∀ name ∈ charts.map Prod.snd, Path.Plain name) ∧
        (charts.map Prod.snd).Nodup := by
  rw [List.forall_mem_map]
  constructor
  · intro hclean
    have hplain : ∀ chart ∈ charts, Path.Plain chart.2 := by
      intro chart hchart
      obtain ⟨index, hindex⟩ := List.mem_iff_getElem?.mp hchart
      by_contra hname
      exact hclean index _ (.notFileName hindex hname)
    rw [List.nodup_iff_getElem?_ne_getElem?]
    refine ⟨hplain, fun earlier index hearlier hindex hsame => ?_⟩
    rw [List.length_map] at hindex
    rw [List.getElem?_map, List.getElem?_map, List.getElem?_eq_getElem hindex,
      Option.map_some, Option.map_eq_some_iff] at hsame
    obtain ⟨⟨first, name⟩, hfirst, hname⟩ := hsame
    have hchart : charts[index]? = some (charts[index].1, name) := by
      rw [List.getElem?_eq_getElem hindex, show name = charts[index].2 from hname]
    exact hclean index _
      (.shared hchart (hplain _ (List.mem_of_getElem? hchart)) hearlier hfirst)
  · rintro ⟨hplain, hnodup⟩ index error hfault
    rw [List.nodup_iff_getElem?_ne_getElem?] at hnodup
    have hindex := hfault.index_lt
    cases hfault with
    | notFileName hchart hname =>
        exact hname (hplain _ (List.mem_of_getElem? hchart))
    | shared hchart _ hearlier hfirst =>
        refine hnodup _ index hearlier (by simpa using hindex) ?_
        rw [List.getElem?_map, List.getElem?_map, hchart, hfirst]
        rfl

/-! ## The paths -/

/-- The path is that of a file right in the directory: it has the components of
the directory and one name behind them, and in every tree it leads from where
the directory is to what is called by that name there. -/
structure EntryOf (directory file path : String) : Prop where
  components : Path.components path = Path.components directory ++ [.name file]
  stands : ∀ (tree : FileTree) (place : Place) (entry : FileEntry),
    tree.find path = .ok (place, entry) →
      ∃ parent, tree.follow (tree.start directory) (FileTree.names directory) = .ok parent ∧
        place = parent ++ [file]

theorem entryOf_join (directory : String) {file : String} (hplain : Path.Plain file) :
    EntryOf directory file (Path.join directory file) := by
  refine ⟨Path.components_join directory hplain, fun tree place entry hfind => ?_⟩
  have hfollow := (FileTree.find_ok_iff.mp hfind).2.1
  rw [FileTree.names_join directory hplain.slashless hplain.nonempty,
    FileTree.start_join tree directory hplain.slashless,
    FileTree.follow_concat hplain.here hplain.up] at hfollow
  obtain ⟨parent, hparent, -, -, hplace⟩ := hfollow
  exact ⟨parent, hparent, hplace.symm⟩

theorem bundlePaths_ok_iff {directory : String} {paths : List String} :
    bundlePaths directory charts = .ok paths ↔
      (∀ chart ∈ charts, Path.Plain chart.2) ∧ (charts.map Prod.snd).Nodup ∧
        paths = charts.map fun chart => bundlePath directory chart.2 := by
  have herrors : ∀ error, sweep seeName [] 0 charts = .error error ↔
      FirstFaultOf [NameFault charts] error := by
    intro error
    rw [firstFaultOf_singleton_iff]
    exact (see_rule charts).sweep_error_iff (seenUpTo_zero charts) error
  have hclean := exists_ok_iff_faultless herrors
  rw [List.forall_mem_singleton, faultless_nameFault_iff, List.forall_mem_map] at hclean
  rw [bundlePaths, bundlePathsAfter_eq_sweep _ _ 0, Except.map_eq_ok_iff, ← and_assoc,
    ← hclean]
  constructor
  · rintro ⟨seen, hseen, hpaths⟩
    exact ⟨⟨seen, hseen⟩, hpaths.symm⟩
  · rintro ⟨⟨seen, hseen⟩, hpaths⟩
    exact ⟨seen, hseen, hpaths.symm⟩

/-- Each chart gets the path of its name; the names are those of files, and
differ from each other and from those that were seen before. -/
structure AcceptsNames (directory : String) (seen charts : List (String × String))
    (paths : List String) : Prop where
  paths : paths = (charts.map Prod.snd).map (bundlePath directory)
  fileNames : ∀ name ∈ charts.map Prod.snd, Path.isFileName name = true
  nodup : (charts.map Prod.snd).Nodup
  fresh : ∀ name ∈ charts.map Prod.snd, seen.lookup name = none

theorem acceptsNames_of_bundlePaths {directory : String} {paths : List String}
    (hpaths : bundlePaths directory charts = .ok paths) :
    AcceptsNames directory [] charts paths := by
  obtain ⟨hplain, hnodup, rfl⟩ := bundlePaths_ok_iff.mp hpaths
  constructor
  case paths => rw [List.map_map]; rfl
  case fileNames =>
    rw [List.forall_mem_map]
    exact fun chart hchart => (Path.isFileName_iff_plain chart.2).mpr (hplain chart hchart)
  case nodup => exact hnodup
  case fresh => simp

/-- Charts get paths exactly when their names are those of files and differ.
Each path is then that of a file right in the output directory, and no two lead
to the same.  Otherwise the first chart that has no name of a file, or has the
name of an earlier one, is reported. -/
theorem bundle_paths_follow_names (directory : String) (charts : List (String × String)) :
    (∀ paths, bundlePaths directory charts = .ok paths ↔
      (∀ chart ∈ charts, Path.Plain chart.2) ∧ (charts.map Prod.snd).Nodup ∧
        paths = charts.map fun chart => Path.join directory (chart.2 ++ ".json")) ∧
    (∀ paths, bundlePaths directory charts = .ok paths →
      (paths.map Path.components).Nodup ∧
      List.Forall₂ (fun chart path => EntryOf directory (chart.2 ++ ".json") path)
        charts paths) ∧
    (∀ error, bundlePaths directory charts = .error error ↔
      FirstFault (NameFault charts) error) ∧
    ∀ first second name, (BundleNameError.shared first second name).message =
      "statecharts " ++ Text.quote first ++ " and " ++ Text.quote second ++
        " are both named " ++ Text.quote name := by
  refine ⟨fun paths => bundlePaths_ok_iff, fun paths hpaths => ?_,
    bundlePaths_error_iff directory charts, ?_⟩
  · obtain ⟨hplain, hnodup, rfl⟩ := bundlePaths_ok_iff.mp hpaths
    have hentries : ∀ chart ∈ charts, EntryOf directory (chart.2 ++ ".json")
        (bundlePath directory chart.2) := fun chart hchart =>
      entryOf_join directory (hplain chart hchart).append_json
    constructor
    · have hcomponents : (charts.map fun chart => bundlePath directory chart.2).map
          Path.components = (charts.map Prod.snd).map fun name =>
            Path.components directory ++ [.name (name ++ ".json")] := by
        rw [List.map_map, List.map_map]
        exact List.map_congr_left fun chart hchart => (hentries chart hchart).components
      rw [hcomponents]
      refine hnodup.map fun name other hsame => ?_
      simpa using hsame
    · rw [List.forall₂_map_right_iff, List.forall₂_same]
      exact hentries
  · intro first second name
    rfl

example : bundlePaths "out" [("door.yaml", "Door"), ("gate.yaml", "Door/")] =
    .error (.notFileName "gate.yaml" "Door/") := by decide

end Project

end Statecharts
