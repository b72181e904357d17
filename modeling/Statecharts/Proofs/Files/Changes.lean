import Statecharts.Files.Access
import Statecharts.Proofs.Resolution.Sweep

/-!
# Changes of file trees

A file tree is changed one entry at a time, and a directory is never replaced.
So the names of a path lead to the same place after any number of changes, and
what was found there is found again unless that one place was written.
-/

namespace Statecharts.FileTree

variable {tree after later : FileTree} {place reached : Place} {entry : FileEntry}
  {path name content : String}

/-! ## One entry -/

theorem lookup_filter_ne {entries : List (Place × FileEntry)} {other : Place}
    (hother : other ≠ place) :
    (entries.filter (·.1 ≠ place)).lookup other = entries.lookup other := by
  induction entries with
  | nil => rfl
  | cons first entries ih =>
      rcases first with ⟨found, entry⟩
      by_cases hfound : found = place
      · subst hfound
        have hdiffers : (other == found) = false := by simp [hother]
        rw [List.filter_cons_of_neg (by simp), List.lookup_cons, hdiffers]
        exact ih
      · rw [List.filter_cons_of_pos (by simpa using hfound), List.lookup_cons,
          List.lookup_cons, ih]

theorem entry?_insert (hplace : place ≠ []) (other : Place) :
    entry? (tree.insert place entry) other =
      if other = place then some entry else tree.entry? other := by
  by_cases hother : other = place
  · simp [ entry?, insert, hother, hplace]
  · have hkept : (tree.entries.filter (·.1 ≠ place)).lookup other =
        tree.entries.lookup other := lookup_filter_ne hother
    have hdiffers : (other == place) = false := by simp [hother]
    simp only [ entry?, insert, List.lookup_cons, hdiffers, hkept, if_neg hother]

/-- Every directory is still there. -/
structure Extends (tree after : FileTree) : Prop where
  workingDirectory : after.workingDirectory = tree.workingDirectory
  directory : ∀ place, tree.entry? place = some .directory →
    after.entry? place = some .directory

theorem Extends.refl (tree : FileTree) : tree.Extends tree :=
  ⟨rfl, fun _ hplace => hplace⟩

theorem Extends.trans (hfirst : tree.Extends after) (hsecond : after.Extends later) :
    tree.Extends later :=
  ⟨hsecond.workingDirectory.trans hfirst.workingDirectory,
    fun place hplace => hsecond.directory place (hfirst.directory place hplace)⟩

theorem extends_insert (hplace : place ≠ [])
    (hnew : tree.entry? place ≠ some .directory) :
    tree.Extends (tree.insert place entry) := by
  refine ⟨rfl, fun other hother => ?_⟩
  rw [entry?_insert hplace, if_neg]
  · exact hother
  · rintro rfl
    exact hnew hother

/-! ## What a path leads to -/

theorem checkDirectory_ok_iff :
    tree.checkDirectory place = .ok () ↔ tree.entry? place = some .directory := by
  unfold checkDirectory
  split
  next hentry => simp [hentry]
  next other hdiffers hother =>
    simp only [hother, reduceCtorEq, Option.some.injEq, false_iff]
    exact fun hsame => hdiffers hsame
  next hentry => simp [hentry]

theorem follow_append (place : Place) (names rest : List String) :
    tree.follow place (names ++ rest) =
      (tree.follow place names >>= fun reached => tree.follow reached rest) := by
  induction names generalizing place with
  | nil => rfl
  | cons name names ih =>
      simp only [List.cons_append, follow, ih]
      cases tree.checkDirectory place with
      | error error => rfl
      | ok checked =>
          simp only [Except.ok_bind]
          split
          next => rfl
          next =>
            split
            next => rfl
            next => cases checkName name <;> rfl

theorem Extends.follow (hextends : tree.Extends after) {names : List String}
    (hfollow : tree.follow place names = .ok reached) :
    after.follow place names = .ok reached := by
  induction names generalizing place with
  | nil => exact hfollow
  | cons name names ih =>
      rw [FileTree.follow, Except.check_bind_eq_ok_iff, checkDirectory_ok_iff]
        at hfollow ⊢
      refine ⟨hextends.directory place hfollow.1, ?_⟩
      have hrest := hfollow.2
      split
      next hhere =>
        rw [if_pos hhere] at hrest
        exact ih hrest
      next hhere =>
        rw [if_neg hhere] at hrest
        split
        next hup =>
          rw [if_pos hup] at hrest
          exact ih hrest
        next hup =>
          rw [if_neg hup, Except.check_bind_eq_ok_iff] at hrest
          exact Except.check_bind_eq_ok_iff.mpr ⟨hrest.1, ih hrest.2⟩

/-- A name that is not one of the two special ones leads to the entry of that
name. -/
theorem follow_concat (hhere : name ≠ ".") (hup : name ≠ "..")
    {names : List String} :
    tree.follow place (names ++ [name]) = .ok reached ↔
      ∃ directory, tree.follow place names = .ok directory ∧
        tree.entry? directory = some .directory ∧ checkName name = .ok () ∧
          directory ++ [name] = reached := by
  rw [follow_append, Except.bind_eq_ok_iff]
  refine exists_congr fun directory => and_congr_right fun _ => ?_
  rw [follow, Except.check_bind_eq_ok_iff, checkDirectory_ok_iff, if_neg hhere,
    if_neg hup, Except.check_bind_eq_ok_iff, follow, Except.ok.injEq]

theorem find_ok_iff :
    tree.find path = .ok (place, entry) ↔
      checkPath path = .ok () ∧
        tree.follow (tree.start path) (names path) = .ok place ∧
        tree.entry? place = some entry ∧
        (asksForDirectory path = true → entry.isDirectory = true) := by
  rw [find, Except.check_bind_eq_ok_iff, Except.bind_eq_ok_iff]
  refine and_congr_right fun _ => ?_
  constructor
  · rintro ⟨found, hfollow, hfound⟩
    split at hfound
    next => cases hfound
    next other hentry =>
      split at hfound
      next => cases hfound
      next hfits =>
        cases hfound
        exact ⟨hfollow, hentry, by simpa using hfits⟩
  · rintro ⟨hfollow, hentry, hfits⟩
    have hfits' : ¬ (asksForDirectory path && !entry.isDirectory) = true := by
      simpa using hfits
    refine ⟨place, hfollow, ?_⟩
    simp only [hentry, if_neg hfits']
    rfl

theorem Extends.start_eq (hextends : tree.Extends after) (path : String) :
    after.start path = tree.start path := by
  rw [start, start, hextends.workingDirectory]

/-- What was found is found again where its entry is the same. -/
theorem Extends.find (hextends : tree.Extends after)
    (hfind : tree.find path = .ok (place, entry))
    (hentry : after.entry? place = some entry) :
    after.find path = .ok (place, entry) := by
  rw [find_ok_iff] at hfind ⊢
  rw [hextends.start_eq]
  exact ⟨hfind.1, hextends.follow hfind.2.1, hentry, hfind.2.2.2⟩

theorem Extends.find_directory (hextends : tree.Extends after)
    (hfind : tree.find path = .ok (place, .directory)) :
    after.find path = .ok (place, .directory) :=
  hextends.find hfind (hextends.directory place (find_ok_iff.mp hfind).2.2.1)

/-- A path whose last name is that of an entry. -/
structure EndsIn (path name : String) : Prop where
  names : ∃ front, FileTree.names path = front ++ [name]
  here : name ≠ "."
  up : name ≠ ".."

theorem EndsIn.getLast?_of_find (hends : EndsIn path name)
    (hfind : tree.find path = .ok (place, entry)) : place.getLast? = some name := by
  obtain ⟨front, hfront⟩ := hends.names
  have hfollow := (find_ok_iff.mp hfind).2.1
  rw [hfront, follow_concat hends.here hends.up] at hfollow
  obtain ⟨directory, -, -, -, rfl⟩ := hfollow
  exact List.getLast?_concat

/-! ## One change -/

/-- The last name of a path is to be made at a place. -/
structure MakesAt (tree : FileTree) (path : String) (place : Place) : Prop where
  checked : checkPath path = .ok ()
  nonempty : place ≠ []
  follow : tree.follow (tree.start path) (names path) = .ok place

theorem makesAt_of_findParent {name? : Option String}
    (hparent : tree.findParent path = .ok (place, name?))
    (hname : name?.isNone = false) : tree.MakesAt path place := by
  rw [findParent, Except.check_bind_eq_ok_iff, Except.bind_eq_ok_iff] at hparent
  obtain ⟨hpath, directory, hfollow, hrest⟩ := hparent
  rw [Except.check_bind_eq_ok_iff, checkDirectory_ok_iff] at hrest
  obtain ⟨hdirectory, hrest⟩ := hrest
  split at hrest
  next => cases hrest; cases hname
  next => cases hrest; cases hname
  next => cases hrest; cases hname
  next last hhere hup hlast =>
    obtain ⟨hcheck, hrest⟩ := Except.check_bind_eq_ok_iff.mp hrest
    cases hrest
    have hnames : (names path).dropLast ++ [last] = names path :=
      List.dropLast_append_getLast? last hlast
    refine ⟨hpath, by simp, ?_⟩
    rw [← hnames, follow_concat (fun h => hhere h) (fun h => hup h)]
    exact ⟨directory, hfollow, hdirectory, hcheck, rfl⟩

theorem MakesAt.find_insert (hmakes : tree.MakesAt path place)
    (hnew : tree.entry? place ≠ some .directory)
    (hfits : asksForDirectory path = true → entry.isDirectory = true) :
    (tree.insert place entry).find path = .ok (place, entry) := by
  have hextends : tree.Extends (tree.insert place entry) :=
    extends_insert hmakes.nonempty hnew
  rw [find_ok_iff, hextends.start_eq]
  refine ⟨hmakes.checked, hextends.follow hmakes.follow, ?_, hfits⟩
  rw [entry?_insert hmakes.nonempty, if_pos rfl]

/-- What a path names is set to an entry, and nothing else is changed. -/
structure Sets (tree : FileTree) (path : String) (place : Place) (entry : FileEntry)
    (after : FileTree) : Prop where
  grows : tree.Extends after
  found : after.find path = .ok (place, entry)
  unchanged : ∀ other ≠ place, after.entry? other = tree.entry? other

theorem MakesAt.sets (hmakes : tree.MakesAt path place)
    (hnew : tree.entry? place ≠ some .directory)
    (hfits : asksForDirectory path = true → entry.isDirectory = true) :
    tree.Sets path place entry (tree.insert place entry) where
  grows := extends_insert hmakes.nonempty hnew
  found := hmakes.find_insert hnew hfits
  unchanged other hother := by rw [entry?_insert hmakes.nonempty, if_neg hother]

theorem createDirectory_ok (hcreate : tree.createDirectory path = .ok after) :
    ∃ place, tree.entry? place = none ∧ tree.Sets path place .directory after := by
  obtain ⟨⟨place, name?⟩, hparent, hrest⟩ := Except.bind_eq_ok_iff.mp hcreate
  simp only at hrest
  split at hrest
  next => cases hrest
  next hnew =>
    cases hrest
    rw [Bool.or_eq_true, not_or, Option.not_isSome_iff_eq_none] at hnew
    have hmakes := makesAt_of_findParent hparent (Bool.not_eq_true _ ▸ hnew.1)
    refine ⟨place, hnew.2, hmakes.sets ?_ fun _ => rfl⟩
    rw [hnew.2]
    simp

theorem writeText_ok (hwrite : tree.writeText path content = .ok after) :
    ∃ place, tree.Sets path place (.text content) after := by
  obtain ⟨⟨place, name?⟩, hparent, hrest⟩ := Except.bind_eq_ok_iff.mp hwrite
  simp only at hrest
  split at hrest
  next => cases hrest
  next hnew =>
    cases hrest
    simp only [Bool.or_eq_true, not_or, Bool.not_eq_true, decide_eq_true_eq] at hnew
    have hmakes := makesAt_of_findParent hparent hnew.1.1
    refine ⟨place, hmakes.sets hnew.2 fun hasks => ?_⟩
    rw [hnew.1.2] at hasks
    cases hasks

theorem readText_of_find (hfind : tree.find path = .ok (place, .text content)) :
    tree.readText path = .ok content := by
  rw [readText, hfind]
  rfl

/-! ## Directories that are made -/

/-- Nothing is changed but that directories are made where there was nothing,
each of them named by one of the paths. -/
structure OnlyMakes (paths : List String) (tree after : FileTree) : Prop where
  grows : tree.Extends after
  made : ∀ place, after.entry? place = tree.entry? place ∨
    tree.entry? place = none ∧
      ∃ path ∈ paths, after.find path = .ok (place, .directory)

namespace OnlyMakes

variable {paths more : List String}

theorem refl (paths : List String) (tree : FileTree) : OnlyMakes paths tree tree :=
  ⟨.refl tree, fun _ => Or.inl rfl⟩

theorem trans (hfirst : OnlyMakes paths tree after)
    (hsecond : OnlyMakes paths after later) : OnlyMakes paths tree later := by
  refine ⟨hfirst.grows.trans hsecond.grows, fun place => ?_⟩
  rcases hfirst.made place with hsame | ⟨hnone, path, hpath, hfind⟩
  · rcases hsecond.made place with hsame' | ⟨hnone, hmade⟩
    · exact Or.inl (hsame'.trans hsame)
    · exact Or.inr ⟨hsame ▸ hnone, hmade⟩
  · exact Or.inr ⟨hnone, path, hpath, hsecond.grows.find_directory hfind⟩

theorem mono (hmakes : OnlyMakes paths tree after) (hmore : paths ⊆ more) :
    OnlyMakes more tree after := by
  refine ⟨hmakes.grows, fun place => (hmakes.made place).imp_right ?_⟩
  rintro ⟨hnone, path, hpath, hfind⟩
  exact ⟨hnone, path, hmore hpath, hfind⟩

theorem of_sets (hnone : tree.entry? place = none)
    (hsets : tree.Sets path place .directory after) :
    OnlyMakes [path] tree after := by
  refine ⟨hsets.grows, fun other => ?_⟩
  by_cases hother : other = place
  · subst hother
    exact Or.inr ⟨hnone, path, List.mem_singleton_self path, hsets.found⟩
  · exact Or.inl (hsets.unchanged other hother)

end OnlyMakes

/-! ## Runs -/

theorem readText_run (path : String) (tree : FileTree) :
    (FileAccess.readText path : StateM FileTree _) tree =
      (tree.readText path, tree) := rfl

theorem change_run (f : FileTree → Except FileError FileTree) (tree : FileTree) :
    (∃ after, f tree = .ok after ∧ change f tree = (.ok (), after)) ∨
      ∃ error, f tree = .error error ∧ change f tree = (.error error, tree) := by
  unfold change
  cases hf : f tree with
  | error error => exact Or.inr ⟨error, rfl, rfl⟩
  | ok after => exact Or.inl ⟨after, rfl, rfl⟩

theorem ensureDirectory_onlyMakes (path : String) (tree : FileTree) :
    OnlyMakes [path] tree
      ((FileAccess.ensureDirectory path : StateM FileTree _) tree).2 := by
  simp only [FileAccess.ensureDirectory, bind, StateT.bind, FileAccess.createDirectory]
  rcases change_run (·.createDirectory path) tree with
    ⟨after, hcreate, hrun⟩ | ⟨error, -, hrun⟩
  · obtain ⟨place, hnone, hsets⟩ := createDirectory_ok hcreate
    simp only [hrun]
    exact .of_sets hnone hsets
  · simp only [hrun]
    exact .refl _ tree

theorem createChain_onlyMakes (paths : List String) (tree : FileTree) :
    OnlyMakes paths tree
      ((FileAccess.createChain paths : StateM FileTree _) tree).2 := by
  induction paths generalizing tree with
  | nil => exact .refl _ tree
  | cons path parents ih =>
      have hensure : ∀ start, OnlyMakes (path :: parents) start
          ((FileAccess.ensureDirectory path : StateM FileTree _) start).2 :=
        fun start => (ensureDirectory_onlyMakes path start).mono (by simp)
      have hparents : ∀ start, OnlyMakes (path :: parents) start
          ((FileAccess.createChain parents : StateM FileTree _) start).2 :=
        fun start => (ih start).mono (List.subset_cons_self path parents)
      rw [FileAccess.createChain]
      split
      next => exact .refl _ tree
      next =>
        have hfirst := hensure tree
        simp only [bind, StateT.bind]
        generalize (FileAccess.ensureDirectory path : StateM FileTree _) tree = run
          at hfirst ⊢
        rcases run with ⟨result, middle⟩
        dsimp only at hfirst ⊢
        split
        next =>
          have hchain := hfirst.trans (hparents middle)
          simp only [StateT.bind]
          generalize (FileAccess.createChain parents : StateM FileTree _) middle =
            run at hchain ⊢
          rcases run with ⟨made, last⟩
          cases made with
          | error error => exact hchain
          | ok _ => exact hchain.trans (hensure last)
        next => exact hfirst

end Statecharts.FileTree
