import Statecharts.Proofs.Chart.Forest
import Statecharts.Proofs.Resolution.Acceptance

/-!
# The forest of links

A state is linked to its parent after a search from that parent upwards has
failed to find the state.  The search remembers nothing of what it has seen,
and no number of steps stops it.  It ends because the links that were made
before are those of a forest, and it is what keeps them so: where the state is
not found, the new link closes no cycle.

The invariant is about the half-linked table alone and not about the records,
so that a link to any parent for which the search fails preserves it.
-/

namespace Statecharts

variable {up up' : StateId → Option StateId} {states : List State}
  {child id last parent : StateId} {passed visited : List StateId} {met : Bool}

/-! ## Searches -/

/-- A search for `child` from a state, if there is one, and then from parent to
parent.  It looks at the states `visited`, in order, and ends where it has met
the child or where there is no parent to go on with. -/
inductive Search (up : StateId → Option StateId) (child : StateId) :
    Option StateId → (visited : List StateId) → (met : Bool) → Prop
  | missed : Search up child none [] false
  | met : Search up child (some child) [child] true
  | climb {id : StateId} {visited : List StateId} {met : Bool}
      (hother : id ≠ child) (hrest : Search up child (up id) visited met) :
      Search up child (some id) (id :: visited) met

namespace Search

theorem unique {first : Option StateId} {visited' : List StateId} {met' : Bool}
    (hsearch : Search up child first visited met)
    (hsearch' : Search up child first visited' met') :
    visited' = visited ∧ met' = met := by
  induction hsearch generalizing visited' met' with
  | missed =>
      cases hsearch'
      exact ⟨rfl, rfl⟩
  | met =>
      cases hsearch' with
      | met => exact ⟨rfl, rfl⟩
      | climb hother _ => exact absurd rfl hother
  | climb hother _ ih =>
      cases hsearch' with
      | met => exact absurd rfl hother
      | climb _ hrest' =>
          obtain ⟨rfl, rfl⟩ := ih hrest'
          exact ⟨rfl, rfl⟩

/-- The states that a search visits are a walk to the last of them. -/
theorem exists_walk (hsearch : Search up child (some id) visited met) :
    ∃ last passed, visited = passed ++ [last] ∧ Walk up last id passed ∧
      if met then last = child else up last = none := by
  generalize hfirst : some id = first at hsearch
  induction hsearch generalizing id with
  | missed => cases hfirst
  | met =>
      cases hfirst
      exact ⟨child, [], rfl, .here, rfl⟩
  | @climb lower visited met hother hrest ih =>
      cases hfirst
      cases hparent : up lower with
      | none =>
          rw [hparent] at hrest
          cases hrest
          exact ⟨lower, [], rfl, .here, hparent⟩
      | some parent =>
          obtain ⟨last, passed, rfl, hwalk, hlast⟩ := ih hparent.symm
          refine ⟨last, lower :: passed, rfl, .climb ?_ hparent hwalk, hlast⟩
          -- The search went on from this state, so it did not end at it.
          rintro rfl
          cases met with
          | true => exact hother hlast
          | false =>
              rw [hparent] at hlast
              cases hlast

theorem nodup (hsearch : Search up child (some id) visited met) : visited.Nodup := by
  obtain ⟨last, passed, rfl, hwalk, -⟩ := hsearch.exists_walk
  have hlast : last ∉ passed := (Walk.iff_isChain.mp hwalk).1
  rw [List.nodup_append_comm, List.singleton_append, List.nodup_cons]
  exact ⟨hlast, hwalk.nodup⟩

/-- A search meets the child exactly when the child is above its start. -/
theorem met_iff (hsearch : Search up child (some id) visited met) :
    met = true ↔ Relation.ReflTransGen (Climbs up) id child := by
  generalize hfirst : some id = first at hsearch
  induction hsearch generalizing id with
  | missed => cases hfirst
  | met =>
      cases hfirst
      exact ⟨fun _ => .refl, fun _ => rfl⟩
  | @climb lower visited met hother hrest ih =>
      cases hfirst
      rw [Relation.ReflTransGen.cases_head_iff]
      cases hparent : up lower with
      | none =>
          rw [hparent] at hrest
          cases hrest
          simp [Climbs, hparent, hother]
      | some parent =>
          rw [ih hparent.symm]
          simp [Climbs, hparent, hother]

end Search

theorem lt_of_reaches {bound : Nat}
    (hbound : ∀ state parent, up state = some parent → parent < bound)
    (hid : id < bound) (hreach : Relation.ReflTransGen (Climbs up) id last) :
    last < bound := by
  rcases Relation.ReflTransGen.cases_tail hreach with rfl | ⟨below, -, hlast⟩
  · exact hid
  · exact hbound below last hlast

/-- A search visits no more states than there are. -/
theorem Search.length_le
    (hparents : ∀ state parent, parentOf? states state = some parent →
      parent < states.length)
    (hid : id < states.length)
    (hsearch : Search (parentOf? states) child (some id) visited met) :
    visited.length ≤ states.length := by
  obtain ⟨last, passed, rfl, hwalk, -⟩ := hsearch.exists_walk
  have hlast := lt_of_reaches hparents hid hwalk.reflTransGen
  have hpassed := hwalk.length_lt hlast
  rw [List.length_append, List.length_singleton]
  omega

/-- Without cycles every search ends. -/
theorem exists_search {bound : Nat}
    (hbound : ∀ state parent, up state = some parent → parent < bound)
    (hacyclic : ¬ ∃ cycle, IsCycle (Climbs up) cycle) (child id : StateId) :
    ∃ visited met, Search up child (some id) visited met := by
  induction id using climb_induction hbound hacyclic with
  | root id hroot =>
      by_cases hid : id = child
      · subst id
        exact ⟨_, _, .met⟩
      · have hrest : Search up child (up id) [] false := by
          rw [hroot]
          exact .missed
        exact ⟨_, _, .climb hid hrest⟩
  | child id parent hparent ih =>
      obtain ⟨visited, met, hsearch⟩ := ih
      by_cases hid : id = child
      · subst id
        exact ⟨_, _, .met⟩
      · exact ⟨_, _, .climb hid (hparent ▸ hsearch)⟩

/-! ## One more link -/

theorem Walk.congr (hsame : ∀ state ∈ passed, up' state = up state)
    (hwalk : Walk up' last id passed) : Walk up last id passed := by
  induction hwalk with
  | here => exact .here
  | climb hfirst hstep _ ih =>
      rw [List.forall_mem_cons] at hsame
      exact .climb hfirst (hsame.1 ▸ hstep) (ih hsame.2)

/-- A link from a child to a parent that is not below it closes no cycle: a
cycle with this link would lead from the parent to the child without it. -/
theorem acyclic_of_link (hnew : up' child = some parent)
    (hsame : ∀ state ≠ child, up' state = up state)
    (hapart : ¬ Relation.ReflTransGen (Climbs up) parent child)
    (hacyclic : ¬ ∃ cycle, IsCycle (Climbs up) cycle) :
    ¬ ∃ cycle, IsCycle (Climbs up') cycle := by
  rintro ⟨cycle, hcycle⟩
  by_cases hchild : child ∈ cycle
  · obtain ⟨others, rfl⟩ := exists_eq_coe_cons hchild
    obtain ⟨first, hfirst, hwalk⟩ := isCycle_iff_walk.mp hcycle
    have hpassed : child ∉ others := (Walk.iff_isChain.mp hwalk).1
    rw [hnew] at hfirst
    cases hfirst
    have hold : Walk up child parent others := by
      apply hwalk.congr
      intro state hstate
      exact hsame state fun heq => hpassed (heq ▸ hstate)
    exact hapart hold.reflTransGen
  · induction cycle using Cycle.induction_on with
    | nil => exact hcycle.nonempty rfl
    | cons state others _ =>
        obtain ⟨first, hfirst, hwalk⟩ := isCycle_iff_walk.mp hcycle
        simp only [Cycle.mem_coe_iff, List.mem_cons, not_or] at hchild
        have hold : Walk up state first others := by
          apply hwalk.congr
          intro other hother
          exact hsame other fun heq => hchild.2 (heq ▸ hother)
        rw [hsame state (Ne.symm hchild.1)] at hfirst
        exact hacyclic ⟨_, isCycle_iff_walk.mpr ⟨first, hfirst, hold⟩⟩

/-! ## Half-linked forests -/

namespace StateTable

variable {table linked : StateTable} {count : Nat} {record : StateRecord}
  {records : List StateRecord}

/-- A table in which the states before `count` are linked: only these have
parents, every parent lists its children in declaration order, and no state is
above itself. -/
structure ForestUpTo (count : Nat) (table : StateTable) : Prop where
  names : table.names.length = table.states.length
  child_lt : ∀ child parent, parentOf? table.states child = some parent →
    child < count
  parent_lt : ∀ child parent, parentOf? table.states child = some parent →
    parent < table.states.length
  acyclic : ¬ ∃ cycle, IsCycle (Climbs (parentOf? table.states)) cycle
  children : ∀ parent state, table.states[parent]? = some state →
    Enumerates (fun child => parentOf? table.states child = some parent)
      state.children
  roots : Enumerates
    (fun id => id < count ∧ parentOf? table.states id = none) table.roots

theorem parentOf?_attach (hchild : child < table.states.length)
    (parent id : StateId) :
    parentOf? (table.attach child parent).states id =
      if child = id then some parent else parentOf? table.states id := by
  simp only [parentOf?, attach, List.getElem?_modify]
  by_cases hid : child = id
  · subst id
    simp [hchild]
  · cases table.states[id]? with
    | none => simp [hid]
    | some state => by_cases habove : parent = id <;> simp [hid, habove]

theorem length_attach (child parent : StateId) :
    (table.attach child parent).states.length = table.states.length := by
  simp [attach]

theorem children_attach {state : State}
    (hstate : (table.attach child parent).states[id]? = some state) :
    ∃ before, table.states[id]? = some before ∧
      state.children = before.children ++ if parent = id then [child] else [] := by
  simp only [attach, List.getElem?_modify] at hstate
  cases hbefore : table.states[id]? with
  | none => simp [hbefore] at hstate
  | some before =>
      simp only [hbefore, Option.map_eq_map, Option.map_some,
        Option.some.injEq] at hstate
      refine ⟨before, rfl, ?_⟩
      subst hstate
      by_cases hid : child = id <;> by_cases habove : parent = id <;>
        simp [hid, habove]

theorem Declared.forest (hdeclared : table.Declared records) :
    table.ForestUpTo 0 := by
  have horphans : ∀ id, parentOf? table.states id = none := by
    intro id
    rw [parentOf?, hdeclared.states, List.getElem?_map]
    cases records[id]? <;> rfl
  constructor
  case names => rw [hdeclared.names, hdeclared.states, List.length_map, List.length_map]
  case child_lt => simp [horphans]
  case parent_lt => simp [horphans]
  case acyclic =>
    rintro ⟨cycle, hcycle⟩
    obtain ⟨greatest, others, rfl, -⟩ := hcycle.exists_greatest
    obtain ⟨first, hfirst, -⟩ := isCycle_iff_walk.mp hcycle
    rw [horphans] at hfirst
    cases hfirst
  case children =>
    intro parent state hstate
    rw [hdeclared.states, List.getElem?_map] at hstate
    obtain ⟨record, -, rfl⟩ := Option.map_eq_some_iff.mp hstate
    exact ⟨.nil, by simp [horphans, StateRecord.bare]⟩
  case roots => exact ⟨hdeclared.roots ▸ .nil, by simp [hdeclared.roots]⟩

namespace ForestUpTo

/-- The state that is linked next has no parent yet. -/
theorem orphan (hforest : table.ForestUpTo count) (hid : count ≤ id) :
    parentOf? table.states id = none := by
  cases hparent : parentOf? table.states id with
  | none => rfl
  | some parent =>
      exact absurd (hforest.child_lt id parent hparent) (Nat.not_lt.mpr hid)

theorem child_mem_lt (hforest : table.ForestUpTo count) {state : State}
    (hstate : state ∈ table.states) : ∀ child ∈ state.children, child < count := by
  obtain ⟨parent, hstate⟩ := List.getElem?_of_mem hstate
  intro child hchild
  exact hforest.child_lt child parent
    (((hforest.children parent state hstate).mem_iff child).mp hchild)

theorem ascending (hforest : table.ForestUpTo count) {state : State}
    (hstate : state ∈ table.states) : state.children.Pairwise (· < ·) := by
  obtain ⟨parent, hstate⟩ := List.getElem?_of_mem hstate
  exact (hforest.children parent state hstate).ascending

theorem root (hforest : table.ForestUpTo count) :
    ForestUpTo (count + 1) { table with roots := table.roots ++ [count] } := by
  constructor
  case names => exact hforest.names
  case child_lt =>
    intro child parent hparent
    exact Nat.lt_succ_of_lt (hforest.child_lt child parent hparent)
  case parent_lt => exact hforest.parent_lt
  case acyclic => exact hforest.acyclic
  case children => exact hforest.children
  case roots =>
    have horphan := hforest.orphan (le_refl count)
    constructor
    · rw [List.pairwise_append]
      refine ⟨hforest.roots.ascending, List.pairwise_singleton _ _, ?_⟩
      intro id hid other hother
      rw [List.mem_singleton.mp hother]
      exact ((hforest.roots.mem_iff id).mp hid).1
    · intro id
      rw [List.mem_append, List.mem_singleton, hforest.roots.mem_iff]
      constructor
      · rintro (⟨hid, hparent⟩ | rfl)
        · exact ⟨Nat.lt_succ_of_lt hid, hparent⟩
        · exact ⟨Nat.lt_succ_self id, horphan⟩
      · rintro ⟨hid, hparent⟩
        rcases Nat.lt_succ_iff_lt_or_eq.mp hid with hlt | heq
        · exact Or.inl ⟨hlt, hparent⟩
        · exact Or.inr heq

/-- A link to a parent that is not below the child keeps the forest. -/
theorem attach (hforest : table.ForestUpTo count)
    (hcount : count < table.states.length) (hparent : parent < table.states.length)
    (hapart : ¬ Relation.ReflTransGen (Climbs (parentOf? table.states)) parent count) :
    (table.attach count parent).ForestUpTo (count + 1) := by
  have hlinks := parentOf?_attach hcount parent
  have horphan := hforest.orphan (le_refl count)
  have hkept : ∀ state ≠ count, parentOf? (table.attach count parent).states state =
      parentOf? table.states state := by
    intro state hstate
    rw [hlinks, if_neg (Ne.symm hstate)]
  constructor
  case names =>
    rw [length_attach]
    exact hforest.names
  case child_lt =>
    intro child above habove
    rw [hlinks] at habove
    split at habove
    next heq => exact heq ▸ Nat.lt_succ_self count
    next => exact Nat.lt_succ_of_lt (hforest.child_lt child above habove)
  case parent_lt =>
    intro child above habove
    rw [length_attach]
    rw [hlinks] at habove
    split at habove
    next =>
      cases habove
      exact hparent
    next => exact hforest.parent_lt child above habove
  case acyclic =>
    have hnew : parentOf? (table.attach count parent).states count = some parent := by
      rw [hlinks, if_pos rfl]
    exact acyclic_of_link hnew hkept hapart hforest.acyclic
  case children =>
    intro above state hstate
    obtain ⟨before, hbefore, hlisted⟩ := children_attach hstate
    have hchildren := hforest.children above before hbefore
    rw [hlisted]
    constructor
    · rw [List.pairwise_append]
      refine ⟨hchildren.ascending, by split <;> simp, ?_⟩
      intro child hchild other hother
      have hlt := hforest.child_lt child above ((hchildren.mem_iff child).mp hchild)
      split at hother
      next => rwa [List.mem_singleton.mp hother]
      next => cases hother
    · intro child
      rw [List.mem_append, hchildren.mem_iff, hlinks]
      by_cases hchild : count = child
      · subst child
        by_cases habove : parent = above <;> simp [horphan, habove]
      · by_cases habove : parent = above <;> simp [hchild, habove, Ne.symm hchild]
  case roots =>
    constructor
    · exact hforest.roots.ascending
    · intro id
      have hroots : (table.attach count parent).roots = table.roots := rfl
      rw [hroots, hforest.roots.mem_iff, hlinks]
      by_cases hid : count = id
      · subst id
        simp
      · simp only [if_neg hid]
        refine and_congr_left fun _ => ?_
        omega

theorem parent_lt_of_stateId? (hforest : table.ForestUpTo count) {name : String}
    (hname : table.stateId? name = some parent) : parent < table.states.length := by
  rw [stateId?, List.idxOf?_eq_some_iff] at hname
  exact hforest.names ▸ hname.1

theorem exists_search (hforest : table.ForestUpTo count) (child parent : StateId) :
    ∃ visited met,
      Search (parentOf? table.states) child (some parent) visited met :=
  Statecharts.exists_search hforest.parent_lt hforest.acyclic child parent

theorem not_isParentOf (hforest : table.ForestUpTo count) :
    table.states[parent]?.elim false (·.isParentOf count) = false := by
  cases hstate : table.states[parent]? with
  | none => rfl
  | some state =>
      rw [Option.elim_some, State.isParentOf, List.contains_eq_mem,
        decide_eq_false_iff_not]
      intro hchild
      exact Nat.lt_irrefl count
        (hforest.child_mem_lt (List.mem_of_getElem? hstate) count hchild)

/-- The lineage that guards a link is cut at a bound, and finds what a search
without a bound finds. -/
theorem mem_lineage_iff (hforest : table.ForestUpTo count)
    (hparent : parent < table.states.length)
    (hsearch : Search (parentOf? table.states) child (some parent) visited met) :
    child ∈ lineage table.states parent ↔ met = true := by
  rw [hsearch.met_iff]
  constructor
  · intro hmem
    obtain ⟨passed, hwalk⟩ := exists_walk_of_mem_lineageWithin hmem
    exact hwalk.reflTransGen
  · intro hreach
    obtain ⟨passed, hwalk⟩ := Walk.exists_of_reflTransGen hreach
    have hchild := lt_of_reaches hforest.parent_lt hparent hreach
    exact (hwalk.lineageWithin (hwalk.length_lt hchild)).1

theorem cyclePath_eq (hforest : table.ForestUpTo count)
    (hparent : parent < table.states.length)
    (hsearch : Search (parentOf? table.states) child (some parent) visited true) :
    table.cyclePath child parent = (child :: visited).map (stateName table.states) := by
  obtain ⟨last, passed, rfl, hwalk, rfl⟩ := hsearch.exists_walk
  have hlast := lt_of_reaches hforest.parent_lt hparent hwalk.reflTransGen
  rw [cyclePath, lineage, (hwalk.lineageWithin (hwalk.length_lt hlast)).2]
  rfl

theorem link_child_eq (hforest : table.ForestUpTo count)
    (hchild : record.parent ≠ "")
    (hparent : table.stateId? record.parent = some parent)
    (hsearch : Search (parentOf? table.states) count (some parent) visited met) :
    table.link count record =
      if met then .error (.parentCycle (stateName table.states count)
        ((count :: visited).map (stateName table.states)))
      else .ok (table.attach count parent) := by
  have hlt := hforest.parent_lt_of_stateId? hparent
  have hmem := hforest.mem_lineage_iff hlt hsearch
  simp only [link, if_neg hchild, hparent, hforest.not_isParentOf, hmem]
  cases met with
  | true => simp [hforest.cyclePath_eq hlt hsearch]
  | false => simp

/-! ## The run of the links -/

theorem link (hforest : table.ForestUpTo count) (hcount : count < table.states.length)
    (hlink : table.link count record = .ok linked) :
    linked.ForestUpTo (count + 1) ∧
      linked.states.length = table.states.length := by
  by_cases hchild : record.parent = ""
  · rw [StateTable.link, if_pos hchild] at hlink
    cases hlink
    exact ⟨hforest.root, rfl⟩
  · cases hparent : table.stateId? record.parent with
    | none => simp [StateTable.link, hchild, hparent] at hlink
    | some parent =>
        obtain ⟨visited, met, hsearch⟩ := hforest.exists_search count parent
        rw [hforest.link_child_eq hchild hparent hsearch] at hlink
        cases met with
        | true => cases hlink
        | false =>
            cases hlink
            have hlt := hforest.parent_lt_of_stateId? hparent
            have hapart := mt hsearch.met_iff.mpr Bool.false_ne_true
            exact ⟨hforest.attach hcount hlt hapart, length_attach count parent⟩

theorem linkFrom (hforest : table.ForestUpTo count)
    (hcount : count + records.length ≤ table.states.length)
    (hlinked : table.linkFrom count records = .ok linked) :
    linked.ForestUpTo (count + records.length) ∧
      linked.states.length = table.states.length := by
  induction records generalizing table count with
  | nil =>
      cases hlinked
      exact ⟨hforest, rfl⟩
  | cons record rest ih =>
      obtain ⟨next, hnext, hlinked⟩ := Except.bind_eq_ok_iff.mp hlinked
      rw [List.length_cons] at hcount
      obtain ⟨hgrown, hlength⟩ := hforest.link (by omega) hnext
      obtain ⟨hlast, hlength'⟩ := ih hgrown (by omega) hlinked
      rw [List.length_cons, Nat.add_comm rest.length, ← Nat.add_assoc]
      exact ⟨hlast, hlength'.trans hlength⟩

end ForestUpTo

theorem linkFrom_append (first rest : List StateRecord) (table : StateTable)
    (count : Nat) :
    table.linkFrom count (first ++ rest) = (table.linkFrom count first >>= fun linked =>
      linked.linkFrom (count + first.length) rest) := by
  induction first generalizing table count with
  | nil => rfl
  | cons record first ih =>
      simp only [List.cons_append, linkFrom, bind_assoc, ih, List.length_cons,
        Nat.add_assoc, Nat.add_comm 1]

theorem exists_declared (hnames : (StateRecord.names records).Nodup) :
    ∃ declared, records.foldlM declare {} = .ok declared := by
  cases hdeclared : records.foldlM declare {} with
  | ok declared => exact ⟨declared, rfl⟩
  | error error =>
      obtain ⟨index, hfault, -⟩ := (declare_error_iff records error).mp hdeclared
      exact absurd hfault ((faultless_nameFault_iff records).mpr hnames index error)

/-! ## Every iteration -/

/-- A search that ends, in one way only and at a state that is met for the
first time.  It tells whether the child is above its start. -/
structure Searches (table : StateTable) (child parent : StateId)
    (visited : List StateId) (met : Bool) : Prop where
  ends : Search (parentOf? table.states) child (some parent) visited met
  only : ∀ visited' met',
    Search (parentOf? table.states) child (some parent) visited' met' →
      visited' = visited ∧ met' = met
  nodup : visited.Nodup
  length_le : visited.length ≤ table.states.length
  met_iff : met = true ↔
    Relation.ReflTransGen (Climbs (parentOf? table.states)) parent child

/-- The search decides whether the state at `count` is linked, and where it
fails a link keeps the forest. -/
structure LinksBySearch (table : StateTable) (count : Nat) (record : StateRecord) :
    Prop where
  link_eq : ∀ parent visited met, record.parent ≠ "" →
    table.stateId? record.parent = some parent →
    Search (parentOf? table.states) count (some parent) visited met →
      table.link count record =
        if met then .error (.parentCycle (stateName table.states count)
          ((count :: visited).map (stateName table.states)))
        else .ok (table.attach count parent)
  keeps : ∀ parent < table.states.length, ∀ visited,
    Search (parentOf? table.states) count (some parent) visited false →
      (table.attach count parent).ForestUpTo (count + 1)

theorem ForestUpTo.searches (hforest : table.ForestUpTo count)
    (hparent : parent < table.states.length) (child : StateId) :
    ∃ visited met, table.Searches child parent visited met := by
  obtain ⟨visited, met, hsearch⟩ := hforest.exists_search child parent
  refine ⟨visited, met, hsearch, fun visited' met' => hsearch.unique, hsearch.nodup,
    ?_, hsearch.met_iff⟩
  exact hsearch.length_le hforest.parent_lt hparent

theorem ForestUpTo.linksBySearch (hforest : table.ForestUpTo count)
    (hcount : count < table.states.length) (record : StateRecord) :
    table.LinksBySearch count record := by
  constructor
  case link_eq =>
    intro parent visited met hchild hparent hsearch
    exact hforest.link_child_eq hchild hparent hsearch
  case keeps =>
    intro parent hparent visited hsearch
    exact hforest.attach hcount hparent (mt hsearch.met_iff.mpr Bool.false_ne_true)

/-- In front of every record the states linked so far form a forest, in which every
search ends, and the search from the parent of the record decides whether it is
linked. -/
theorem linked_states_are_forest (records : List StateRecord)
    (hnames : (StateRecord.names records).Nodup) :
    ∃ declared, records.foldlM declare {} = .ok declared ∧
      ∀ before rest table, records = before ++ rest →
        declared.linkFrom 0 before = .ok table →
        declared.linkFrom 0 records = table.linkFrom before.length rest ∧
        table.ForestUpTo before.length ∧
        (∀ state ∈ table.states, state.children.Pairwise (· < ·) ∧
          ∀ child ∈ state.children, child < before.length) ∧
        (∀ child, ∀ parent < records.length,
          ∃ visited met, table.Searches child parent visited met) ∧
        ∀ record, rest.head? = some record →
          table.LinksBySearch before.length record := by
  obtain ⟨declared, hdeclare⟩ := exists_declared hnames
  refine ⟨declared, hdeclare, ?_⟩
  rintro before rest table rfl hbefore
  have hdeclared := declared_of_foldlM hdeclare
  have hall : declared.states.length = (before ++ rest).length := by
    rw [hdeclared.states, List.length_map]
  have hfront : 0 + before.length ≤ declared.states.length := by
    rw [hall, List.length_append]
    omega
  obtain ⟨hforest, hlength⟩ := hdeclared.forest.linkFrom hfront hbefore
  rw [Nat.zero_add] at hforest
  rw [hall] at hlength
  refine ⟨?_, hforest, ?_, ?_, ?_⟩
  · rw [linkFrom_append, hbefore, Except.ok_bind, Nat.zero_add]
  · intro state hstate
    exact ⟨hforest.ascending hstate, hforest.child_mem_lt hstate⟩
  · intro child parent hparent
    exact hforest.searches (hlength ▸ hparent) child
  · intro record hrecord
    have hrest : rest ≠ [] := by
      rintro rfl
      cases hrecord
    have hlater := List.length_pos_of_ne_nil hrest
    apply hforest.linksBySearch
    rw [hlength, List.length_append]
    omega

/-- Each state names the next one as its parent, and the last one the first: the
search that would link it visits all states. -/
theorem last_link_of_ring_refused :
    let records : List StateRecord :=
      [.child "C" "B", .child "B" "A", .child "A" "C"]
    (StateRecord.names records).Nodup ∧
      ∃ declared table, records.foldlM declare {} = .ok declared ∧
        declared.linkFrom 0 [.child "C" "B", .child "B" "A"] = .ok table ∧
        table.ForestUpTo 2 ∧ table.Searches 2 0 [0, 1, 2] true ∧
        table.link 2 (.child "A" "C") =
          .error (.parentCycle "A" ["A", "C", "B", "A"]) := by
  intro records
  have hnames : (StateRecord.names records).Nodup := by decide
  obtain ⟨declared, hdeclared, hiterations⟩ := linked_states_are_forest records hnames
  cases hdeclared
  obtain ⟨-, hforest, -, hsearches, hlinks⟩ :=
    hiterations [.child "C" "B", .child "B" "A"] [.child "A" "C"] _ rfl rfl
  refine ⟨hnames, _, _, rfl, rfl, hforest, ?_, ?_⟩
  · obtain ⟨visited, met, hsearch⟩ := hsearches 2 0 (by decide)
    obtain ⟨rfl, rfl⟩ := hsearch.only [0, 1, 2] true
      (.climb (by decide) (.climb (by decide) .met))
    exact hsearch
  · exact (hlinks _ rfl).link_eq 0 [0, 1, 2] true (by decide) rfl
      (.climb (by decide) (.climb (by decide) .met))

end StateTable

end Statecharts
