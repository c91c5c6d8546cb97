/-
**What the index of problems holds.**

The index is built one problem at a time; `problemsFor_add`, `triggerIds_add` and `eventIds_add` say
what one problem changes, and by induction along the list:

* `problemsFor_ofProblems` — the problems of a trigger are those of the list that name it, in order;
* `triggerIds_ofProblems`, `eventIds_ofProblems` — each id is listed once, where it is first seen;
* `groups_ofProblems`, `flatMap_groups_ofProblems` — the groups are those of the triggers listed, and
  share out the problems;
* `ofProblems_represents` — so the index represents the list.

`mem_acknowledgedIds` says which events are acknowledged, whatever else is said of them.
-/

import AlarmFeed.Assembly
import AlarmFeed.Proofs.Text.Fields
import Mathlib.Algebra.GroupWithZero.Nat

namespace AlarmFeed

namespace ProblemIndex

/-! ### One problem more -/

/-- The group of a trigger. -/
def groupOf (id : Int) (groups : List (Int × List Problem)) : List Problem :=
  match groups.find? fun (key, _) => key == id with
  | some (_, group) => group
  | none => []

theorem groupOf_cons (id key : Int) (group : List Problem) (groups : List (Int × List Problem)) :
    groupOf id ((key, group) :: groups) = if key = id then group else groupOf id groups := by
  unfold groupOf
  by_cases same : key = id
  · simp [same]
  · simp [same]

theorem groupOf_addToGroup (id : Int) (problem : Problem) (groups : List (Int × List Problem)) :
    groupOf id (addToGroup problem groups) =
      if problem.objectId = id then groupOf id groups ++ [problem] else groupOf id groups := by
  induction groups with
  | nil => rw [addToGroup, groupOf_cons]; rfl
  | cons head groups ih =>
    obtain ⟨key, group⟩ := head
    rw [addToGroup]
    by_cases known : key = problem.objectId
    · rw [if_pos known, groupOf_cons, groupOf_cons, known]
      by_cases asked : problem.objectId = id
      · rw [if_pos asked, if_pos asked, if_pos asked]
      · rw [if_neg asked, if_neg asked, if_neg asked]
    · rw [if_neg known, groupOf_cons, groupOf_cons, ih]
      by_cases asked : key = id
      · have other : problem.objectId ≠ id := fun same => known (asked.trans same.symm)
        rw [if_pos asked, if_pos asked, if_neg other]
      · rw [if_neg asked, if_neg asked]

theorem problemsFor_add (index : ProblemIndex) (problem : Problem) (id : Int) :
    (index.add problem).problemsFor id =
      if problem.objectId = id then index.problemsFor id ++ [problem] else index.problemsFor id :=
  groupOf_addToGroup id problem index.groups

theorem map_fst_addToGroup (problem : Problem) (groups : List (Int × List Problem)) :
    (addToGroup problem groups).map Prod.fst =
      if problem.objectId ∈ groups.map Prod.fst then groups.map Prod.fst
      else groups.map Prod.fst ++ [problem.objectId] := by
  induction groups with
  | nil => rfl
  | cons head groups ih =>
    obtain ⟨key, group⟩ := head
    rw [addToGroup, List.map_cons]
    by_cases known : key = problem.objectId
    · rw [if_pos known, if_pos (known ▸ List.mem_cons_self), List.map_cons]
    · rw [if_neg known, List.map_cons, ih]
      by_cases later : problem.objectId ∈ groups.map Prod.fst
      · rw [if_pos later, if_pos (List.mem_cons_of_mem _ later)]
      · have new : problem.objectId ∉ key :: groups.map Prod.fst := by
          rw [List.mem_cons, not_or]
          exact ⟨Ne.symm known, later⟩
        rw [if_neg later, if_neg new, List.cons_append]

theorem triggerIds_add (index : ProblemIndex) (problem : Problem) :
    (index.add problem).triggerIds =
      if problem.objectId ∈ index.triggerIds then index.triggerIds
      else index.triggerIds ++ [problem.objectId] :=
  map_fst_addToGroup problem index.groups

theorem eventIds_add (index : ProblemIndex) (problem : Problem) :
    (index.add problem).eventIds =
      if problem.eventId ∈ index.eventIds then index.eventIds
      else index.eventIds ++ [problem.eventId] := rfl

/-! ### All problems -/

theorem ofProblems_append_singleton (problems : List Problem) (problem : Problem) :
    ofProblems (problems ++ [problem]) = (ofProblems problems).add problem := by
  rw [ofProblems, List.foldl_append]
  rfl

/-- **The problems of a trigger** are those of the list that name it, in their order. -/
theorem problemsFor_ofProblems (problems : List Problem) (id : Int) :
    (ofProblems problems).problemsFor id = problems.filter fun problem => problem.objectId = id := by
  induction problems using List.reverseRecOn with
  | nil => rfl
  | append_singleton problems problem ih =>
    rw [ofProblems_append_singleton, problemsFor_add, ih, List.filter_append]
    by_cases asked : problem.objectId = id
    · simp [asked]
    · simp [asked]

/-- **Each trigger once**, where it is first seen. -/
theorem triggerIds_ofProblems (problems : List Problem) :
    (ofProblems problems).triggerIds = (problems.map Problem.objectId).eraseDups := by
  induction problems using List.reverseRecOn with
  | nil => rfl
  | append_singleton problems problem ih =>
    rw [ofProblems_append_singleton, triggerIds_add, ih, List.map_append, List.map_singleton,
      eraseDups_append_singleton]
    simp only [List.mem_eraseDups]

/-- **Each event once**, where it is first seen. -/
theorem eventIds_ofProblems (problems : List Problem) :
    (ofProblems problems).eventIds = (problems.map Problem.eventId).eraseDups := by
  induction problems using List.reverseRecOn with
  | nil => rfl
  | append_singleton problems problem ih =>
    rw [ofProblems_append_singleton, eventIds_add, ih, List.map_append, List.map_singleton,
      eraseDups_append_singleton]
    simp only [List.mem_eraseDups]

/-! ### The groups -/

/-- Groups of distinct triggers are told by their triggers and by what is found for each. -/
theorem eq_map_groupOf {groups : List (Int × List Problem)}
    (distinct : (groups.map Prod.fst).Nodup) :
    groups = (groups.map Prod.fst).map fun id => (id, groupOf id groups) := by
  induction groups with
  | nil => rfl
  | cons head groups ih =>
    obtain ⟨key, group⟩ := head
    obtain ⟨new, distinct⟩ := List.nodup_cons.mp distinct
    have first : groupOf key ((key, group) :: groups) = group := by
      rw [groupOf_cons, if_pos rfl]
    have later : ∀ id ∈ groups.map Prod.fst,
        (id, groupOf id ((key, group) :: groups)) = (id, groupOf id groups) := by
      intro id member
      have other : key ≠ id := fun same => new (same ▸ member)
      rw [groupOf_cons, if_neg other]
    rw [List.map_cons, List.map_cons, first, List.map_congr_left later, ← ih distinct]

/-- **One group for each trigger listed**, with the problems of that trigger. -/
theorem groups_ofProblems (problems : List Problem) :
    (ofProblems problems).groups =
      (ofProblems problems).triggerIds.map fun id => (id, (ofProblems problems).problemsFor id) := by
  refine eq_map_groupOf ?_
  show (ofProblems problems).triggerIds.Nodup
  rw [triggerIds_ofProblems]
  exact nodup_eraseDups _

/-- One problem more is one more in the groups. -/
theorem flatMap_addToGroup (problem : Problem) (groups : List (Int × List Problem)) :
    ((addToGroup problem groups).flatMap Prod.snd).Perm (groups.flatMap Prod.snd ++ [problem]) := by
  induction groups with
  | nil => rfl
  | cons head groups ih =>
    obtain ⟨key, group⟩ := head
    rw [addToGroup]
    by_cases known : key = problem.objectId
    · rw [if_pos known, List.flatMap_cons, List.flatMap_cons, List.append_assoc, List.append_assoc]
      exact List.perm_append_comm.append_left group
    · rw [if_neg known, List.flatMap_cons, List.flatMap_cons, List.append_assoc]
      exact ih.append_left group

/-- **The groups share out the problems.** -/
theorem flatMap_groups_ofProblems (problems : List Problem) :
    ((ofProblems problems).groups.flatMap Prod.snd).Perm problems := by
  induction problems using List.reverseRecOn with
  | nil => rfl
  | append_singleton problems problem ih =>
    rw [ofProblems_append_singleton]
    exact (flatMap_addToGroup problem _).trans (ih.append_right [problem])

/-- A trigger is listed if some problem names it. -/
theorem mem_triggerIds_ofProblems {problems : List Problem} {id : Int} :
    id ∈ (ofProblems problems).triggerIds ↔ ∃ problem ∈ problems, problem.objectId = id := by
  rw [triggerIds_ofProblems, List.mem_eraseDups, List.mem_map]

/-- An event is listed if some problem refers to it. -/
theorem mem_eventIds_ofProblems {problems : List Problem} {id : Int} :
    id ∈ (ofProblems problems).eventIds ↔ ∃ problem ∈ problems, problem.eventId = id := by
  rw [eventIds_ofProblems, List.mem_eraseDups, List.mem_map]

/-- Nothing is found for exactly the triggers that are not listed. -/
theorem problemsFor_ofProblems_eq_nil_iff {problems : List Problem} {id : Int} :
    (ofProblems problems).problemsFor id = [] ↔ id ∉ (ofProblems problems).triggerIds := by
  rw [problemsFor_ofProblems, List.filter_eq_nil_iff, mem_triggerIds_ofProblems]
  simp only [decide_eq_true_eq, not_exists, not_and]

/-! ### The index of a list -/

/-- **An index represents a list of problems**: it lists each trigger and each event once, in the order
in which they are first seen; it finds for each trigger the problems that name it, in their order; and
its groups are those problems under their triggers, so that every problem is in one group. -/
structure Represents (index : ProblemIndex) (problems : List Problem) : Prop where
  triggerIds : index.triggerIds = (problems.map Problem.objectId).eraseDups
  eventIds : index.eventIds = (problems.map Problem.eventId).eraseDups
  problemsFor : ∀ id, index.problemsFor id = problems.filter fun problem => problem.objectId = id
  unknown : ∀ id, index.problemsFor id = [] ↔ id ∉ index.triggerIds
  groups : index.groups = index.triggerIds.map fun id => (id, index.problemsFor id)
  nonempty : ∀ group ∈ index.groups, group.2 ≠ []
  partition : (index.groups.flatMap Prod.snd).Perm problems
  lengths : (index.groups.map fun group => group.2.length).sum = problems.length
  referred : ∀ group ∈ index.groups, ∀ problem ∈ group.2, problem.eventId ∈ index.eventIds
  isEmpty : index.isEmpty = true ↔ problems = []
  noTriggers : index.triggerIds = [] ↔ problems = []
  noEvents : index.eventIds = [] ↔ problems = []

theorem triggerIds_ofProblems_eq_nil_iff {problems : List Problem} :
    (ofProblems problems).triggerIds = [] ↔ problems = [] := by
  rw [triggerIds_ofProblems, eraseDups_eq_nil_iff, List.map_eq_nil_iff]

/-- **The index of a list of problems represents it**, in whatever order their triggers and events
come and however often. -/
theorem ofProblems_represents (problems : List Problem) :
    (ofProblems problems).Represents problems where
  triggerIds := triggerIds_ofProblems problems
  eventIds := eventIds_ofProblems problems
  problemsFor := problemsFor_ofProblems problems
  unknown _ := problemsFor_ofProblems_eq_nil_iff
  groups := groups_ofProblems problems
  nonempty group member none := by
    rw [groups_ofProblems, List.mem_map] at member
    obtain ⟨id, listed, rfl⟩ := member
    exact problemsFor_ofProblems_eq_nil_iff.mp none listed
  partition := flatMap_groups_ofProblems problems
  lengths := by rw [← List.length_flatMap, (flatMap_groups_ofProblems problems).length_eq]
  referred group member problem inside := by
    have held : problem ∈ (ofProblems problems).groups.flatMap Prod.snd :=
      List.mem_flatMap.mpr ⟨group, member, inside⟩
    have among : problem ∈ problems := (flatMap_groups_ofProblems problems).mem_iff.mp held
    exact mem_eventIds_ofProblems.mpr ⟨problem, among, rfl⟩
  isEmpty := by
    rw [← triggerIds_ofProblems_eq_nil_iff, ProblemIndex.isEmpty, List.isEmpty_iff,
      ProblemIndex.triggerIds, List.map_eq_nil_iff]
  noTriggers := triggerIds_ofProblems_eq_nil_iff
  noEvents := by rw [eventIds_ofProblems, eraseDups_eq_nil_iff, List.map_eq_nil_iff]

end ProblemIndex

/-- **An event is acknowledged** if one of the list with its id says so. -/
theorem mem_acknowledgedIds {events : List Event} {id : Int} :
    id ∈ acknowledgedIds events ↔
      ∃ event ∈ events, event.eventId = id ∧ event.acknowledged = true := by
  rw [acknowledgedIds, List.mem_eraseDups, List.mem_map]
  constructor
  · rintro ⟨event, member, same⟩
    rw [List.mem_filter] at member
    exact ⟨event, member.1, same, member.2⟩
  · rintro ⟨event, member, same, acknowledged⟩
    exact ⟨event, List.mem_filter.mpr ⟨member, acknowledged⟩, same⟩

end AlarmFeed
