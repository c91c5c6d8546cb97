/-
**Switching off removes just what is switched off.**

Triggers and hosts are switched off by their places (`Switches`): a host that is listed under two triggers
can be switched off under the one and stay in use under the other. Each row of the nested loops has the
places of its trigger and of its host (`placedRows`), and switching off takes away the rows of the places
that are off and touches no other (`placedRows_switched`). Since sorting a part of the rows gives a part of
the sorted rows (`sortRows_sublist`), the same is true of the tables:

* `render_switched` — the second table is the first without the rows of what was switched off.
-/

import AlarmFeed.Proofs.Feed.Rows

namespace AlarmFeed

/-- **What is switched off**: triggers by their places in a list, and hosts by the places of their trigger
and of themselves in it. -/
structure Switches where
  triggers : Nat → Bool := fun _ => false
  hosts : Nat → Nat → Bool := fun _ _ => false

/-- The places of a trigger in a list and of a host in it. -/
abbrev Place := Nat × Nat

namespace Switches

/-- The host at a place, out of use if it is switched off. -/
def host (switches : Switches) (place : Place) (host : Host) : Host :=
  if switches.hosts place.1 place.2 then { host with status := Status.disabled.number } else host

/-- The trigger at a place, out of use if it is switched off, and its hosts. -/
def trigger (switches : Switches) (i : Nat) (trigger : Trigger) : Trigger :=
  { trigger with
    status := if switches.triggers i then Status.disabled.number else trigger.status
    hosts := trigger.hosts.mapIdx fun j host => switches.host (i, j) host }

/-- The triggers with all that is switched off. -/
def apply (switches : Switches) (triggers : List Trigger) : List Trigger :=
  triggers.mapIdx switches.trigger

/-- A place is off: its trigger is switched off, or its host under that trigger. -/
def off (switches : Switches) (place : Place) : Bool :=
  switches.triggers place.1 || switches.hosts place.1 place.2

end Switches

/-! ### Rows and their places -/

/-- The rows of one host of a trigger. -/
def rowsOn (problems : List Problem) (events : List Event) (trigger : Trigger) (host : Host) :
    List Row :=
  if trigger.status = 1 then [] else rowsOfHost problems events trigger.triggerId host

/-- **The rows of the nested loops, each with its place.** -/
def placedRows (problems : List Problem) (events : List Event) (triggers : List Trigger) :
    List (Place × Row) :=
  triggers.zipIdx.flatMap fun (trigger, i) =>
    trigger.hosts.zipIdx.flatMap fun (host, j) =>
      (rowsOn problems events trigger host).map fun row => ((i, j), row)

/-- The rows of the places that are off. -/
def switchedRows (switches : Switches) (problems : List Problem) (events : List Event)
    (triggers : List Trigger) : List Row :=
  ((placedRows problems events triggers).filter fun placed => switches.off placed.1).map Prod.snd

/-- The rows of all other places. -/
def untouchedRows (switches : Switches) (problems : List Problem) (events : List Event)
    (triggers : List Trigger) : List Row :=
  ((placedRows problems events triggers).filter fun placed => !switches.off placed.1).map Prod.snd

section Places

variable {α β : Type}

/-- Going through a list with places and looking at none is going through the list. -/
theorem flatMap_zipIdx_fst (l : List α) (f : α → List β) :
    (l.zipIdx.flatMap fun (a, _) => f a) = l.flatMap f := by
  conv_rhs => rw [← List.zipIdx_map_fst 0 l, List.flatMap_map]

/-- A list that is changed place by place keeps its places. -/
theorem zipIdx_mapIdx (l : List α) (f : Nat → α → β) :
    (l.mapIdx f).zipIdx = l.zipIdx.map fun (a, i) => (f i a, i) := by
  refine List.ext_getElem? fun i => ?_
  rw [List.getElem?_zipIdx, List.getElem?_mapIdx, List.getElem?_map, List.getElem?_zipIdx,
    Option.map_map, Option.map_map, Nat.zero_add]
  rfl

end Places

section Rows

variable (problems : List Problem) (events : List Event) (triggers : List Trigger)
  (switches : Switches)

theorem rowsOfTrigger_eq (trigger : Trigger) :
    rowsOfTrigger problems events trigger =
      trigger.hosts.flatMap (rowsOn problems events trigger) := by
  unfold rowsOfTrigger rowsOn
  split
  · exact (List.flatMap_eq_nil_iff.mpr fun _ _ => rfl).symm
  · rfl

/-- Without their places they are the rows of the nested loops. -/
theorem map_snd_placedRows :
    (placedRows problems events triggers).map Prod.snd = nestedRows problems events triggers := by
  have unplaced : ∀ (rows : List Row) (place : Place),
      (rows.map fun row => (place, row)).map Prod.snd = rows := by
    intro rows place
    rw [List.map_map]
    exact List.map_id rows
  simp only [placedRows, List.map_flatMap, unplaced, flatMap_zipIdx_fst]
  rw [flatMap_zipIdx_fst triggers fun trigger =>
    trigger.hosts.flatMap (rowsOn problems events trigger), nestedRows_eq]
  exact congrArg (List.flatMap · triggers)
    (funext fun trigger => (rowsOfTrigger_eq problems events trigger).symm)

/-- A host that is switched off, or whose trigger is, has no rows; any other keeps its own. -/
theorem rowsOn_switched (trigger : Trigger) (host : Host) (place : Place) :
    rowsOn problems events (switches.trigger place.1 trigger) (switches.host place host) =
      if switches.off place then [] else rowsOn problems events trigger host := by
  have disabled : Status.disabled.number = 1 := rfl
  unfold rowsOn rowsOfHost Switches.off Switches.trigger Switches.host
  rw [disabled]
  cases switches.triggers place.1 <;> cases switches.hosts place.1 place.2 <;> simp

/-- The rows of one place after switching off. -/
theorem placed_switched (trigger : Trigger) (host : Host) (place : Place) :
    (rowsOn problems events (switches.trigger place.1 trigger) (switches.host place host)).map
        (fun row => (place, row)) =
      ((rowsOn problems events trigger host).map fun row => (place, row)).filter
        fun placed => !switches.off placed.1 := by
  rw [rowsOn_switched, List.filter_map]
  cases off : switches.off place with
  | true => simp [Function.comp_def, off]
  | false => simp [Function.comp_def, off]

/-- **Switching off takes away the rows of what is switched off** and touches no other. -/
theorem placedRows_switched :
    placedRows problems events (switches.apply triggers) =
      (placedRows problems events triggers).filter fun placed => !switches.off placed.1 := by
  unfold placedRows Switches.apply
  rw [zipIdx_mapIdx, List.flatMap_map, List.filter_flatMap]
  refine congrArg (List.flatMap · triggers.zipIdx) (funext fun (trigger, i) => ?_)
  show List.flatMap _ (trigger.hosts.mapIdx fun j host => switches.host (i, j) host).zipIdx = _
  rw [zipIdx_mapIdx, List.flatMap_map, List.filter_flatMap]
  exact congrArg (List.flatMap · trigger.hosts.zipIdx)
    (funext fun (host, j) => placed_switched problems events switches trigger host (i, j))

/-- The rows that stay are those of the places that are not off. -/
theorem nestedRows_switched :
    nestedRows problems events (switches.apply triggers) =
      untouchedRows switches problems events triggers := by
  rw [← map_snd_placedRows, placedRows_switched, untouchedRows]

/-- Every row is of a place that is off or of one that is not. -/
theorem nestedRows_perm_switched :
    (nestedRows problems events triggers).Perm
      (nestedRows problems events (switches.apply triggers) ++
        switchedRows switches problems events triggers) := by
  rw [nestedRows_switched, ← map_snd_placedRows problems events triggers, untouchedRows, switchedRows,
    ← List.map_append]
  exact ((List.perm_append_comm.trans
    (List.filter_append_perm (fun placed => switches.off placed.1) _)).symm).map Prod.snd

end Rows

namespace Feed

variable {ρ σ : Type}

/-- **Switching off removes just the rows of what is switched off.** If the triggers that one feed is
answered with are the triggers of another with some of them and some of their hosts switched off, both
feeds serve tables; the rows of the second are among those of the first, in the same order, and what is
missing are the rows that the first has of the triggers that are switched off, and of the hosts that are,
under just those triggers. -/
theorem render_switched {feed feed' : Feed ρ σ} {replies replies' : List ρ}
    {problems : List Problem} {events : List Event} {triggers : List Trigger} (switches : Switches)
    (answers : Answers feed replies problems events triggers)
    (switched : Answers feed' replies' problems events (switches.apply triggers))
    (origin origin' : Text) :
    ∃ rows rows', feed.Serves replies origin rows ∧ feed'.Serves replies' origin' rows' ∧
      rows'.Sublist rows ∧
      rows.Perm (rows' ++ switchedRows switches problems events triggers) ∧
      rows'.Perm (untouchedRows switches problems events triggers) := by
  have cut := nestedRows_perm_switched problems events triggers switches
  have kept := sortRows_perm (nestedRows problems events (switches.apply triggers))
  refine ⟨_, _, answers.serves origin, switched.serves origin', ?_, ?_, ?_⟩
  · exact sortRows_sublist (fun _ => namesFree_of_mem_nestedRows) cut
  · exact (sortRows_perm _).trans (cut.trans (kept.symm.append_right _))
  · rw [← nestedRows_switched]
    exact kept

/-- Two problems of two triggers that share a host. -/
def sharedProblems : List Problem :=
  [{ eventId := 1, objectId := 10, clock := 100, severity := 5 },
    { eventId := 2, objectId := 20, clock := 200, severity := 5 }]

/-- Two triggers that list one host. -/
def sharingTriggers : List Trigger :=
  [{ triggerId := 10, hosts := [{ hostId := 5 }] }, { triggerId := 20, hosts := [{ hostId := 5 }] }]

/-- The shared host is switched off under the first trigger. -/
def firstOff : Switches where
  hosts i j := i == 0 && j == 0

/-- It keeps its row of the second. -/
theorem told_switched :
    Answers (told sharedProblems [] sharingTriggers) [] sharedProblems [] sharingTriggers ∧
    Answers (told sharedProblems [] (firstOff.apply sharingTriggers)) [] sharedProblems []
      (firstOff.apply sharingTriggers) ∧
    ∃ rows rows',
      (told sharedProblems [] sharingTriggers).Serves [] "192.0.2.10" rows ∧
      (told sharedProblems [] (firstOff.apply sharingTriggers)).Serves [] "192.0.2.10" rows' ∧
      rows'.Sublist rows ∧
      rows.Perm (rows' ++ [{ clock := 100, severity := 5, suppressed := 0, hostId := 5 }]) ∧
      rows'.Perm [{ clock := 200, severity := 5, suppressed := 0, hostId := 5 }] := by
  have first := told_answers sharedProblems [] sharingTriggers
  have second := told_answers sharedProblems [] (firstOff.apply sharingTriggers)
  exact ⟨first, second, render_switched firstOff first second _ _⟩

end Feed

end AlarmFeed
