/-
**From problems to rows.**

A `ProblemIndex` groups problems under the triggers that own them and lists the events they refer to,
both in the order in which they are first seen. `acknowledgedIds` lists the events that someone has
acknowledged.

One row stands for each problem of each host of each trigger; triggers and hosts that are out of use
give none. A row is suppressed if the monitor says so or if its event is acknowledged. Host and problem
names are left out.
-/

import AlarmFeed.Monitor.Record
import AlarmFeed.Row

namespace AlarmFeed

/-! ### Problems by trigger -/

/-- Problems grouped by trigger, and their event ids. -/
structure ProblemIndex where
  groups : List (Int × List Problem) := []
  eventIds : List Int := []
  deriving DecidableEq

namespace ProblemIndex

/-- Adds a problem to its group, or as a new group at the end. -/
def addToGroup (problem : Problem) : List (Int × List Problem) → List (Int × List Problem)
  | [] => [(problem.objectId, [problem])]
  | (id, group) :: groups =>
    if id = problem.objectId then (id, group ++ [problem]) :: groups
    else (id, group) :: addToGroup problem groups

/-- Adds a problem. -/
def add (index : ProblemIndex) (problem : Problem) : ProblemIndex where
  groups := addToGroup problem index.groups
  eventIds :=
    if problem.eventId ∈ index.eventIds then index.eventIds
    else index.eventIds ++ [problem.eventId]

/-- The index of a list of problems. -/
def ofProblems (problems : List Problem) : ProblemIndex :=
  problems.foldl add {}

/-- The ids of the triggers that own a problem. -/
def triggerIds (index : ProblemIndex) : List Int :=
  index.groups.map Prod.fst

/-- Whether there is no problem. -/
def isEmpty (index : ProblemIndex) : Bool :=
  index.groups.isEmpty

/-- The problems of a trigger. -/
def problemsFor (index : ProblemIndex) (triggerId : Int) : List Problem :=
  match index.groups.find? fun (id, _) => id == triggerId with
  | some (_, group) => group
  | none => []

end ProblemIndex

/-- The ids of the acknowledged events, each once. -/
def acknowledgedIds (events : List Event) : List Int :=
  ((events.filter Event.acknowledged).map Event.eventId).eraseDups

/-! ### Rows -/

/-- One if a problem is suppressed or its event is acknowledged, else zero. -/
def suppression (problem : Problem) (acknowledged : List Int) : Int :=
  if problem.suppressed ≠ 0 ∨ problem.eventId ∈ acknowledged then 1 else 0

/-- The row of a problem on a host. -/
def rowOf (acknowledged : List Int) (host : Host) (problem : Problem) : Row where
  clock := problem.clock
  severity := problem.severity
  suppressed := suppression problem acknowledged
  hostId := host.hostId

/-- The rows of one trigger. -/
def rowsOf (index : ProblemIndex) (acknowledged : List Int) (trigger : Trigger) : List Row :=
  (trigger.hosts.filter (!·.disabled)).flatMap fun host =>
    (index.problemsFor trigger.triggerId).map (rowOf acknowledged host)

/-- The triggers in use. -/
def enabledTriggers (triggers : List Trigger) : List Trigger :=
  triggers.filter (!·.disabled)

/-- The rows of all triggers, unsorted. -/
def assembleRows (triggers : List Trigger) (index : ProblemIndex) (acknowledged : List Int) :
    List Row :=
  (enabledTriggers triggers).flatMap (rowsOf index acknowledged)

/-- How many triggers give no rows because they are out of use. -/
def skippedTriggers (triggers : List Trigger) : Nat :=
  (triggers.filter Trigger.disabled).length

/-- How many hosts of triggers in use give no rows because they are out of use. -/
def skippedHosts (triggers : List Trigger) : Nat :=
  ((enabledTriggers triggers).flatMap fun trigger => trigger.hosts.filter Host.disabled).length

end AlarmFeed
