/-
**Rows without an index.**

`nestedRows` goes through triggers, their hosts and the whole list of problems, one inside the other,
and looks into the list of events for each row. `assembleRows_eq_nestedRows` — the index of problems
and the list of acknowledged ids give the same rows in the same order, however often a trigger, a host
or a problem is listed, and whatever else is said of an event.
-/

import AlarmFeed.Assembly
import AlarmFeed.Proofs.ProblemIndex
import AlarmFeed.Proofs.Row.Order

namespace AlarmFeed

/-- One if a problem is suppressed or some event of a list acknowledges it, else zero. -/
def plainSuppression (events : List Event) (problem : Problem) : Int :=
  if problem.suppressed ≠ 0 ∨
      ∃ event ∈ events, event.eventId = problem.eventId ∧ event.acknowledged = true then 1
  else 0

/-- The row of a problem on a host, its two names left out. -/
def plainRow (events : List Event) (host : Host) (problem : Problem) : Row :=
  { clock := problem.clock, severity := problem.severity,
    suppressed := plainSuppression events problem, hostId := host.hostId, host := [], name := [] }

/-- **Three nested loops**: triggers in use, their hosts in use, the problems that name the trigger. -/
def nestedRows (problems : List Problem) (events : List Event) (triggers : List Trigger) : List Row :=
  triggers.flatMap fun trigger =>
    if trigger.status = 1 then [] else
      trigger.hosts.flatMap fun host =>
        if host.status = 1 then [] else
          problems.flatMap fun problem =>
            if problem.objectId = trigger.triggerId then [plainRow events host problem] else []

/-! ### The loops one by one -/

/-- The rows of one host. -/
def rowsOfHost (problems : List Problem) (events : List Event) (triggerId : Int) (host : Host) :
    List Row :=
  if host.status = 1 then [] else
    problems.flatMap fun problem =>
      if problem.objectId = triggerId then [plainRow events host problem] else []

/-- The rows of one trigger. -/
def rowsOfTrigger (problems : List Problem) (events : List Event) (trigger : Trigger) : List Row :=
  if trigger.status = 1 then [] else
    trigger.hosts.flatMap (rowsOfHost problems events trigger.triggerId)

theorem nestedRows_eq (problems : List Problem) (events : List Event) (triggers : List Trigger) :
    nestedRows problems events triggers = triggers.flatMap (rowsOfTrigger problems events) := rfl

/-! ### Loops that skip -/

/-- Going through what a test leaves is going through all and skipping the rest. -/
theorem flatMap_filter_not {α β : Type} (skip : α → Bool) (f : α → List β) (l : List α) :
    (l.filter (!skip ·)).flatMap f = l.flatMap fun a => if skip a = true then [] else f a := by
  induction l with
  | nil => rfl
  | cons a l ih =>
    rw [List.filter_cons, List.flatMap_cons, ← ih]
    by_cases skipped : skip a = true
    · simp [skipped]
    · simp [skipped]

/-- Changing what a test keeps is going through all and keeping that. -/
theorem map_filter_decide {α β : Type} (keep : α → Prop) [DecidablePred keep] (f : α → β)
    (l : List α) :
    (l.filter fun a => keep a).map f = l.flatMap fun a => if keep a then [f a] else [] := by
  induction l with
  | nil => rfl
  | cons a l ih =>
    rw [List.filter_cons, List.flatMap_cons, ← ih]
    by_cases kept : keep a
    · simp [kept]
    · simp [kept]

/-! ### The two ways agree -/

theorem suppression_eq (problem : Problem) (events : List Event) :
    suppression problem (acknowledgedIds events) = plainSuppression events problem := by
  unfold suppression plainSuppression
  simp only [mem_acknowledgedIds]

theorem rowOf_eq (events : List Event) (host : Host) (problem : Problem) :
    rowOf (acknowledgedIds events) host problem = plainRow events host problem := by
  rw [rowOf, suppression_eq]
  rfl

theorem disabled_iff_host (host : Host) : host.disabled = true ↔ host.status = 1 := by
  rw [Host.disabled, beq_iff_eq]
  rfl

theorem disabled_iff_trigger (trigger : Trigger) : trigger.disabled = true ↔ trigger.status = 1 := by
  rw [Trigger.disabled, beq_iff_eq]
  rfl

/-- The rows of one trigger, problem by problem on each host. -/
theorem rowsOf_eq (problems : List Problem) (events : List Event) (trigger : Trigger) :
    rowsOf (ProblemIndex.ofProblems problems) (acknowledgedIds events) trigger =
      trigger.hosts.flatMap fun host =>
        if host.status = 1 then [] else
          problems.flatMap fun problem =>
            if problem.objectId = trigger.triggerId then [plainRow events host problem] else [] := by
  rw [rowsOf, flatMap_filter_not]
  refine congrArg (List.flatMap · trigger.hosts) (funext fun host => ?_)
  simp only [disabled_iff_host]
  rw [ProblemIndex.problemsFor_ofProblems, map_filter_decide]
  simp only [rowOf_eq]

/-- **The index changes nothing**: no row is lost, added or moved. -/
theorem assembleRows_eq_nestedRows (problems : List Problem) (events : List Event)
    (triggers : List Trigger) :
    assembleRows triggers (ProblemIndex.ofProblems problems) (acknowledgedIds events) =
      nestedRows problems events triggers := by
  rw [assembleRows, enabledTriggers, flatMap_filter_not, nestedRows]
  refine congrArg (List.flatMap · triggers) (funext fun trigger => ?_)
  simp only [disabled_iff_trigger, rowsOf_eq]

theorem nestedRows_nil (events : List Event) (triggers : List Trigger) :
    nestedRows [] events triggers = [] := by
  simp [nestedRows]

/-! ### The rows have no names -/

/-- The rows of the nested loops name neither host nor problem. -/
theorem blank_of_mem_nestedRows {problems : List Problem} {events : List Event}
    {triggers : List Trigger} {row : Row} (member : row ∈ nestedRows problems events triggers) :
    row.host = [] ∧ row.name = [] := by
  obtain ⟨trigger, _, member⟩ := List.mem_flatMap.mp member
  split at member
  · cases member
  · obtain ⟨host, _, member⟩ := List.mem_flatMap.mp member
    split at member
    · cases member
    · obtain ⟨problem, _, member⟩ := List.mem_flatMap.mp member
      split at member
      · obtain rfl := List.mem_singleton.mp member
        exact ⟨rfl, rfl⟩
      · cases member

/-- So their keys tell them. -/
theorem namesFree_of_mem_nestedRows {problems : List Problem} {events : List Event}
    {triggers : List Trigger} {row : Row} (member : row ∈ nestedRows problems events triggers) :
    row.NamesFree := by
  obtain ⟨host, name⟩ := blank_of_mem_nestedRows member
  rw [Row.NamesFree, host, name]
  exact ⟨List.not_mem_nil, List.not_mem_nil⟩

end AlarmFeed
