/-
**The order of the answers does not matter.**

The monitor may list problems, events, triggers, and the hosts and items of a trigger in any order. The
nested loops then give the same rows in another order (`nestedRows_perm`), and since a row of the feed
is told by its key, the sorted rows are the same list: `render_reordered`.
-/

import AlarmFeed.Proofs.Feed.Rows
import AlarmFeed.Proofs.Row.Order
import Mathlib.Data.List.Perm.Basic

namespace AlarmFeed

/-- The same trigger with its hosts and items in another order. -/
structure Trigger.Reordered (first second : Trigger) : Prop where
  hosts : first.hosts.Perm second.hosts
  items : first.items.Perm second.items
  same : second = { first with hosts := second.hosts, items := second.items }

/-- The same triggers in another order, each with its hosts and items in another order. -/
def TriggersReordered (first second : List Trigger) : Prop :=
  ∃ between, List.Forall₂ Trigger.Reordered first between ∧ between.Perm second

/-! ### The nested loops -/

theorem plainRow_perm {first second : List Event} (same : first.Perm second) :
    plainRow first = plainRow second := by
  funext host problem
  unfold plainRow plainSuppression
  simp only [same.mem_iff]

section Loops

variable {problems problems' : List Problem} {events events' : List Event}

theorem rowsOfHost_perm (sameProblems : problems.Perm problems') (sameEvents : events.Perm events')
    (triggerId : Int) (host : Host) :
    (rowsOfHost problems events triggerId host).Perm (rowsOfHost problems' events' triggerId host) := by
  unfold rowsOfHost
  rw [plainRow_perm sameEvents]
  split
  · exact List.Perm.refl []
  · exact sameProblems.flatMap_right _

theorem rowsOfTrigger_perm (sameProblems : problems.Perm problems')
    (sameEvents : events.Perm events') {first second : Trigger} (same : first.Reordered second) :
    (rowsOfTrigger problems events first).Perm (rowsOfTrigger problems' events' second) := by
  obtain ⟨hosts, _, same⟩ := same
  have status : second.status = first.status := by rw [same]
  have triggerId : second.triggerId = first.triggerId := by rw [same]
  unfold rowsOfTrigger
  rw [status, triggerId]
  split
  · exact List.Perm.refl []
  · exact hosts.flatMap fun host _ => rowsOfHost_perm sameProblems sameEvents _ host

/-- **The nested loops give the same rows**, in whatever order the lists are. -/
theorem nestedRows_perm (sameProblems : problems.Perm problems') (sameEvents : events.Perm events')
    {triggers triggers' : List Trigger} (sameTriggers : TriggersReordered triggers triggers') :
    (nestedRows problems events triggers).Perm (nestedRows problems' events' triggers') := by
  obtain ⟨between, each, moved⟩ := sameTriggers
  rw [nestedRows_eq, nestedRows_eq]
  refine List.Perm.trans ?_ (moved.flatMap_right _)
  clear moved
  induction each with
  | nil => exact List.Perm.refl []
  | cons same _ ih =>
    rw [List.flatMap_cons, List.flatMap_cons]
    exact (rowsOfTrigger_perm sameProblems sameEvents same).append ih

end Loops

namespace Feed

variable {ρ σ : Type}

/-- **The table does not depend on the order of the answers.** Two feeds whose sources answer with the
same problems, events and triggers, each in its own order, serve the same table. -/
theorem render_reordered (feed feed' : Feed ρ σ) (replies replies' : List ρ) (origin : Text)
    (problems problems' : List Problem) (events events' : List Event)
    (triggers triggers' : List Trigger) (answers : Answers feed replies problems events triggers)
    (answers' : Answers feed' replies' problems' events' triggers')
    (sameProblems : problems.Perm problems') (sameEvents : events.Perm events')
    (sameTriggers : TriggersReordered triggers triggers') :
    ∃ after after' table table',
      ((feed.render origin).run replies).result = .ok (after, table) ∧
      ((feed'.render origin).run replies').result = .ok (after', table') ∧
      table.ok = true ∧ table'.body = table.body ∧ table'.ok = table.ok ∧
      table'.rowCount = table.rowCount := by
  have sorted : sortRows (nestedRows problems events triggers) =
      sortRows (nestedRows problems' events' triggers') :=
    sortRows_eq_of_perm (fun _ member => namesFree_of_mem_nestedRows member)
      (nestedRows_perm sameProblems sameEvents sameTriggers)
  refine ⟨_, _, _, _, (run_render_of_rows answers.ended origin).1,
    (run_render_of_rows answers'.ended origin).1, rfl, ?_, rfl, ?_⟩
  · show Table.writeRows _ = Table.writeRows _
    rw [sorted]
  · show List.length _ = List.length _
    rw [sorted]

/-- Two problems that tie on suppression and clock. -/
def tiedProblems : List Problem :=
  [{ eventId := 1, objectId := 10, clock := 100, severity := 5 },
    { eventId := 2, objectId := 10, clock := 100, severity := 4 }]

/-- A trigger with two hosts. -/
def twoHosts : Trigger :=
  { triggerId := 10, hosts := [{ hostId := 5 }, { hostId := 12 }] }

/-- A trigger with its hosts the other way round. -/
def reversedHosts (trigger : Trigger) : Trigger :=
  { trigger with hosts := trigger.hosts.reverse }

/-- Ties, events and hosts the other way round give the same table. -/
theorem told_reordered : ∃ after after' table table',
    (((told tiedProblems contradiction [twoHosts]).render "192.0.2.10").run []).result =
      .ok (after, table) ∧
    (((told tiedProblems.reverse contradiction.reverse [reversedHosts twoHosts]).render
      "192.0.2.10").run []).result = .ok (after', table') ∧
    table.ok = true ∧ table'.body = table.body ∧ table'.ok = table.ok ∧
    table'.rowCount = table.rowCount := by
  have hosts : twoHosts.Reordered (reversedHosts twoHosts) :=
    ⟨(List.reverse_perm twoHosts.hosts).symm, List.Perm.refl _, rfl⟩
  exact render_reordered _ _ [] [] "192.0.2.10" _ _ _ _ _ _ (told_answers _ _ _)
    (told_answers _ _ _) (List.reverse_perm tiedProblems).symm (List.reverse_perm contradiction).symm
    ⟨_, .cons hosts .nil, List.Perm.refl _⟩

end Feed

end AlarmFeed
