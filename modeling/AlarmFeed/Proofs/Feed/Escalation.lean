/-
**Acknowledging only escalates.**

The rows of the feed are made of pairs of a host and a problem, and which pairs there are does not depend
on the events (`nestedRows_eq_map`). An event only turns the mark of a row from zero to one, so of two
lists of events, the one that acknowledges more gives the same alarms, and more of them suppressed
(`suppressedAlarms_subperm`). Sorted rows are graded: those that are not suppressed first, and within
each half the newest first (`graded_rows`).

* `render_escalates` — so two tables over such lists of events have the same alarms, and what is
  suppressed in the one is suppressed in the other.
-/

import AlarmFeed.Proofs.Feed.Rows
import AlarmFeed.Proofs.Row.Order
import Mathlib.Data.List.Perm.Subperm

namespace AlarmFeed

/-! ### Alarms -/

/-- What a row tells of an alarm, whether or not it is suppressed. -/
def Row.alarm (row : Row) : Int × Int × Int :=
  (row.clock, row.severity, row.hostId)

/-- The alarms of the suppressed rows. -/
def suppressedAlarms (rows : List Row) : List (Int × Int × Int) :=
  (rows.filter fun row => row.suppressed = 1).map Row.alarm

theorem suppressedAlarms_perm {first second : List Row} (same : first.Perm second) :
    (suppressedAlarms first).Perm (suppressedAlarms second) :=
  (same.filter _).map _

/-! ### Pairs of hosts and problems -/

/-- Some event of a list acknowledges an id. -/
def Acknowledged (events : List Event) (id : Int) : Prop :=
  ∃ event ∈ events, event.eventId = id ∧ event.acknowledged = true

/-- The hosts and problems that rows are made of, in the order of the nested loops. -/
def nestedPairs (problems : List Problem) (triggers : List Trigger) : List (Host × Problem) :=
  triggers.flatMap fun trigger =>
    if trigger.status = 1 then [] else
      trigger.hosts.flatMap fun host =>
        if host.status = 1 then [] else
          problems.flatMap fun problem =>
            if problem.objectId = trigger.triggerId then [(host, problem)] else []

/-- The row of a pair. -/
def pairRow (events : List Event) (pair : Host × Problem) : Row :=
  plainRow events pair.1 pair.2

section Pairs

variable {problems : List Problem} {triggers : List Trigger} {events events' : List Event}

/-- **The events decide the marks alone**: which rows there are is decided by the pairs. -/
theorem nestedRows_eq_map (problems : List Problem) (events : List Event) (triggers : List Trigger) :
    nestedRows problems events triggers =
      (nestedPairs problems triggers).map (pairRow events) := by
  simp only [nestedRows, nestedPairs, List.map_flatMap, apply_ite (List.map (pairRow events)),
    List.map_nil, List.map_singleton]
  rfl

/-- The mark of a row is zero or one, whatever the monitor says of the problem. -/
theorem suppressed_pairRow (events : List Event) (pair : Host × Problem) :
    (pairRow events pair).suppressed = 0 ∨ (pairRow events pair).suppressed = 1 := by
  show plainSuppression events pair.2 = 0 ∨ plainSuppression events pair.2 = 1
  unfold plainSuppression
  split
  · exact Or.inr rfl
  · exact Or.inl rfl

theorem suppressed_pairRow_iff (events : List Event) (pair : Host × Problem) :
    (pairRow events pair).suppressed = 1 ↔
      pair.2.suppressed ≠ 0 ∨ Acknowledged events pair.2.eventId := by
  show plainSuppression events pair.2 = 1 ↔ _
  unfold plainSuppression Acknowledged
  split
  · next marked => exact iff_of_true rfl marked
  · next unmarked => exact iff_of_false (by decide) unmarked

/-- **The alarms are the same** under all events. -/
theorem map_alarm_nestedRows (problems : List Problem) (events events' : List Event)
    (triggers : List Trigger) :
    (nestedRows problems events triggers).map Row.alarm =
      (nestedRows problems events' triggers).map Row.alarm := by
  rw [nestedRows_eq_map, nestedRows_eq_map, List.map_map, List.map_map]
  rfl

/-- **What is suppressed stays suppressed** if more is acknowledged. -/
theorem suppressedAlarms_subperm (more : ∀ id, Acknowledged events id → Acknowledged events' id)
    (problems : List Problem) (triggers : List Trigger) :
    (suppressedAlarms (nestedRows problems events triggers)).Subperm
      (suppressedAlarms (nestedRows problems events' triggers)) := by
  have alarms : Row.alarm ∘ pairRow events = Row.alarm ∘ pairRow events' := rfl
  rw [suppressedAlarms, suppressedAlarms, nestedRows_eq_map, nestedRows_eq_map, List.filter_map,
    List.filter_map, List.map_map, List.map_map, alarms]
  refine ((List.monotone_filter_right _ fun pair marked => ?_).map _).subperm
  have before := (suppressed_pairRow_iff events pair).mp (of_decide_eq_true marked)
  exact decide_eq_true ((suppressed_pairRow_iff events' pair).mpr (before.imp_right (more _)))

end Pairs

/-! ### Graded rows -/

/-- **Rows are graded**: each is suppressed or not, those that are not stand first, and neither among
these nor among the others is a row newer than one in front of it. -/
structure Graded (rows : List Row) : Prop where
  marked : ∀ row ∈ rows, row.suppressed = 0 ∨ row.suppressed = 1
  ordered : rows.Pairwise fun first second => first.suppressed ≤ second.suppressed ∧
    (first.suppressed = second.suppressed → second.clock ≤ first.clock)

/-- The first part of a key is the mark of its row. -/
theorem Row.suppressed_key {row : Row} (marked : row.suppressed = 0 ∨ row.suppressed = 1) :
    (row.key.suppressed : Int) = row.suppressed := by
  rcases marked with unmarked | marked
  · simp [Row.key, unmarked]
  · simp [Row.key, marked]

/-- A row that stands before another is not the more suppressed, nor of two alike the older. -/
theorem Row.graded_of_before {first second : Row}
    (markedFirst : first.suppressed = 0 ∨ first.suppressed = 1)
    (markedSecond : second.suppressed = 0 ∨ second.suppressed = 1)
    (before : first.before second = true) :
    first.suppressed ≤ second.suppressed ∧
      (first.suppressed = second.suppressed → second.clock ≤ first.clock) := by
  have mark := Row.suppressed_key markedFirst
  have mark' := Row.suppressed_key markedSecond
  have age : first.key.age = -first.clock := rfl
  have age' : second.key.age = -second.clock := rfl
  rw [Row.before_iff, RowKey.compare, Ordering.isLE_then_iff_or, Ordering.isLE_then_iff_or,
    Nat.compare_eq_lt, Nat.compare_eq_eq, Int.compare_eq_lt, Int.compare_eq_eq] at before
  rcases before with less | ⟨same, newer | ⟨sameAge, _⟩⟩
  · omega
  · omega
  · omega

theorem graded_sortRows {rows : List Row}
    (marked : ∀ row ∈ rows, row.suppressed = 0 ∨ row.suppressed = 1) : Graded (sortRows rows) := by
  have sorted : ∀ row ∈ sortRows rows, row.suppressed = 0 ∨ row.suppressed = 1 := fun row member =>
    marked row ((sortRows_perm rows).mem_iff.mp member)
  refine ⟨sorted, (sortRows_pairwise rows).imp_of_mem fun memberFirst memberSecond before => ?_⟩
  exact Row.graded_of_before (sorted _ memberFirst) (sorted _ memberSecond) before

/-- **The rows of the feed are graded.** -/
theorem graded_rows (problems : List Problem) (events : List Event) (triggers : List Trigger) :
    Graded (sortRows (nestedRows problems events triggers)) := by
  refine graded_sortRows fun row member => ?_
  rw [nestedRows_eq_map] at member
  obtain ⟨pair, _, rfl⟩ := List.mem_map.mp member
  exact suppressed_pairRow events pair

namespace Feed

variable {ρ σ : Type}

/-- **Acknowledging only escalates.** Two feeds are answered with the same problems and triggers, and all
that is acknowledged in the events of the one is in those of the other. Then their tables have as many
rows, with the same alarms; what is suppressed in the one is in the other, as often; and the rows of
both are graded. -/
theorem render_escalates (feed feed' : Feed ρ σ) (replies replies' : List ρ) (origin origin' : Text)
    (problems : List Problem) (triggers : List Trigger) (events events' : List Event)
    (answers : Answers feed replies problems events triggers)
    (answers' : Answers feed' replies' problems events' triggers)
    (more : ∀ id, Acknowledged events id → Acknowledged events' id) :
    ∃ rows rows', feed.Serves replies origin rows ∧ feed'.Serves replies' origin' rows' ∧
      rows'.length = rows.length ∧ (rows'.map Row.alarm).Perm (rows.map Row.alarm) ∧
      (suppressedAlarms rows).Subperm (suppressedAlarms rows') ∧ Graded rows ∧ Graded rows' := by
  have sorted := sortRows_perm (nestedRows problems events triggers)
  have sorted' := sortRows_perm (nestedRows problems events' triggers)
  have alarms : ((sortRows (nestedRows problems events' triggers)).map Row.alarm).Perm
      ((sortRows (nestedRows problems events triggers)).map Row.alarm) := by
    refine (sorted'.map Row.alarm).trans ?_
    rw [map_alarm_nestedRows problems events' events triggers]
    exact (sorted.map Row.alarm).symm
  refine ⟨_, _, answers.serves origin, answers'.serves origin', ?_, alarms, ?_,
    graded_rows problems events triggers, graded_rows problems events' triggers⟩
  · simpa only [List.length_map] using alarms.length_eq
  · have early := (suppressedAlarms_perm sorted).subperm
    have late := (suppressedAlarms_perm sorted').symm.subperm
    exact (early.trans (suppressedAlarms_subperm more problems triggers)).trans late

/-- An event that no one has acknowledged. -/
def unseen : List Event :=
  [{ eventId := 1 }]

/-- A problem on a host that is listed twice is suppressed on both once someone has acknowledged it. -/
theorem told_escalates :
    Answers (told twoProblems unseen twoTriggers) [] twoProblems unseen twoTriggers ∧
    Answers (told twoProblems contradiction twoTriggers) [] twoProblems contradiction twoTriggers ∧
    (∀ id, Acknowledged unseen id → Acknowledged contradiction id) ∧
    ∃ rows rows', (told twoProblems unseen twoTriggers).Serves [] "192.0.2.10" rows ∧
      (told twoProblems contradiction twoTriggers).Serves [] "192.0.2.10" rows' ∧
      rows'.length = rows.length ∧ (rows'.map Row.alarm).Perm (rows.map Row.alarm) ∧
      (suppressedAlarms rows).Subperm (suppressedAlarms rows') ∧ Graded rows ∧ Graded rows' := by
  have none : ∀ id, Acknowledged unseen id → Acknowledged contradiction id := by
    rintro id ⟨event, member, _, acknowledged⟩
    rw [List.mem_singleton.mp member] at acknowledged
    exact absurd acknowledged (by decide)
  have answers := told_answers twoProblems unseen twoTriggers
  have answers' := told_answers twoProblems contradiction twoTriggers
  exact ⟨answers, answers', none, render_escalates _ _ [] [] "192.0.2.10" "192.0.2.10" _ _ _ _
    answers answers' none⟩

end Feed

end AlarmFeed
