/-
**The rows of answered questions.**

`Answers` says that the source answers the questions of a feed with given problems, events and
triggers. Then the feed ends with the sorted rows of the three nested loops
(`buildRows_of_answers`); without problems it asks for nothing else.
-/

import AlarmFeed.Proofs.Assembly
import AlarmFeed.Proofs.Feed.Course

namespace AlarmFeed.Feed

variable {ρ σ : Type}

/-- **The source answers with given lists**: about events and triggers only if there are problems. -/
structure Answers (feed : Feed ρ σ) (replies : List ρ) (problems : List Problem)
    (events : List Event) (triggers : List Trigger) : Prop where
  found : (feed.askedProblems replies).result = .ok problems
  known : problems ≠ [] →
    (feed.askedEvents problems (feed.askedProblems replies).rest).result = .ok events
  owned : problems ≠ [] →
    (feed.askedTriggers problems
      (feed.askedEvents problems (feed.askedProblems replies).rest).rest).result = .ok triggers

/-- The id of the last question about given problems. -/
def lastId (problems : List Problem) : Int :=
  if problems = [] then problemsId else triggersId

namespace Answers

variable {feed : Feed ρ σ} {replies : List ρ} {problems : List Problem} {events : List Event}
  {triggers : List Trigger}

theorem rowsOfAnswers_eq (problems : List Problem) (events : List Event) (triggers : List Trigger) :
    rowsOfAnswers problems events triggers = sortRows (nestedRows problems events triggers) := by
  rw [rowsOfAnswers, assembleRows_eq_nestedRows]

/-- An answered feed ends with the sorted rows of the nested loops. -/
theorem ended (answers : Answers feed replies problems events triggers) :
    (feed.buildRows.run replies).result =
      .ok ({ feed with lastRequestId := lastId problems },
        .ok (sortRows (nestedRows problems events triggers))) := by
  by_cases some : problems = []
  · subst some
    rw [nestedRows_nil, sortRows, List.mergeSort_nil]
    exact (Course.noProblems rfl answers.found).run_eq.1
  · rw [lastId, if_neg some, ← rowsOfAnswers_eq]
    exact (Course.answered rfl answers.found some rfl (answers.known some) rfl
      (answers.owned some)).run_eq.1

/-- Without problems nothing is asked but the question about them. -/
theorem asked_once (answers : Answers feed replies [] events triggers) :
    (feed.buildRows.run replies).sent = (feed.askedProblems replies).sent ∧
      (feed.buildRows.run replies).rest = (feed.askedProblems replies).rest :=
  (Course.noProblems rfl answers.found).run_eq.2

end Answers

/-- **A feed serves rows**: it ends with them, and they are what its table is written from. -/
structure Serves (feed : Feed ρ σ) (replies : List ρ) (origin : Text) (rows : List Row) : Prop where
  built : ∃ after, (feed.buildRows.run replies).result = .ok (after, .ok rows)
  rendered : ∃ after, ((feed.render origin).run replies).result =
    .ok (after, ⟨Table.writeRows rows, true, rows.length⟩)

theorem Answers.serves {feed : Feed ρ σ} {replies : List ρ} {problems : List Problem}
    {events : List Event} {triggers : List Trigger}
    (answers : Answers feed replies problems events triggers) (origin : Text) :
    feed.Serves replies origin (sortRows (nestedRows problems events triggers)) :=
  ⟨⟨_, answers.ended⟩, ⟨_, (run_render_of_rows answers.ended origin).1⟩⟩

/-- **The feed is the plain join.** Answered with any lists, it ends with the rows of the three nested
loops, sorted: each of them as often as the loops give it, and no other. The empty list of problems
ends it at once. -/
theorem buildRows_of_answers (feed : Feed ρ σ) (replies : List ρ) (problems : List Problem)
    (events : List Event) (triggers : List Trigger)
    (answers : Answers feed replies problems events triggers) :
    ∃ rows, (feed.buildRows.run replies).result =
        .ok ({ feed with lastRequestId := lastId problems }, .ok rows) ∧
      rows = sortRows (nestedRows problems events triggers) ∧
      rows.Perm (nestedRows problems events triggers) ∧
      (problems = [] → rows = [] ∧
        (feed.buildRows.run replies).sent = (feed.askedProblems replies).sent ∧
        (feed.buildRows.run replies).rest = (feed.askedProblems replies).rest) := by
  refine ⟨_, answers.ended, rfl, List.mergeSort_perm _ _, ?_⟩
  rintro rfl
  exact ⟨by rw [nestedRows_nil, sortRows, List.mergeSort_nil], answers.asked_once⟩

/-! ### A source that is told what to answer -/

/-- A feed whose source answers every question with given lists. -/
def told (problems : List Problem) (events : List Event) (triggers : List Trigger) :
    Feed Unit Unit where
  source :=
    { problems := fun _ _ => pure problems
      events := fun _ _ _ => pure events
      triggers := fun _ _ _ => pure triggers }
  token := none

theorem told_answers (problems : List Problem) (events : List Event) (triggers : List Trigger) :
    Answers (told problems events triggers) [] problems events triggers :=
  ⟨rfl, fun _ => rfl, fun _ => rfl⟩

/-- Two problems of two triggers. -/
def twoProblems : List Problem :=
  [{ eventId := 1, objectId := 10, clock := 100, severity := 5 },
    { eventId := 2, objectId := 20, clock := 200, severity := 5, suppressed := 1 }]

/-- Two events with one id that contradict each other. -/
def contradiction : List Event :=
  [{ eventId := 1 }, { eventId := 1, acknowledged := true }]

/-- A trigger that lists a host twice and one out of use, and a trigger that owns no problem. -/
def twoTriggers : List Trigger :=
  [{ triggerId := 10, hosts := [{ hostId := 5 }, { hostId := 6, status := 1 }, { hostId := 5 }] },
    { triggerId := 30, hosts := [{ hostId := 7 }] }]

/-- One row for each time that the host is listed. -/
theorem told_rows :
    Answers (told twoProblems contradiction twoTriggers) [] twoProblems contradiction twoTriggers ∧
    ∃ rows, ((told twoProblems contradiction twoTriggers).buildRows.run []).result =
        .ok ({ told twoProblems contradiction twoTriggers with lastRequestId := 3 }, .ok rows) ∧
      rows.Perm
        [{ clock := 100, severity := 5, suppressed := 1, hostId := 5 },
          { clock := 100, severity := 5, suppressed := 1, hostId := 5 }] := by
  have answers := told_answers twoProblems contradiction twoTriggers
  obtain ⟨rows, ended, _, same, _⟩ := buildRows_of_answers _ _ _ _ _ answers
  have listed : nestedRows twoProblems contradiction twoTriggers =
      [{ clock := 100, severity := 5, suppressed := 1, hostId := 5 },
        { clock := 100, severity := 5, suppressed := 1, hostId := 5 }] := by decide
  exact ⟨answers, rows, ended, listed ▸ same⟩

end AlarmFeed.Feed
