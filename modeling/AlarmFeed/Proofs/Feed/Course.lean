/-
**The course of the three questions.**

`Course feed replies id result sent rest` says how a feed fares on given replies: the id of the last
request, the rows or the fault, what was sent and which replies are left. It has one rule for each way
in which the questions can end.

* `Course.run_eq` — a feed that takes a course ends as the course says;
* `exists_course` — every feed takes one, on all replies;
* `run_render_of_fault`, `run_render_of_hindered`, `run_render_of_rows` — what `render` makes of the end of
  the course, for which it sends nothing more (`Course.sent_render`): a table of the rows or of the fault,
  unless something keeps the fault from being reported (`Hindered`).

Whatever is said of a feed on every run is said of the five rules.
-/

import AlarmFeed.Feed
import AlarmFeed.Proofs.Exchange
import AlarmFeed.Proofs.Table.Error

namespace AlarmFeed

namespace Feed

variable {ρ σ : Type}

/-! ### The three questions -/

/-- The question about problems, asked with given replies. -/
def askedProblems (feed : Feed ρ σ) (replies : List ρ) : Outcome ρ σ (List Problem) :=
  (feed.source.problems (.int problemsId) feed.token).run replies

/-- The question about the events of given problems. -/
def askedEvents (feed : Feed ρ σ) (problems : List Problem) (replies : List ρ) :
    Outcome ρ σ (List Event) :=
  (feed.source.events (ProblemIndex.ofProblems problems).eventIds (.int eventsId) feed.token).run
    replies

/-- The question about the triggers of given problems. -/
def askedTriggers (feed : Feed ρ σ) (problems : List Problem) (replies : List ρ) :
    Outcome ρ σ (List Trigger) :=
  (feed.source.triggers (ProblemIndex.ofProblems problems).triggerIds (.int triggersId)
    feed.token).run replies

/-- The sorted rows of three answers. -/
def rowsOfAnswers (problems : List Problem) (events : List Event) (triggers : List Trigger) :
    List Row :=
  sortRows (assembleRows triggers (ProblemIndex.ofProblems problems) (acknowledgedIds events))

/-- **How a feed fares.** -/
inductive Course (feed : Feed ρ σ) (replies : List ρ) :
    Int → Except Fault (List Row) → List σ → List ρ → Prop
  | problemsFailed {fault : Fault} {one : Outcome ρ σ (List Problem)}
      (first : feed.askedProblems replies = one) (failed : one.result = .error fault) :
      Course feed replies problemsId (.error fault) one.sent one.rest
  | noProblems {one : Outcome ρ σ (List Problem)}
      (first : feed.askedProblems replies = one) (none : one.result = .ok []) :
      Course feed replies problemsId (.ok []) one.sent one.rest
  | eventsFailed {fault : Fault} {problems : List Problem} {one : Outcome ρ σ (List Problem)}
      {two : Outcome ρ σ (List Event)}
      (first : feed.askedProblems replies = one) (found : one.result = .ok problems)
      (some : problems ≠ []) (second : feed.askedEvents problems one.rest = two)
      (failed : two.result = .error fault) :
      Course feed replies eventsId (.error fault) (one.sent ++ two.sent) two.rest
  | triggersFailed {fault : Fault} {problems : List Problem} {events : List Event}
      {one : Outcome ρ σ (List Problem)} {two : Outcome ρ σ (List Event)}
      {three : Outcome ρ σ (List Trigger)}
      (first : feed.askedProblems replies = one) (found : one.result = .ok problems)
      (some : problems ≠ []) (second : feed.askedEvents problems one.rest = two)
      (known : two.result = .ok events) (third : feed.askedTriggers problems two.rest = three)
      (failed : three.result = .error fault) :
      Course feed replies triggersId (.error fault) (one.sent ++ (two.sent ++ three.sent)) three.rest
  | answered {problems : List Problem} {events : List Event} {triggers : List Trigger}
      {one : Outcome ρ σ (List Problem)} {two : Outcome ρ σ (List Event)}
      {three : Outcome ρ σ (List Trigger)}
      (first : feed.askedProblems replies = one) (found : one.result = .ok problems)
      (some : problems ≠ []) (second : feed.askedEvents problems one.rest = two)
      (known : two.result = .ok events) (third : feed.askedTriggers problems two.rest = three)
      (owned : three.result = .ok triggers) :
      Course feed replies triggersId (.ok (rowsOfAnswers problems events triggers))
        (one.sent ++ (two.sent ++ three.sent)) three.rest

/-! ### Taking a course -/

/-- The questions end with an id and a result, some messages sent and some replies left. -/
def EndsAs (outcome : Outcome ρ σ (Int × Except Fault (List Row))) (id : Int)
    (result : Except Fault (List Row)) (sent : List σ) (rest : List ρ) : Prop :=
  outcome.result = .ok (id, result) ∧ outcome.sent = sent ∧ outcome.rest = rest

section Asking

variable {feed : Feed ρ σ} {problems : List Problem} {events : List Event} {replies : List ρ}

theorem askTriggers_of_fault {fault : Fault} {three : Outcome ρ σ (List Trigger)}
    (third : feed.askedTriggers problems replies = three) (failed : three.result = .error fault) :
    EndsAs ((feed.askTriggers problems events).run replies) triggersId (.error fault) three.sent
      three.rest := by
  subst third
  rw [askedTriggers] at failed
  refine ⟨?_, ?_, ?_⟩ <;>
    simp [askTriggers, Exchange.run_bind, Exchange.run_attempt, failed, Exchange.run_pure,
      askedTriggers]

theorem askTriggers_of_triggers {triggers : List Trigger} {three : Outcome ρ σ (List Trigger)}
    (third : feed.askedTriggers problems replies = three) (owned : three.result = .ok triggers) :
    EndsAs ((feed.askTriggers problems events).run replies) triggersId
      (.ok (rowsOfAnswers problems events triggers)) three.sent three.rest := by
  subst third
  rw [askedTriggers] at owned
  refine ⟨?_, ?_, ?_⟩ <;>
    simp [askTriggers, combine, assemble, Exchange.run_bind, Exchange.run_attempt, owned,
      Exchange.run_pure, Exchange.run_note, askedTriggers, rowsOfAnswers]

theorem askEvents_of_fault {fault : Fault} {two : Outcome ρ σ (List Event)}
    (second : feed.askedEvents problems replies = two) (failed : two.result = .error fault) :
    EndsAs ((feed.askEvents problems).run replies) eventsId (.error fault) two.sent two.rest := by
  subst second
  rw [askedEvents] at failed
  refine ⟨?_, ?_, ?_⟩ <;>
    simp [askEvents, Exchange.run_bind, Exchange.run_attempt, failed, Exchange.run_pure,
      askedEvents]

theorem askEvents_of_events {two : Outcome ρ σ (List Event)} {id : Int}
    {result : Except Fault (List Row)} {sent : List σ} {rest : List ρ}
    (second : feed.askedEvents problems replies = two) (known : two.result = .ok events)
    (later : EndsAs ((feed.askTriggers problems events).run two.rest) id result sent rest) :
    EndsAs ((feed.askEvents problems).run replies) id result (two.sent ++ sent) rest := by
  subst second
  obtain ⟨ended, rfl, rfl⟩ := later
  rw [askedEvents] at known ended ⊢
  refine ⟨?_, ?_, ?_⟩ <;>
    simp [askEvents, Exchange.run_bind, Exchange.run_attempt, known, ended]

theorem askProblems_of_fault {fault : Fault} {one : Outcome ρ σ (List Problem)}
    (first : feed.askedProblems replies = one) (failed : one.result = .error fault) :
    EndsAs (feed.askProblems.run replies) problemsId (.error fault) one.sent one.rest := by
  subst first
  rw [askedProblems] at failed
  refine ⟨?_, ?_, ?_⟩ <;>
    simp [askProblems, Exchange.run_bind, Exchange.run_attempt, failed, Exchange.run_pure,
      askedProblems]

theorem askProblems_of_nil {one : Outcome ρ σ (List Problem)}
    (first : feed.askedProblems replies = one) (none : one.result = .ok []) :
    EndsAs (feed.askProblems.run replies) problemsId (.ok []) one.sent one.rest := by
  subst first
  rw [askedProblems] at none
  refine ⟨?_, ?_, ?_⟩ <;>
    simp [askProblems, Exchange.run_bind, Exchange.run_attempt, none, Exchange.run_pure,
      Exchange.run_note, askedProblems]

theorem askProblems_of_problems {one : Outcome ρ σ (List Problem)} {id : Int}
    {result : Except Fault (List Row)} {sent : List σ} {rest : List ρ}
    (first : feed.askedProblems replies = one) (found : one.result = .ok problems)
    (some : problems ≠ [])
    (later : EndsAs ((feed.askEvents problems).run one.rest) id result sent rest) :
    EndsAs (feed.askProblems.run replies) id result (one.sent ++ sent) rest := by
  subst first
  obtain ⟨ended, rfl, rfl⟩ := later
  rw [askedProblems] at found ended ⊢
  obtain ⟨problem, problems, rfl⟩ := List.exists_cons_of_ne_nil some
  refine ⟨?_, ?_, ?_⟩ <;>
    simp [askProblems, Exchange.run_bind, Exchange.run_attempt, found, ended]

end Asking

/-- The questions of a feed that takes a course end as the course says. -/
theorem Course.endsAs {feed : Feed ρ σ} {replies : List ρ} {id : Int}
    {result : Except Fault (List Row)} {sent : List σ} {rest : List ρ}
    (course : Course feed replies id result sent rest) :
    EndsAs (feed.askProblems.run replies) id result sent rest := by
  cases course with
  | problemsFailed first failed => exact askProblems_of_fault first failed
  | noProblems first none => exact askProblems_of_nil first none
  | eventsFailed first found some second failed =>
    exact askProblems_of_problems first found some (askEvents_of_fault second failed)
  | triggersFailed first found some second known third failed =>
    exact askProblems_of_problems first found some
      (askEvents_of_events second known (askTriggers_of_fault third failed))
  | answered first found some second known third owned =>
    exact askProblems_of_problems first found some
      (askEvents_of_events second known (askTriggers_of_triggers third owned))

/-- **A feed that takes a course ends as it says**, and remembers the id of the last request. -/
theorem Course.run_eq {feed : Feed ρ σ} {replies : List ρ} {id : Int}
    {result : Except Fault (List Row)} {sent : List σ} {rest : List ρ}
    (course : Course feed replies id result sent rest) :
    (feed.buildRows.run replies).result = .ok ({ feed with lastRequestId := id }, result) ∧
      (feed.buildRows.run replies).sent = sent ∧ (feed.buildRows.run replies).rest = rest := by
  obtain ⟨ended, rfl, rfl⟩ := course.endsAs
  refine ⟨?_, ?_, ?_⟩ <;> simp [buildRows, Exchange.run_bind, ended, Exchange.run_pure]

/-- **Every feed takes a course**, on all replies. -/
theorem exists_course (feed : Feed ρ σ) (replies : List ρ) :
    ∃ id result sent rest, Course feed replies id result sent rest := by
  cases found : (feed.askedProblems replies).result with
  | error fault => exact ⟨_, _, _, _, .problemsFailed rfl found⟩
  | ok problems =>
    by_cases some : problems = []
    · exact ⟨_, _, _, _, .noProblems rfl (some ▸ found)⟩
    · cases known : (feed.askedEvents problems (feed.askedProblems replies).rest).result with
      | error fault => exact ⟨_, _, _, _, .eventsFailed rfl found some rfl known⟩
      | ok events =>
        cases owned : (feed.askedTriggers problems
            (feed.askedEvents problems (feed.askedProblems replies).rest).rest).result with
        | error fault => exact ⟨_, _, _, _, .triggersFailed rfl found some rfl known rfl owned⟩
        | ok triggers => exact ⟨_, _, _, _, .answered rfl found some rfl known rfl owned⟩

/-! ### Tables -/

/-- The text of a fault in the error table: the monitor's own as it is, any other on one line. -/
def writtenMessage : Fault → Text
  | .monitor error => error.message
  | fault => fault.words.singleLine

/-- The code of a fault in the error table. -/
def writtenCode : Fault → Int
  | .monitor error => error.code
  | _ => Table.defaultErrorCode

/-- The request that a fault is reported under, given the last one: the monitor's names its own. -/
def blamedRequest (lastRequestId : Int) : Fault → Value
  | .monitor error => error.requestId
  | _ => .int lastRequestId

/-- The error table of a fault. -/
def errorTable (origin : Text) (lastRequestId : Int) (fault : Fault) : AlarmTable :=
  ⟨Table.writeError (writtenMessage fault) (blamedRequest lastRequestId fault) origin
    (writtenCode fault), false, 0⟩

/-! ### Faults that can be reported -/

/-- **A fault that can be reported**: it has words, and its code and the id of its request can be
printed. -/
structure Reportable (lastRequestId : Int) (depth : Nat) (fault : Fault) : Prop where
  message : fault.message = .ok fault.words
  code : Decimal.Short (writtenCode fault)
  id : (blamedRequest lastRequestId fault).Printable depth

/-- **What keeps a fault from being reported**, and the fault that the attempt ends in: one that is mute
raises another; of the monitor's own the code may be too long, and else the id may not be printed. -/
inductive Hindered (depth : Nat) : Fault → Fault → Prop
  | mute (name : Text) (raised : Fault) : Hindered depth (.mute name raised) raised
  | code {error : MonitorError} (long : ¬Decimal.Short error.code) :
      Hindered depth (.monitor error) (.ofObstacle .longInteger)
  | id {error : MonitorError} {obstacle : Value.Obstacle} (short : Decimal.Short error.code)
      (found : error.requestId.obstacle? depth = some obstacle) :
      Hindered depth (.monitor error) (.ofObstacle obstacle)

section Writing

variable {lastRequestId : Int} {depth : Nat} {fault raised : Fault}

theorem short_defaultErrorCode : Decimal.Short Table.defaultErrorCode :=
  Decimal.short_of_natAbs_lt_ten (by decide)

/-- A fault that is not the monitor's own can be reported if it has words. -/
theorem reportable_of_other (other : ∀ error, fault ≠ .monitor error)
    (spoken : fault.message = .ok fault.words) (short : Decimal.Short lastRequestId) :
    Reportable lastRequestId depth fault := by
  cases fault with
  | monitor error => exact absurd rfl (other error)
  | _ => exact ⟨spoken, short_defaultErrorCode, .int short⟩

theorem written_of_reportable (reportable : Reportable lastRequestId depth fault) (origin : Text) :
    written origin lastRequestId depth fault = .ok (errorTable origin lastRequestId fault) := by
  obtain ⟨spoken, short, printable⟩ := reportable
  cases fault with
  | mute name raised => cases spoken
  | _ =>
    simp only [written, printed, Fault.message, writtenCode, blamedRequest] at short printable ⊢
    rw [Table.printError_of_printable short printable]
    rfl

theorem written_of_hindered (hindered : Hindered depth fault raised) (origin : Text) :
    written origin lastRequestId depth fault = .error raised := by
  cases hindered with
  | mute name raised => rfl
  | code long => rw [written, printed, Table.printError_of_longCode long]
  | id short found => rw [written, printed, Table.printError_of_obstacle short found]

/-- **A fault can be reported, or something keeps it from that.** -/
theorem reportable_or_hindered (short : Decimal.Short lastRequestId) (fault : Fault) :
    Reportable lastRequestId depth fault ∨ ∃ raised, Hindered depth fault raised := by
  cases fault with
  | monitor error =>
    by_cases code : Decimal.Short error.code
    · cases found : error.requestId.obstacle? depth with
      | some obstacle => exact .inr ⟨_, .id code found⟩
      | none => exact .inl ⟨rfl, code, (Value.obstacle?_eq_none_iff _ _).mp found⟩
    · exact .inr ⟨_, .code code⟩
  | mute name raised => exact .inr ⟨_, .mute name raised⟩
  | _ => exact .inl (reportable_of_other nofun rfl short)

end Writing

/-- Writing a fault sends nothing and ends as it is written. -/
theorem run_failed (origin : Text) (lastRequestId : Int) (depth : Nat) (fault : Fault)
    (replies : List ρ) :
    ((failed origin lastRequestId depth fault : Exchange ρ σ AlarmTable).run replies).result =
        written origin lastRequestId depth fault ∧
      ((failed origin lastRequestId depth fault : Exchange ρ σ AlarmTable).run replies).sent = [] := by
  cases fault <;> exact ⟨rfl, rfl⟩

/-! ### Rendering -/

/-- The ids of the questions can be printed. -/
theorem Course.short_id {feed : Feed ρ σ} {replies : List ρ} {id : Int}
    {result : Except Fault (List Row)} {sent : List σ} {rest : List ρ}
    (course : Course feed replies id result sent rest) : Decimal.Short id := by
  have small : id.natAbs < 10 ^ 1 := by cases course <;> decide
  exact Decimal.short_of_natAbs_lt_ten small

section Rendering

variable {feed after : Feed ρ σ} {replies : List ρ} {fault : Fault}

/-- What is written of a fault comes with the feed that the questions left; nothing more is sent. -/
theorem run_render_of_written {made : Except Fault AlarmTable}
    (ended : (feed.buildRows.run replies).result = .ok (after, .error fault)) {origin : Text}
    (wrote : written origin after.lastRequestId after.depth fault = made) :
    ((feed.render origin).run replies).result = made.map (after, ·) ∧
      ((feed.render origin).run replies).sent = (feed.buildRows.run replies).sent := by
  obtain ⟨table, quiet⟩ := run_failed (σ := σ) origin after.lastRequestId after.depth fault
    (feed.buildRows.run replies).rest
  rw [wrote] at table
  cases made <;> constructor <;>
    simp [render, Exchange.run_bind, ended, table, quiet, Exchange.run_pure, Except.map]

/-- **A fault that can be reported becomes the error table.** -/
theorem run_render_of_fault
    (ended : (feed.buildRows.run replies).result = .ok (after, .error fault))
    (reportable : Reportable after.lastRequestId after.depth fault) (origin : Text) :
    ((feed.render origin).run replies).result =
        .ok (after, errorTable origin after.lastRequestId fault) ∧
      ((feed.render origin).run replies).sent = (feed.buildRows.run replies).sent :=
  run_render_of_written ended (written_of_reportable reportable origin)

/-- **A fault that cannot be reported leaves no table**, but what the attempt ends in. -/
theorem run_render_of_hindered {raised : Fault}
    (ended : (feed.buildRows.run replies).result = .ok (after, .error fault))
    (hindered : Hindered after.depth fault raised) (origin : Text) :
    ((feed.render origin).run replies).result = .error raised :=
  (run_render_of_written ended (written_of_hindered hindered origin)).1

/-- **Rows become the alarm table**; nothing more is sent. -/
theorem run_render_of_rows {rows : List Row}
    (ended : (feed.buildRows.run replies).result = .ok (after, .ok rows)) (origin : Text) :
    ((feed.render origin).run replies).result =
        .ok (after, ⟨Table.writeRows rows, true, rows.length⟩) ∧
      ((feed.render origin).run replies).sent = (feed.buildRows.run replies).sent := by
  constructor <;> simp [render, Exchange.run_bind, ended, Exchange.run_pure]

/-- A table is made of what the questions of the course sent, and nothing more is sent for it. -/
theorem Course.sent_render {id : Int} {result : Except Fault (List Row)} {sent : List σ} {rest : List ρ}
    (course : Course feed replies id result sent rest) (origin : Text) :
    ((feed.render origin).run replies).sent = sent := by
  obtain ⟨ended, asked, _⟩ := course.run_eq
  cases result with
  | error fault => exact (run_render_of_written ended rfl).2.trans asked
  | ok rows => exact (run_render_of_rows ended origin).2.trans asked

/-- What the questions leave of a feed: the same feed with the id of another request. -/
theorem exists_eq_of_buildRows {result : Except Fault (List Row)}
    (ended : (feed.buildRows.run replies).result = .ok (after, result)) :
    ∃ id, after = { feed with lastRequestId := id } := by
  obtain ⟨id, _, _, _, course⟩ := feed.exists_course replies
  exact ⟨id, (Prod.mk.inj (Except.ok.inj (ended.symm.trans course.run_eq.1))).1⟩

/-- Nor does a table leave anything else. -/
theorem exists_eq_of_render {table : AlarmTable} {origin : Text}
    (rendered : ((feed.render origin).run replies).result = .ok (after, table)) :
    ∃ id, after = { feed with lastRequestId := id } := by
  obtain ⟨id, result, _, _, course⟩ := feed.exists_course replies
  have ended := course.run_eq.1
  refine ⟨id, ?_⟩
  cases result with
  | error fault =>
    cases wrote : written origin id feed.depth fault with
    | error raised =>
      rw [(run_render_of_written ended wrote).1] at rendered
      cases rendered
    | ok made =>
      rw [(run_render_of_written ended wrote).1] at rendered
      exact (Prod.mk.inj (Except.ok.inj rendered)).1.symm
  | ok rows =>
    rw [(run_render_of_rows ended origin).1] at rendered
    exact (Prod.mk.inj (Except.ok.inj rendered)).1.symm

end Rendering

end Feed

end AlarmFeed
