/-
**The outcome is never ambiguous.**

Whatever the source does, a feed gives a table, unless something keeps the fault that ended the questions
from being reported; and the table shows whether the questions were answered: its first line tells the
error table from the alarm table, whatever text the fault brings in (`tells_errorTable`, `tells_rows`). A
feed remembers the id of its last request alone, and asks anew for each table, so one that has been asked
for tables before (`Used`), whether it gave them or not, fares as a fresh one (`Used.render_eq`).

* `render_unambiguous` — all of this for every source, every caller and every history.
* `not_every_fault_reported` — there are faults that leave no table: the id of a request can be too long.
-/

import AlarmFeed.Proofs.Feed.Carried
import AlarmFeed.Proofs.Feed.Readable
import AlarmFeed.Proofs.Table.Alarm

namespace AlarmFeed.Feed

variable {ρ σ : Type}

/-! ### Feeds that have been used -/

/-- **A feed that has been used**: it has been asked for any number of tables, by any callers and on any
replies; it gave good ones or bad ones, or the attempt to report a fault raised another. -/
inductive Used (fresh : Feed ρ σ) : Feed ρ σ → Prop
  | new : Used fresh fresh
  | rendered {feed after : Feed ρ σ} {table : AlarmTable} {origin : Text} {replies : List ρ}
      (used : Used fresh feed)
      (rendered : ((feed.render origin).run replies).result = .ok (after, table)) :
      Used fresh after
  | raised {feed after : Feed ρ σ} {result : Except Fault (List Row)} {origin : Text}
      {replies : List ρ} {raised : Fault} (used : Used fresh feed)
      (asked : (feed.buildRows.run replies).result = .ok (after, result))
      (raises : ((feed.render origin).run replies).result = .error raised) : Used fresh after

/-- The id of the last request has no part in a table. -/
theorem render_forget (feed : Feed ρ σ) (id : Int) (origin : Text) :
    { feed with lastRequestId := id }.render origin = feed.render origin := rfl

/-- A used feed is the fresh one, but for the id of its last request. -/
theorem Used.exists_eq {fresh feed : Feed ρ σ} (used : Used fresh feed) :
    ∃ id, feed = { fresh with lastRequestId := id } := by
  induction used with
  | new => exact ⟨fresh.lastRequestId, rfl⟩
  | rendered _ rendered ih =>
    obtain ⟨before, rfl⟩ := ih
    exact exists_eq_of_render rendered
  | raised _ asked _ ih =>
    obtain ⟨before, rfl⟩ := ih
    exact exists_eq_of_buildRows asked

/-- **A used feed gives what a fresh one gives**, whatever became of the tables before. -/
theorem Used.render_eq {fresh feed : Feed ρ σ} (used : Used fresh feed) (origin : Text) :
    feed.render origin = fresh.render origin := by
  obtain ⟨id, rfl⟩ := used.exists_eq
  exact render_forget fresh id origin

/-! ### What a table tells -/

/-- **A table tells how the questions ended**: it counts as good if they were answered, its first line
says the same, and then it is an alarm table of as many rows as it counts. -/
structure Tells (feed : Feed ρ σ) (replies : List ρ) (table : AlarmTable) : Prop where
  ok : table.ok = true ↔ ∃ after rows, (feed.buildRows.run replies).result = .ok (after, .ok rows)
  isError : Table.isError table.body = true ↔ table.ok = false
  isAlarm : table.ok = true → Table.IsAlarm table.body table.rowCount

/-- Whether a table counts as good can be seen from its first line. -/
theorem Tells.ok_eq {feed : Feed ρ σ} {replies : List ρ} {table : AlarmTable}
    (tells : feed.Tells replies table) : table.ok = !Table.isError table.body := by
  cases bad : Table.isError table.body with
  | true => exact tells.isError.mp bad
  | false =>
    cases good : table.ok with
    | true => rfl
    | false =>
      rw [tells.isError.mpr good] at bad
      cases bad

section Ended

variable {feed after : Feed ρ σ} {replies : List ρ}

theorem tells_errorTable {fault : Fault}
    (ended : (feed.buildRows.run replies).result = .ok (after, .error fault)) (origin : Text)
    (id : Int) : feed.Tells replies (errorTable origin id fault) where
  ok := by
    refine iff_of_false Bool.false_ne_true ?_
    rintro ⟨_, _, answered⟩
    exact nomatch (Prod.mk.inj (Except.ok.inj (ended.symm.trans answered))).2
  isError := iff_of_true (Table.isError_writeError _ _ _ _) rfl
  isAlarm good := nomatch good

theorem tells_rows {rows : List Row} {id : Int} {sent : List σ} {rest : List ρ}
    (course : Course feed replies id (.ok rows) sent rest) :
    feed.Tells replies ⟨Table.writeRows rows, true, rows.length⟩ where
  ok := iff_of_true rfl ⟨_, _, course.run_eq.1⟩
  isError := by
    show Table.isError (Table.writeRows rows) = true ↔ true = false
    rw [Table.isError_writeRows]
    exact iff_of_false Bool.false_ne_true (by decide)
  isAlarm _ := Table.isAlarm_writeRows fun row member => by
    obtain ⟨host, name⟩ := course.blank row member
    rw [host, name]
    decide

end Ended

/-- **The outcome is never ambiguous.** A feed that has been asked for any tables before fares as a fresh
one. Unless a fault ended the questions that something keeps from being reported, it gives a table, and
the table tells how the questions ended; if there was such a fault, it raises what the attempt ended in. -/
theorem render_unambiguous (fresh feed : Feed ρ σ) (used : Used fresh feed) (origin : Text)
    (replies : List ρ) :
    (feed.render origin).run replies = (fresh.render origin).run replies ∧
      ((∀ after fault raised, (feed.buildRows.run replies).result = .ok (after, .error fault) →
          ¬Hindered feed.depth fault raised) →
        ∃ after table, ((feed.render origin).run replies).result = .ok (after, table) ∧
          feed.Tells replies table) ∧
      ∀ after fault raised, (feed.buildRows.run replies).result = .ok (after, .error fault) →
        Hindered feed.depth fault raised →
        ((feed.render origin).run replies).result = .error raised := by
  refine ⟨by rw [used.render_eq], ?_, ?_⟩
  · intro free
    obtain ⟨id, result, _, _, course⟩ := feed.exists_course replies
    have ended := course.run_eq.1
    cases result with
    | error fault =>
      rcases reportable_or_hindered course.short_id fault with reportable | ⟨raised, hindered⟩
      · exact ⟨_, _, (run_render_of_fault ended reportable origin).1,
          tells_errorTable ended origin id⟩
      · exact absurd hindered (free _ fault raised ended)
    | ok rows => exact ⟨_, _, (run_render_of_rows ended origin).1, tells_rows course⟩
  · intro after fault raised ended hindered
    obtain ⟨id, rfl⟩ := exists_eq_of_buildRows ended
    exact run_render_of_hindered ended hindered origin

/-! ### A source with moods -/

/-- A feed whose replies say what becomes of the question about problems. -/
def moody : Feed (Except Fault (List Problem)) Unit where
  source :=
    { problems := fun _ _ => do
        let reply ← Exchange.send ()
        Exchange.ofExcept (reply.getD (.ok []))
      events := fun _ _ _ => pure []
      triggers := fun _ _ _ => pure [] }
  token := none

/-- What a reply that is a fault comes to. -/
theorem moody_ended (feed : Feed (Except Fault (List Problem)) Unit)
    (moods : feed.source = moody.source) (fault : Fault) :
    (feed.buildRows.run [.error fault]).result =
      .ok ({ feed with lastRequestId := problemsId }, .error fault) := by
  have first : feed.askedProblems [.error fault] = ⟨.error fault, [()], [], []⟩ := by
    rw [askedProblems, moods]
    rfl
  exact (Course.problemsFailed first rfl).run_eq.1

/-- A fault whose text is an alarm table. -/
def disguise : Fault :=
  .general .value (Table.writeRows [{ clock := 1, severity := 5, suppressed := 0, hostId := 1 }])

/-- A fault of the monitor under an id that is a digit too long to be printed. -/
def overlong : Fault :=
  .monitor
    { flaw := .general, message := "x", requestId := .int (10 ^ Decimal.digitLimit : Nat) }

theorem hindered_overlong (depth : Nat) :
    Hindered depth overlong (.ofObstacle .longInteger) :=
  .id short_defaultErrorCode (if_neg Decimal.not_short_pow)

/-- Neither a fault that looks like an alarm table misleads, nor an earlier refusal, nor one before it
that left no table; and that one raises what is in its way each time. -/
theorem moody_unambiguous :
    ∃ feed, Used moody feed ∧
      (∃ after table, ((feed.render "192.0.2.10").run [.error disguise]).result =
          .ok (after, table) ∧
        ((moody.render "192.0.2.10").run [.error disguise]).result = .ok (after, table) ∧
        table.ok = false ∧ Table.isError table.body = true) ∧
      ((feed.render "192.0.2.10").run [.error overlong]).result =
        .error (.ofObstacle .longInteger) := by
  have overlongEnded := moody_ended moody rfl overlong
  have raised := run_render_of_hindered overlongEnded (hindered_overlong _) "192.0.2.10"
  have once : Used moody { moody with lastRequestId := problemsId } := .raised .new overlongEnded raised
  have refused := moody_ended { moody with lastRequestId := problemsId } rfl (refusal "two\nlines;x")
  have twice : Used moody { moody with lastRequestId := problemsId } :=
    .rendered once (run_render_of_fault refused (reportable_refusal _ _) "192.0.2.10").1
  obtain ⟨same, tables, _⟩ := render_unambiguous moody _ twice "192.0.2.10" [.error disguise]
  obtain ⟨_, _, raises⟩ := render_unambiguous moody _ twice "192.0.2.10" [.error overlong]
  have ended := moody_ended { moody with lastRequestId := problemsId } rfl disguise
  obtain ⟨after, table, rendered, tells⟩ := tables fun after fault raised found hindered => by
    obtain rfl := Except.error.inj (Prod.mk.inj (Except.ok.inj (found.symm.trans ended))).2
    cases hindered
  have failed : table.ok = false := by
    cases good : table.ok with
    | false => rfl
    | true =>
      obtain ⟨_, _, answered⟩ := tells.ok.mp good
      exact nomatch (Prod.mk.inj (Except.ok.inj (ended.symm.trans answered))).2
  exact ⟨_, twice,
    ⟨after, table, rendered, same ▸ rendered, failed, tells.isError.mpr failed⟩,
    raises _ _ _ (moody_ended { moody with lastRequestId := problemsId } rfl overlong)
      (hindered_overlong _)⟩

/-- **Not every fault is reported**: the id that an error of the monitor names can be too long to be
printed, and then there is no table. -/
theorem not_every_fault_reported :
    ¬ ∀ (fresh feed : Feed (Except Fault (List Problem)) Unit), Used fresh feed →
      ∀ origin replies, ∃ after table,
        ((feed.render origin).run replies).result = .ok (after, table) ∧ feed.Tells replies table := by
  intro claim
  obtain ⟨after, table, rendered, _⟩ := claim moody moody .new "192.0.2.10" [.error overlong]
  have raised := run_render_of_hindered (moody_ended moody rfl overlong) (hindered_overlong _)
    "192.0.2.10"
  exact nomatch rendered.symm.trans raised

end AlarmFeed.Feed
