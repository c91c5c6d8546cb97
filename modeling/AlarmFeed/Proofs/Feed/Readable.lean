/-
**Faults and readable tables.**

Every fault that ends the three questions, and that can be reported, becomes an error table with the
fault's code and, in the column `id`, the request that is blamed and the caller's address. The message is
written as it is: the monitor's own words are kept to the letter, those of any other fault are put on one
line.

* `render_readable_iff` — the table is laid out so, and reads back as that one error exactly if the
  written message holds neither the separator nor the end of a line; only the monitor can make it hold
  the latter.
* `not_every_fault_readable` — so a monitor that refuses a question can make the table unreadable.
-/

import AlarmFeed.Proofs.Feed.Course
import AlarmFeed.Proofs.Table.Error
import AlarmFeed.Proofs.Text.Words

namespace AlarmFeed.Feed

variable {ρ σ : Type}

/-- The request and the caller, as the error table names them. -/
def blamedId (origin : Text) (lastRequestId : Int) (fault : Fault) : Text :=
  Table.writeId (blamedRequest lastRequestId fault) ++ ("@" : Text) ++ origin

/-- What is not the monitor's own is written on one line. -/
theorem lineEnd_not_mem_writtenMessage {fault : Fault} (own : ∀ error, fault ≠ .monitor error) :
    Table.lineEnd ∉ writtenMessage fault := by
  cases fault with
  | monitor error => exact absurd rfl (own error)
  | _ => exact Text.lineFeed_not_mem_singleLine _

/-- The words of a fault that is not the monitor's own, one space apart. -/
theorem writtenMessage_of_other {fault : Fault} (other : ∀ error, fault ≠ .monitor error) :
    writtenMessage fault = Text.joinWith [' '] fault.words.words := by
  cases fault with
  | monitor error => exact absurd rfl (other error)
  | _ => rfl

/-- **How a fault is reported, and when that is readable.** Whatever fault ends the questions, at
whichever of them, if it can be reported: there is an error table, laid out with the written message, the
blamed request and the code. The written message is the monitor's to the letter, and of any other fault
the words one space apart, so that it holds no end of a line. The table has two lines of five fields and
reads back as one record with the fault's code and the id exactly if the written message is a field. -/
theorem render_readable_iff (feed after : Feed ρ σ) (replies : List ρ) (fault : Fault)
    (origin : Text) (ended : (feed.buildRows.run replies).result = .ok (after, .error fault))
    (reportable : Reportable after.lastRequestId after.depth fault)
    (plainOrigin : Table.IsField origin)
    (plainId : Table.IsField (Table.writeId (blamedRequest after.lastRequestId fault))) :
    ∃ table, ((feed.render origin).run replies).result = .ok (after, table) ∧
      table.ok = false ∧ table.rowCount = 0 ∧
      table.body = Table.writeError (writtenMessage fault) (blamedRequest after.lastRequestId fault)
        origin (writtenCode fault) ∧
      (∀ error, fault = .monitor error → writtenMessage fault = error.message) ∧
      ((∀ error, fault ≠ .monitor error) →
        writtenMessage fault = Text.joinWith [' '] fault.words.words ∧
          Table.lineEnd ∉ writtenMessage fault) ∧
      (Table.Readable table.body (Decimal.ofInt (writtenCode fault))
          (blamedId origin after.lastRequestId fault) ↔ Table.IsField (writtenMessage fault)) := by
  refine ⟨_, (run_render_of_fault ended reportable origin).1, rfl, rfl, rfl, ?_, ?_,
    Table.readable_writeError_iff plainId plainOrigin⟩
  · rintro error rfl
    rfl
  · exact fun other => ⟨writtenMessage_of_other other, lineEnd_not_mem_writtenMessage other⟩

/-! ### A monitor that refuses -/

/-- The refusal of the first question in the monitor's own words. -/
def refusal (message : Text) : Fault :=
  .monitor { flaw := .refusal, message := message, requestId := .int problemsId }

/-- A feed whose first question is refused. -/
def refused (message : Text) : Feed Unit Unit where
  source :=
    { problems := fun _ _ => Exchange.fail (refusal message)
      events := fun _ _ _ => pure []
      triggers := fun _ _ _ => pure [] }
  token := none

theorem refused_ended (message : Text) : ((refused message).buildRows.run []).result =
    .ok ({ refused message with lastRequestId := problemsId }, .error (refusal message)) :=
  (Course.problemsFailed rfl rfl).run_eq.1

theorem isField_problemsId : Table.IsField (Table.writeId (.int problemsId)) :=
  Table.isField_ofInt problemsId

theorem reportable_refusal (message : Text) (depth : Nat) :
    Reportable problemsId depth (refusal message) :=
  ⟨rfl, short_defaultErrorCode,
    .int (Decimal.short_of_natAbs_lt_ten (by decide))⟩

/-- The refusal "Not authorized." is readable. -/
theorem refused_readable : ∃ table,
    (((refused "Not authorized.").render "192.0.2.10").run []).result =
      .ok ({ refused "Not authorized." with lastRequestId := problemsId }, table) ∧
    table.body =
      ("jsonrpc;error.code;error.message;error.data;id\n2.0;1;Not authorized.;;1@192.0.2.10\n" : Text) ∧
    Table.Readable table.body "1" "1@192.0.2.10" := by
  obtain ⟨table, rendered, _, _, body, _, _, readable⟩ := render_readable_iff _ _ [] _ "192.0.2.10"
    (refused_ended "Not authorized.") (reportable_refusal _ _) (by decide) isField_problemsId
  have plain : Table.IsField (writtenMessage (refusal "Not authorized.")) := by decide
  have digits : Decimal.digits 1 = ("1" : Text) := Decimal.digits_of_lt_ten (by decide)
  have code : Decimal.ofInt (writtenCode (refusal "Not authorized.")) = ("1" : Text) := digits
  have id : blamedId "192.0.2.10" problemsId (refusal "Not authorized.") = ("1@192.0.2.10" : Text) := by
    show Decimal.digits 1 ++ ("@" : Text) ++ ("192.0.2.10" : Text) = _
    rw [digits]
    decide
  refine ⟨table, rendered, ?_, id ▸ code ▸ readable.mpr plain⟩
  rw [body]
  show Table.line Table.errorColumns ++ Table.line [Table.protocolVersion, Decimal.digits 1,
    writtenMessage (refusal "Not authorized."), [],
    Decimal.digits 1 ++ ("@" : Text) ++ ("192.0.2.10" : Text)] = _
  rw [digits]
  decide

/-- **Not every fault is readable**: the monitor's words may hold a separator and an end of a line. -/
theorem not_every_fault_readable :
    ¬ ∀ (feed after : Feed Unit Unit) (replies : List Unit) (fault : Fault) (origin : Text),
      (feed.buildRows.run replies).result = .ok (after, .error fault) →
      Reportable after.lastRequestId after.depth fault → Table.IsField origin →
      Table.IsField (Table.writeId (blamedRequest after.lastRequestId fault)) →
      ∃ table, ((feed.render origin).run replies).result = .ok (after, table) ∧
        Table.Readable table.body (Decimal.ofInt (writtenCode fault))
          (blamedId origin after.lastRequestId fault) := by
  intro claim
  have reportable := reportable_refusal "two\nlines;x" Value.depthLimit
  obtain ⟨table, rendered, readable⟩ := claim _ _ [] _ "192.0.2.10"
    (refused_ended "two\nlines;x") reportable (by decide) isField_problemsId
  rw [(run_render_of_fault (refused_ended "two\nlines;x") reportable "192.0.2.10").1] at rendered
  obtain rfl := (Prod.mk.inj (Except.ok.inj rendered)).2
  have plain := (Table.readable_writeError_iff isField_problemsId (by decide)).mp readable
  revert plain
  decide

end AlarmFeed.Feed
