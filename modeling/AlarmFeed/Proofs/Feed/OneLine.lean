/-
**Other faults on one line.**

A fault that is not the monitor's own may say anything, over any number of lines. Its words are put on one
line of the error table, one space apart, and only white space is lost.

* `render_oneLine` — what becomes of each message, and the two lines of the table.
-/

import AlarmFeed.Proofs.Feed.Unambiguous

namespace AlarmFeed.Feed

variable {ρ σ : Type}

/-- What is not the monitor's own is written on one line, under the last request. -/
theorem errorTable_of_other {fault : Fault} (other : ∀ error, fault ≠ .monitor error) (origin : Text)
    (id : Int) : errorTable origin id fault =
      ⟨Table.writeError fault.words.singleLine (.int id) origin Table.defaultErrorCode, false, 0⟩ := by
  cases fault with
  | monitor error => exact absurd rfl (other error)
  | _ => rfl

/-- **White space is collapsed, and nothing else.** A message on one line is single-spaced, has the words
that it had (which are those that `Text.words` lists), stays as it is when it is put on one line again, and
is the message itself exactly if that is single-spaced. So whichever other fault ends the questions, and
whatever it says, the error table has two lines, each with its end, if the caller's address has no end of
a line. -/
theorem render_oneLine :
    (∀ message : Text, Text.SingleSpaced message.singleLine ∧
      (∀ found, Text.Worded message found ↔ message.words = found) ∧
      message.singleLine.words = message.words ∧
      message.singleLine.singleLine = message.singleLine ∧
      (message.singleLine = message ↔ Text.SingleSpaced message)) ∧
    ∀ (feed after : Feed ρ σ) (replies : List ρ) (fault : Fault) (message origin : Text),
      (feed.buildRows.run replies).result = .ok (after, .error fault) →
      (∀ error, fault ≠ .monitor error) → fault.message = .ok message → Table.lineEnd ∉ origin →
      ∃ table, ((feed.render origin).run replies).result = .ok (after, table) ∧ table.ok = false ∧
        Text.splitOn Table.lineEnd table.body =
          [Text.joinWith [Table.separator] Table.errorColumns,
            Text.joinWith [Table.separator] (Table.errorValues message.singleLine
              (.int after.lastRequestId) origin Table.defaultErrorCode), []] := by
  constructor
  · intro message
    have spaced := Text.singleSpaced_singleLine message
    exact ⟨spaced, fun _ => Text.worded_iff, Text.words_singleLine message,
      Text.singleLine_eq_self_iff.mpr spaced, Text.singleLine_eq_self_iff⟩
  · intro feed after replies fault message origin ended other spoken originLine
    obtain rfl := Fault.words_eq_of_message spoken
    have short : Decimal.Short after.lastRequestId := by
      obtain ⟨id, _, _, _, course⟩ := feed.exists_course replies
      obtain ⟨rfl, _⟩ := Prod.mk.inj (Except.ok.inj (course.run_eq.1.symm.trans ended))
      exact course.short_id
    have rendered :=
      (run_render_of_fault ended (reportable_of_other other spoken short) origin).1
    rw [errorTable_of_other other] at rendered
    exact ⟨_, rendered, rfl, Table.lines_writeError (Text.lineFeed_not_mem_singleLine _)
      (Table.isField_ofInt after.lastRequestId).2 originLine⟩

/-- White space of many kinds, at both ends and in runs. -/
def scattered : Text := " two\r\n lines\u2028\x1chere\t"

/-- What is scattered over lines of all kinds is put together on one. -/
theorem scattered_oneLine :
    ¬ Text.SingleSpaced scattered ∧
    ∃ table, ((moody.render "192.0.2.10").run [.error (.general .value scattered)]).result =
        .ok ({ moody with lastRequestId := problemsId }, table) ∧
      Text.splitOn Table.lineEnd table.body =
        [("jsonrpc;error.code;error.message;error.data;id" : Text),
          ("2.0;1;two lines here;;1@192.0.2.10" : Text), []] := by
  obtain ⟨collapsed, lines⟩ := @render_oneLine (Except Fault (List Problem)) Unit
  obtain ⟨_, _, _, _, same⟩ := collapsed scattered
  obtain ⟨table, rendered, _, two⟩ := lines moody _ _ (.general .value scattered) scattered
    "192.0.2.10" (moody_ended moody rfl _) nofun rfl (by decide)
  refine ⟨fun spaced => absurd (same.mpr spaced) (by decide), table, rendered, ?_⟩
  have one : Decimal.ofInt 1 = ("1" : Text) := Decimal.digits_of_lt_ten (by decide)
  have second : Text.joinWith [Table.separator] (Table.errorValues scattered.singleLine
      (.int problemsId) "192.0.2.10" Table.defaultErrorCode) =
        ("2.0;1;two lines here;;1@192.0.2.10" : Text) := by
    show Text.joinWith [Table.separator] [Table.protocolVersion, Decimal.ofInt 1,
      scattered.singleLine, [], Decimal.ofInt 1 ++ ("@" : Text) ++ ("192.0.2.10" : Text)] = _
    rw [one]
    decide
  rw [two, second]
  decide

end AlarmFeed.Feed
