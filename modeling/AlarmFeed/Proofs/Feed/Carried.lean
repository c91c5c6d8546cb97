/-
**Which tables can be carried.**

UTF-8 carries a table unless it holds surrogates. The alarm table is made of numbers and the names of its
columns, so it never does (`Course.scalar_writeRows`). The error table holds what the fault says and the
caller's address, and the monitor's own words are written as they are: it is carried exactly if those two
are (`scalar_errorTable_iff`). The id in it is a number whatever the fault, since every fault blames the
last question (`Course.attributed`). `exists_table` puts the two together.
-/

import AlarmFeed.Proofs.Feed.Protocol
import AlarmFeed.Proofs.Feed.Rows

namespace AlarmFeed

/-! ### Lines -/

namespace Table

theorem scalar_line {values : List Text} (each : ∀ value ∈ values, value.Scalar) :
    (line values).Scalar := by
  have between : Text.Scalar [separator] := by decide
  have lineEnd : Text.Scalar [lineEnd] := by decide
  exact Text.scalar_append.mpr ⟨Text.scalar_joinWith between each, lineEnd⟩

/-- Rows whose two names are scalar make a scalar table. -/
theorem scalar_writeRows {rows : List Row} (named : ∀ row ∈ rows, row.host.Scalar ∧ row.name.Scalar) :
    (writeRows rows).Scalar := by
  cases rows with
  | nil => exact Text.scalar_nil
  | cons row rows =>
    refine Text.scalar_append.mpr ⟨scalar_line (by decide), Text.scalar_flatMap.mpr ?_⟩
    intro other among
    obtain ⟨host, name⟩ := named other among
    refine scalar_line fun value member => ?_
    simp only [Row.values, List.mem_cons, List.not_mem_nil, or_false] at member
    rcases member with rfl | rfl | rfl | rfl | rfl | rfl
    · exact Text.scalar_ofInt _
    · exact Text.scalar_ofInt _
    · exact Text.scalar_ofInt _
    · exact Text.scalar_ofInt _
    · exact host
    · exact name

/-- **An error table is scalar** exactly if its message and the caller's address are. -/
theorem scalar_writeError_iff {message origin : Text} {id : Value} {code : Int}
    (plainId : (writeId id).Scalar) :
    (writeError message id origin code).Scalar ↔ message.Scalar ∧ origin.Scalar := by
  constructor
  · intro all
    have inside : ∀ t : Text, (∀ c ∈ t, c ∈ writeError message id origin code) → t.Scalar :=
      fun t part c member => all c (part c member)
    constructor
    · refine inside message fun c member => ?_
      simp only [writeError, line, Text.joinWith, List.mem_append, member, true_or, or_true]
    · refine inside origin fun c member => ?_
      simp only [writeError, line, Text.joinWith, List.mem_append, member, true_or, or_true]
  · rintro ⟨plain, plainOrigin⟩
    have mark : Text.Scalar ("@" : Text) := by decide
    refine Text.scalar_append.mpr ⟨scalar_line (by decide), scalar_line fun value member => ?_⟩
    simp only [List.mem_cons, List.not_mem_nil, or_false] at member
    rcases member with rfl | rfl | rfl | rfl | rfl
    · decide
    · exact Text.scalar_ofInt code
    · exact plain
    · exact Text.scalar_nil
    · exact Text.scalar_append.mpr ⟨Text.scalar_append.mpr ⟨plainId, mark⟩, plainOrigin⟩

end Table

namespace Feed

/-! ### The alarm table -/

section Courses

variable {ρ σ : Type} {feed : Feed ρ σ} {replies : List ρ} {id : Int} {sent : List σ} {rest : List ρ}

/-- **No course ends with names** of hosts or problems. -/
theorem Course.blank {rows : List Row} (course : Course feed replies id (.ok rows) sent rest) :
    ∀ row ∈ rows, row.host = [] ∧ row.name = [] := by
  cases course with
  | noProblems first none => exact fun row member => nomatch member
  | answered first found some second known third owned =>
    intro row member
    rw [Answers.rowsOfAnswers_eq] at member
    exact blank_of_mem_nestedRows ((List.mergeSort_perm _ _).subset member)

theorem Course.scalar_writeRows {rows : List Row}
    (course : Course feed replies id (.ok rows) sent rest) : (Table.writeRows rows).Scalar := by
  refine Table.scalar_writeRows fun row member => ?_
  obtain ⟨host, name⟩ := course.blank row member
  rw [host, name]
  exact ⟨Text.scalar_nil, Text.scalar_nil⟩

end Courses

/-! ### The error table -/

/-- **The questions end in what cannot be written**: in a fault whose message, or the caller's address,
holds a surrogate. -/
def Unwritable {ρ σ : Type} (feed : Feed ρ σ) (origin : Text) (replies : List ρ) : Prop :=
  ∃ after fault, (feed.buildRows.run replies).result = .ok (after, .error fault) ∧
    ¬((writtenMessage fault).Scalar ∧ origin.Scalar)

section Monitored

variable {client : Client} {feed : Feed Reply Request} {replies : List Reply} {id : Int}
  {fault : Fault} {sent : List Request} {rest : List Reply}

/-- The error table of a fault that blames the last question. -/
theorem errorTable_eq (attributed : fault.Attributed (.int id)) (origin : Text) :
    errorTable origin id fault =
      ⟨Table.writeError (writtenMessage fault) (.int id) origin 1, false, 0⟩ := by
  cases fault with
  | monitor error =>
    obtain ⟨named, code⟩ := attributed
    rw [errorTable, blamedRequest, writtenCode, named, code]
  | _ => rfl

theorem scalar_errorTable_iff (attributed : fault.Attributed (.int id)) (origin : Text) :
    (errorTable origin id fault).body.Scalar ↔ (writtenMessage fault).Scalar ∧ origin.Scalar := by
  rw [errorTable_eq attributed]
  exact Table.scalar_writeError_iff (Text.scalar_ofInt id)

/-- **A table that is made of what can be written can be carried**, and no other; it is the alarm table,
empty, or an error table with a number for the id. -/
theorem exists_table (feed : Feed Reply Request) (monitored : feed.source = client.source)
    (origin : Text) (replies : List Reply) :
    ∃ after table, ((feed.render origin).run replies).result = .ok (after, table) ∧
      (table.body.Scalar ↔ ¬feed.Unwritable origin replies) ∧
      (table.body = [] ∨ (∃ row rows, table.body = Table.writeRows (row :: rows)) ∨
        ∃ message id, table.body = Table.writeError message (.int id) origin 1) := by
  obtain ⟨id, result, sent, rest, course⟩ := feed.exists_course replies
  have ended := course.run_eq.1
  cases result with
  | ok rows =>
    refine ⟨_, _, (run_render_of_rows ended origin).1, iff_of_true course.scalar_writeRows ?_, ?_⟩
    · rintro ⟨after, fault, failed, _⟩
      exact nomatch (Prod.mk.inj (Except.ok.inj (ended.symm.trans failed))).2
    · cases rows with
      | nil => exact Or.inl rfl
      | cons row rows => exact Or.inr (Or.inl ⟨row, rows, rfl⟩)
  | error fault =>
    have attributed := course.attributed monitored
    refine ⟨_, _, (run_render_of_fault ended (reportable_of_ended monitored ended) origin).1, ?_, ?_⟩
    · rw [scalar_errorTable_iff attributed]
      constructor
      · rintro plain ⟨after, other, failed, refused⟩
        obtain rfl := Except.error.inj (Prod.mk.inj (Except.ok.inj (ended.symm.trans failed))).2
        exact refused plain
      · intro writable
        by_contra refused
        exact writable ⟨_, fault, ended, refused⟩
    · exact Or.inr (Or.inr ⟨writtenMessage fault, id,
        congrArg AlarmTable.body (errorTable_eq attributed origin)⟩)

end Monitored

end Feed

end AlarmFeed
