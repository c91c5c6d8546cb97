/-
**Which error tables are read back.**

An error table should be read as one record, `errorRecord`. It is if its message, its id and its origin
are fields. If one of them is not, the written record is lost, since no value that is read holds a
separator or the end of a line (`fields_of_sameFields`); and what is read instead is in the hands of
whoever chooses the message: `forging` makes any five fields a record (`forged_mem_read`).

* `read_printError_exact` — all of this for every message, origin, code and id that can be printed; for
  any other there is no error table to be read.
* `not_every_error_printed` — such an id is one digit too long.
-/

import AlarmFeed.Proofs.Table.Reading

namespace AlarmFeed.Table

/-- The record that an error table is written for. -/
def errorRecord (message : Text) (id : Value) (origin : Text) (code : Int) : Fields Text :=
  [("jsonrpc", "2.0"), ("error.code", Decimal.ofInt code), ("error.message", message),
    ("error.data", []), ("id", writeId id ++ ("@" : Text) ++ origin)]

/-- Two records hold the same under each name, whatever the order of the names. -/
def SameFields (record other : Fields Text) : Prop :=
  ∀ name, Fields.get? name record = Fields.get? name other

section Error

variable {message origin : Text} {id : Value} {code : Int}

/-! ### The written record -/

/-- **A record that is read as written** was written with fields. -/
theorem fields_of_sameFields {t : Text} {record : Fields Text} (member : record ∈ read t)
    (same : SameFields record (errorRecord message id origin code)) :
    IsField message ∧ IsField (writeId id) ∧ IsField origin := by
  have atMessage : Fields.get? "error.message" record = some message := same "error.message"
  have atId : Fields.get? "id" record = some (writeId id ++ ("@" : Text) ++ origin) := same "id"
  have plain : IsField message := isField_of_mem_read member (Fields.mem_of_get? atMessage)
  have joined : IsField (writeId id ++ ("@" : Text) ++ origin) :=
    isField_of_mem_read member (Fields.mem_of_get? atId)
  obtain ⟨marked, plainOrigin⟩ := isField_append_iff.mp joined
  exact ⟨plain, (isField_append_iff.mp marked).1, plainOrigin⟩

theorem read_writeError_eq_iff :
    read (writeError message id origin code) = [errorRecord message id origin code] ↔
      IsField message ∧ IsField (writeId id) ∧ IsField origin := by
  constructor
  · intro whole
    have member : errorRecord message id origin code ∈ read (writeError message id origin code) :=
      whole ▸ List.mem_cons_self
    exact fields_of_sameFields member fun _ => rfl
  · rintro ⟨plain, plainId, plainOrigin⟩
    exact read_writeError plain plainId plainOrigin

/-! ### Forged records -/

/-- A message that brings in a line of its own. -/
def forging (values : List Text) : Text :=
  lineEnd :: line values

/-- The line of the error ends where the message starts, and the message brings in the next. -/
theorem line_forging (values : List Text) :
    line (errorValues (forging values) id origin code) =
      line [protocolVersion, Decimal.ofInt code, []] ++
        (line values ++ line [[], [], writeId id ++ ("@" : Text) ++ origin]) := by
  simp only [line, errorValues, forging, Text.joinWith, List.append_assoc, List.nil_append,
    List.cons_append, List.append_nil]

/-- The line that the message brings in is the second behind the columns. -/
theorem exists_lines_forging (id : Value) (origin : Text) (code : Int) {values : List Text}
    (wide : 2 ≤ values.length) (free : ∀ value ∈ values, lineEnd ∉ value) :
    ∃ rest, lines (writeError (forging values) id origin code) =
      Text.joinWith [separator] errorColumns ::
        Text.joinWith [separator] [protocolVersion, Decimal.ofInt code, []] ::
          Text.joinWith [separator] values :: rest := by
  have stubFree : ∀ value ∈ [protocolVersion, Decimal.ofInt code, []], lineEnd ∉ value := by
    intro value member
    simp only [List.mem_cons, List.not_mem_nil, or_false] at member
    rcases member with rfl | rfl | rfl
    · decide
    · exact (isField_ofInt code).2
    · decide
  have stubWide : 2 ≤ [protocolVersion, Decimal.ofInt code, []].length := Nat.le_succ 2
  refine ⟨lines (line [[], [], writeId id ++ ("@" : Text) ++ origin]), ?_⟩
  rw [writeError_eq, line_forging, lines_line_append (by decide)
    (fun column member => (errorColumns_fields column member).2),
    lines_line_append stubWide stubFree, lines_line_append wide free]

/-- **Any five fields** are a record of some error table, whatever its id, its origin and its code. -/
theorem forged_mem_read {values : List Text} (five : values.length = 5)
    (fields : ∀ value ∈ values, IsField value) :
    errorColumns.zip values ∈ read (writeError (forging values) id origin code) := by
  have nonempty : values ≠ [] := List.ne_nil_of_length_pos (by omega)
  have fits := count_joinWith_eq errorColumns_fields nonempty five fields
  have record : recordOf errorColumns (Text.joinWith [separator] values) = errorColumns.zip values :=
    recordOf_joinWith (by decide) nonempty five fields
  obtain ⟨rest, found⟩ := exists_lines_forging id origin code (by omega)
    fun value member => (fields value member).2
  rw [read_eq found, fields_errorColumns, ← record]
  refine List.mem_map_of_mem (List.mem_filter.mpr ⟨?_, decide_eq_true fits⟩)
  exact List.mem_cons_of_mem _ List.mem_cons_self

end Error

/-! ### All error tables -/

/-- **Exactly the error tables of fields are read back.** For every message and origin, and every code and
id that can be printed, there is a table: it is read as its one record if and only if message, id and
origin are fields. If one of them is not, no record that is read is the written one; yet whatever id,
origin and code are, any five fields are read as a record for some message. An id that is null is written
as the empty text. If the code or the id cannot be printed, there is no table. -/
theorem read_printError_exact (message : Text) (id : Value) (origin : Text) (code : Int)
    (depth : Nat) :
    (Decimal.Short code → id.Printable depth →
      ∃ body, printError message id origin code depth = .ok body ∧
        (read body = [errorRecord message id origin code] ↔
          IsField message ∧ IsField (writeId id) ∧ IsField origin) ∧
        (¬(IsField message ∧ IsField (writeId id) ∧ IsField origin) →
          ∀ record ∈ read body, ¬SameFields record (errorRecord message id origin code)) ∧
        ∀ values : List Text, values.length = 5 → (∀ value ∈ values, IsField value) →
          ∃ forged lying, printError forged id origin code depth = .ok lying ∧
            errorColumns.zip values ∈ read lying) ∧
      (¬(Decimal.Short code ∧ id.Printable depth) →
        ∃ obstacle, printError message id origin code depth = .error obstacle) ∧
      writeId .null = [] := by
  refine ⟨fun short printable => ?_, exists_printError_eq_error, rfl⟩
  refine ⟨_, printError_of_printable short printable, read_writeError_eq_iff, ?_, ?_⟩
  · intro lost record member same
    exact lost (fields_of_sameFields member same)
  · intro values five fields
    exact ⟨forging values, _, printError_of_printable short printable, forged_mem_read five fields⟩

/-- A refused connection is read back, one whose message has a separator is not, and neither is a code
that is a digit too long. -/
theorem refusedConnection_read :
    (∃ body, printError "connection refused" (.int 7) "192.0.2.10" 1 Value.depthLimit = .ok body ∧
      read body = [errorRecord "connection refused" (.int 7) "192.0.2.10" 1]) ∧
    (∃ body, printError "connection;refused" .null "192.0.2.10" 1 Value.depthLimit = .ok body ∧
      ∀ record ∈ read body,
        ¬SameFields record (errorRecord "connection;refused" .null "192.0.2.10" 1)) ∧
    ∃ obstacle, printError "connection refused" (.int 7) "192.0.2.10"
      (10 ^ Decimal.digitLimit : Nat) Value.depthLimit = .error obstacle := by
  have one : Decimal.Short 1 := Decimal.short_of_natAbs_lt_ten (by decide)
  have seven : Decimal.Short 7 := Decimal.short_of_natAbs_lt_ten (by decide)
  obtain ⟨body, printed, exact, _, _⟩ :=
    (read_printError_exact "connection refused" (.int 7) "192.0.2.10" 1 Value.depthLimit).1 one
      (.int seven)
  obtain ⟨cut, printedCut, _, lost, _⟩ :=
    (read_printError_exact "connection;refused" .null "192.0.2.10" 1 Value.depthLimit).1 one .null
  refine ⟨⟨body, printed, exact.mpr ⟨by decide, isField_ofInt 7, by decide⟩⟩,
    ⟨cut, printedCut, lost (by decide)⟩, ?_⟩
  exact (read_printError_exact "connection refused" (.int 7) "192.0.2.10" _ Value.depthLimit).2.1
    fun both => Decimal.not_short_pow both.1

/-- **Not every id can be printed**, so not for every id there is a table that is read back. -/
theorem not_every_error_printed :
    ¬ ∀ (message : Text) (id : Value) (origin : Text) (code : Int),
      ∃ body, printError message id origin code Value.depthLimit = .ok body ∧
        (read body = [errorRecord message id origin code] ↔
          IsField message ∧ IsField (writeId id) ∧ IsField origin) := by
  intro claim
  obtain ⟨body, printed, _⟩ := claim "m" (.int (10 ^ Decimal.digitLimit : Nat)) "192.0.2.10" 1
  have one : Decimal.Short 1 := Decimal.short_of_natAbs_lt_ten (by decide)
  have long : (Value.int (10 ^ Decimal.digitLimit : Nat)).obstacle? Value.depthLimit = some .longInteger :=
    if_neg Decimal.not_short_pow
  rw [printError_of_obstacle one long] at printed
  cases printed

end AlarmFeed.Table
