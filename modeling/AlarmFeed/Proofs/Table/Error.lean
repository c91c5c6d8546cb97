/-
**Reading the error table back.**

Values stand in a table as they are, so a value can be told from its neighbours only if it is a
*field*: it holds neither the separator nor the end of a line (`IsField`).

* `lines_line`, `fields_line` — a line of fields is cut into those fields;
* `read_writeError` — an error table of fields is read as one record, which names each of them;
* `printError_of_printable`, `printError_of_longCode`, `printError_of_obstacle` — an error table is printed
  if its code and its id can be, and else what is in the way is found, the code first;
* `suffix_writeError` — an error table of whatever ends with the id of the request and the caller;
* `readable_writeError_iff` — an error table has two lines of five fields, and reads back as one
  record, exactly if its message is a field.
-/

import AlarmFeed.Proofs.Number.Decimal
import AlarmFeed.Proofs.Text.Fields
import AlarmFeed.Proofs.Text.Pieces
import AlarmFeed.Proofs.Value
import AlarmFeed.Table

namespace AlarmFeed

namespace Table

/-! ### Fields -/

/-- A text that a table can carry as one value. -/
def IsField (t : Text) : Prop :=
  separator ∉ t ∧ lineEnd ∉ t

instance (t : Text) : Decidable (IsField t) :=
  inferInstanceAs (Decidable (_ ∧ _))

theorem isField_append_iff {s t : Text} : IsField (s ++ t) ↔ IsField s ∧ IsField t := by
  simp only [IsField, List.mem_append, not_or]
  exact and_and_and_comm

theorem isField_append {s t : Text} (first : IsField s) (second : IsField t) : IsField (s ++ t) :=
  isField_append_iff.mpr ⟨first, second⟩

theorem isField_ofInt (n : Int) : IsField (Decimal.ofInt n) :=
  ⟨Decimal.not_mem_ofInt n (by decide) (by decide), Decimal.not_mem_ofInt n (by decide) (by decide)⟩

/-! ### Lines -/

/-- Values without line ends are joined without one. -/
theorem lineEnd_not_mem_joinWith {values : List Text} (free : ∀ value ∈ values, lineEnd ∉ value) :
    lineEnd ∉ Text.joinWith [separator] values := by
  intro member
  rcases Text.mem_joinWith member with between | ⟨value, among, inside⟩
  · revert between
    decide
  · exact free value among inside

/-- A line of values without line ends is the first line of a text. -/
theorem lines_line {values : List Text} (free : ∀ value ∈ values, lineEnd ∉ value) (rest : Text) :
    Text.splitOn lineEnd (line values ++ rest) =
      Text.joinWith [separator] values :: Text.splitOn lineEnd rest := by
  rw [line, List.append_assoc, List.singleton_append,
    Text.splitOn_append_cut (lineEnd_not_mem_joinWith free)]

/-- What a line joins it can be cut into. -/
theorem fields_line {values : List Text} (some : values ≠ [])
    (fields : ∀ value ∈ values, IsField value) :
    Text.splitOn separator (Text.joinWith [separator] values) = values :=
  Text.splitOn_joinWith some fun value member => (fields value member).1

/-! ### The error table -/

/-- The values under the columns of the error table. -/
def errorValues (message : Text) (id : Value) (origin : Text) (code : Int) : List Text :=
  [protocolVersion, Decimal.ofInt code, message, [], writeId id ++ ("@" : Text) ++ origin]

section Error

variable {message origin : Text} {id : Value} {code : Int}

theorem writeError_eq (message : Text) (id : Value) (origin : Text) (code : Int) :
    writeError message id origin code =
      line errorColumns ++ line (errorValues message id origin code) := rfl

/-- The error table ends with the id of the request and the caller's address. -/
theorem suffix_writeError (message : Text) (id : Value) (origin : Text) (code : Int) :
    ((";" : Text) ++ writeId id ++ ("@" : Text) ++ origin ++ ("\n" : Text)) <:+
      writeError message id origin code := by
  refine ⟨line errorColumns ++ Text.joinWith [separator]
    [protocolVersion, Decimal.ofInt code, message, []], ?_⟩
  simp only [writeError, line, Text.joinWith, List.append_assoc]
  rfl

theorem errorColumns_fields : ∀ column ∈ errorColumns, IsField column := by
  decide

theorem errorValues_fields (plain : IsField message) (plainId : IsField (writeId id))
    (plainOrigin : IsField origin) :
    ∀ value ∈ errorValues message id origin code, IsField value := by
  intro value member
  simp only [errorValues, List.mem_cons, List.not_mem_nil, or_false] at member
  rcases member with rfl | rfl | rfl | rfl | rfl
  · decide
  · exact isField_ofInt code
  · exact plain
  · decide
  · exact isField_append (isField_append plainId (by decide)) plainOrigin

theorem fields_errorColumns :
    Text.splitOn separator (Text.joinWith [separator] errorColumns) = errorColumns :=
  fields_line (by decide) errorColumns_fields

theorem fields_errorValues (plain : IsField message) (plainId : IsField (writeId id))
    (plainOrigin : IsField origin) :
    Text.splitOn separator (Text.joinWith [separator] (errorValues message id origin code)) =
      errorValues message id origin code :=
  fields_line (List.cons_ne_nil _ _) (errorValues_fields plain plainId plainOrigin)

/-- The two lines of an error table whose values hold no line ends. -/
theorem lines_writeError (oneLine : lineEnd ∉ message) (idLine : lineEnd ∉ writeId id)
    (originLine : lineEnd ∉ origin) :
    Text.splitOn lineEnd (writeError message id origin code) =
      [Text.joinWith [separator] errorColumns,
        Text.joinWith [separator] (errorValues message id origin code), []] := by
  have values : ∀ value ∈ errorValues message id origin code, lineEnd ∉ value := by
    intro value member
    simp only [errorValues, List.mem_cons, List.not_mem_nil, or_false] at member
    rcases member with rfl | rfl | rfl | rfl | rfl
    · decide
    · exact (isField_ofInt code).2
    · exact oneLine
    · decide
    · have atSign : lineEnd ∉ ("@" : Text) := by decide
      simp only [List.mem_append, not_or]
      exact ⟨⟨idLine, atSign⟩, originLine⟩
  rw [writeError_eq, lines_line fun column member => (errorColumns_fields column member).2,
    ← List.append_nil (line (errorValues message id origin code)), lines_line values]
  rfl

/-- **An error table of fields is read as one record**: its values under its columns. -/
theorem read_writeError (plain : IsField message) (plainId : IsField (writeId id))
    (plainOrigin : IsField origin) :
    read (writeError message id origin code) =
      [errorColumns.zip (errorValues message id origin code)] := by
  have two : lines (writeError message id origin code) =
      [Text.joinWith [separator] errorColumns,
        Text.joinWith [separator] (errorValues message id origin code)] := by
    rw [lines, lines_writeError plain.2 plainId.2 plainOrigin.2]
    rfl
  have names : (errorColumns.zip (errorValues message id origin code)).map Prod.fst =
      errorColumns := rfl
  have distinct : ((errorColumns.zip (errorValues message id origin code)).map Prod.fst).Nodup := by
    rw [names]
    decide
  have record : record? errorColumns (Text.joinWith [separator] (errorValues message id origin code)) =
      some (errorColumns.zip (errorValues message id origin code)) := by
    rw [record?, fields_errorValues plain plainId plainOrigin, Fields.ofPairs_of_nodup distinct]
    rfl
  rw [read, two]
  dsimp only
  rw [fields_errorColumns, List.filterMap_cons, record]
  rfl

/-! ### When it can be printed -/

section Printing

variable {depth : Nat}

theorem printError_of_printable (short : Decimal.Short code) (printable : id.Printable depth) :
    printError message id origin code depth = .ok (writeError message id origin code) := by
  have code : (Value.int code).obstacle? depth = none :=
    (Value.obstacle?_eq_none_iff _ _).mpr (.int short)
  have id : id.obstacle? depth = none := (Value.obstacle?_eq_none_iff _ _).mpr printable
  rw [printError, code, id]
  rfl

theorem printError_of_longCode (long : ¬Decimal.Short code) :
    printError message id origin code depth = .error .longInteger := by
  have code : (Value.int code).obstacle? depth = some .longInteger := if_neg long
  rw [printError, code]
  rfl

theorem printError_of_obstacle {obstacle : Value.Obstacle} (short : Decimal.Short code)
    (found : id.obstacle? depth = some obstacle) :
    printError message id origin code depth = .error obstacle := by
  have code : (Value.int code).obstacle? depth = none :=
    (Value.obstacle?_eq_none_iff _ _).mpr (.int short)
  rw [printError, code, found]
  rfl

theorem exists_printError_eq_error (stopped : ¬(Decimal.Short code ∧ id.Printable depth)) :
    ∃ obstacle, printError message id origin code depth = .error obstacle := by
  by_cases short : Decimal.Short code
  · cases found : id.obstacle? depth with
    | some obstacle => exact ⟨_, printError_of_obstacle short found⟩
    | none => exact absurd ⟨short, (Value.obstacle?_eq_none_iff _ _).mp found⟩ stopped
  · exact ⟨_, printError_of_longCode short⟩

end Printing

/-! ### When it is readable -/

/-- A body that reads back as one error: two lines of five fields, and one record with the code and
the id. -/
structure Readable (body code id : Text) : Prop where
  lines : ∃ first second, Text.splitOn lineEnd body = [first, second, []] ∧
    (Text.splitOn separator first).length = 5 ∧ (Text.splitOn separator second).length = 5
  record : ∃ record, read body = [record] ∧ Fields.get? "error.code" record = some code ∧
    Fields.get? "id" record = some id

theorem readable_writeError (plain : IsField message) (plainId : IsField (writeId id))
    (plainOrigin : IsField origin) :
    Readable (writeError message id origin code) (Decimal.ofInt code)
      (writeId id ++ ("@" : Text) ++ origin) where
  lines := by
    refine ⟨_, _, lines_writeError plain.2 plainId.2 plainOrigin.2, ?_, ?_⟩
    · rw [fields_errorColumns]
      rfl
    · rw [fields_errorValues plain plainId plainOrigin]
      rfl
  record := ⟨_, read_writeError plain plainId plainOrigin, rfl, rfl⟩

/-- A message with an end of a line makes a line more. -/
theorem count_lineEnd_writeError (message : Text) (id : Value) (origin : Text) (code : Int) :
    message.count lineEnd + 2 ≤ (writeError message id origin code).count lineEnd := by
  have header : (line errorColumns).count lineEnd = 1 := by decide
  rw [writeError_eq, List.count_append, header]
  simp only [errorValues, line, Text.joinWith, List.count_append, List.count_singleton_self]
  omega

/-- A message with a separator makes a value more. -/
theorem count_separator_errorValues (message : Text) (id : Value) (origin : Text) (code : Int) :
    message.count separator + 4 ≤
      (Text.joinWith [separator] (errorValues message id origin code)).count separator := by
  simp only [errorValues, Text.joinWith, List.count_append, List.count_singleton_self]
  omega

/-- **When an error table is readable**: its message has to be a field. -/
theorem readable_writeError_iff (plainId : IsField (writeId id)) (plainOrigin : IsField origin) :
    Readable (writeError message id origin code) (Decimal.ofInt code)
        (writeId id ++ ("@" : Text) ++ origin) ↔ IsField message := by
  constructor
  · rintro ⟨⟨first, second, cut, _, fields⟩, _⟩
    have oneLine : lineEnd ∉ message := by
      intro member
      have some : 0 < message.count lineEnd := List.count_pos_iff.mpr member
      have many := count_lineEnd_writeError message id origin code
      have three : 3 = (writeError message id origin code).count lineEnd + 1 := by
        rw [← Text.length_splitOn, cut]
        rfl
      omega
    refine ⟨?_, oneLine⟩
    intro member
    have some : 0 < message.count separator := List.count_pos_iff.mpr member
    have many := count_separator_errorValues message id origin code
    rw [lines_writeError oneLine plainId.2 plainOrigin.2] at cut
    obtain ⟨_, rest⟩ := List.cons.inj cut
    obtain ⟨same, _⟩ := List.cons.inj rest
    rw [← same, Text.length_splitOn] at fields
    omega
  · exact fun plain => readable_writeError plain plainId plainOrigin

end Error

end Table

end AlarmFeed
