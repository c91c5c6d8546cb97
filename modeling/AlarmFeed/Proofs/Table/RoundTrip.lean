/-
**Alarm tables are read back.**

A row is written as six values. If its names are fields, so are all six, and the table of such rows is
read as one record for each row (`read_writeRows`). The four numbers of a record are read as decimal
integers (`Row.ofRecord?`), which restores the row (`Row.ofRecord?_values`).

* `writeRows_lossless` — so a table of rows determines them, and only the table of no rows is empty.
-/

import AlarmFeed.Proofs.Number.Numeral
import AlarmFeed.Proofs.Row.Order
import AlarmFeed.Proofs.Table.Reading

namespace AlarmFeed

/-! ### Rows and records -/

namespace Row

/-- The numbers of a row are not too long. -/
structure Short (row : Row) : Prop where
  clock : Decimal.Short row.clock
  severity : Decimal.Short row.severity
  suppressed : Decimal.Short row.suppressed
  hostId : Decimal.Short row.hostId

/-- The integer that a record holds under a column, in decimal notation. -/
def integer? (column : Text) (record : Fields Text) : Option Int :=
  (Fields.get? column record).bind fun t => (Numeral.read 10 t).toOption

/-- The row that a record says. -/
def ofRecord? (record : Fields Text) : Option Row := do
  let clock ← integer? "clock" record
  let severity ← integer? "severity" record
  let suppressed ← integer? "suppressed" record
  let hostId ← integer? "hostid" record
  let host ← Fields.get? "host" record
  let name ← Fields.get? "name" record
  return { clock, severity, suppressed, hostId, host, name }

theorem integer?_of_short {column : Text} {record : Fields Text} {n : Int} (short : Decimal.Short n)
    (found : Fields.get? column record = some (Decimal.ofInt n)) :
    integer? column record = some n := by
  rw [integer?, found, Option.bind_some, Numeral.read_ofInt short]
  rfl

/-- **The values of a row under their columns** say the row. -/
theorem ofRecord?_values {row : Row} (short : row.Short) :
    ofRecord? (columns.zip row.values) = some row := by
  have clock : integer? "clock" (columns.zip row.values) = some row.clock :=
    integer?_of_short short.clock rfl
  have severity : integer? "severity" (columns.zip row.values) = some row.severity :=
    integer?_of_short short.severity rfl
  have suppressed : integer? "suppressed" (columns.zip row.values) = some row.suppressed :=
    integer?_of_short short.suppressed rfl
  have hostId : integer? "hostid" (columns.zip row.values) = some row.hostId :=
    integer?_of_short short.hostId rfl
  have host : Fields.get? "host" (columns.zip row.values) = some row.host := rfl
  have name : Fields.get? "name" (columns.zip row.values) = some row.name := rfl
  rw [ofRecord?, clock, severity, suppressed, hostId, host, name]
  rfl

end Row

namespace Table

/-! ### Rows and tables -/

/-- A table of rows is a line of columns and a line of values for each row. -/
theorem writeRows_of_ne_nil {rows : List Row} (some : rows ≠ []) :
    writeRows rows = line Row.columns ++ (rows.map Row.values).flatMap line := by
  cases rows with
  | nil => exact absurd rfl some
  | cons row rows => rw [writeRows, List.flatMap_map]

theorem writeRows_eq_nil_iff {rows : List Row} : writeRows rows = [] ↔ rows = [] := by
  constructor
  · intro empty
    by_contra some
    rw [writeRows_of_ne_nil some, List.append_eq_nil_iff] at empty
    exact List.append_ne_nil_of_right_ne_nil _ (List.cons_ne_nil _ _) empty.1
  · rintro rfl
    rfl

/-- **A table of rows is read as one record for each row**, if the names of the rows are fields. -/
theorem read_writeRows {rows : List Row} (named : ∀ row ∈ rows, IsField row.host ∧ IsField row.name) :
    read (writeRows rows) = rows.map fun row => Row.columns.zip row.values := by
  by_cases none : rows = []
  · subst none
    rfl
  · have fits : ∀ values ∈ rows.map Row.values, values.length = Row.columns.length := by
      intro values member
      obtain ⟨row, _, rfl⟩ := List.mem_map.mp member
      rfl
    have fields : ∀ values ∈ rows.map Row.values, ∀ value ∈ values, IsField value := by
      intro values member
      obtain ⟨row, among, rfl⟩ := List.mem_map.mp member
      exact values_fields (named row among).1 (named row among).2
    rw [writeRows_of_ne_nil none, read_table (by decide) columns_fields (by decide) fits fields,
      List.map_map]
    rfl

/-- Rows of one record are one row. -/
theorem zip_values_injective : Function.Injective fun row : Row => Row.columns.zip row.values := by
  intro a b same
  have values : ∀ row : Row, (Row.columns.zip row.values).map Prod.snd = row.values := fun _ => rfl
  refine Row.values_injective ?_
  rw [← values a, ← values b]
  exact congrArg (List.map Prod.snd) same

/-- **Alarm tables lose nothing.** Rows whose names are fields, and whose numbers are not too long, are
written as a table that is read as one record for each of them, in their order, with their six values
under the six columns; reading the numbers of the records restores the rows. So no other such rows are
written as the same table, and only no rows are written as the empty text. -/
theorem writeRows_lossless (rows : List Row) (short : ∀ row ∈ rows, row.Short)
    (named : ∀ row ∈ rows, IsField row.host ∧ IsField row.name) :
    (read (writeRows rows) = rows.map fun row => Row.columns.zip row.values) ∧
      (read (writeRows rows)).map Row.ofRecord? = rows.map some ∧
      (∀ other : List Row, (∀ row ∈ other, IsField row.host ∧ IsField row.name) →
        writeRows other = writeRows rows → other = rows) ∧
      (writeRows rows = [] ↔ rows = []) := by
  refine ⟨read_writeRows named, ?_, ?_, writeRows_eq_nil_iff⟩
  · rw [read_writeRows named, List.map_map]
    exact List.map_congr_left fun row member => Row.ofRecord?_values (short row member)
  · intro other otherNamed same
    have records := congrArg read same
    rw [read_writeRows otherNamed, read_writeRows named] at records
    exact zip_values_injective.list_map records

/-- A row of a host that is named, with a clock before the epoch. -/
def namedRow : Row :=
  { clock := -1, severity := 5, suppressed := 1, hostId := 12847, host := "db 1", name := "Disk, full" }

theorem namedRow_lossless :
    (∀ row ∈ [namedRow], row.Short) ∧
    (∀ row ∈ [namedRow], IsField row.host ∧ IsField row.name) ∧
    (read (writeRows [namedRow])).map Row.ofRecord? = [some namedRow] := by
  have small : ∀ n : Int, n.natAbs < 10 ^ 5 → Decimal.Short n := fun n below =>
    Decimal.short_of_natAbs_lt (by decide) (by decide) below
  have short : ∀ row ∈ [namedRow], row.Short := by
    intro row only
    rw [List.mem_singleton.mp only]
    exact ⟨small _ (by decide), small _ (by decide), small _ (by decide), small _ (by decide)⟩
  have named : ∀ row ∈ [namedRow], IsField row.host ∧ IsField row.name := by
    decide
  exact ⟨short, named, (writeRows_lossless [namedRow] short named).2.1⟩

end Table

end AlarmFeed
