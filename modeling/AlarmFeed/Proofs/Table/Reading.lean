/-
**What is read from a text.**

Any text can be read as a table: its first line that is not empty names the columns, and a later line
is a record if it *fits*, that is, if it has as many separators.

* `read_eq` — the records are those of the lines that fit, in their order;
* `carries_recordOf`, `spells_recordOf` — what a record keeps of its line: of columns that are named
  twice the last value, of distinct columns the whole line;
* `isField_of_mem_read` — no value that is read holds a separator or the end of a line;
* `lines_normalized` — the columns and the records, written again, are the lines that were read.

`read_faithful` puts these together, and says that the columns are those by which an error table is
told, if the text does not start with an empty line.
-/

import AlarmFeed.Proofs.Table.Alarm
import Mathlib.Data.List.Forall2
import Mathlib.Data.List.TakeWhile

namespace AlarmFeed.Table

/-! ### Lines -/

/-- The lines of a text are not empty and hold no line end. -/
theorem of_mem_lines {t l : Text} (member : l ∈ lines t) : l ≠ [] ∧ lineEnd ∉ l := by
  obtain ⟨cut, some⟩ := List.mem_filter.mp member
  constructor
  · rintro rfl
    cases some
  · exact Text.not_mem_of_mem_splitOn cut

theorem lines_of_splitOn {t l : Text} {pieces : List Text} (some : l ≠ [])
    (cut : Text.splitOn lineEnd t = l :: pieces) :
    lines t = l :: pieces.filter fun piece => !piece.isEmpty := by
  have keeps : (!l.isEmpty) = true := by
    rw [Bool.not_eq_true', List.isEmpty_eq_false_iff]
    exact some
  rw [lines, cut]
  exact List.filter_cons_of_pos keeps

/-- A line that is not empty is the first of a text that it starts. -/
theorem lines_append {l : Text} (some : l ≠ []) (free : lineEnd ∉ l) (t : Text) :
    lines ((l ++ [lineEnd]) ++ t) = l :: lines t :=
  lines_of_splitOn some (by
    rw [List.append_assoc, List.singleton_append, Text.splitOn_append_cut free])

/-- **Lines that are written one by one** are the lines that are read. -/
theorem lines_flatMap {ls : List Text} (each : ∀ l ∈ ls, l ≠ [] ∧ lineEnd ∉ l) :
    lines (ls.flatMap fun l => l ++ [lineEnd]) = ls := by
  induction ls with
  | nil => rfl
  | cons l ls ih =>
    obtain ⟨first, later⟩ := List.forall_mem_cons.mp each
    rw [List.flatMap_cons, lines_append first.1 first.2, ih later]

/-- The first piece of a text is its first line. -/
theorem exists_splitOn_lineEnd (t : Text) :
    ∃ pieces, Text.splitOn lineEnd t = firstLine t :: pieces := by
  by_cases ended : lineEnd ∈ t
  · obtain ⟨front, behind, rfl, free⟩ := List.eq_append_cons_of_mem ended
    exact ⟨_, by rw [firstLine_append free, Text.splitOn_append_cut free]⟩
  · have whole : firstLine t = t := List.takeWhile_eq_self_iff.mpr fun c member =>
      bne_iff_ne.mpr fun same => ended (same ▸ member)
    exact ⟨[], by rw [whole, Text.splitOn_of_free ended]⟩

/-- **The first line is the header**, if it is not empty. -/
theorem firstLine_eq {t header : Text} {rest : List Text} (found : lines t = header :: rest)
    (start : t.head? ≠ some lineEnd) : firstLine t = header := by
  obtain ⟨pieces, cut⟩ := exists_splitOn_lineEnd t
  have keeps : firstLine t ≠ [] := by
    cases t with
    | nil => cases found
    | cons c t =>
      have stays : (c != lineEnd) = true := bne_iff_ne.mpr fun same => start (congrArg some same)
      rw [firstLine, List.takeWhile_cons, if_pos stays]
      exact List.cons_ne_nil _ _
  rw [lines_of_splitOn keeps cut] at found
  exact (List.cons.inj found).1

/-! ### Records -/

/-- The lines that fit a header: those with as many separators. -/
def fitting (header : Text) (ls : List Text) : List Text :=
  ls.filter fun l => l.count separator = header.count separator

/-- The record of a line that fits. -/
def recordOf (columns : List Text) (l : Text) : Fields Text :=
  Fields.ofPairs (columns.zip (Text.splitOn separator l))

theorem record?_eq (header l : Text) :
    record? (Text.splitOn separator header) l =
      if decide (l.count separator = header.count separator) then
        some (recordOf (Text.splitOn separator header) l) else none := by
  simp only [record?, Text.length_splitOn, Nat.add_right_cancel_iff, decide_eq_true_eq]
  rfl

/-- **The records of a text** are those of the lines that fit its header, in their order. -/
theorem read_eq {t header : Text} {rest : List Text} (found : lines t = header :: rest) :
    read t = (fitting header rest).map (recordOf (Text.splitOn separator header)) := by
  rw [read, found, fitting, ← List.filterMap_eq_map, List.filterMap_filter]
  exact List.filterMap_congr fun l _ => record?_eq header l

/-- No value that is read holds a separator or the end of a line. -/
theorem isField_of_mem_read {t : Text} {record : Fields Text} {field : Text × Text}
    (member : record ∈ read t) (inside : field ∈ record) : IsField field.2 := by
  cases found : lines t with
  | nil => rw [read, found] at member; cases member
  | cons header rest =>
    rw [read_eq found, List.mem_map] at member
    obtain ⟨l, fits, rfl⟩ := member
    have value : field.2 ∈ Text.splitOn separator l :=
      (List.of_mem_zip (Fields.mem_ofPairs inside)).2
    have among : l ∈ lines t := found ▸ List.mem_cons_of_mem _ (List.mem_of_mem_filter fits)
    refine ⟨Text.not_mem_of_mem_splitOn value, fun here => (of_mem_lines among).2 ?_⟩
    rw [← Text.joinWith_splitOn separator l]
    exact Text.mem_joinWith_of_mem value here

theorem length_splitOn_of_fitting {header l : Text} {ls : List Text} (fits : l ∈ fitting header ls) :
    (Text.splitOn separator l).length = (Text.splitOn separator header).length := by
  have same := (List.mem_filter.mp fits).2
  rw [decide_eq_true_eq] at same
  rw [Text.length_splitOn, Text.length_splitOn, same]

/-! ### What a record keeps -/

/-- **A record carries a line** under some columns: it has each column once, where it is first named,
and under it the value of the last place in which the column is named. -/
structure Carries (columns : List Text) (l : Text) (record : Fields Text) : Prop where
  names : record.map Prod.fst = columns.eraseDups
  value : ∀ i name, columns[i]? = some name → name ∉ columns.drop (i + 1) →
    Fields.get? name record = (Text.splitOn separator l)[i]?

/-- **A record spells a line** under some columns: they are its names, and its values, with separators
between them, are the line. -/
structure Spells (columns : List Text) (l : Text) (record : Fields Text) : Prop where
  names : record.map Prod.fst = columns
  values : Text.joinWith [separator] (record.map Prod.snd) = l

section Record

variable {columns : List Text} {l : Text}

theorem carries_recordOf (fits : (Text.splitOn separator l).length = columns.length) :
    Carries columns l (recordOf columns l) where
  names := by rw [recordOf, Fields.map_fst_ofPairs, List.map_fst_zip (Nat.le_of_eq fits.symm)]
  value i name here last := by
    obtain ⟨within, rfl⟩ := List.getElem?_eq_some_iff.mp here
    have inside : i < (Text.splitOn separator l).length := fits ▸ within
    have behind : (columns.zip (Text.splitOn separator l)).drop i =
        (columns[i], (Text.splitOn separator l)[i]) ::
          (columns.drop (i + 1)).zip ((Text.splitOn separator l).drop (i + 1)) := by
      rw [List.zip, List.drop_zipWith, List.drop_eq_getElem_cons within,
        List.drop_eq_getElem_cons inside]
      rfl
    have unnamed : columns[i] ∉ ((columns.drop (i + 1)).zip
        ((Text.splitOn separator l).drop (i + 1))).map Prod.fst := by
      rw [List.map_fst_zip (by rw [List.length_drop, List.length_drop, fits])]
      exact last
    rw [recordOf, ← List.take_append_drop i (columns.zip _), behind,
      Fields.get?_ofPairs_append _ _ _ unnamed, List.getElem?_eq_getElem inside]

/-- Under distinct columns a record is the columns with the values of the line. -/
theorem recordOf_of_nodup (fits : (Text.splitOn separator l).length = columns.length)
    (distinct : columns.Nodup) : recordOf columns l = columns.zip (Text.splitOn separator l) := by
  refine Fields.ofPairs_of_nodup ?_
  rw [List.map_fst_zip (Nat.le_of_eq fits.symm)]
  exact distinct

theorem spells_recordOf (fits : (Text.splitOn separator l).length = columns.length)
    (distinct : columns.Nodup) : Spells columns l (recordOf columns l) where
  names := by rw [recordOf_of_nodup fits distinct, List.map_fst_zip (Nat.le_of_eq fits.symm)]
  values := by
    rw [recordOf_of_nodup fits distinct, List.map_snd_zip (Nat.le_of_eq fits),
      Text.joinWith_splitOn]

end Record

/-! ### Tables of fields -/

/-- Two values or more are joined to a text that is not empty. -/
theorem joinWith_ne_nil {values : List Text} (wide : 2 ≤ values.length) :
    Text.joinWith [separator] values ≠ [] := by
  match values with
  | first :: second :: later =>
    rw [Text.joinWith, List.append_assoc]
    exact List.append_ne_nil_of_right_ne_nil _ (List.cons_ne_nil _ _)

/-- There is one value more than there are separators. -/
theorem count_joinWith {values : List Text} (nonempty : values ≠ [])
    (fields : ∀ value ∈ values, IsField value) :
    (Text.joinWith [separator] values).count separator + 1 = values.length := by
  rw [← Text.length_splitOn, fields_line nonempty fields]

/-- A line of values without line ends, two or more, is the first line of a text that it starts. -/
theorem lines_line_append {values : List Text} (wide : 2 ≤ values.length)
    (free : ∀ value ∈ values, lineEnd ∉ value) (t : Text) :
    lines (line values ++ t) = Text.joinWith [separator] values :: lines t :=
  lines_append (joinWith_ne_nil wide) (lineEnd_not_mem_joinWith free) t

section Table

variable {columns : List Text}

/-- The record of a line of fields has those fields under the columns. -/
theorem recordOf_joinWith (distinct : columns.Nodup) {values : List Text} (nonempty : values ≠ [])
    (fits : values.length = columns.length) (fields : ∀ value ∈ values, IsField value) :
    recordOf columns (Text.joinWith [separator] values) = columns.zip values := by
  have cut := fields_line nonempty fields
  rw [recordOf_of_nodup (by rw [cut, fits]) distinct, cut]

/-- A line of as many fields as there are columns fits them. -/
theorem count_joinWith_eq (plain : ∀ column ∈ columns, IsField column) {values : List Text}
    (nonempty : values ≠ []) (fits : values.length = columns.length)
    (fields : ∀ value ∈ values, IsField value) :
    (Text.joinWith [separator] values).count separator =
      (Text.joinWith [separator] columns).count separator := by
  have some : columns ≠ [] := fun none => by
    rw [none] at fits
    exact nonempty (List.eq_nil_of_length_eq_zero fits)
  have counted := count_joinWith nonempty fields
  rw [fits, ← count_joinWith some plain] at counted
  exact Nat.succ.inj counted

/-- The lines of a table are its line of columns and its lines of values. -/
theorem lines_table (wide : 2 ≤ columns.length) (plain : ∀ column ∈ columns, IsField column)
    {table : List (List Text)} (fits : ∀ values ∈ table, values.length = columns.length)
    (fields : ∀ values ∈ table, ∀ value ∈ values, IsField value) :
    lines (line columns ++ table.flatMap line) =
      Text.joinWith [separator] columns :: table.map (Text.joinWith [separator]) := by
  have each : ∀ l ∈ table.map (Text.joinWith [separator]), l ≠ [] ∧ lineEnd ∉ l := by
    intro l member
    obtain ⟨values, among, rfl⟩ := List.mem_map.mp member
    exact ⟨joinWith_ne_nil (fits values among ▸ wide),
      lineEnd_not_mem_joinWith fun value inside => (fields values among value inside).2⟩
  have joined : table.flatMap line =
      (table.map (Text.joinWith [separator])).flatMap fun l => l ++ [lineEnd] := by
    rw [List.flatMap_map]
    rfl
  rw [joined, lines_line_append wide fun column member => (plain column member).2,
    lines_flatMap each]

/-- **A table of fields is read as it was written**: a record for each line. -/
theorem read_table (wide : 2 ≤ columns.length) (plain : ∀ column ∈ columns, IsField column)
    (distinct : columns.Nodup) {table : List (List Text)}
    (fits : ∀ values ∈ table, values.length = columns.length)
    (fields : ∀ values ∈ table, ∀ value ∈ values, IsField value) :
    read (line columns ++ table.flatMap line) = table.map columns.zip := by
  have some : columns ≠ [] := List.ne_nil_of_length_pos (by omega)
  have nonempty : ∀ values ∈ table, values ≠ [] := fun values member =>
    List.ne_nil_of_length_pos (by rw [fits values member]; omega)
  have all : fitting (Text.joinWith [separator] columns) (table.map (Text.joinWith [separator])) =
      table.map (Text.joinWith [separator]) := by
    refine List.filter_eq_self.mpr fun l member => ?_
    obtain ⟨values, among, rfl⟩ := List.mem_map.mp member
    exact decide_eq_true (count_joinWith_eq plain (nonempty values among) (fits values among)
      (fields values among))
  rw [read_eq (lines_table wide plain fits fields), fields_line some plain, all, List.map_map]
  exact List.map_congr_left fun values among =>
    recordOf_joinWith distinct (nonempty values among) (fits values among) (fields values among)

end Table

/-! ### Writing what was read -/

/-- Columns and records, written line by line. -/
def written (columns : List Text) (records : List (Fields Text)) : Text :=
  line columns ++ records.flatMap fun record => line (record.map Prod.snd)

/-- A text with nothing in it but its header and its records. -/
def normalized (t : Text) : Text :=
  match lines t with
  | [] => []
  | header :: _ => written (Text.splitOn separator header) (read t)

theorem normalized_of_lines {t header : Text} {rest : List Text} (found : lines t = header :: rest) :
    normalized t = written (Text.splitOn separator header) (read t) := by
  rw [normalized, found]

section Text

variable {t header : Text} {rest : List Text}

theorem carries_read (found : lines t = header :: rest) :
    List.Forall₂ (Carries (Text.splitOn separator header)) (fitting header rest) (read t) := by
  rw [read_eq found, List.forall₂_map_right_iff, List.forall₂_same]
  intro l member
  exact carries_recordOf (length_splitOn_of_fitting member)

theorem spells_read (found : lines t = header :: rest)
    (distinct : (Text.splitOn separator header).Nodup) :
    List.Forall₂ (Spells (Text.splitOn separator header)) (fitting header rest) (read t) := by
  rw [read_eq found, List.forall₂_map_right_iff, List.forall₂_same]
  intro l member
  exact spells_recordOf (length_splitOn_of_fitting member) distinct

/-- What is written for the records are the lines that they were read from. -/
theorem flatMap_line_read (found : lines t = header :: rest)
    (distinct : (Text.splitOn separator header).Nodup) :
    ((read t).flatMap fun record => line (record.map Prod.snd)) =
      (fitting header rest).flatMap fun l => l ++ [lineEnd] := by
  rw [read_eq found, List.flatMap_map]
  refine List.flatMap_congr fun l member => ?_
  rw [line, (spells_recordOf (length_splitOn_of_fitting member) distinct).values]

/-- **The lines of what is written again** are the header and the lines that fit it. -/
theorem lines_normalized (found : lines t = header :: rest)
    (distinct : (Text.splitOn separator header).Nodup) :
    lines (normalized t) = header :: fitting header rest := by
  have first : header ≠ [] ∧ lineEnd ∉ header := of_mem_lines (found ▸ List.mem_cons_self)
  have later : ∀ l ∈ fitting header rest, l ≠ [] ∧ lineEnd ∉ l := fun l member =>
    of_mem_lines (found ▸ List.mem_cons_of_mem _ (List.mem_of_mem_filter member))
  rw [normalized_of_lines found, written, flatMap_line_read found distinct, line,
    Text.joinWith_splitOn, lines_append first.1 first.2, lines_flatMap later]

theorem read_normalized (found : lines t = header :: rest)
    (distinct : (Text.splitOn separator header).Nodup) : read (normalized t) = read t := by
  rw [read_eq found, read_eq (lines_normalized found distinct), fitting, fitting, List.filter_filter]
  simp only [Bool.and_self]

/-- **Writing what was read** changes nothing the second time. -/
theorem normalized_normalized (found : lines t = header :: rest)
    (distinct : (Text.splitOn separator header).Nodup) :
    normalized (normalized t) = normalized t := by
  rw [normalized_of_lines (lines_normalized found distinct), read_normalized found distinct,
    normalized_of_lines found]

end Text

/-! ### Any text -/

/-- **A text is read faithfully.** Its first line that is not empty is the header, and its records
correspond, in order, to the later lines that fit it; each carries its line. If the columns are
distinct, each spells its line, and the columns and records, written again, are read as the same
records, and then are in normal form. If the text does not start with an empty line, an error table is
told by the same header. -/
theorem read_faithful {t header : Text} {rest : List Text} (found : lines t = header :: rest) :
    List.Forall₂ (Carries (Text.splitOn separator header)) (fitting header rest) (read t) ∧
      ((Text.splitOn separator header).Nodup →
        List.Forall₂ (Spells (Text.splitOn separator header)) (fitting header rest) (read t) ∧
          read (written (Text.splitOn separator header) (read t)) = read t ∧
          normalized (normalized t) = normalized t) ∧
      (t.head? ≠ some lineEnd →
        firstLine t = header ∧
          (isError t = true ↔ Text.splitOn separator header = errorColumns)) := by
  refine ⟨carries_read found, fun distinct => ⟨spells_read found distinct, ?_, ?_⟩, fun start => ?_⟩
  · rw [← normalized_of_lines found]
    exact read_normalized found distinct
  · exact normalized_normalized found distinct
  · have first := firstLine_eq found start
    rw [isError, first, beq_iff_eq]
    exact ⟨rfl, Iff.rfl⟩

/-- A text with an empty line, a line that does not fit, an empty field and no end. -/
def ragged : Text := "a;b\n1;2\ngarbage\n\n;4"

theorem ragged_faithful :
    lines ragged = [("a;b" : Text), "1;2", "garbage", ";4"] ∧
    (Text.splitOn separator "a;b").Nodup ∧ ragged.head? ≠ some lineEnd ∧
    List.Forall₂ (Spells ["a", "b"]) ["1;2", ";4"] (read ragged) ∧
    read "a;b\n1;2\n;4\n" = read ragged ∧ isError ragged = false := by
  have found : lines ragged = [("a;b" : Text), "1;2", "garbage", ";4"] := by decide
  have distinct : (Text.splitOn separator "a;b").Nodup := by decide
  have start : ragged.head? ≠ some lineEnd := by decide
  obtain ⟨_, spelled, told⟩ := read_faithful found
  obtain ⟨spells, again, _⟩ := spelled distinct
  have other : ¬isError ragged = true := by
    rw [(told start).2]
    decide
  exact ⟨found, distinct, start, spells, again, Bool.not_eq_true _ ▸ other⟩

/-- A column that is named twice keeps its first place and has its last value. -/
example : read "a;b;a\n1;2;3\n" = ([[("a", "3"), ("b", "2")]] : List (Fields Text)) := by
  decide

end AlarmFeed.Table
