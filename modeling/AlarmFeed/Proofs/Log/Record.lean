/-
**Records in a context.**

A context adds its fields to a record and leaves those that the record has. So a record that names no
origin (`Unplaced`) is from a caller (`IsFrom`) once it stands in the context of the caller's request
(`isFrom_within`), and all else that is said of the records of an event holds in a context as before.
-/

import AlarmFeed.Log.Record

namespace AlarmFeed

/-- Of two lists of fields the first goes before the second. -/
theorem Fields.get?_append {α : Type} (name : Text) (fields more : Fields α) :
    get? name (fields ++ more) = (get? name fields).or (get? name more) := by
  induction fields with
  | nil => rfl
  | cons field fields ih =>
    obtain ⟨key, value⟩ := field
    rw [List.cons_append, get?, get?]
    by_cases known : key = name
    · rw [if_pos known, if_pos known, Option.some_or]
    · rw [if_neg known, if_neg known, ih]

namespace Log

/-- The records of an event, in order. -/
def named (event : Text) (log : List Record) : List Record :=
  log.filter fun record => record.event == event

namespace Record

/-- What a record says under a name. -/
def get? (record : Record) (name : Text) : Option Value :=
  Fields.get? name record.fields

/-- **A record of nobody's request**: it names no origin. -/
def Unplaced (record : Record) : Prop :=
  record.get? "origin" = none

/-- **A record of a caller's request**: its origin is the caller's address. -/
def IsFrom (origin : Text) (record : Record) : Prop :=
  record.get? "origin" = some (.text origin)

section Within

variable {record : Record} {context : Members}

/-- What a record says itself it says in any context. -/
theorem get?_within_of_some {name : Text} {value : Value} (known : record.get? name = some value) :
    (record.within context).get? name = some value := by
  unfold get? within at *
  rw [Fields.get?_append, known, Option.some_or]

/-- A record that names no origin has that of its context. -/
theorem isFrom_within (unplaced : record.Unplaced) (origin : Text) :
    (record.within (("origin", .text origin) :: context)).IsFrom origin := by
  have lacks : Fields.get? "origin" record.fields = none := unplaced
  unfold IsFrom get? within
  dsimp only
  rw [List.filter_cons_of_pos (by rw [lacks]; rfl), Fields.get?_append, lacks, Option.none_or,
    Fields.get?, if_pos rfl]

end Within

end Record

section Named

variable {event : Text} {log : List Record}

theorem named_append (more : List Record) :
    named event (log ++ more) = named event log ++ named event more :=
  List.filter_append _ _

theorem named_of_event {record : Record} (same : record.event = event) :
    named event [record] = [record] :=
  List.filter_eq_self.mpr (List.forall_mem_singleton.mpr (beq_iff_eq.mpr same))

/-- Records of other events do not count. -/
theorem named_of_others (others : ∀ record ∈ log, record.event ≠ event) : named event log = [] := by
  rw [named, List.filter_eq_nil_iff]
  exact fun record member same => others record member (beq_iff_eq.mp same)

/-- A context does not change what event a record is of. -/
theorem named_map_within (context : Members) :
    named event (log.map (Record.within context)) = (named event log).map (Record.within context) :=
  List.filter_map

end Named

end Log

end AlarmFeed
