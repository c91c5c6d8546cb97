/-
**Log records.**

A record is an event with a level and fields. While a request is served its origin and method are the
context of every record; a field that the event has itself wins over the context.
-/

import AlarmFeed.Value

namespace AlarmFeed.Log

/-- How grave an event is. -/
inductive Level
  | debug
  | info
  | warning
  | error
  | critical
  deriving DecidableEq

namespace Level

/-- The name of a level in a record. -/
def name : Level → Text
  | debug => "debug"
  | info => "info"
  | warning => "warning"
  | error => "error"
  | critical => "critical"

/-- The rank of a level. -/
def rank : Level → Nat
  | debug => 10
  | info => 20
  | warning => 30
  | error => 40
  | critical => 50

end Level

/-- An event with its fields. -/
structure Record where
  level : Level
  event : Text
  fields : Members := []

namespace Record

/-- The record in a context: fields of the context that the record lacks are added. -/
def within (context : Members) (record : Record) : Record :=
  let added := context.filter fun (name, _) => (Fields.get? name record.fields).isNone
  { record with fields := record.fields ++ added }

/-- The record as an object. -/
def toValue (record : Record) : Value :=
  .object (Fields.set "level" (.text record.level.name) (Fields.set "event" (.text record.event) record.fields))

end Record

end AlarmFeed.Log
