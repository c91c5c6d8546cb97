/-
**Rows of the alarm table.**

A row is one open problem of one host. Its values, written as texts, stand under the names in
`Row.columns`. `Row.key` orders rows: those that are not suppressed first, then the newest, then by
their values; `sortRows` sorts by it.
-/

import AlarmFeed.Schema.Reader
import AlarmFeed.Text.Basic

namespace AlarmFeed

/-- One open problem of one host. -/
structure Row where
  clock : Int
  severity : Int
  suppressed : Int
  hostId : Int
  host : Text := []
  name : Text := []
  deriving DecidableEq

/-- What rows are ordered by. -/
structure RowKey where
  /-- One if the row is suppressed. -/
  suppressed : Nat
  /-- The clock with its sign turned, so that later rows come first. -/
  age : Int
  /-- The values of the row with a NUL between two of them. -/
  values : Text
  deriving DecidableEq

/-- Compares two keys part by part. -/
def RowKey.compare (a b : RowKey) : Ordering :=
  (Ord.compare a.suppressed b.suppressed).then
    ((Ord.compare a.age b.age).then (Text.compare a.values b.values))

namespace Row

/-- The names of the columns. -/
def columns : List Text :=
  ["clock", "severity", "suppressed", "hostid", "host", "name"]

/-- The values of a row in the order of the columns. -/
def values (row : Row) : List Text :=
  [Decimal.ofInt row.clock, Decimal.ofInt row.severity, Decimal.ofInt row.suppressed,
    Decimal.ofInt row.hostId, row.host, row.name]

/-- Reads a row. -/
def read : Schema.Reader Row :=
  Schema.record "OutputRow" fun members =>
    Row.mk
      <$> Schema.required "clock" Schema.integer members
      <*> Schema.required "severity" Schema.integer members
      <*> Schema.required "suppressed" Schema.integer members
      <*> Schema.required "hostid" Schema.integer members
      <*> Schema.optional "host" Schema.text [] members
      <*> Schema.optional "name" Schema.text [] members

/-- What rows are ordered by. -/
def key (row : Row) : RowKey :=
  ⟨if row.suppressed = 0 then 0 else 1, -row.clock, Text.joinWith [CodePoint.ofNat 0] row.values⟩

/-- Whether a row may stand before another. -/
def before (a b : Row) : Bool :=
  a.key.compare b.key != .gt

end Row

/-- The rows in the order of their keys; rows of equal keys keep their order. -/
def sortRows (rows : List Row) : List Row :=
  rows.mergeSort Row.before

end AlarmFeed
