/-
**Tables, written and read.**

The alarm table has a line of column names and one line for each row; without rows it is empty. The
error table has a line of its own column names and one line that says what failed, with the id of the
request and the caller's address. Values stand between semicolons as they are.

`writeError` lays an error table out, whatever its code and its id; `printError` gives that table if they
can be printed, and else what is in the way.

Of a table that is read, the first line that is not empty names the columns. Every later line with as many
values is a record; the others are dropped. `isError` tells the error table from the alarm table by its
first line.
-/

import AlarmFeed.Row
import AlarmFeed.Text.Fields
import AlarmFeed.Value

namespace AlarmFeed.Table

/-! ### Writing -/

/-- What stands between two values. -/
def separator : CodePoint := ';'

/-- What ends a line. -/
def lineEnd : CodePoint := '\n'

/-- One line of a table. -/
def line (values : List Text) : Text :=
  Text.joinWith [separator] values ++ [lineEnd]

/-- The columns of the error table. -/
def errorColumns : List Text :=
  ["jsonrpc", "error.code", "error.message", "error.data", "id"]

/-- The version of the protocol that the error table names. -/
def protocolVersion : Text := "2.0"

/-- The code of an error that has none of its own. -/
def defaultErrorCode : Int := 1

/-- The alarm table. -/
def writeRows : List Row → Text
  | [] => []
  | row :: rows => line Row.columns ++ (row :: rows).flatMap fun row => line row.values

/-- A request id in the error table; null is left out. -/
def writeId : Value → Text
  | .null => []
  | id => id.display

/-- The layout of the error table. -/
def writeError (message : Text) (id : Value) (origin : Text) (code : Int) : Text :=
  line errorColumns
    ++ line [protocolVersion, Decimal.ofInt code, message, [], writeId id ++ ("@" : Text) ++ origin]

/-- The error table, unless its code or its id cannot be printed; the code comes first. -/
def printError (message : Text) (id : Value) (origin : Text) (code : Int) (depth : Nat) :
    Except Value.Obstacle Text :=
  match ((Value.int code).obstacle? depth).or (id.obstacle? depth) with
  | some obstacle => .error obstacle
  | none => .ok (writeError message id origin code)

/-! ### Reading -/

/-- The lines of a text that are not empty. -/
def lines (t : Text) : List Text :=
  (Text.splitOn lineEnd t).filter fun line => !line.isEmpty

/-- The record of a line under given columns, if the line has as many values. -/
def record? (columns : List Text) (line : Text) : Option (Fields Text) :=
  let values := Text.splitOn separator line
  if values.length = columns.length then some (Fields.ofPairs (columns.zip values)) else none

/-- The records of a table. -/
def read (t : Text) : List (Fields Text) :=
  match lines t with
  | [] => []
  | header :: rest => rest.filterMap (record? (Text.splitOn separator header))

/-- The first line of a text. -/
def firstLine (t : Text) : Text :=
  t.takeWhile (· != lineEnd)

/-- Whether a text is an error table. -/
def isError (t : Text) : Bool :=
  Text.splitOn separator (firstLine t) == errorColumns

end AlarmFeed.Table
