/-
**Requests to the monitor.**

A request is a call of a method with parameters and an id, written as one JSON object. `idOfBody` reads
the id back out of a written request: null if the body is no object or has no id, and a fault only if it is
nested too deeply for its caller.
-/

import AlarmFeed.Fault
import AlarmFeed.Json.Encoding
import AlarmFeed.Json.Writer

namespace AlarmFeed

/-- A message to the monitor. -/
structure Request where
  url : Text
  /-- The authorization that is presented, if any. -/
  authorization : Option Text
  body : Text
  deriving DecidableEq

namespace Request

/-- The call of a method as an object. -/
def envelope (method : Text) (params id : Value) : Value :=
  .object [("jsonrpc", .text "2.0"), ("method", .text method), ("params", params), ("id", id)]

/-- The body that calls a method. -/
def encode (method : Text) (params id : Value) : Text :=
  Json.write (envelope method params id)

/-- The id of a call that has been read. -/
def idOf : Except Json.ReadError Value → Except Fault Value
  | .ok (.object members) => .ok ((Fields.get? "id" members).getD .null)
  | .ok _ => .ok .null
  | .error (.tooDeep container) => .error (.nesting container)
  | .error _ => .ok .null

/-- The id in the text of a call. -/
def idOfText (body : Text) (depth : Nat := Json.depthLimit) : Except Fault Value :=
  idOf (Json.read body depth)

/-- The id in the bytes of a call. -/
def idOfBytes (body : Bytes) (depth : Nat := Json.depthLimit) : Except Fault Value :=
  idOf (Json.readBytes body depth)

/-- What the body of a call may be. -/
inductive Body
  | text (content : Text)
  | bytes (content : Bytes)
  deriving DecidableEq

/-- The id in the body of a call, if the call has a body. -/
def idOfBody (body : Option Body) (depth : Nat := Json.depthLimit) : Except Fault Value :=
  match body with
  | none => .ok .null
  | some (.text content) => idOfText content depth
  | some (.bytes content) => idOfBytes content depth

end Request

end AlarmFeed
