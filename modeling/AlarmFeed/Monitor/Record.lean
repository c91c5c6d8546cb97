/-
**What the monitor knows.**

Problems, acknowledgement events, and triggers with their hosts and items, as the monitor's three
queries list them, each with the reader that accepts it from a document. Missing fields that are not
needed have defaults.
-/

import AlarmFeed.Schema.Reader

namespace AlarmFeed

/-- How severe a problem is. -/
inductive Severity
  | notClassified
  | information
  | warning
  | average
  | high
  | disaster
  deriving DecidableEq

/-- The number of a severity. -/
def Severity.number : Severity → Int
  | notClassified => 0
  | information => 1
  | warning => 2
  | average => 3
  | high => 4
  | disaster => 5

/-- Whether a trigger, a host or an item is in use. -/
inductive Status
  | enabled
  | disabled
  deriving DecidableEq

/-- The number of a state. -/
def Status.number : Status → Int
  | enabled => 0
  | disabled => 1

/-- An open problem. -/
structure Problem where
  eventId : Int
  recoveryEventId : Int := 0
  /-- The id of the trigger that owns the problem. -/
  objectId : Int
  clock : Int
  nanoseconds : Int := 0
  severity : Int
  suppressed : Int := 0
  name : Text := []
  deriving DecidableEq

/-- Reads a problem. -/
def Problem.read : Schema.Reader Problem :=
  Schema.record "Problem" fun members =>
    Problem.mk
      <$> Schema.required "eventid" Schema.integer members
      <*> Schema.optional "r_eventid" Schema.integer 0 members
      <*> Schema.required "objectid" Schema.integer members
      <*> Schema.required "clock" Schema.integer members
      <*> Schema.optional "ns" Schema.integer 0 members
      <*> Schema.required "severity" Schema.integer members
      <*> Schema.optional "suppressed" Schema.integer 0 members
      <*> Schema.optional "name" Schema.text [] members

/-- Whether the event of a problem is acknowledged. -/
structure Event where
  eventId : Int
  acknowledged : Bool := false
  deriving DecidableEq

/-- Reads an event. -/
def Event.read : Schema.Reader Event :=
  Schema.record "Event" fun members =>
    Event.mk
      <$> Schema.required "eventid" Schema.integer members
      <*> Schema.optional "acknowledged" Schema.truth false members

/-- A monitored host. -/
structure Host where
  hostId : Int
  name : Text := []
  status : Int := Status.enabled.number
  deriving DecidableEq

namespace Host

/-- Whether a host is out of use. -/
def disabled (host : Host) : Bool :=
  host.status == Status.disabled.number

/-- Reads a host. -/
def read : Schema.Reader Host :=
  Schema.record "Host" fun members =>
    Host.mk
      <$> Schema.required "hostid" Schema.integer members
      <*> Schema.optional "host" Schema.text [] members
      <*> Schema.optional "status" Schema.integer Status.enabled.number members

end Host

/-- A measured item of a host. -/
structure Item where
  hostId : Int
  status : Int := Status.enabled.number
  deriving DecidableEq

/-- Reads an item. -/
def Item.read : Schema.Reader Item :=
  Schema.record "TriggerItem" fun members =>
    Item.mk
      <$> Schema.required "hostid" Schema.integer members
      <*> Schema.optional "status" Schema.integer Status.enabled.number members

/-- A trigger with the hosts and items that it watches. -/
structure Trigger where
  triggerId : Int
  status : Int := Status.enabled.number
  error : Text := []
  suppressed : Int := 0
  flags : Int := 0
  value : Int := 0
  hosts : List Host := []
  items : List Item := []
  deriving DecidableEq

namespace Trigger

/-- Whether a trigger is out of use. -/
def disabled (trigger : Trigger) : Bool :=
  trigger.status == Status.disabled.number

/-- Reads a trigger. -/
def read : Schema.Reader Trigger :=
  Schema.record "Trigger" fun members =>
    Trigger.mk
      <$> Schema.required "triggerid" Schema.integer members
      <*> Schema.optional "status" Schema.integer Status.enabled.number members
      <*> Schema.optional "error" Schema.text [] members
      <*> Schema.optional "suppressed" Schema.integer 0 members
      <*> Schema.optional "flags" Schema.integer 0 members
      <*> Schema.optional "value" Schema.integer 0 members
      <*> Schema.optional "hosts" (Schema.list Host.read) [] members
      <*> Schema.optional "items" (Schema.list Item.read) [] members

end Trigger

end AlarmFeed
