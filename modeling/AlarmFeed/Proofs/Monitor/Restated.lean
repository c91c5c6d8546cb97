/-
**Records with numbers written as texts.**

The monitor writes the numbers of a record as texts, or as numbers, as it likes. Which members may be
restated, and how, is a table for each record (`Problem.restatements` and so on). A record that was read
is read the same once it is restated (`Problem.kept_read`, `Event.kept_read`, `Trigger.kept_read`), so a
reply that says records says the same records after any restatement (`Reply.Says.restated`).
-/

import AlarmFeed.Proofs.Monitor.Query
import AlarmFeed.Proofs.Schema.Restated

namespace AlarmFeed

open List Schema

/-! ### Records -/

/-- The members of a problem that may be restated. -/
def Problem.restatements : Restatements :=
  [("eventid", RestatedNumber), ("r_eventid", RestatedNumber), ("objectid", RestatedNumber),
    ("clock", RestatedNumber), ("ns", RestatedNumber), ("severity", RestatedNumber),
    ("suppressed", RestatedNumber)]

/-- The members of an event that may be restated. -/
def Event.restatements : Restatements :=
  [("eventid", RestatedNumber), ("acknowledged", RestatedTruth)]

/-- The members of a host that may be restated. -/
def Host.restatements : Restatements :=
  [("hostid", RestatedNumber), ("status", RestatedNumber)]

/-- The members of an item that may be restated. -/
def Item.restatements : Restatements :=
  [("hostid", RestatedNumber), ("status", RestatedNumber)]

/-- The members of a trigger that may be restated; its hosts and items may have theirs restated. -/
def Trigger.restatements : Restatements :=
  [("triggerid", RestatedNumber), ("status", RestatedNumber), ("suppressed", RestatedNumber),
    ("flags", RestatedNumber), ("value", RestatedNumber),
    ("hosts", RestatedList (Value.Restated Host.restatements)),
    ("items", RestatedList (Value.Restated Item.restatements))]

/-- **A problem is read the same** once it is restated. -/
theorem Problem.kept_read (value value' : Value) (restated : value.Restated restatements value') :
    (Problem.read value).Kept (Problem.read value') := by
  refine kept_record restated fun members members' each => ?_
  exact ((((((((kept_required each (reads_of_kind rfl kept_integer)).map _).seq
    (kept_optional each (reads_of_kind rfl kept_integer) _)).seq
    (kept_required each (reads_of_kind rfl kept_integer))).seq
    (kept_required each (reads_of_kind rfl kept_integer))).seq
    (kept_optional each (reads_of_kind rfl kept_integer) _)).seq
    (kept_required each (reads_of_kind rfl kept_integer))).seq
    (kept_optional each (reads_of_kind rfl kept_integer) _)).seq
    (kept_optional each (reads_of_unrestated rfl text) _)

/-- **An event is read the same** once it is restated. -/
theorem Event.kept_read (value value' : Value) (restated : value.Restated restatements value') :
    (Event.read value).Kept (Event.read value') := by
  refine kept_record restated fun members members' each => ?_
  exact ((kept_required each (reads_of_kind rfl kept_integer)).map _).seq
    (kept_optional each (reads_of_kind rfl kept_truth) _)

theorem Host.kept_read (value value' : Value) (restated : value.Restated restatements value') :
    (Host.read value).Kept (Host.read value') := by
  refine kept_record restated fun members members' each => ?_
  exact (((kept_required each (reads_of_kind rfl kept_integer)).map _).seq
    (kept_optional each (reads_of_unrestated rfl text) _)).seq
    (kept_optional each (reads_of_kind rfl kept_integer) _)

theorem Item.kept_read (value value' : Value) (restated : value.Restated restatements value') :
    (Item.read value).Kept (Item.read value') := by
  refine kept_record restated fun members members' each => ?_
  exact ((kept_required each (reads_of_kind rfl kept_integer)).map _).seq
    (kept_optional each (reads_of_kind rfl kept_integer) _)

/-- **A trigger is read the same** once it, or something that it lists, is restated. -/
theorem Trigger.kept_read (value value' : Value) (restated : value.Restated restatements value') :
    (Trigger.read value).Kept (Trigger.read value') := by
  refine kept_record restated fun members members' each => ?_
  exact ((((((((kept_required each (reads_of_kind rfl kept_integer)).map _).seq
    (kept_optional each (reads_of_kind rfl kept_integer) _)).seq
    (kept_optional each (reads_of_unrestated rfl text) _)).seq
    (kept_optional each (reads_of_kind rfl kept_integer) _)).seq
    (kept_optional each (reads_of_kind rfl kept_integer) _)).seq
    (kept_optional each (reads_of_kind rfl kept_integer) _)).seq
    (kept_optional each (reads_of_kind rfl (kept_list Host.kept_read)) _)).seq
    (kept_optional each (reads_of_kind rfl (kept_list Item.kept_read)) _)

/-! ### Replies -/

section Replies

variable {α : Type} {reader : Reader α} {reply reply' : Reply} {records : List α}
  {like : Value → Value → Prop}

/-- **A reply says records**: they are what is read from the values that it delivers. -/
def Reply.Says (reader : Reader α) (reply : Reply) (records : List α) : Prop :=
  ∃ values, reply.Delivers values ∧
    Forall₂ (fun value record => reader value = .ok record) values records

/-- **A reply restates another**: it delivers as many values, each restated or as it was. -/
def Reply.Restated (like : Value → Value → Prop) (reply reply' : Reply) : Prop :=
  ∃ values values', reply.Delivers values ∧ reply'.Delivers values' ∧ Forall₂ like values values'

/-- Values that are read one by one are read the same once they are restated. -/
theorem forall₂_read_restated {values values' : List Value}
    (reads : ∀ value value', like value value' → (reader value).Kept (reader value'))
    (each : Forall₂ like values values')
    (said : Forall₂ (fun value record => reader value = .ok record) values records) :
    Forall₂ (fun value record => reader value = .ok record) values' records := by
  induction each generalizing records with
  | nil => exact said
  | cons first later ih =>
    cases said with
    | cons read rest => exact .cons (reads _ _ first _ read) (ih rest)

/-- **A restated reply says the same.** -/
theorem Reply.Says.restated (said : reply.Says reader records)
    (reads : ∀ value value', like value value' → (reader value).Kept (reader value'))
    (restated : reply.Restated like reply') : reply'.Says reader records := by
  obtain ⟨values, delivers, read⟩ := said
  obtain ⟨_, values', again, delivers', each⟩ := restated
  obtain rfl := delivers.unique again
  exact ⟨values', delivers', forall₂_read_restated reads each read⟩

namespace Query

theorem readItems_of_forall₂ {title : Text} {values : List Value}
    (said : Forall₂ (fun value record => reader value = .ok record) values records) :
    readItems title reader values = .ok records := by
  induction said with
  | nil => rfl
  | cons read rest ih =>
    rw [readItems, Checked.reported_eq_ok.mpr read]
    dsimp only
    rw [ih]
    rfl

/-- What a query makes of a reply that says records: an answer to a relative address is of no use. -/
theorem understood_of_told (said : reply.Says reader records) (address : Address) (method : Text)
    (id : Value) (title : Text) :
    understood address method id title reader (some reply) =
      if address.isRelative then
        .error (.general .value (("unknown url type: " : Text) ++ address.text.quoted))
      else .ok records := by
  obtain ⟨values, delivers, read⟩ := said
  rw [understood, Client.understood_of_delivers delivers]
  by_cases relative : address.isRelative
  · rw [if_pos relative, if_pos relative]
  · rw [if_neg relative, if_neg relative]
    exact readItems_of_forall₂ read

end Query

end Replies

end AlarmFeed
