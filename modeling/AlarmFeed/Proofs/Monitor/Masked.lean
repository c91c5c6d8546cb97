/-
**Lists that differ in names alone.**

The name of a problem and the name of a host are not to be seen. Values that differ in these alone are
read alike: to the same record but for its names (`Problem.read_masked`, `Trigger.read_masked`), or to
alike issues. What a query makes of replies that list such values is therefore `Alike` too
(`Query.understood_masked`): records that are the same one by one but for their names, the same fault, or
two reports that are alike.
-/

import AlarmFeed.Proofs.Monitor.Query
import AlarmFeed.Proofs.Schema.Alike

namespace AlarmFeed

open List Relator Schema

/-! ### Records -/

/-- Two values that may differ under a name: texts. -/
def TextsUnder (field name : Text) (value value' : Value) : Prop :=
  name = field ∧ ∃ t t', value = .text t ∧ value' = .text t'

/-- **Two problems as they are listed**, the same but for their names. -/
def MaskedProblem : Value → Value → Prop :=
  Value.Masked (TextsUnder "name")

/-- **Two hosts as they are listed**, the same but for their names. -/
def MaskedHost : Value → Value → Prop :=
  Value.Masked (TextsUnder "host")

/-- Two values that may differ under a name: lists of hosts that are the same but for their names. -/
def HostsUnder (name : Text) (value value' : Value) : Prop :=
  name = "hosts" ∧ ∃ hosts hosts', value = .list hosts ∧ value' = .list hosts' ∧
    Forall₂ MaskedHost hosts hosts'

/-- **Two triggers as they are listed**, the same but for the names of their hosts. -/
def MaskedTrigger : Value → Value → Prop :=
  Value.Masked HostsUnder

/-- A problem without its name. -/
def Problem.unnamed (problem : Problem) : Problem :=
  { problem with name := [] }

/-- A host without its name. -/
def Host.unnamed (host : Host) : Host :=
  { host with name := [] }

/-- A trigger without the names of its hosts. -/
def Trigger.unnamed (trigger : Trigger) : Trigger :=
  { trigger with hosts := trigger.hosts.map Host.unnamed }

/-! ### Reading them -/

/-- Texts are read as texts, whatever they are. -/
theorem text_masked {field name : Text} (value value' : Value)
    (values : value = value' ∨ TextsUnder field name value value') :
    Checked.Alike (fun _ _ => True) (Schema.text value) (Schema.text value') := by
  rcases values with rfl | ⟨_, t, t', rfl, rfl⟩
  · exact Checked.alike_refl (fun _ => trivial) _
  · exact .ok trivial

theorem TextsUnder.fixed {field name : Text} (other : name ≠ field) (value value' : Value) :
    ¬TextsUnder field name value value' :=
  fun differ => other differ.1

theorem HostsUnder.fixed {name : Text} (other : name ≠ "hosts") (value value' : Value) :
    ¬HostsUnder name value value' :=
  fun differ => other differ.1

/-- **Problems that differ in their names alone** are read alike. -/
theorem Problem.read_masked (value value' : Value) (masked : MaskedProblem value value') :
    Checked.Alike (fun problem problem' => problem.unnamed = problem'.unnamed)
      (Problem.read value) (Problem.read value') := by
  refine alike_record masked fun members members' each => ?_
  have build : (Eq ⇒ Eq ⇒ Eq ⇒ Eq ⇒ Eq ⇒ Eq ⇒ Eq ⇒ (fun _ _ => True) ⇒
      fun problem problem' => problem.unnamed = problem'.unnamed) Problem.mk Problem.mk := by
    rintro _ _ rfl _ _ rfl _ _ rfl _ _ rfl _ _ rfl _ _ rfl _ _ rfl _ _ _
    rfl
  exact (((((((Checked.Alike.map build
    (alike_required_fixed (TextsUnder.fixed (by decide)) each)).seq
    (alike_optional_fixed (TextsUnder.fixed (by decide)) each _)).seq
    (alike_required_fixed (TextsUnder.fixed (by decide)) each)).seq
    (alike_required_fixed (TextsUnder.fixed (by decide)) each)).seq
    (alike_optional_fixed (TextsUnder.fixed (by decide)) each _)).seq
    (alike_required_fixed (TextsUnder.fixed (by decide)) each)).seq
    (alike_optional_fixed (TextsUnder.fixed (by decide)) each _)).seq
    (alike_optional each text_masked trivial)

/-- **Hosts that differ in their names alone** are read alike. -/
theorem Host.read_masked (value value' : Value) (masked : MaskedHost value value') :
    Checked.Alike (fun host host' => host.unnamed = host'.unnamed)
      (Host.read value) (Host.read value') := by
  refine alike_record masked fun members members' each => ?_
  have build : (Eq ⇒ (fun _ _ => True) ⇒ Eq ⇒
      fun host host' => host.unnamed = host'.unnamed) Host.mk Host.mk := by
    rintro _ _ rfl _ _ _ _ _ rfl
    rfl
  exact ((Checked.Alike.map build
    (alike_required_fixed (TextsUnder.fixed (by decide)) each)).seq
    (alike_optional each text_masked trivial)).seq
    (alike_optional_fixed (TextsUnder.fixed (by decide)) each _)

/-- Lists of hosts that differ in their names alone are read alike. -/
theorem hosts_masked (value value' : Value)
    (values : value = value' ∨ HostsUnder "hosts" value value') :
    Checked.Alike (Forall₂ fun host host' => host.unnamed = host'.unnamed)
      (Schema.list Host.read value) (Schema.list Host.read value') := by
  rcases values with rfl | ⟨_, hosts, hosts', rfl, rfl, each⟩
  · exact Checked.alike_refl (T := Forall₂ fun host host' : Host => host.unnamed = host'.unnamed)
      (fun _ => forall₂_same.mpr fun _ _ => rfl) _
  · exact alike_list each Host.read_masked

theorem map_unnamed_of_forall₂ {α : Type} {unnamed : α → α} {records records' : List α}
    (each : Forall₂ (fun record record' => unnamed record = unnamed record') records records') :
    records.map unnamed = records'.map unnamed := by
  induction each with
  | nil => rfl
  | cons first later ih => rw [List.map_cons, List.map_cons, first, ih]

/-- **Triggers that differ in the names of their hosts alone** are read alike. -/
theorem Trigger.read_masked (value value' : Value) (masked : MaskedTrigger value value') :
    Checked.Alike (fun trigger trigger' => trigger.unnamed = trigger'.unnamed)
      (Trigger.read value) (Trigger.read value') := by
  refine alike_record masked fun members members' each => ?_
  have build : (Eq ⇒ Eq ⇒ Eq ⇒ Eq ⇒ Eq ⇒ Eq ⇒
      (Forall₂ fun host host' => host.unnamed = host'.unnamed) ⇒ Eq ⇒
      fun trigger trigger' => trigger.unnamed = trigger'.unnamed) Trigger.mk Trigger.mk := by
    rintro _ _ rfl _ _ rfl _ _ rfl _ _ rfl _ _ rfl _ _ rfl hosts hosts' same _ _ rfl
    rw [Trigger.unnamed, Trigger.unnamed, map_unnamed_of_forall₂ same]
  exact (((((((Checked.Alike.map build
    (alike_required_fixed (HostsUnder.fixed (by decide)) each)).seq
    (alike_optional_fixed (HostsUnder.fixed (by decide)) each _)).seq
    (alike_optional_fixed (HostsUnder.fixed (by decide)) each _)).seq
    (alike_optional_fixed (HostsUnder.fixed (by decide)) each _)).seq
    (alike_optional_fixed (HostsUnder.fixed (by decide)) each _)).seq
    (alike_optional_fixed (HostsUnder.fixed (by decide)) each _)).seq
    (alike_optional each hosts_masked .nil)).seq
    (alike_optional_fixed (HostsUnder.fixed (by decide)) each _)

/-! ### Results -/

/-- **Two faults are alike**: the same, or two reports that are alike. -/
inductive Fault.Alike : Fault → Fault → Prop
  | same (fault : Fault) : Alike fault fault
  | reports {report report' : Report} (alike : report.Alike report') :
      Alike (.invalid report) (.invalid report')

/-- **Two results are alike**: related, or faults that are alike. -/
inductive AlikeResults {α : Type} (R : α → α → Prop) : Except Fault α → Except Fault α → Prop
  | ok {a b : α} (related : R a b) : AlikeResults R (.ok a) (.ok b)
  | error {fault fault' : Fault} (alike : fault.Alike fault') :
      AlikeResults R (.error fault) (.error fault')

theorem AlikeResults.map {α β : Type} {R : α → α → Prop} {S : β → β → Prop} {f g : α → β}
    {x y : Except Fault α} (alike : AlikeResults R x y) (functions : (R ⇒ S) f g) :
    AlikeResults S (x.map f) (y.map g) := by
  cases alike with
  | ok related => exact .ok (functions related)
  | error alike => exact .error alike

/-- **A reply lists values**: it is a success whose object has them as the result, and no error. -/
def Reply.Lists (reply : Reply) (values : List Value) : Prop :=
  ∃ body members, reply = .answer 200 body ∧ Json.readBytes body = .ok (.object members) ∧
    Fields.get? "error" members = Option.none ∧ Fields.get? "result" members = some (.list values)

/-- Two replies list values that are related one by one, or are both missing. -/
inductive MaskedReplies (like : Value → Value → Prop) : Option Reply → Option Reply → Prop
  | missing : MaskedReplies like none none
  | lists {reply reply' : Reply} {values values' : List Value} (lists : reply.Lists values)
      (lists' : reply'.Lists values') (each : Forall₂ like values values') :
      MaskedReplies like (some reply) (some reply')

theorem Reply.Lists.delivers {reply : Reply} {values : List Value} (lists : reply.Lists values) :
    reply.Delivers values := by
  obtain ⟨body, members, rfl, read, noError, result⟩ := lists
  exact ⟨200, body, members, rfl, by decide, read, noError, result⟩

namespace Query

section Results

variable {α : Type} {R : α → α → Prop} {like : Value → Value → Prop} {title : Text}
  {reader : Schema.Reader α}

theorem readItems_masked {values values' : List Value} (each : Forall₂ like values values')
    (reads : ∀ value value', like value value' → Checked.Alike R (reader value) (reader value')) :
    AlikeResults (Forall₂ R) (readItems title reader values) (readItems title reader values') := by
  induction each with
  | nil => exact .ok .nil
  | cons first later ih =>
    rw [readItems, readItems]
    rcases (reads _ _ first).reported title with
      ⟨item, item', read, read', related⟩ | ⟨report, report', failed, failed', alike⟩
    · rw [read, read']
      exact ih.map fun _ _ rest => .cons related rest
    · rw [failed, failed']
      exact .error (.reports alike)

/-- **What a query makes of replies that list masked values** is alike. -/
theorem understood_masked {reply reply' : Option Reply} (replies : MaskedReplies like reply reply')
    (reads : ∀ value value', like value value' → Checked.Alike R (reader value) (reader value'))
    (address : Address) (method : Text) (id : Value) :
    AlikeResults (Forall₂ R) (understood address method id title reader reply)
      (understood address method id title reader reply') := by
  cases replies with
  | missing => exact .error (.same _)
  | lists lists lists' each =>
    rw [understood, understood, Client.understood_of_delivers lists.delivers,
      Client.understood_of_delivers lists'.delivers]
    by_cases relative : address.isRelative
    · rw [if_pos relative, if_pos relative]
      exact .error (.same _)
    · rw [if_neg relative, if_neg relative]
      exact readItems_masked each reads

/-- Replies that list the same values say the same. -/
theorem understood_congr {reply reply' : Option Reply} (replies : MaskedReplies Eq reply reply')
    (address : Address) (method : Text) (id : Value) :
    understood address method id title reader reply =
      understood address method id title reader reply' := by
  cases replies with
  | missing => rfl
  | lists lists lists' each =>
    obtain rfl := forall₂_eq_eq_eq ▸ each
    rw [understood, understood, Client.understood_of_delivers lists.delivers,
      Client.understood_of_delivers lists'.delivers]

end Results

end Query

end AlarmFeed
