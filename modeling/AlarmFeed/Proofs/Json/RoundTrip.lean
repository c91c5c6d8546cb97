/-
**Values are read back.**

What is written for a value that JSON can carry (`Carried`) is read as some value, wherever it stands,
and the reader stops behind it (`ReadsAs`). Floating point numbers are read as floating point numbers,
texts as texts, and containers item by item.

* `Carried.exists_readsAs` — so every value that can be carried is read as one value;
* `Portable.readsAs` — a portable value (`Portable`) is read as itself: it holds no floating point
  number, its texts hold no surrogates, and the names of an object are different;
* `Survives.readsAs` — and so is, in the middle of any other text, what is read back on its own.

What a value is read as is what its notation says (`readsAs_iff`), so all of this is about the grammar and
not about the readers.
-/

import AlarmFeed.Proofs.Json.Limits
import AlarmFeed.Proofs.Json.Numbers
import AlarmFeed.Proofs.Json.Reading
import Mathlib.Data.List.Forall2

namespace AlarmFeed.Json

/-! ### Reading a value as another -/

/-- **A value is read as another** wherever it was written, and the reader stops behind it; as many
levels of nesting are left as it needs. -/
def ReadsAs (depth : Nat) (v said : Value) : Prop :=
  ∀ left fuel rest, depth ≤ left → (write v).length ≤ fuel → Stops rest →
    readValue fuel left (write v ++ rest) = .ok (said, rest)

/-- A member is read as another: its name, and its value. -/
def ReadsMemberAs (depth : Nat) (member said : Text × Value) : Prop :=
  ReadsTextAs member.1 said.1 ∧ ReadsAs depth member.2 said.2

/-- **What a value is read as** is what its notation says. -/
theorem readsAs_iff {depth : Nat} {v said : Value} :
    ReadsAs depth v said ↔ Says depth (write v) said := by
  constructor
  · intro reads
    have whole := reads depth (write v).length [] (Nat.le_refl depth) (Nat.le_refl _) stops_nil
    rw [List.append_nil] at whole
    obtain ⟨written, told, parted⟩ := sound_value depth whole
    rwa [parted, List.append_nil]
  · intro told left fuel rest within enough stops
    exact (completes_value within).reads told enough stops

theorem ReadsTextAs.saysText {t said : Text} (reads : ReadsTextAs t said) :
    SaysText (writeText t) said := by
  obtain ⟨inner, opened, closed⟩ := reads []
  obtain ⟨body, told, parted⟩ := saysText_of_readText closed
  rw [List.append_nil] at opened parted
  rwa [opened, parted]

/-! ### Items and members -/

section Parts

variable {α : Type} {part : Nat → Text → α → Prop} {depth : Nat} {pieces : List Text} {parts : List α}

/-- Pieces that are joined by a comma and a blank: all but the last have a comma behind them. -/
theorem exists_followed (each : List.Forall₂ (part depth) pieces parts) (some : pieces ≠ []) :
    ∃ front others written a, Text.joinWith ", " pieces = front ++ written ∧ parts = others ++ [a] ∧
      Followed part (depth + 1) front others ∧ part depth written a := by
  induction each with
  | nil => exact absurd rfl some
  | @cons piece a pieces parts first later ih =>
    cases later with
    | nil => exact ⟨[], [], piece, a, rfl, rfl, .none, first⟩
    | cons second more =>
      obtain ⟨front, others, written, last, joined, same, followed, final⟩ :=
        ih (List.cons_ne_nil _ _)
      have blank : Blank [CodePoint.ofChar ' '] := by decide
      refine ⟨_, a :: others, written, last, ?_, by rw [same]; rfl,
        .next first blank_nil blank followed, final⟩
      rw [Text.joinWith, joined, List.append_assoc, List.append_assoc]
      rfl

/-- **Joined pieces in brackets** are the parts of a list or an object. -/
theorem enclosed_joinWith (container : Container) (each : List.Forall₂ (part depth) pieces parts) :
    Enclosed container part (depth + 1)
      (container.opening :: (Text.joinWith ", " pieces ++ [container.closing])) parts := by
  cases each with
  | nil => exact .empty blank_nil
  | cons first later =>
    obtain ⟨front, others, written, last, joined, same, followed, final⟩ :=
      exists_followed (.cons first later) (List.cons_ne_nil _ _)
    rw [joined, same, List.append_assoc]
    exact .parts blank_nil followed final blank_nil

theorem forall₂_writeItems {items said : List Value} (each : List.Forall₂ (ReadsAs depth) items said) :
    List.Forall₂ (Says depth) (writeItems items) said := by
  induction each with
  | nil => rw [writeItems]; exact .nil
  | cons first later ih => rw [writeItems]; exact .cons (readsAs_iff.mp first) ih

theorem forall₂_writeMembers {members said : List (Text × Value)}
    (each : List.Forall₂ (ReadsMemberAs depth) members said) :
    List.Forall₂ (SaysMember depth) (writeMembers members) said := by
  induction each with
  | nil => rw [writeMembers]; exact .nil
  | @cons member one members others first later ih =>
    obtain ⟨name, item⟩ := member
    have blank : Blank [CodePoint.ofChar ' '] := by decide
    rw [writeMembers]
    exact .cons (.member (.named first.1.saysText blank_nil blank) (readsAs_iff.mp first.2)) ih

end Parts

/-! ### One lemma for each kind of value -/

section Kinds

variable {depth : Nat}

theorem readsAs_null : ReadsAs depth .null .null := by
  have known : (("null" : Text), Value.null) ∈ words := by simp [words]
  rw [readsAs_iff, write]
  exact .plain (.word known)

theorem readsAs_bool (truth : Bool) : ReadsAs depth (.bool truth) (.bool truth) := by
  have yes : (("true" : Text), Value.bool true) ∈ words := by simp [words]
  have no : (("false" : Text), Value.bool false) ∈ words := by simp [words]
  rw [readsAs_iff]
  cases truth <;> rw [write]
  · exact .plain (.word no)
  · exact .plain (.word yes)

theorem readsAs_int {n : Int} (short : Decimal.Short n) : ReadsAs depth (.int n) (.int n) := by
  rw [readsAs_iff, write]
  exact .plain (saysPlain_ofInt short)

theorem exists_readsAs_number (x : Binary64) : ∃ y, ReadsAs depth (.number x) (.number y) := by
  obtain ⟨y, told⟩ := exists_saysPlain_number x
  refine ⟨y, ?_⟩
  rw [readsAs_iff, write]
  exact .plain told

theorem readsAs_text {t said : Text} (reads : ReadsTextAs t said) :
    ReadsAs depth (.text t) (.text said) := by
  rw [readsAs_iff, write]
  exact .text reads.saysText

/-- **A list is read item by item.** -/
theorem readsAs_list {items said : List Value} (each : List.Forall₂ (ReadsAs depth) items said) :
    ReadsAs (depth + 1) (.list items) (.list said) := by
  rw [readsAs_iff, write]
  exact .list (enclosed_joinWith .list (forall₂_writeItems each))

/-- **An object is read member by member**; of members with one name only the last is left. -/
theorem readsAs_object {members said : List (Text × Value)}
    (each : List.Forall₂ (ReadsMemberAs depth) members said) :
    ReadsAs (depth + 1) (.object members) (.object (Fields.ofPairs said)) := by
  rw [readsAs_iff, write]
  exact .object (enclosed_joinWith .object (forall₂_writeMembers each))

end Kinds

/-! ### Every value that can be carried -/

theorem exists_forall₂ {α β : Type} {related : α → β → Prop} {l : List α}
    (each : ∀ a ∈ l, ∃ b, related a b) : ∃ l', List.Forall₂ related l l' := by
  induction l with
  | nil => exact ⟨[], .nil⟩
  | cons a l ih =>
    obtain ⟨b, first⟩ := each a List.mem_cons_self
    obtain ⟨l', later⟩ := ih fun other member => each other (List.mem_cons_of_mem a member)
    exact ⟨b :: l', .cons first later⟩

/-- **Every value that can be carried** is read as some value. -/
theorem Carried.exists_readsAs {depth : Nat} {v : Value} (carried : Carried depth v) :
    ∃ said, ReadsAs depth v said := by
  induction carried with
  | null => exact ⟨_, readsAs_null⟩
  | bool truth => exact ⟨_, readsAs_bool truth⟩
  | int short => exact ⟨_, readsAs_int short⟩
  | number x =>
    obtain ⟨y, reads⟩ := exists_readsAs_number x
    exact ⟨_, reads⟩
  | text t =>
    obtain ⟨said, reads⟩ := exists_readsTextAs t
    exact ⟨_, readsAs_text reads⟩
  | list each ih =>
    obtain ⟨said, reads⟩ := exists_forall₂ ih
    exact ⟨_, readsAs_list reads⟩
  | @object depth members each ih =>
    have both : ∀ member ∈ members, ∃ said, ReadsMemberAs depth member said := by
      intro member inside
      obtain ⟨name, named⟩ := exists_readsTextAs member.1
      obtain ⟨item, valued⟩ := ih member inside
      exact ⟨(name, item), named, valued⟩
    obtain ⟨said, reads⟩ := exists_forall₂ both
    exact ⟨_, readsAs_object reads⟩

/-- **What is written for a value alone** says what it is read as. -/
theorem ReadsAs.read {depth limit : Nat} {v said : Value} (reads : ReadsAs depth v said)
    (within : depth ≤ limit) : read (write v) limit = .ok said := by
  have whole : ReadsAs limit v said :=
    fun left fuel rest enough => reads left fuel rest (Nat.le_trans within enough)
  refine read_eq_ok_iff.mpr ⟨[], write v, [], ?_, blank_nil, blank_nil, readsAs_iff.mp whole⟩
  rw [List.nil_append, List.append_nil]

/-! ### Values that are read as themselves -/

/-- **A value that JSON carries without loss**: nested at most so deep, its integers not too long, its
texts without surrogates, and the names of an object different. -/
inductive Portable : Nat → Value → Prop
  | null {depth : Nat} : Portable depth .null
  | bool {depth : Nat} (truth : Bool) : Portable depth (.bool truth)
  | int {depth : Nat} {n : Int} (short : Decimal.Short n) : Portable depth (.int n)
  | text {depth : Nat} {t : Text} (scalar : ∀ c ∈ t, c.isSurrogate = false) :
      Portable depth (.text t)
  | list {depth : Nat} {items : List Value} (each : ∀ item ∈ items, Portable depth item) :
      Portable (depth + 1) (.list items)
  | object {depth : Nat} {members : List (Text × Value)}
      (distinct : (members.map Prod.fst).Nodup)
      (names : ∀ member ∈ members, ∀ c ∈ member.1, c.isSurrogate = false)
      (each : ∀ member ∈ members, Portable depth member.2) : Portable (depth + 1) (.object members)

/-- An object whose names are those of a program. -/
theorem Portable.object_of_names {depth : Nat} {members : List (Text × Value)}
    (distinct : (members.map Prod.fst).Nodup)
    (each : ∀ member ∈ members, (∃ name, member.1 = Text.ofString name) ∧ Portable depth member.2) :
    Portable (depth + 1) (.object members) := by
  refine .object distinct ?_ fun member inside => (each member inside).2
  intro member inside
  obtain ⟨⟨name, known⟩, _⟩ := each member inside
  rw [known]
  exact Text.scalar_ofString name

/-- **A portable value is read as itself**, by induction on why it is portable. -/
theorem Portable.readsAs {depth : Nat} {v : Value} (portable : Portable depth v) :
    ReadsAs depth v v := by
  induction portable with
  | null => exact readsAs_null
  | bool truth => exact readsAs_bool truth
  | int short => exact readsAs_int short
  | text scalar => exact readsAs_text (readsTextAs_self (Text.Scalar.unpaired scalar))
  | list each ih => exact readsAs_list (List.forall₂_same.mpr ih)
  | @object depth members distinct names each ih =>
    have reads : List.Forall₂ (ReadsMemberAs depth) members members := by
      refine List.forall₂_same.mpr ?_
      intro member inside
      have unpaired := Text.Scalar.unpaired (names member inside)
      exact ⟨readsTextAs_self unpaired, ih member inside⟩
    have whole := readsAs_object reads
    rwa [Fields.ofPairs_of_nodup distinct] at whole

theorem Portable.carried {depth : Nat} {v : Value} (portable : Portable depth v) :
    Carried depth v := by
  induction portable with
  | null => exact .null
  | bool truth => exact .bool truth
  | int short => exact .int short
  | text scalar => exact .text _
  | list each ih => exact .list ih
  | object distinct names each ih => exact .object ih

/-- **What was written for a portable value** says that value. -/
theorem read_write {depth limit : Nat} {v : Value} (portable : Portable depth v)
    (within : depth ≤ limit) : read (write v) limit = .ok v :=
  portable.readsAs.read within

/-- **A value that survives a round trip**: JSON can carry it, and what was written for it says it. -/
structure Survives (depth : Nat) (v : Value) : Prop where
  carried : Carried depth v
  back : read (write v) = .ok v

/-- **What survives on its own** is read as itself everywhere: it is read as some value, and as the same
one everywhere. -/
theorem Survives.readsAs {depth : Nat} {v : Value} (survives : Survives depth v)
    (within : depth ≤ depthLimit) : ReadsAs depth v v := by
  obtain ⟨said, reads⟩ := survives.carried.exists_readsAs
  have same : said = v := Except.ok.inj ((reads.read within).symm.trans survives.back)
  rwa [same] at reads

end AlarmFeed.Json
