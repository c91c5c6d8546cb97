/-
**What can be printed.**

A value can be printed if its integers are not too long and it is nested at most as deep as there are
levels left, where a list or an object takes a level only if it has parts (`Value.Printable`).

* `Decimal.not_short_pow` — there are integers that cannot be printed, the least after a run of nines;
* `Value.obstacle?_eq_none_iff` — nothing is in the way of the values that can be printed, and of no
  others, whatever the number of levels.
-/

import AlarmFeed.Proofs.Number.Decimal
import AlarmFeed.Value

namespace AlarmFeed

/-! ### Integers -/

namespace Decimal

/-- A digit more than can be printed. -/
theorem not_short_pow : ¬Short ((10 ^ digitLimit : Nat) : Int) := by
  intro short
  rw [Short, Int.natAbs_natCast] at short
  have below := value_lt (digits (10 ^ digitLimit)) (isDigit_of_mem_digits _)
  rw [value_digits] at below
  exact Nat.lt_irrefl _ (Nat.lt_of_lt_of_le below (Nat.pow_le_pow_right (by decide) short))

end Decimal

/-! ### Values -/

namespace Value

/-- **A value that can be printed** with so many levels left. -/
inductive Printable : Nat → Value → Prop
  | null {depth : Nat} : Printable depth .null
  | bool {depth : Nat} (truth : Bool) : Printable depth (.bool truth)
  | int {depth : Nat} {n : Int} (short : Decimal.Short n) : Printable depth (.int n)
  | number {depth : Nat} (x : Binary64) : Printable depth (.number x)
  | text {depth : Nat} (t : Text) : Printable depth (.text t)
  | bytes {depth : Nat} (content : Bytes) : Printable depth (.bytes content)
  | noItems {depth : Nat} : Printable depth (.list [])
  | list {depth : Nat} {items : List Value} (each : ∀ item ∈ items, Printable depth item) :
      Printable (depth + 1) (.list items)
  | noMembers {depth : Nat} : Printable depth (.object [])
  | object {depth : Nat} {members : List (Text × Value)}
      (each : ∀ member ∈ members, Printable depth member.2) : Printable (depth + 1) (.object members)

theorem printable_int_iff {depth : Nat} {n : Int} :
    Printable depth (.int n) ↔ Decimal.Short n :=
  ⟨fun | .int short => short, .int⟩

theorem printable_list_cons_iff {depth : Nat} {item : Value} {items : List Value} :
    Printable (depth + 1) (.list (item :: items)) ↔
      Printable depth item ∧ Printable (depth + 1) (.list items) := by
  constructor
  · rintro (_ | _)
    rename_i each
    exact ⟨each item List.mem_cons_self,
      .list fun other member => each other (List.mem_cons_of_mem item member)⟩
  · rintro ⟨first, _ | _⟩
    · exact .list fun other member => List.mem_singleton.mp member ▸ first
    · rename_i each
      exact .list (List.forall_mem_cons.mpr ⟨first, each⟩)

theorem printable_object_cons_iff {depth : Nat} {member : Text × Value}
    {members : List (Text × Value)} : Printable (depth + 1) (.object (member :: members)) ↔
      Printable depth member.2 ∧ Printable (depth + 1) (.object members) := by
  constructor
  · rintro (_ | _)
    rename_i each
    exact ⟨each member List.mem_cons_self,
      .object fun other inside => each other (List.mem_cons_of_mem member inside)⟩
  · rintro ⟨first, _ | _⟩
    · exact .object fun other inside => List.mem_singleton.mp inside ▸ first
    · rename_i each
      exact .object (List.forall_mem_cons.mpr ⟨first, each⟩)

mutual

/-- **Nothing is in the way of a value that can be printed**, by recursion on the value. -/
theorem obstacle?_eq_none_iff : ∀ (value : Value) (depth : Nat),
    value.obstacle? depth = none ↔ Printable depth value
  | .null, _ => iff_of_true rfl .null
  | .bool truth, _ => iff_of_true rfl (.bool truth)
  | .int n, depth => by
    rw [printable_int_iff, obstacle?]
    split
    · exact iff_of_true rfl ‹_›
    · exact iff_of_false (Option.some_ne_none _) ‹_›
  | .number x, _ => iff_of_true rfl (.number x)
  | .text t, _ => iff_of_true rfl (.text t)
  | .bytes content, _ => iff_of_true rfl (.bytes content)
  | .list items, depth => itemObstacle?_eq_none_iff items depth
  | .object members, depth => memberObstacle?_eq_none_iff members depth

/-- Nor of a list of them. -/
theorem itemObstacle?_eq_none_iff : ∀ (items : List Value) (depth : Nat),
    itemObstacle? items depth = none ↔ Printable depth (.list items)
  | [], _ => iff_of_true rfl .noItems
  | _ :: _, 0 => iff_of_false (Option.some_ne_none _) nofun
  | item :: items, depth + 1 => by
    rw [printable_list_cons_iff, itemObstacle?, Option.or_eq_none_iff,
      obstacle?_eq_none_iff item depth, itemObstacle?_eq_none_iff items (depth + 1)]

/-- Nor of an object of them. -/
theorem memberObstacle?_eq_none_iff : ∀ (members : List (Text × Value)) (depth : Nat),
    memberObstacle? members depth = none ↔ Printable depth (.object members)
  | [], _ => iff_of_true rfl .noMembers
  | _ :: _, 0 => iff_of_false (Option.some_ne_none _) nofun
  | (name, value) :: members, depth + 1 => by
    rw [printable_object_cons_iff, memberObstacle?, Option.or_eq_none_iff,
      obstacle?_eq_none_iff value depth, memberObstacle?_eq_none_iff members (depth + 1)]

end

end Value

end AlarmFeed
