/-
**The limits of a document.**

The reader refuses integers of more than `Decimal.digitLimit` digits and values that are nested deeper than
there are levels. What it returns is in these limits, at any depth (`Carried`), and so holds no integer that
is too long (`Value.Bounded`):

* `Says.carried` — whatever a text says as the grammar has it, word, number, text or container;
* `read_carried`, `readBytes_bounded` — the value that is read from a text or from bytes.
-/

import AlarmFeed.Json.Encoding
import AlarmFeed.Proofs.Json.Reading
import AlarmFeed.Proofs.Number.Decimal
import AlarmFeed.Proofs.Text.Fields

namespace AlarmFeed

/-- **No integer in the value has too many digits.** -/
inductive Value.Bounded : Value → Prop
  | null : Bounded .null
  | bool (truth : Bool) : Bounded (.bool truth)
  | int {n : Int} (short : Decimal.Short n) : Bounded (.int n)
  | number (x : Binary64) : Bounded (.number x)
  | text (t : Text) : Bounded (.text t)
  | bytes (content : Bytes) : Bounded (.bytes content)
  | list {items : List Value} (each : ∀ item ∈ items, Bounded item) : Bounded (.list items)
  | object {members : Members} (each : ∀ member ∈ members, Bounded member.2) :
      Bounded (.object members)

/-- **A value that JSON can carry**: its integers are not too long, and it is nested at most so deep. -/
inductive Json.Carried : Nat → Value → Prop
  | null {depth : Nat} : Carried depth .null
  | bool {depth : Nat} (truth : Bool) : Carried depth (.bool truth)
  | int {depth : Nat} {n : Int} (short : Decimal.Short n) : Carried depth (.int n)
  | number {depth : Nat} (x : Binary64) : Carried depth (.number x)
  | text {depth : Nat} (t : Text) : Carried depth (.text t)
  | list {depth : Nat} {items : List Value} (each : ∀ item ∈ items, Carried depth item) :
      Carried (depth + 1) (.list items)
  | object {depth : Nat} {members : List (Text × Value)}
      (each : ∀ member ∈ members, Carried depth member.2) : Carried (depth + 1) (.object members)

theorem Json.Carried.bounded {depth : Nat} {v : Value} (carried : Carried depth v) : v.Bounded := by
  induction carried with
  | null => exact .null
  | bool truth => exact .bool truth
  | int short => exact .int short
  | number x => exact .number x
  | text t => exact .text t
  | list each ih => exact .list ih
  | object each ih => exact .object ih

/-- What may be nested so deep may be nested deeper. -/
theorem Json.Carried.deeper {depth more : Nat} {v : Value} (carried : Carried depth v)
    (less : depth ≤ more) : Carried more v := by
  induction carried generalizing more with
  | null => exact .null
  | bool truth => exact .bool truth
  | int short => exact .int short
  | number x => exact .number x
  | text t => exact .text t
  | list each ih =>
    obtain ⟨more, rfl⟩ := Nat.exists_eq_succ_of_ne_zero (Nat.ne_of_gt (Nat.zero_lt_of_lt less))
    exact .list fun item member => ih item member (Nat.le_of_succ_le_succ less)
  | object each ih =>
    obtain ⟨more, rfl⟩ := Nat.exists_eq_succ_of_ne_zero (Nat.ne_of_gt (Nat.zero_lt_of_lt less))
    exact .object fun member inside => ih member inside (Nat.le_of_succ_le_succ less)

namespace Json

/-! ### Words and numbers -/

theorem carried_of_mem_words {depth : Nat} {pair : Text × Value} (member : pair ∈ words) :
    Carried depth pair.2 := by
  simp only [words, List.mem_cons, List.not_mem_nil, or_false] at member
  rcases member with rfl | rfl | rfl | rfl | rfl | rfl
  · exact .null
  · exact .bool true
  · exact .bool false
  · exact .number .nan
  · exact .number (.infinite false)
  · exact .number (.infinite true)

theorem SaysNumber.carried {depth : Nat} {negative : Bool} {t : Text} {v : Value}
    (told : SaysNumber negative t v) : Carried depth v := by
  cases told with
  | whole front short => exact .int (Decimal.short_signed front.some front.digits short negative)
  | point front behind => exact .number _
  | power front raised => exact .number _
  | both front behind raised => exact .number _

/-- **A word or a number** is no integer that is too long. -/
theorem SaysPlain.carried {depth : Nat} {t : Text} {v : Value} (told : SaysPlain t v) :
    Carried depth v := by
  cases told with
  | word known => exact carried_of_mem_words known
  | positive number => exact number.carried
  | negative number => exact number.carried

/-! ### Containers -/

section Parts

variable {α : Type} {container : Container} {part : Nat → Text → α → Prop} {depth : Nat} {t : Text}
  {parts : List α} {a : α}

theorem Followed.exists_part (earlier : Followed part (depth + 1) t parts) (member : a ∈ parts) :
    ∃ written, part depth written a := by
  generalize level : depth + 1 = height at earlier
  induction earlier with
  | none => cases member
  | next one _ _ _ ih =>
    obtain rfl := Nat.succ.inj level
    rcases List.mem_cons.mp member with rfl | later
    · exact ⟨_, one⟩
    · exact ih later rfl

/-- Each part of a list or an object is written somewhere in it. -/
theorem Enclosed.exists_part (each : Enclosed container part (depth + 1) t parts) (member : a ∈ parts) :
    ∃ written, part depth written a := by
  cases each with
  | empty blank => cases member
  | parts _ earlier last _ =>
    rcases List.mem_append.mp member with before | here
    · exact earlier.exists_part before
    · exact ⟨_, List.mem_singleton.mp here ▸ last⟩

end Parts

/-- **Whatever a text says** is in the limits, by induction on how deep it is nested. -/
theorem Says.carried {depth : Nat} {t : Text} {v : Value} (told : Says depth t v) :
    Carried depth v := by
  induction depth using Nat.strong_induction_on generalizing t v with
  | _ depth ih =>
    cases told with
    | plain plain => exact plain.carried
    | text text => exact .text _
    | list each =>
      obtain ⟨inner, rfl⟩ := each.exists_succ
      refine .list fun item member => ?_
      obtain ⟨written, told⟩ := each.exists_part member
      exact ih inner (Nat.lt_succ_self inner) told
    | object each =>
      obtain ⟨inner, rfl⟩ := each.exists_succ
      refine .object fun member inside => ?_
      obtain ⟨written, ⟨named, told⟩⟩ := each.exists_part (Fields.mem_ofPairs inside)
      exact ih inner (Nat.lt_succ_self inner) told

/-! ### Texts and bytes -/

/-- **What a text says** is in the limits. -/
theorem read_carried {depth : Nat} {t : Text} {v : Value} (found : read t depth = .ok v) :
    Carried depth v := by
  obtain ⟨before, written, behind, _, _, _, told⟩ := read_eq_ok_iff.mp found
  exact told.carried

theorem readBytes_bounded {depth : Nat} {content : Bytes} {v : Value}
    (found : readBytes content depth = .ok v) : v.Bounded := by
  rw [readBytes] at found
  split at found
  · exact (read_carried found).bounded
  · cases found

end Json

end AlarmFeed
