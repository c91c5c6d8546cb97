/-
**Values that are restated as texts.**

A value is restated (`RestatedNumber`, `RestatedTruth`) if the text of it stands in its place. An object
may have some of its members restated, each as its name allows (`Value.Restated`), a list some of its
items (`RestatedList`).

What passes a check passes it as the same once it is restated (`Checked.Kept`). Each way to combine checks
keeps this: `Kept.map`, `Kept.seq`, `kept_required`, `kept_optional`, `kept_record` and `kept_list`. The
two readers that meet a restated value are `kept_integer` and `kept_truth`.
-/

import AlarmFeed.Proofs.Schema.Accepted
import AlarmFeed.Proofs.Schema.Alike
import AlarmFeed.Proofs.Schema.Notation

namespace AlarmFeed

open List

/-! ### Restated values -/

/-- **An integer is restated** as the text of it. -/
inductive RestatedNumber : Value → Value → Prop
  | number {n : Int} (few : (Decimal.digits n.natAbs).length < Decimal.digitLimit) :
      RestatedNumber (.int n) (.text (Decimal.ofInt n))

/-- **A truth value is restated** as one or zero. -/
inductive RestatedTruth : Value → Value → Prop
  | yes : RestatedTruth (.bool true) (.text "1")
  | no : RestatedTruth (.bool false) (.text "0")

/-- Two lists whose items are related one by one. -/
def RestatedList (like : Value → Value → Prop) (value value' : Value) : Prop :=
  ∃ values values', value = .list values ∧ value' = .list values' ∧ Forall₂ like values values'

/-- How the value under each name may be restated; under any other name it may not. -/
abbrev Restatements := Fields (Value → Value → Prop)

/-- Two values that may differ under a name: one restates the other. -/
def Restatements.Under (kinds : Restatements) (name : Text) (value value' : Value) : Prop :=
  ∃ kind, Fields.get? name kinds = some kind ∧ kind value value'

/-- **Two values are the same but for restated members.** -/
def Value.Restated (kinds : Restatements) : Value → Value → Prop :=
  Value.Masked kinds.Under

namespace Schema

/-! ### Kept checks -/

/-- **A check is kept by another** if what passes the first passes the second, as the same. -/
def Checked.Kept {α : Type} (x y : Checked α) : Prop :=
  ∀ a, x = .ok a → y = .ok a

section Checks

variable {α β : Type}

namespace Checked

theorem kept_refl (x : Checked α) : x.Kept x :=
  fun _ passed => passed

namespace Kept

theorem seq {f g : Checked (α → β)} {x y : Checked α} (functions : f.Kept g) (arguments : x.Kept y) :
    Kept (f <*> x) (g <*> y) := by
  intro b passed
  obtain ⟨h, a, passedFunction, passedArgument, rfl⟩ := seq_eq_ok.mp passed
  exact seq_eq_ok.mpr ⟨h, a, functions h passedFunction, arguments a passedArgument, rfl⟩

theorem map {x y : Checked α} (kept : x.Kept y) (f : α → β) : Kept (f <$> x) (f <$> y) := by
  intro b passed
  obtain ⟨a, inner, rfl⟩ := map_eq_ok.mp passed
  exact map_eq_ok.mpr ⟨a, kept a inner, rfl⟩

theorem under {x y : Checked α} (kept : x.Kept y) (step : Step) :
    Kept (x.under step) (y.under step) :=
  fun a passed => under_eq_ok.mpr (kept a (under_eq_ok.mp passed))

end Kept

end Checked

/-! ### Fields, records and lists -/

variable {kinds : Restatements} {members members' : Members} {name title : Text} {reader : Reader α}

/-- A value that may be restated in one way is read the same if restating it so keeps it. -/
theorem reads_of_kind {kind : Value → Value → Prop} (known : Fields.get? name kinds = some kind)
    (reads : ∀ value value', kind value value' → (reader value).Kept (reader value'))
    (value value' : Value) (values : value = value' ∨ kinds.Under name value value') :
    (reader value).Kept (reader value') := by
  rcases values with rfl | ⟨other, found, restated⟩
  · exact Checked.kept_refl _
  · obtain rfl : kind = other := Option.some.inj (known.symm.trans found)
    exact reads value value' restated

/-- So is one that may not be restated. -/
theorem reads_of_unrestated (unknown : Fields.get? name kinds = none) (reader : Reader α)
    (value value' : Value) (values : value = value' ∨ kinds.Under name value value') :
    (reader value).Kept (reader value') := by
  rcases values with rfl | ⟨kind, found, _⟩
  · exact Checked.kept_refl _
  · rw [unknown] at found
    cases found

theorem kept_required (each : Forall₂ (MaskedMember kinds.Under) members members')
    (reads : ∀ value value', value = value' ∨ kinds.Under name value value' →
      (reader value).Kept (reader value')) :
    (required name reader members).Kept (required name reader members') := by
  rw [required, required]
  rcases Fields.get?_masked each name with ⟨none, none'⟩ | ⟨value, value', some, some', values⟩
  · rw [none, none']
    intro a passed
    cases passed
  · rw [some, some']
    exact (reads value value' values).under _

theorem kept_optional (each : Forall₂ (MaskedMember kinds.Under) members members')
    (reads : ∀ value value', value = value' ∨ kinds.Under name value value' →
      (reader value).Kept (reader value')) (default : α) :
    (optional name reader default members).Kept (optional name reader default members') := by
  rw [optional, optional]
  rcases Fields.get?_masked each name with ⟨none, none'⟩ | ⟨value, value', some, some', values⟩
  · rw [none, none']
    exact Checked.kept_refl _
  · rw [some, some']
    exact (reads value value' values).under _

theorem kept_record {fields : Members → Checked α} {value value' : Value}
    (restated : value.Restated kinds value')
    (reads : ∀ members members', Forall₂ (MaskedMember kinds.Under) members members' →
      (fields members).Kept (fields members')) :
    (record title fields value).Kept (record title fields value') := by
  cases restated with
  | same value => exact Checked.kept_refl _
  | object each => exact reads _ _ each

theorem kept_items {like : Value → Value → Prop} {values values' : List Value}
    (each : Forall₂ like values values')
    (reads : ∀ value value', like value value' → (reader value).Kept (reader value'))
    (position : Nat) :
    (items reader position values).Kept (items reader position values') := by
  induction each generalizing position with
  | nil => exact Checked.kept_refl _
  | cons first later ih =>
    rw [items, items]
    exact (((reads _ _ first).under _).map List.cons).seq (ih _)

theorem kept_list {like : Value → Value → Prop}
    (reads : ∀ value value', like value value' → (reader value).Kept (reader value'))
    (value value' : Value) (restated : RestatedList like value value') :
    (list reader value).Kept (list reader value') := by
  obtain ⟨values, values', rfl, rfl, each⟩ := restated
  exact kept_items each reads 0

end Checks

/-! ### Restated scalars -/

/-- **A restated integer** is read as the same. -/
theorem kept_integer (value value' : Value) (restated : RestatedNumber value value') :
    (integer value).Kept (integer value') := by
  cases restated with
  | number few =>
    rw [integer_ofInt (Nat.le_of_lt few)]
    exact Checked.kept_refl _

/-- **A restated truth value** is read as the same. -/
theorem kept_truth (value value' : Value) (restated : RestatedTruth value value') :
    (truth value).Kept (truth value') := by
  cases restated with
  | yes => exact truth_one ▸ Checked.kept_refl _
  | no => exact truth_zero ▸ Checked.kept_refl _

end Schema

end AlarmFeed
