/-
**Checks of values that differ where it is not to be seen.**

Two values are the same but for some members (`Value.Masked`) if they are objects with the same names in
the same order, and only members that may differ do. Checks of them come to related results or find the
same flaws at the same places (`Checked.Alike`). An issue shows the value that is at fault, and one that
may differ is never at fault itself; but where a field is missing, the whole object around it is shown. So
alike issues show the same values unless a field is missing.

Each way to combine checks keeps them alike: `Alike.map`, `Alike.seq`, `Alike.under`, `alike_required`,
`alike_optional`, `alike_record` and `alike_list`.
-/

import AlarmFeed.Schema.Reader
import Mathlib.Data.List.Forall2

namespace AlarmFeed

open List Relator

/-! ### Values -/

/-- Two members of one name have the same value, or two values that may differ under that name. -/
def MaskedMember (mayDiffer : Text → Value → Value → Prop) (a b : Text × Value) : Prop :=
  a.1 = b.1 ∧ (a.2 = b.2 ∨ mayDiffer a.1 a.2 b.2)

/-- **Two values are the same but for members that may differ.** -/
inductive Value.Masked (mayDiffer : Text → Value → Value → Prop) : Value → Value → Prop
  | same (value : Value) : Masked mayDiffer value value
  | object {members members' : Members} (each : Forall₂ (MaskedMember mayDiffer) members members') :
      Masked mayDiffer (.object members) (.object members')

section Members

variable {mayDiffer : Text → Value → Value → Prop} {members members' : Members}

theorem maskedMember_refl (members : Members) :
    Forall₂ (MaskedMember mayDiffer) members members :=
  forall₂_same.mpr fun _ _ => ⟨rfl, Or.inl rfl⟩

/-- Under each name both have none, or the same value, or two that may differ there. -/
theorem Fields.get?_masked (each : Forall₂ (MaskedMember mayDiffer) members members') (name : Text) :
    (Fields.get? name members = none ∧ Fields.get? name members' = none) ∨
      ∃ value value', Fields.get? name members = some value ∧
        Fields.get? name members' = some value' ∧ (value = value' ∨ mayDiffer name value value') := by
  induction each with
  | nil => exact Or.inl ⟨rfl, rfl⟩
  | @cons member member' members members' first later ih =>
    obtain ⟨key, value⟩ := member
    obtain ⟨key', value'⟩ := member'
    obtain ⟨rfl, values⟩ := first
    rw [Fields.get?, Fields.get?]
    by_cases here : key = name
    · rw [if_pos here, if_pos here]
      exact Or.inr ⟨value, value', rfl, rfl, here ▸ values⟩
    · rw [if_neg here, if_neg here]
      exact ih

end Members

namespace Schema

/-! ### Issues -/

/-- **Two issues are alike**: the same flaw at the same place, of the same value unless it is that a field
is missing. -/
structure Issue.Alike (a b : Issue) : Prop where
  path : a.path = b.path
  flaw : a.flaw = b.flaw
  input : a.input = b.input ∨ a.flaw = .missing

/-- Two reports are alike if their issues are, one by one. -/
structure Report.Alike (a b : Report) : Prop where
  title : a.title = b.title
  issues : Forall₂ Issue.Alike a.issues b.issues

theorem Issue.alike_refl (issue : Issue) : issue.Alike issue :=
  ⟨rfl, rfl, Or.inl rfl⟩

theorem Issue.Alike.eq {a b : Issue} (alike : a.Alike b) (other : a.flaw ≠ .missing) : a = b := by
  obtain ⟨path, flaw, input⟩ := a
  obtain ⟨rfl, rfl, same | missing⟩ := alike
  · cases same
    rfl
  · exact absurd missing other

/-- **Alike reports are the same** unless a field is missing. -/
theorem Report.Alike.eq {a b : Report} (alike : a.Alike b)
    (whole : ∀ issue ∈ a.issues, issue.flaw ≠ .missing) : a = b := by
  obtain ⟨title, issues⟩ := a
  obtain ⟨title', issues'⟩ := b
  obtain ⟨rfl, each⟩ := alike
  dsimp only at each whole
  congr 1
  induction each with
  | nil => rfl
  | cons first later ih =>
    obtain ⟨other, others⟩ := List.forall_mem_cons.mp whole
    rw [first.eq other, ih others]

/-! ### Checks -/

/-- **Two checks are alike**: they come to related results, or to issues that are alike. -/
inductive Checked.Alike {α β : Type} (R : α → β → Prop) : Checked α → Checked β → Prop
  | ok {a : α} {b : β} (related : R a b) : Alike R (.ok a) (.ok b)
  | bad {issues issues' : List Issue} (each : Forall₂ Issue.Alike issues issues') :
      Alike R (.bad issues) (.bad issues')

section Checks

variable {α β γ δ : Type} {R : α → β → Prop} {S : γ → δ → Prop}

namespace Checked

theorem alike_refl {T : α → α → Prop} (related : ∀ a, T a a) (x : Checked α) : Alike T x x := by
  cases x with
  | ok a => exact .ok (related a)
  | bad issues => exact .bad (forall₂_same.mpr fun issue _ => issue.alike_refl)

namespace Alike

theorem seq {f : Checked (α → γ)} {g : Checked (β → δ)} {x : Checked α} {y : Checked β}
    (functions : Alike (R ⇒ S) f g) (arguments : Alike R x y) : Alike S (f <*> x) (g <*> y) := by
  show Alike S (apply f x) (apply g y)
  cases functions with
  | ok same =>
    cases arguments with
    | ok related => exact .ok (same related)
    | bad each => exact .bad each
  | bad each =>
    cases arguments with
    | ok related => exact .bad each
    | bad more => exact .bad (rel_append each more)

theorem map {f : α → γ} {g : β → δ} {x : Checked α} {y : Checked β} (functions : (R ⇒ S) f g)
    (arguments : Alike R x y) : Alike S (f <$> x) (g <$> y) :=
  seq (f := .ok f) (g := .ok g) (.ok functions) arguments

theorem under {x : Checked α} {y : Checked β} (alike : Alike R x y) (step : Step) :
    Alike R (x.under step) (y.under step) := by
  cases alike with
  | ok related => exact .ok related
  | bad each =>
    refine .bad (rel_map (R := Issue.Alike) (fun a b same => ?_) each)
    exact ⟨congrArg (step :: ·) same.path, same.flaw, same.input⟩

/-- Alike checks are reported as related values or by alike reports. -/
theorem reported {x : Checked α} {y : Checked β} (alike : Alike R x y) (title : Text) :
    (∃ a b, x.reported title = .ok a ∧ y.reported title = .ok b ∧ R a b) ∨
      ∃ report report', x.reported title = .error report ∧ y.reported title = .error report' ∧
        report.Alike report' := by
  cases alike with
  | ok related => exact Or.inl ⟨_, _, rfl, rfl, related⟩
  | bad each => exact Or.inr ⟨_, _, rfl, rfl, rfl, each⟩

end Alike

end Checked

/-! ### Fields, records and lists -/

variable {mayDiffer : Text → Value → Value → Prop} {members members' : Members} {name title : Text}
  {reader : Reader α} {T : α → α → Prop}

/-- A field that is missing in both is reported with both objects around it. -/
theorem alike_required (each : Forall₂ (MaskedMember mayDiffer) members members')
    (reads : ∀ value value', value = value' ∨ mayDiffer name value value' →
      Checked.Alike T (reader value) (reader value')) :
    Checked.Alike T (required name reader members) (required name reader members') := by
  rw [required, required]
  rcases Fields.get?_masked each name with ⟨none, none'⟩ | ⟨value, value', some, some', values⟩
  · rw [none, none']
    exact .bad (.cons ⟨rfl, rfl, Or.inr rfl⟩ .nil)
  · rw [some, some']
    exact (reads value value' values).under _

theorem alike_optional (each : Forall₂ (MaskedMember mayDiffer) members members')
    (reads : ∀ value value', value = value' ∨ mayDiffer name value value' →
      Checked.Alike T (reader value) (reader value')) {default : α} (related : T default default) :
    Checked.Alike T (optional name reader default members) (optional name reader default members') := by
  rw [optional, optional]
  rcases Fields.get?_masked each name with ⟨none, none'⟩ | ⟨value, value', some, some', values⟩
  · rw [none, none']
    exact .ok related
  · rw [some, some']
    exact (reads value value' values).under _

/-- A value that does not differ is read alike. -/
theorem reads_of_fixed (fixed : ∀ value value', ¬mayDiffer name value value') (reader : Reader α)
    (value value' : Value) (values : value = value' ∨ mayDiffer name value value') :
    Checked.Alike Eq (reader value) (reader value') := by
  obtain rfl := values.resolve_right (fixed value value')
  exact Checked.alike_refl (fun _ => rfl) _

theorem alike_required_fixed (fixed : ∀ value value', ¬mayDiffer name value value')
    (each : Forall₂ (MaskedMember mayDiffer) members members') :
    Checked.Alike Eq (required name reader members) (required name reader members') :=
  alike_required each (reads_of_fixed fixed reader)

theorem alike_optional_fixed (fixed : ∀ value value', ¬mayDiffer name value value')
    (each : Forall₂ (MaskedMember mayDiffer) members members') (default : α) :
    Checked.Alike Eq (optional name reader default members) (optional name reader default members') :=
  alike_optional each (reads_of_fixed fixed reader) rfl

theorem alike_record {fields : Members → Checked α} {value value' : Value}
    (masked : value.Masked mayDiffer value')
    (reads : ∀ members members', Forall₂ (MaskedMember mayDiffer) members members' →
      Checked.Alike T (fields members) (fields members')) :
    Checked.Alike T (record title fields value) (record title fields value') := by
  cases masked with
  | object each => exact reads _ _ each
  | same value =>
    cases value with
    | object members => exact reads _ _ (maskedMember_refl members)
    | _ => exact .bad (.cons (Issue.alike_refl _) .nil)

theorem alike_items {like : Value → Value → Prop} {values values' : List Value}
    (each : Forall₂ like values values')
    (reads : ∀ value value', like value value' → Checked.Alike T (reader value) (reader value'))
    (position : Nat) :
    Checked.Alike (Forall₂ T) (items reader position values) (items reader position values') := by
  induction each generalizing position with
  | nil => exact .ok .nil
  | cons first later ih =>
    have join : (T ⇒ Forall₂ T ⇒ Forall₂ T) List.cons List.cons :=
      fun _ _ head _ _ tail => .cons head tail
    rw [items, items]
    exact (((reads _ _ first).under _).map join).seq (ih _)

theorem alike_list {like : Value → Value → Prop} {values values' : List Value}
    (each : Forall₂ like values values')
    (reads : ∀ value value', like value value' → Checked.Alike T (reader value) (reader value')) :
    Checked.Alike (Forall₂ T) (list reader (.list values)) (list reader (.list values')) :=
  alike_items each reads 0

end Checks

end Schema

end AlarmFeed
