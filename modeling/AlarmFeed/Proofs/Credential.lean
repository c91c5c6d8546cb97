/-
**Which token is presented for a caller.**

A rule is for a caller if it lists the caller's address and has the caller's token. The first such rule
gives the token, and without one the caller's own is passed on if that is allowed (`chosen`). Tokens are
compared by their bytes, so a comparison comes to nothing if one of the two has none (`Stuck`).

* `resolve_eq` — unless it gets stuck, the choice is that of the first rule for the caller;
* `resolve_of_impeded` — it is a fault if it does;
* `chosen_congr` — rules that are for others can be anywhere in the list, and make no difference.
-/

import AlarmFeed.Credential
import AlarmFeed.Proofs.Text.Scalar
import AlarmFeed.Proofs.Text.Utf8

namespace AlarmFeed.Credential

/-! ### Comparing tokens -/

/-- Of texts that have bytes, those with the same bytes are the same. -/
theorem sameToken_of_scalar {a b : Text} (scalarA : a.Scalar) (scalarB : b.Scalar) :
    sameToken a b = .ok (decide (a = b)) := by
  have bytes : (Utf8.encode a == Utf8.encode b) = decide (a = b) := by
    rw [Bool.eq_iff_iff, beq_iff_eq, decide_eq_true_iff]
    exact ⟨Utf8.encode_injective, congrArg Utf8.encode⟩
  rw [sameToken, Text.unencodable?_utf8.mpr scalarA, Text.unencodable?_utf8.mpr scalarB]
  exact congrArg Except.ok bytes

theorem sameToken_of_not_scalar {a b : Text} (refused : ¬(a.Scalar ∧ b.Scalar)) :
    ∃ run, sameToken a b = .error (.unencodable run) := by
  rw [sameToken]
  cases first : Charset.utf8.unencodable? a with
  | some run => exact ⟨run, rfl⟩
  | none =>
    cases second : Charset.utf8.unencodable? b with
    | some run => exact ⟨run, rfl⟩
    | none =>
      exact absurd ⟨Text.unencodable?_utf8.mp first, Text.unencodable?_utf8.mp second⟩ refused

/-! ### Rules -/

/-- A rule is for a caller: it lists the address and has the token. -/
def IsFor (bearer origin : Text) (rule : TokenOverride) : Prop :=
  origin ∈ rule.allowedAddresses ∧ rule.bearer.content = bearer

instance (bearer origin : Text) : DecidablePred (IsFor bearer origin) :=
  fun _ => inferInstanceAs (Decidable (_ ∧ _))

/-- The first rule for a caller. -/
def matching? (bearer origin : Text) (rules : List TokenOverride) : Option TokenOverride :=
  rules.find? fun rule => IsFor bearer origin rule

/-- **The token that is chosen for a caller**, if one is: none for a caller without a token, else that of
the first rule for the caller, else the caller's own if it may be passed on. -/
def chosen (bearer : Option Text) (origin : Text) (auth : AuthSettings) : Option Text :=
  match bearer with
  | none => none
  | some own =>
    match matching? own origin auth.overrides with
    | some rule => some rule.token.content
    | none => if auth.forwardBearer then some own else none

/-- **The choice gets stuck** at a rule that lists the address, with no rule for the caller in front of
it, if its token or the caller's has no bytes. -/
def Stuck (bearer origin : Text) (rules : List TokenOverride) : Prop :=
  ∃ before rule after, rules = before ++ rule :: after ∧
    (∀ earlier ∈ before, ¬IsFor bearer origin earlier) ∧ origin ∈ rule.allowedAddresses ∧
      ¬(bearer.Scalar ∧ rule.bearer.content.Scalar)

section Rules

variable {bearer origin : Text} {rule : TokenOverride} {rules : List TokenOverride}

theorem matching?_cons_of_isFor (isFor : IsFor bearer origin rule) :
    matching? bearer origin (rule :: rules) = some rule :=
  List.find?_cons_of_pos (p := fun rule => decide (IsFor bearer origin rule)) (decide_eq_true isFor)

theorem matching?_cons_of_other (other : ¬IsFor bearer origin rule) :
    matching? bearer origin (rule :: rules) = matching? bearer origin rules :=
  List.find?_cons_of_neg (p := fun rule => decide (IsFor bearer origin rule))
    (Bool.not_eq_true _ ▸ decide_eq_false other)

theorem not_stuck_nil : ¬Stuck bearer origin [] := by
  rintro ⟨before, rule, after, cut, _⟩
  exact absurd cut.symm (List.append_ne_nil_of_right_ne_nil before (List.cons_ne_nil rule after))

theorem stuck_of_listed (listed : origin ∈ rule.allowedAddresses)
    (refused : ¬(bearer.Scalar ∧ rule.bearer.content.Scalar)) (rules : List TokenOverride) :
    Stuck bearer origin (rule :: rules) :=
  ⟨[], rule, rules, rfl, List.forall_mem_nil _, listed, refused⟩

theorem stuck_cons (other : ¬IsFor bearer origin rule)
    (fits : origin ∈ rule.allowedAddresses → bearer.Scalar ∧ rule.bearer.content.Scalar) :
    Stuck bearer origin (rule :: rules) ↔ Stuck bearer origin rules := by
  constructor
  · rintro ⟨before, stopped, after, cut, others, listed, refused⟩
    cases before with
    | nil =>
      obtain ⟨rfl, rfl⟩ := List.cons.inj cut
      exact absurd (fits listed) refused
    | cons first before =>
      obtain ⟨rfl, rfl⟩ := List.cons.inj cut
      exact ⟨before, stopped, after, rfl, (List.forall_mem_cons.mp others).2, listed, refused⟩
  · rintro ⟨before, stopped, after, rfl, others, listed, refused⟩
    exact ⟨rule :: before, stopped, after, rfl, List.forall_mem_cons.mpr ⟨other, others⟩, listed,
      refused⟩

theorem not_stuck_cons_of_isFor (isFor : IsFor bearer origin rule) (scalar : bearer.Scalar) :
    ¬Stuck bearer origin (rule :: rules) := by
  rintro ⟨before, stopped, after, cut, others, listed, refused⟩
  cases before with
  | nil =>
    obtain ⟨rfl, rfl⟩ := List.cons.inj cut
    exact refused ⟨scalar, isFor.2 ▸ scalar⟩
  | cons first before =>
    obtain ⟨rfl, rfl⟩ := List.cons.inj cut
    exact others rule List.mem_cons_self isFor

/-- **The first rule for a caller decides**, unless the choice gets stuck in front of it. -/
theorem overriding_cases (bearer origin : Text) (rules : List TokenOverride) :
    Stuck bearer origin rules ∧ (∃ run, overriding bearer origin rules = .error (.unencodable run)) ∨
      ¬Stuck bearer origin rules ∧ overriding bearer origin rules =
        .ok ((matching? bearer origin rules).map fun rule => rule.token.content) := by
  induction rules with
  | nil => exact Or.inr ⟨not_stuck_nil, rfl⟩
  | cons rule rules ih =>
    rw [overriding]
    by_cases listed : origin ∈ rule.allowedAddresses
    · rw [if_pos listed]
      by_cases scalar : bearer.Scalar ∧ rule.bearer.content.Scalar
      · rw [sameToken_of_scalar scalar.1 scalar.2]
        by_cases same : bearer = rule.bearer.content
        · have isFor : IsFor bearer origin rule := ⟨listed, same.symm⟩
          refine Or.inr ⟨not_stuck_cons_of_isFor isFor scalar.1, ?_⟩
          rw [matching?_cons_of_isFor isFor, decide_eq_true same]
          rfl
        · have other : ¬IsFor bearer origin rule := fun isFor => same isFor.2.symm
          rw [stuck_cons other fun _ => scalar, matching?_cons_of_other other, decide_eq_false same]
          exact ih
      · obtain ⟨run, failed⟩ := sameToken_of_not_scalar scalar
        refine Or.inl ⟨stuck_of_listed listed scalar rules, run, ?_⟩
        rw [failed]
    · have other : ¬IsFor bearer origin rule := fun isFor => listed isFor.1
      rw [if_neg listed, stuck_cons other fun here => absurd here listed,
        matching?_cons_of_other other]
      exact ih

end Rules

/-! ### The choice -/

/-- The choice for a caller gets stuck: it can only for one that brings a token. -/
def Impeded (bearer : Option Text) (origin : Text) (auth : AuthSettings) : Prop :=
  ∃ own, bearer = some own ∧ Stuck own origin auth.overrides

section Choice

variable {bearer : Option Text} {origin : Text} {auth auth' : AuthSettings}

/-- **Unless it gets stuck**, the choice is made. -/
theorem resolve_eq (free : ¬Impeded bearer origin auth) :
    resolve bearer origin auth = .ok (chosen bearer origin auth) := by
  cases bearer with
  | none => rfl
  | some own =>
    rw [resolve, chosen]
    rcases overriding_cases own origin auth.overrides with ⟨stuck, _⟩ | ⟨_, decided⟩
    · exact absurd ⟨own, rfl, stuck⟩ free
    · rw [decided]
      cases matching? own origin auth.overrides <;> rfl

/-- **A choice that gets stuck is a fault.** -/
theorem resolve_of_impeded (impeded : Impeded bearer origin auth) :
    ∃ run, resolve bearer origin auth = .error (.unencodable run) := by
  obtain ⟨own, rfl, stuck⟩ := impeded
  rw [resolve]
  rcases overriding_cases own origin auth.overrides with ⟨_, run, failed⟩ | ⟨free, _⟩
  · exact ⟨run, by rw [failed]⟩
  · exact absurd stuck free

/-- A choice that was made is the one that is chosen. -/
theorem eq_chosen_of_resolve {token : Option Text} (made : resolve bearer origin auth = .ok token) :
    token = chosen bearer origin auth := by
  by_cases impeded : Impeded bearer origin auth
  · obtain ⟨run, failed⟩ := resolve_of_impeded impeded
    rw [failed] at made
    cases made
  · rw [resolve_eq impeded] at made
    exact (Except.ok.inj made).symm

/-- The rules that are for a caller, in order; none for a caller without a token. -/
def rulesFor (bearer : Option Text) (origin : Text) (rules : List TokenOverride) : List TokenOverride :=
  match bearer with
  | none => []
  | some own => rules.filter fun rule => IsFor own origin rule

theorem chosen_congr (forward : auth.forwardBearer = auth'.forwardBearer)
    (same : rulesFor bearer origin auth.overrides = rulesFor bearer origin auth'.overrides) :
    chosen bearer origin auth = chosen bearer origin auth' := by
  cases bearer with
  | none => rfl
  | some own =>
    have first : matching? own origin auth.overrides = matching? own origin auth'.overrides := by
      rw [matching?, matching?, ← List.head?_filter, ← List.head?_filter]
      exact congrArg List.head? same
    rw [chosen, chosen, first, forward]

/-- A caller's token is not compared with one that has no bytes. -/
theorem not_impeded (plain : ∀ own, bearer = some own → own.Scalar)
    (plainRules : ∀ rule ∈ auth.overrides, origin ∈ rule.allowedAddresses →
      rule.bearer.content.Scalar) : ¬Impeded bearer origin auth := by
  rintro ⟨own, rfl, before, rule, after, cut, _, listed, refused⟩
  have member : rule ∈ auth.overrides := by
    rw [cut]
    exact List.mem_append_right _ List.mem_cons_self
  exact refused ⟨plain own rfl, plainRules rule member listed⟩

end Choice

end AlarmFeed.Credential
