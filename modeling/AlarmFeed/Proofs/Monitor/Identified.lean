/-
**What id a body has.**

A body may be any text and any bytes. Its id is settled by what it says, and by nothing that is in it or
around it otherwise:

* `idOfBody_settled` — the id is that of the last member `id` of the object that the body says
  (`Identified`); a body that opens one level of nesting too many is a fault (`TooDeep`); every other body
  has null as its id, be it no text, malformed, a number that is too long, no object, or without an id. All
  of this holds for any number of levels that the caller has left;
* `overflows_brackets` — brackets alone are enough for one level too many;
* `not_every_body_identified` — so a body may be fatal, however many levels there are.
-/

import AlarmFeed.Monitor.Request
import AlarmFeed.Proofs.Json.Plain
import AlarmFeed.Proofs.Json.RoundTrip
import AlarmFeed.Proofs.Text.Fields

namespace AlarmFeed

/-! ### Texts -/

namespace Json

/-- **A text is an object** with blanks around it, of these members as they are written, nested no deeper
than there are levels. -/
def IsObject (limit : Nat) (t : Text) (members : List (Text × Value)) : Prop :=
  ∃ before written behind, t = before ++ (written ++ behind) ∧ Blank before ∧ Blank behind ∧
    Enclosed .object SaysMember limit written members

/-- **A text opens one level too many**, behind blanks that may start it. -/
def IsTooDeep (limit : Nat) (container : Container) (t : Text) : Prop :=
  ∃ before inner, t = before ++ inner ∧ Blank before ∧ Overflows container limit inner

theorem IsObject.read {limit : Nat} {t : Text} {members : List (Text × Value)}
    (object : IsObject limit t members) : read t limit = .ok (.object (Fields.ofPairs members)) := by
  obtain ⟨before, written, behind, parted, blank, blankBehind, each⟩ := object
  exact read_eq_ok_iff.mpr ⟨before, written, behind, parted, blank, blankBehind, .object each⟩

theorem SaysPlain.ne_object {t : Text} {v : Value} (told : SaysPlain t v) (fields : Members) :
    v ≠ .object fields := by
  rintro rfl
  cases told with
  | word known => simp [words] at known
  | positive number => cases number
  | negative number => cases number

/-- **What is read as an object** is one: nothing else says an object. -/
theorem exists_isObject {limit : Nat} {t : Text} {fields : Members}
    (found : read t limit = .ok (.object fields)) :
    ∃ members, IsObject limit t members ∧ fields = Fields.ofPairs members := by
  obtain ⟨before, written, behind, parted, blank, blankBehind, told⟩ := read_eq_ok_iff.mp found
  cases told with
  | plain plain => exact absurd rfl (plain.ne_object fields)
  | object each => exact ⟨_, ⟨before, written, behind, parted, blank, blankBehind, each⟩, rfl⟩

/-- **What is written for an object** is an object of its members, also if two of them have one name. -/
theorem isObject_write {depth limit : Nat} {members : List (Text × Value)}
    (each : ∀ member ∈ members, member.1.Unpaired ∧ Portable depth member.2)
    (within : depth < limit) : IsObject limit (write (.object members)) members := by
  have reads : List.Forall₂ (ReadsMemberAs (limit - 1)) members members := by
    refine List.forall₂_same.mpr fun member inside => ?_
    obtain ⟨unpaired, portable⟩ := each member inside
    exact ⟨readsTextAs_self unpaired, fun left fuel rest enough =>
      portable.readsAs left fuel rest (Nat.le_trans (Nat.le_sub_one_of_lt within) enough)⟩
  refine ⟨[], write (.object members), [], ?_, blank_nil, blank_nil, ?_⟩
  · rw [List.nil_append, List.append_nil]
  · obtain ⟨limit, rfl⟩ := Nat.exists_eq_succ_of_ne_zero (Nat.ne_of_gt (Nat.zero_lt_of_lt within))
    rw [write]
    exact enclosed_joinWith .object (forall₂_writeMembers reads)

/-- **Brackets alone** open one level too many, whatever follows them. -/
theorem overflows_brackets (depth : Nat) (rest : Text) :
    Overflows .list depth (List.replicate (depth + 1) (CodePoint.ofChar '[') ++ rest) := by
  induction depth with
  | zero => exact .opens rest
  | succ depth ih => exact .item blank_nil .none ih

end Json

/-! ### Bodies -/

namespace Request

/-- The text that a body says, if it says one. -/
def Body.text? : Body → Option Text
  | text content => some content
  | bytes content => Json.decode? content

/-- **A body has an id**: it says an object, and the last of its members that is named `id` has this
value. -/
def Identified (limit : Nat) (body : Option Body) (id : Value) : Prop :=
  ∃ t ∈ body.bind Body.text?, ∃ members, Json.IsObject limit t members ∧ Fields.Last "id" id members

/-- **A body is nested too deeply.** -/
def TooDeep (limit : Nat) (body : Option Body) (container : Json.Container) : Prop :=
  ∃ t ∈ body.bind Body.text?, Json.IsTooDeep limit container t

theorem idOfBody_eq (body : Option Body) (limit : Nat) :
    idOfBody body limit = (body.bind Body.text?).elim (.ok .null) fun t => idOfText t limit := by
  rcases body with _ | content | content
  · rfl
  · rfl
  · show idOf (Json.readBytes content limit) = (Json.decode? content).elim _ _
    rw [Json.readBytes]
    cases Json.decode? content <;> rfl

variable {limit : Nat} {body : Option Body}

theorem idOfBody_of_identified {id : Value} (identified : Identified limit body id) :
    idOfBody body limit = .ok id := by
  obtain ⟨t, said, members, object, last⟩ := identified
  rw [idOfBody_eq, said, Option.elim, idOfText, object.read, idOf,
    Fields.get?_ofPairs_eq_some_iff.mpr last]
  rfl

theorem idOfBody_of_tooDeep {container : Json.Container} (deep : TooDeep limit body container) :
    idOfBody body limit = .error (.nesting container) := by
  obtain ⟨t, said, deep⟩ := deep
  rw [idOfBody_eq, said, Option.elim, idOfText, Json.read_eq_tooDeep_iff.mpr deep]
  rfl

theorem idOfBody_of_neither (unnamed : ¬∃ id, Identified limit body id)
    (shallow : ¬∃ container, TooDeep limit body container) : idOfBody body limit = .ok .null := by
  rw [idOfBody_eq]
  cases said : body.bind Body.text? with
  | none => rfl
  | some t =>
    rw [Option.elim, idOfText]
    cases found : Json.read t limit with
    | error error =>
      cases error with
      | malformed => rfl
      | longInteger digits => rfl
      | tooDeep container =>
        exact absurd ⟨container, t, said, Json.read_eq_tooDeep_iff.mp found⟩ shallow
    | ok v =>
      cases v with
      | object fields =>
        obtain ⟨members, object, rfl⟩ := Json.exists_isObject found
        rw [idOf]
        cases known : Fields.get? "id" (Fields.ofPairs members) with
        | none => rfl
        | some id =>
          have last := Fields.get?_ofPairs_eq_some_iff.mp known
          exact absurd ⟨id, t, said, members, object, last⟩ unnamed
      | _ => rfl

/-! ### One body of each kind -/

/-- An object with two ids. -/
def doubledId : Text := Json.write (.object [("id", .int 1), ("id", .int 2)])

/-- Brackets that open one level too many. -/
def brackets (limit : Nat) : Text := List.replicate (limit + 1) (CodePoint.ofChar '[')

theorem identified_doubledId (within : 0 < limit) :
    Identified limit (some (.bytes (Utf8.encode doubledId))) (.int 2) := by
  have short : ∀ n ∈ [1, 2], Decimal.Short n := by
    intro n member
    refine Decimal.short_of_natAbs_lt_ten ?_
    simp only [List.mem_cons, List.not_mem_nil, or_false] at member
    rcases member with rfl | rfl <;> decide
  have name : Text.Unpaired "id" := (Text.scalar_ofString "id").unpaired
  have each : ∀ member ∈ [(("id" : Text), Value.int 1), ("id", .int 2)],
      member.1.Unpaired ∧ Json.Portable 0 member.2 :=
    List.forall_mem_cons.mpr ⟨⟨name, .int (short 1 (by decide))⟩,
      List.forall_mem_singleton.mpr ⟨name, .int (short 2 (by decide))⟩⟩
  have object := Json.isObject_write each within
  have plain : Json.Plain doubledId := (Json.Carried.object fun member inside =>
    (each member inside).2.carried).plain
  have said : Json.decode? (Utf8.encode doubledId) = some doubledId := by
    rw [doubledId, Json.write] at plain ⊢
    exact Json.decode?_encode plain
  exact ⟨doubledId, said, _, object, [("id", .int 1)], [], rfl, List.not_mem_nil⟩

theorem tooDeep_brackets (limit : Nat) : TooDeep limit (some (.text (brackets limit))) .list := by
  have overflow := Json.overflows_brackets limit []
  rw [List.append_nil] at overflow
  exact ⟨brackets limit, rfl, [], brackets limit, rfl, Json.blank_nil, overflow⟩

/-- **The id of every body**, for a caller with any number of levels left: that of the last member `id` of
the object that it says, a fault if it is nested too deeply, and null for all others. -/
theorem idOfBody_settled (body : Option Body) (limit : Nat) :
    (∀ id, Identified limit body id → idOfBody body limit = .ok id) ∧
      (∀ container, TooDeep limit body container →
        idOfBody body limit = .error (.nesting container)) ∧
      ((¬∃ id, Identified limit body id) → (¬∃ container, TooDeep limit body container) →
        idOfBody body limit = .ok .null) :=
  ⟨fun _ => idOfBody_of_identified, fun _ => idOfBody_of_tooDeep, idOfBody_of_neither⟩

/-- The last of two ids counts, brackets alone are too deep, and a list has no id. -/
theorem bodies_settled :
    (Identified Json.depthLimit (some (.bytes (Utf8.encode doubledId))) (.int 2) ∧
      idOfBody (some (.bytes (Utf8.encode doubledId))) = .ok (.int 2)) ∧
    (TooDeep Json.depthLimit (some (.text (brackets Json.depthLimit))) .list ∧
      idOfBody (some (.text (brackets Json.depthLimit))) = .error (.nesting .list)) ∧
    (¬∃ id, Identified Json.depthLimit (some (.text "[]")) id) ∧
      (¬∃ container, TooDeep Json.depthLimit (some (.text "[]")) container) ∧
      idOfBody (some (.text "[]")) = .ok .null := by
  have list : Json.read "[]" = .ok (.list []) := rfl
  have unnamed : ¬∃ id, Identified Json.depthLimit (some (.text "[]")) id := by
    rintro ⟨id, t, said, members, object, _⟩
    obtain rfl := Option.some.inj said
    have read := object.read
    rw [list] at read
    cases read
  have shallow : ¬∃ container, TooDeep Json.depthLimit (some (.text "[]")) container := by
    rintro ⟨container, t, said, deep⟩
    obtain rfl := Option.some.inj said
    have read := Json.read_eq_tooDeep_iff.mpr deep
    rw [list] at read
    cases read
  have levels : 0 < Json.depthLimit := by decide
  have doubled := identified_doubledId levels
  have deep := tooDeep_brackets Json.depthLimit
  exact ⟨⟨doubled, (idOfBody_settled _ _).1 _ doubled⟩, ⟨deep, (idOfBody_settled _ _).2.1 _ deep⟩,
    unnamed, shallow, (idOfBody_settled _ _).2.2 unnamed shallow⟩

/-- **A body may be fatal**, however many levels there are: not for every body is there an id. -/
theorem not_every_body_identified (limit : Nat) : ¬∀ body, ∃ id, idOfBody body limit = .ok id := by
  intro every
  obtain ⟨id, found⟩ := every (some (.text (brackets limit)))
  rw [idOfBody_of_tooDeep (tooDeep_brackets limit)] at found
  cases found

end Request

end AlarmFeed
