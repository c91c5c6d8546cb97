/-
**Documents are read as the grammar says.**

* `completes_value`, `sound_value` — a value is read exactly if the text says it, nested no deeper than
  there are levels left;
* `readValue_of_overflows`, `overflows_of_readValue` — and the reader stops at one level too many exactly
  if the text overflows;
* `read_eq_ok_iff`, `read_eq_tooDeep_iff` — so it is for whole texts, with blanks around the value.

The readers of items and of members are readers of parts (`readItems_eq`, `readMembers_eq`), so these are
inductions on the levels of nesting and not on the fuel. All that the reader of values can do is in
`readValue_cases`.
-/

import AlarmFeed.Proofs.Json.Parts

namespace AlarmFeed.Json

/-! ### Items and members -/

section Readers

variable {fuel depth : Nat} {t rest : Text}

theorem readItems_eq : readItems fuel depth t =
    readParts Container.list.closing (fun fuel => readValue fuel depth) fuel t := by
  induction fuel generalizing t with
  | zero => rw [readItems, readParts]
  | succ fuel ih =>
    rw [readItems, readParts]
    rcases readValue fuel depth t with error | ⟨item, behind⟩
    · rfl
    dsimp only [bind, Except.bind]
    rcases skipBlanks behind with _ | ⟨c, later⟩
    · rfl
    dsimp only
    rw [ih]
    rfl

/-- The name of a member, the colon and the blanks behind it. -/
def readName : Text → Except ReadError (Text × Text)
  | [] => .error .malformed
  | quote :: rest =>
    if quote = '"' then
      match readText rest with
      | .error error => .error error
      | .ok (name, rest) =>
        match skipBlanks rest with
        | [] => .error .malformed
        | colon :: rest => if colon = ':' then .ok (name, skipBlanks rest) else .error .malformed
    else .error .malformed

/-- One member. -/
def readMember (depth : Nat) : PartReader (Text × Value) := fun fuel t =>
  match readName t with
  | .error error => .error error
  | .ok (name, rest) => (readValue fuel depth rest).map fun (v, rest) => ((name, v), rest)

theorem readMembers_eq : readMembers fuel depth t =
    readParts Container.object.closing (readMember depth) fuel t := by
  induction fuel generalizing t with
  | zero => rw [readMembers, readParts]
  | succ fuel ih =>
    rw [readMembers.eq_def, readParts, readMember]
    -- the two readers take the same turns: quote, name, colon, value, and what follows it
    rcases t with _ | ⟨quote, t⟩
    · rfl
    dsimp only [readName]
    by_cases quoted : quote = CodePoint.ofChar '"'
    swap
    · rw [if_neg quoted, if_neg quoted]
    rw [if_pos quoted, if_pos quoted]
    rcases readText t with error | ⟨name, behind⟩
    · rfl
    dsimp only [bind, Except.bind]
    rcases skipBlanks behind with _ | ⟨colon, later⟩
    · rfl
    dsimp only
    by_cases named : colon = CodePoint.ofChar ':'
    swap
    · rw [if_neg named, if_neg named]
    rw [if_pos named, if_pos named]
    dsimp only
    rcases readValue fuel depth (skipBlanks later) with error | ⟨v, more⟩
    · rfl
    dsimp only [bind, Except.bind, Except.map]
    rcases skipBlanks more with _ | ⟨c, last⟩
    · rfl
    dsimp only
    rw [ih]
    rfl

/-! ### One lemma for each kind of value -/

theorem readValue_quote : readValue (fuel + 1) depth (CodePoint.ofChar '"' :: t) =
    (readText t).map fun (content, rest) => (.text content, rest) := by
  rw [readValue.eq_def]
  dsimp only
  rw [if_pos rfl]
  cases readText t <;> rfl

/-- **No level is left.** -/
theorem readValue_tooDeep (container : Container) (rest : Text) :
    readValue (fuel + 1) 0 (container.opening :: rest) = .error (.tooDeep container) := by
  cases container <;> rfl

theorem readValue_bracket : readValue (fuel + 1) (depth + 1) (CodePoint.ofChar '[' :: t) =
    (readEnclosed .list (fun fuel => readValue fuel depth) fuel t).map
      fun (items, rest) => (.list items, rest) := by
  rw [readValue, if_neg (by decide), if_pos rfl, readEnclosed]
  dsimp only
  rcases skipBlanks t with _ | ⟨c, more⟩
  · rfl
  dsimp only
  have mark : CodePoint.ofChar ']' = Container.list.closing := rfl
  rw [mark]
  by_cases closes : c = Container.list.closing
  · rw [if_pos closes, if_pos closes]
    rfl
  · rw [if_neg closes, if_neg closes, readItems_eq]
    cases readParts Container.list.closing (fun fuel => readValue fuel depth) fuel (c :: more) <;> rfl

theorem readValue_brace : readValue (fuel + 1) (depth + 1) (CodePoint.ofChar '\x7b' :: t) =
    (readEnclosed .object (readMember depth) fuel t).map
      fun (members, rest) => (.object (Fields.ofPairs members), rest) := by
  rw [readValue, if_neg (by decide), if_neg (by decide), if_pos rfl, readEnclosed]
  dsimp only
  rcases skipBlanks t with _ | ⟨c, more⟩
  · rfl
  dsimp only
  have mark : CodePoint.ofChar '\x7d' = Container.object.closing := rfl
  rw [mark]
  by_cases closes : c = Container.object.closing
  · rw [if_pos closes, if_pos closes]
    rfl
  · rw [if_neg closes, if_neg closes, readMembers_eq]
    cases readParts Container.object.closing (readMember depth) fuel (c :: more) <;> rfl

theorem readValue_other {c : CodePoint} (noQuote : c ≠ CodePoint.ofChar '"')
    (noList : c ≠ CodePoint.ofChar '[') (noObject : c ≠ CodePoint.ofChar '\x7b') :
    readValue (fuel + 1) depth (c :: t) = readPlain (c :: t) := by
  rw [readValue.eq_def]
  dsimp only
  rw [if_neg noQuote, if_neg noList, if_neg noObject]

/-- **What the reader of values can do**: its first code point decides, and the levels that are left. -/
theorem readValue_cases (fuel depth : Nat) (t : Text) :
    readValue fuel depth t = .error .malformed ∨ readValue fuel depth t = readPlain t ∨
    (∃ rest, t = CodePoint.ofChar '"' :: rest ∧
      readValue fuel depth t = (readText rest).map fun (content, rest) => (.text content, rest)) ∨
    (∃ container rest, depth = 0 ∧ t = Container.opening container :: rest ∧
      readValue fuel depth t = .error (.tooDeep container)) ∨
    (∃ less inner rest, depth = inner + 1 ∧ t = Container.list.opening :: rest ∧
      readValue fuel depth t = (readEnclosed .list (fun fuel => readValue fuel inner) less rest).map
        fun (items, rest) => (.list items, rest)) ∨
    (∃ less inner rest, depth = inner + 1 ∧ t = Container.object.opening :: rest ∧
      readValue fuel depth t = (readEnclosed .object (readMember inner) less rest).map
        fun (members, rest) => (.object (Fields.ofPairs members), rest)) := by
  rcases fuel with _ | fuel
  · exact .inl (by rw [readValue])
  rcases t with _ | ⟨c, t⟩
  · exact .inl (by rw [readValue])
  by_cases quote : c = CodePoint.ofChar '"'
  · exact .inr (.inr (.inl ⟨t, by rw [quote], by rw [quote, readValue_quote]⟩))
  by_cases opensList : c = Container.list.opening
  · rw [opensList]
    rcases depth with _ | depth
    · exact .inr (.inr (.inr (.inl ⟨.list, t, rfl, rfl, readValue_tooDeep .list t⟩)))
    · exact .inr (.inr (.inr (.inr (.inl ⟨fuel, depth, t, rfl, rfl, readValue_bracket⟩))))
  by_cases opensObject : c = Container.object.opening
  · rw [opensObject]
    rcases depth with _ | depth
    · exact .inr (.inr (.inr (.inl ⟨.object, t, rfl, rfl, readValue_tooDeep .object t⟩)))
    · exact .inr (.inr (.inr (.inr (.inr ⟨fuel, depth, t, rfl, rfl, readValue_brace⟩))))
  · exact .inr (.inl (readValue_other quote opensList opensObject))

/-! ### Names and members -/

theorem readName_of_saysName {name : Text} (named : SaysName t name) (starts : StartsWell rest) :
    readName (t ++ rest) = .ok (name, rest) := by
  cases named with
  | @named quoted _ behind before text blankBehind blankBefore =>
    obtain ⟨inner, rfl, reads⟩ := readText_of_saysText text
    simp only [List.append_assoc, List.cons_append]
    rw [readName, if_pos rfl, reads]
    dsimp only
    rw [skipBlanks_append blankBehind, skipBlanks_cons (by decide)]
    dsimp only
    rw [if_pos rfl, skipBlanks_append blankBefore, skipBlanks_of_startsWell starts]

theorem saysName_of_readName {name : Text} (found : readName t = .ok (name, rest)) :
    ∃ written, SaysName written name ∧ t = written ++ rest := by
  rcases t with _ | ⟨quote, t⟩
  · cases found
  rw [readName] at found
  by_cases quoted : quote = CodePoint.ofChar '"'
  swap
  · rw [if_neg quoted] at found
    cases found
  rw [if_pos quoted] at found
  cases content : readText t with
  | error error =>
    rw [content] at found
    cases found
  | ok result =>
    obtain ⟨known, more⟩ := result
    obtain ⟨inner, text, rfl⟩ := saysText_of_readText content
    rw [content] at found
    dsimp only at found
    cases skipped : skipBlanks more with
    | nil =>
      rw [skipped] at found
      cases found
    | cons colon later =>
      obtain ⟨behind, blank, rfl⟩ := exists_blank_of_skipBlanks skipped
      obtain ⟨before, blankBefore, parted⟩ := exists_blank later
      rw [skipped] at found
      dsimp only at found
      by_cases named : colon = CodePoint.ofChar ':'
      · rw [if_pos named] at found
        cases found
        refine ⟨_, .named text blank blankBefore, ?_⟩
        simp only [List.append_assoc, List.cons_append]
        rw [← parted, quoted, named]
      · rw [if_neg named] at found
        cases found

/-- Whatever keeps a name from being read, it is no nesting. -/
theorem readName_ne_tooDeep (t : Text) (deep : Container) : readName t ≠ .error (.tooDeep deep) := by
  intro failed
  rcases t with _ | ⟨quote, t⟩
  · cases failed
  rw [readName] at failed
  split at failed
  · next quoted =>
    split at failed
    · next error refused =>
      rw [Except.error.inj failed] at refused
      exact readText_ne_tooDeep _ deep refused
    · split at failed
      · cases failed
      · split at failed
        · cases failed
        · cases failed
  · cases failed

variable {left : Nat}

/-- **Members are read** as their names and their values are. -/
theorem completes_member (complete : Completes (Says depth) (fun fuel => readValue fuel left)) :
    Completes (SaysMember depth) (readMember left) where
  starts told := told.startsWell
  reads told fuel rest enough stops := by
    cases told with
    | @member _ front written name v named valued =>
      rw [List.length_append] at enough
      rw [List.append_assoc, readMember,
        readName_of_saysName named (valued.startsWell.append rest)]
      dsimp only
      rw [complete.reads valued (by omega) stops]
      rfl

theorem sound_member (sound : Sound (Says depth) (fun fuel => readValue fuel left)) :
    Sound (SaysMember depth) (readMember left) := by
  intro fuel t member rest found
  rw [readMember] at found
  split at found
  · cases found
  · next name more read =>
    obtain ⟨⟨v, last⟩, valued, same⟩ := map_eq_ok.mp found
    cases same
    obtain ⟨front, named, rfl⟩ := saysName_of_readName read
    obtain ⟨written, told, rfl⟩ := sound valued
    exact ⟨_, .member named told, (List.append_assoc _ _ _).symm⟩

/-! ### Values -/

/-- **A value that a text says is read**, by induction on how deep it may be nested. -/
theorem completes_value (within : depth ≤ left) :
    Completes (Says depth) (fun fuel => readValue fuel left) := by
  induction depth using Nat.strong_induction_on generalizing left with
  | _ depth ih =>
    refine ⟨fun told => told.startsWell, ?_⟩
    intro t v told fuel rest enough stops
    -- whatever says a value has a code point, which pays for one unit of fuel
    obtain ⟨fuel, rfl⟩ : ∃ less, fuel = less + 1 := by
      obtain ⟨c, more, rfl, _⟩ := told.startsWell
      rw [List.length_cons] at enough
      exact ⟨fuel - 1, by omega⟩
    cases told with
    | plain plain =>
      have reads := readPlain_of_saysPlain plain stops
      obtain ⟨c, more, rfl, unmarked⟩ := plain.startsPlain
      rw [List.cons_append] at reads ⊢
      rw [readValue_other (ne_of_not_mem_marks unmarked (by decide))
        (ne_of_not_mem_marks unmarked (by decide)) (ne_of_not_mem_marks unmarked (by decide)), reads]
    | text text =>
      obtain ⟨inner, rfl, reads⟩ := readText_of_saysText text
      rw [List.cons_append, readValue_quote, reads]
      rfl
    | list each =>
      obtain ⟨inner, rfl⟩ := each.exists_succ
      obtain ⟨left, rfl⟩ := Nat.exists_eq_succ_of_ne_zero (Nat.ne_of_gt (Nat.zero_lt_of_lt within))
      have complete := ih inner (Nat.lt_succ_self inner) (Nat.le_of_succ_le_succ within)
      obtain ⟨body, rfl, reads⟩ := readEnclosed_of_enclosed complete each
      rw [List.cons_append]
      show readValue _ _ (CodePoint.ofChar '[' :: _) = _
      rw [readValue_bracket, reads (Nat.le_of_succ_le_succ enough)]
      rfl
    | object each =>
      obtain ⟨inner, rfl⟩ := each.exists_succ
      obtain ⟨left, rfl⟩ := Nat.exists_eq_succ_of_ne_zero (Nat.ne_of_gt (Nat.zero_lt_of_lt within))
      have complete := ih inner (Nat.lt_succ_self inner) (Nat.le_of_succ_le_succ within)
      obtain ⟨body, rfl, reads⟩ := readEnclosed_of_enclosed (completes_member complete) each
      rw [List.cons_append]
      show readValue _ _ (CodePoint.ofChar '\x7b' :: _) = _
      rw [readValue_brace, reads (Nat.le_of_succ_le_succ enough)]
      rfl

/-- **A value that was read is what the text says**, by induction on the levels that are left. -/
theorem sound_value (depth : Nat) : Sound (Says depth) (fun fuel => readValue fuel depth) := by
  induction depth using Nat.strong_induction_on with
  | _ depth ih =>
    intro fuel t v rest found
    dsimp only at found
    rcases readValue_cases fuel depth t with step | step | ⟨inner, rfl, step⟩ |
      ⟨container, inner, _, _, step⟩ | ⟨less, depth, inner, rfl, rfl, step⟩ |
      ⟨less, depth, inner, rfl, rfl, step⟩ <;> rw [step] at found
    · cases found
    · obtain ⟨written, plain, split⟩ := saysPlain_of_readPlain found
      exact ⟨written, .plain plain, split⟩
    · obtain ⟨⟨content, behind⟩, read, same⟩ := map_eq_ok.mp found
      cases same
      obtain ⟨body, text, rfl⟩ := saysText_of_readText read
      exact ⟨_, .text text, rfl⟩
    · cases found
    · obtain ⟨⟨items, behind⟩, read, same⟩ := map_eq_ok.mp found
      cases same
      obtain ⟨body, each, rfl⟩ := enclosed_of_readEnclosed (ih depth (Nat.lt_succ_self depth)) read
      exact ⟨_, .list each, rfl⟩
    · obtain ⟨⟨members, behind⟩, read, same⟩ := map_eq_ok.mp found
      cases same
      obtain ⟨body, each, rfl⟩ :=
        enclosed_of_readEnclosed (sound_member (ih depth (Nat.lt_succ_self depth))) read
      exact ⟨_, .object each, rfl⟩

/-! ### One level too many -/

/-- **A text that overflows is refused for it**, by induction on why it overflows. -/
theorem readValue_of_overflows {deep : Container} (overflow : Overflows deep depth t)
    (enough : 2 * t.length ≤ fuel) : readValue fuel depth t = .error (.tooDeep deep) := by
  induction overflow generalizing fuel with
  | opens rest =>
    rw [List.length_cons] at enough
    obtain ⟨fuel, rfl⟩ := Nat.exists_eq_succ_of_ne_zero (by omega : fuel ≠ 0)
    exact readValue_tooDeep deep rest
  | @item depth before front t items blankBefore earlier inner ih =>
    simp only [List.length_cons, List.length_append] at enough
    obtain ⟨fuel, rfl⟩ := Nat.exists_eq_succ_of_ne_zero (by omega : fuel ≠ 0)
    rw [readValue_bracket, readEnclosed_tooDeep .list (completes_value (Nat.le_refl depth)) blankBefore
      earlier inner.startsWell ih (by omega)]
    rfl
  | @member depth before front start name t members blankBefore earlier named inner ih =>
    simp only [List.length_cons, List.length_append] at enough
    obtain ⟨fuel, rfl⟩ := Nat.exists_eq_succ_of_ne_zero (by omega : fuel ≠ 0)
    have refused : ∀ {left}, 2 * (start ++ t).length ≤ left →
        readMember depth left (start ++ t) = .error (.tooDeep deep) := by
      intro left enough
      rw [List.length_append] at enough
      rw [readMember, readName_of_saysName named inner.startsWell]
      dsimp only
      rw [ih (by omega)]
      rfl
    rw [readValue_brace, readEnclosed_tooDeep .object
      (completes_member (completes_value (Nat.le_refl depth))) blankBefore earlier
      (named.startsWell.append t) refused (by rw [List.length_append]; omega)]
    rfl

/-- **Where the reader stops for a level too many**, the text overflows. -/
theorem overflows_of_readValue {deep : Container}
    (failed : readValue fuel depth t = .error (.tooDeep deep)) : Overflows deep depth t := by
  induction depth using Nat.strong_induction_on generalizing fuel t with
  | _ depth ih =>
    rcases readValue_cases fuel depth t with step | step | ⟨inner, rfl, step⟩ |
      ⟨container, inner, rfl, rfl, step⟩ | ⟨less, depth, inner, rfl, rfl, step⟩ |
      ⟨less, depth, inner, rfl, rfl, step⟩ <;> rw [step] at failed
    · cases failed
    · exact absurd failed (readPlain_ne_tooDeep t deep)
    · exact absurd (map_eq_error.mp failed) (readText_ne_tooDeep inner deep)
    · cases failed
      exact .opens inner
    · obtain ⟨before, front, items, body, left, blank, followed, rfl, fails⟩ :=
        exists_of_readEnclosed_tooDeep (sound_value depth) (map_eq_error.mp failed)
      exact .item blank followed (ih depth (Nat.lt_succ_self depth) fails)
    · obtain ⟨before, front, members, body, left, blank, followed, rfl, fails⟩ :=
        exists_of_readEnclosed_tooDeep (sound_member (sound_value depth)) (map_eq_error.mp failed)
      rw [readMember] at fails
      split at fails
      · next error refused =>
        rw [Except.error.inj fails] at refused
        exact absurd refused (readName_ne_tooDeep body deep)
      · next name rest read =>
        obtain ⟨start, named, rfl⟩ := saysName_of_readName read
        exact .member blank followed named (ih depth (Nat.lt_succ_self depth) (map_eq_error.mp fails))

end Readers

/-! ### Whole texts -/

/-- **A text is read as a value** exactly if it says it, with blanks around it. -/
theorem read_eq_ok_iff {depth : Nat} {t : Text} {v : Value} :
    read t depth = .ok v ↔ ∃ before written behind, t = before ++ (written ++ behind) ∧
      Blank before ∧ Blank behind ∧ Says depth written v := by
  rw [read, bind_eq_ok]
  constructor
  · rintro ⟨⟨v', behind⟩, found, same⟩
    obtain ⟨before, blank, parted⟩ := exists_blank t
    obtain ⟨written, told, split⟩ := sound_value depth found
    dsimp only at same
    split at same
    · next nothing =>
      cases same
      obtain ⟨later, blankBehind, rest⟩ := exists_blank behind
      rw [nothing, List.append_nil] at rest
      rw [← rest] at blankBehind
      refine ⟨before, written, behind, ?_, blank, blankBehind, told⟩
      rw [← split, ← parted]
    · cases same
  · rintro ⟨before, written, behind, rfl, blank, blankBehind, told⟩
    have complete := completes_value (Nat.le_refl depth)
    have stops : Stops behind := by
      rw [← List.append_nil behind]
      exact stops_of_blank blankBehind stops_nil
    refine ⟨(v, behind), ?_, ?_⟩
    · rw [skipBlanks_append blank, skipBlanks_of_startsWell (told.startsWell.append behind)]
      refine complete.reads told ?_ stops
      simp only [List.length_append]
      omega
    · refine if_pos ?_
      rw [← List.append_nil behind, skipBlanks_append blankBehind]
      rfl

/-- **A text is refused for one level too many** exactly if it overflows behind its first blanks. -/
theorem read_eq_tooDeep_iff {depth : Nat} {t : Text} {deep : Container} :
    read t depth = .error (.tooDeep deep) ↔
      ∃ before inner, t = before ++ inner ∧ Blank before ∧ Overflows deep depth inner := by
  rw [read]
  constructor
  · intro failed
    obtain ⟨before, blank, parted⟩ := exists_blank t
    refine ⟨before, skipBlanks t, parted, blank, ?_⟩
    cases found : readValue (2 * t.length) depth (skipBlanks t) with
    | error error =>
      rw [found] at failed
      cases failed
      exact overflows_of_readValue found
    | ok result =>
      rw [found] at failed
      change (if skipBlanks result.2 = [] then _ else _) = _ at failed
      split at failed <;> cases failed
  · rintro ⟨before, inner, rfl, blank, overflow⟩
    rw [skipBlanks_append blank, skipBlanks_of_startsWell overflow.startsWell,
      readValue_of_overflows overflow (by simp only [List.length_append]; omega)]
    rfl

end AlarmFeed.Json
