/-
**Parts with commas between them.**

The readers of items and of members are one reader of parts, applied to a reader of one part
(`readParts`), and a list and an object are their parts in brackets (`readEnclosed`). If the reader of one
part keeps to the grammar, so do these two:

* `readParts_followed`, `readEnclosed_of_enclosed` — what the grammar says is read (`Completes`);
* `parts_of_readParts`, `enclosed_of_readEnclosed` — what was read is what the grammar says (`Sound`);
* `readEnclosed_tooDeep`, `exists_of_readEnclosed_tooDeep` — they stop for a level too many exactly where
  it is for one of the parts.

All that the reader of parts can do in one step is in `readParts_cases`.
-/

import AlarmFeed.Proofs.Json.Tokens

namespace AlarmFeed.Json

/-! ### Blanks -/

theorem blank_nil : Blank [] :=
  fun _ member => nomatch member

theorem skipBlanks_append {before : Text} (blank : Blank before) (t : Text) :
    skipBlanks (before ++ t) = skipBlanks t :=
  List.dropWhile_append_of_pos blank

theorem skipBlanks_cons {c : CodePoint} (noBlank : isBlank c = false) (rest : Text) :
    skipBlanks (c :: rest) = c :: rest :=
  List.dropWhile_cons_of_neg (by rw [noBlank]; exact Bool.false_ne_true)

/-- A text is blanks, and what is left behind them. -/
theorem exists_blank (t : Text) : ∃ before, Blank before ∧ t = before ++ skipBlanks t :=
  ⟨_, List.all_eq_true.mp List.all_takeWhile, List.takeWhile_append_dropWhile.symm⟩

theorem exists_blank_of_skipBlanks {t rest : Text} {c : CodePoint} (skipped : skipBlanks t = c :: rest) :
    ∃ before, Blank before ∧ t = before ++ c :: rest := by
  obtain ⟨before, blank, parted⟩ := exists_blank t
  rw [skipped] at parted
  exact ⟨before, blank, parted⟩

/-- A number ends in front of a blank. -/
theorem stops_of_blank {behind rest : Text} (blank : Blank behind) (stops : Stops rest) :
    Stops (behind ++ rest) := by
  cases behind with
  | nil => exact stops
  | cons c behind =>
    have first : c = CodePoint.ofChar ' ' ∨ c = CodePoint.ofChar '\n' ∨ c = CodePoint.ofChar '\r' ∨
        c = CodePoint.ofChar '\t' := by
      simpa [isBlank, or_assoc] using blank c List.mem_cons_self
    rcases first with rfl | rfl | rfl | rfl <;>
      exact stops_cons _ (by decide) (by decide) (by decide) (by decide)

/-- What is written for a value starts with no blank, and with no bracket or brace that closes. -/
def StartsWell (t : Text) : Prop :=
  ∃ c rest, t = c :: rest ∧ isBlank c = false ∧ c ≠ CodePoint.ofChar ']' ∧ c ≠ CodePoint.ofChar '\x7d'

theorem StartsWell.append {t : Text} (starts : StartsWell t) (rest : Text) : StartsWell (t ++ rest) := by
  obtain ⟨c, more, rfl, well⟩ := starts
  exact ⟨c, more ++ rest, rfl, well⟩

theorem skipBlanks_of_startsWell {t : Text} (starts : StartsWell t) : skipBlanks t = t := by
  obtain ⟨c, more, rfl, noBlank, _⟩ := starts
  exact skipBlanks_cons noBlank more

theorem StartsPlain.startsWell {t : Text} (starts : StartsPlain t) : StartsWell t := by
  obtain ⟨c, rest, rfl, unmarked⟩ := starts
  refine ⟨c, rest, rfl, ?_, ne_of_not_mem_marks unmarked (by decide),
    ne_of_not_mem_marks unmarked (by decide)⟩
  rw [isBlank, beq_false_of_ne (ne_of_not_mem_marks unmarked (by decide)),
    beq_false_of_ne (ne_of_not_mem_marks unmarked (by decide)),
    beq_false_of_ne (ne_of_not_mem_marks unmarked (by decide)),
    beq_false_of_ne (ne_of_not_mem_marks unmarked (by decide))]
  rfl

theorem Container.isBlank_closing (container : Container) : isBlank container.closing = false := by
  cases container <;> decide

theorem Container.comma_ne_closing (container : Container) :
    CodePoint.ofChar ',' ≠ container.closing := by
  cases container <;> decide

theorem Container.stops_closing (container : Container) (rest : Text) :
    Stops (container.closing :: rest) := by
  cases container <;> exact stops_cons rest (by decide) (by decide) (by decide) (by decide)

theorem Container.startsWell (container : Container) (rest : Text) :
    StartsWell (container.opening :: rest) := by
  cases container <;> exact ⟨_, _, rfl, by decide, by decide, by decide⟩

theorem SaysText.startsWell {quoted t : Text} (told : SaysText quoted t) : StartsWell quoted := by
  cases told
  exact ⟨_, _, rfl, by decide, by decide, by decide⟩

theorem Enclosed.startsWell {α : Type} {container : Container} {part : Nat → Text → α → Prop}
    {depth : Nat} {t : Text} {parts : List α} (each : Enclosed container part depth t parts) :
    StartsWell t := by
  cases each <;> exact container.startsWell _

theorem Enclosed.exists_succ {α : Type} {container : Container} {part : Nat → Text → α → Prop}
    {depth : Nat} {t : Text} {parts : List α} (each : Enclosed container part depth t parts) :
    ∃ inner, depth = inner + 1 := by
  cases each <;> exact ⟨_, rfl⟩

theorem Says.startsWell {depth : Nat} {t : Text} {v : Value} (told : Says depth t v) :
    StartsWell t := by
  cases told with
  | plain plain => exact plain.startsPlain.startsWell
  | text text => exact text.startsWell
  | list each => exact each.startsWell
  | object each => exact each.startsWell

theorem SaysName.startsWell {t name : Text} (named : SaysName t name) : StartsWell t := by
  cases named with
  | named text _ _ => exact text.startsWell.append _

theorem SaysMember.startsWell {depth : Nat} {t : Text} {member : Text × Value}
    (told : SaysMember depth t member) : StartsWell t := by
  cases told with
  | member named valued => exact named.startsWell.append _

theorem Overflows.startsWell {container : Container} {depth : Nat} {t : Text}
    (overflow : Overflows container depth t) : StartsWell t := by
  cases overflow with
  | opens rest => exact container.startsWell rest
  | item => exact Container.list.startsWell _
  | member => exact Container.object.startsWell _

/-! ### Parts with commas between them -/

section Parts

variable {α : Type}

/-- A reader of one part, with so much fuel. -/
abbrev PartReader (α : Type) := Nat → Text → Except ReadError (α × Text)

/-- Parts up to the closing bracket, each read by the same reader. -/
def readParts (closing : CodePoint) (one : PartReader α) : PartReader (List α)
  | 0, _ => .error .malformed
  | fuel + 1, t =>
    match one fuel t with
    | .error error => .error error
    | .ok (a, rest) =>
      match skipBlanks rest with
      | [] => .error .malformed
      | c :: rest =>
        if c = closing then .ok ([a], rest)
        else if c = ',' then
          (readParts closing one fuel (skipBlanks rest)).map fun (others, rest) => (a :: others, rest)
        else .error .malformed

/-- Parts behind the opening bracket. -/
def readEnclosed (container : Container) (one : PartReader α) : PartReader (List α) := fun fuel t =>
  match skipBlanks t with
  | [] => .error .malformed
  | c :: rest =>
    if c = container.closing then .ok ([], rest)
    else readParts container.closing one fuel (c :: rest)

/-- **A reader of one part reads what the grammar says**, with as much fuel as there are code points. -/
structure Completes (part : Text → α → Prop) (one : PartReader α) : Prop where
  starts : ∀ {t a}, part t a → StartsWell t
  reads : ∀ {t a}, part t a → ∀ {fuel rest}, t.length ≤ fuel → Stops rest →
    one fuel (t ++ rest) = .ok (a, rest)

/-- **What a reader of one part reads** is what the grammar says. -/
def Sound (part : Text → α → Prop) (one : PartReader α) : Prop :=
  ∀ {fuel t a rest}, one fuel t = .ok (a, rest) → ∃ written, part written a ∧ t = written ++ rest

variable {container : Container} {part : Nat → Text → α → Prop} {depth fuel : Nat}
  {one : PartReader α} {t rest behind before front : Text} {a : α}
  {others parts : List α}

theorem readParts_last (first : one fuel t = .ok (a, behind ++ container.closing :: rest))
    (blank : Blank behind) : readParts container.closing one (fuel + 1) t = .ok ([a], rest) := by
  rw [readParts, first]
  dsimp only
  rw [skipBlanks_append blank, skipBlanks_cons container.isBlank_closing]
  exact if_pos rfl

theorem readParts_more (first : one fuel t = .ok (a, behind ++ CodePoint.ofChar ',' :: (before ++ rest)))
    (blankBehind : Blank behind) (blankBefore : Blank before) (starts : StartsWell rest) :
    readParts container.closing one (fuel + 1) t =
      (readParts container.closing one fuel rest).map fun (others, rest) => (a :: others, rest) := by
  rw [readParts, first]
  dsimp only
  rw [skipBlanks_append blankBehind, skipBlanks_cons (by decide)]
  dsimp only
  rw [if_neg container.comma_ne_closing, if_pos rfl, skipBlanks_append blankBefore,
    skipBlanks_of_startsWell starts]

theorem Followed.startsWell (each : ∀ {t a}, part depth t a → StartsWell t)
    (earlier : Followed part (depth + 1) front others) (starts : StartsWell t) :
    StartsWell (front ++ t) := by
  cases earlier with
  | none => exact starts
  | next first _ _ _ =>
    rw [List.append_assoc]
    exact (each first).append _

/-- **Parts with a comma behind each** are read one by one; each takes one unit of fuel. -/
theorem readParts_followed (container : Container) (complete : Completes (part depth) one)
    (earlier : Followed part (depth + 1) front others) (starts : StartsWell t)
    (enough : front.length ≤ fuel) :
    ∃ left, fuel ≤ left + front.length ∧
      readParts container.closing one fuel (front ++ t) =
        (readParts container.closing one left t).map fun (parts, rest) => (others ++ parts, rest) := by
  generalize level : depth + 1 = height at earlier
  induction earlier generalizing fuel with
  | none =>
    refine ⟨fuel, Nat.le_add_right _ _, ?_⟩
    rw [List.nil_append]
    cases readParts container.closing one fuel t <;> rfl
  | @next depth written behind before later a others first blankBehind blankBefore more ih =>
    obtain rfl := Nat.succ.inj level
    simp only [List.length_append, List.length_cons] at enough ⊢
    obtain ⟨fuel, rfl⟩ := Nat.exists_eq_succ_of_ne_zero (by omega : fuel ≠ 0)
    obtain ⟨left, less, reads⟩ := @ih fuel (by omega) rfl
    refine ⟨left, by omega, ?_⟩
    have read : one fuel (written ++ (behind ++ CodePoint.ofChar ',' :: (before ++ (later ++ t)))) =
        .ok (a, behind ++ CodePoint.ofChar ',' :: (before ++ (later ++ t))) :=
      complete.reads first (by omega)
        (stops_of_blank blankBehind (stops_cons _ (by decide) (by decide) (by decide) (by decide)))
    simp only [List.append_assoc, List.cons_append]
    rw [readParts_more read blankBehind blankBefore (more.startsWell complete.starts starts), reads]
    cases readParts container.closing one left t <;> rfl

theorem readEnclosed_of_startsWell (blank : Blank before) (starts : StartsWell t) :
    readEnclosed container one fuel (before ++ t) = readParts container.closing one fuel t := by
  rw [readEnclosed, skipBlanks_append blank, skipBlanks_of_startsWell starts]
  obtain ⟨c, rest, rfl, _, noBracket, noBrace⟩ := starts
  cases container with
  | list => exact if_neg noBracket
  | object => exact if_neg noBrace

/-- **Parts in brackets are read**, and the reader stops behind them. -/
theorem readEnclosed_of_enclosed (complete : Completes (part depth) one)
    (each : Enclosed container part (depth + 1) t parts) :
    ∃ inner, t = container.opening :: inner ∧ ∀ {fuel rest}, inner.length ≤ fuel →
      readEnclosed container one fuel (inner ++ rest) = .ok (parts, rest) := by
  cases each with
  | @empty _ inner blank =>
    refine ⟨_, rfl, fun {fuel rest} enough => ?_⟩
    rw [List.append_assoc, List.singleton_append, readEnclosed, skipBlanks_append blank,
      skipBlanks_cons container.isBlank_closing]
    exact if_pos rfl
  | @parts _ before front written behind a others blankBefore earlier last blankBehind =>
    refine ⟨_, rfl, fun {fuel rest} enough => ?_⟩
    simp only [List.length_append, List.length_singleton] at enough
    simp only [List.append_assoc, List.singleton_append]
    have starts : StartsWell (written ++ (behind ++ container.closing :: rest)) :=
      (complete.starts last).append _
    obtain ⟨left, less, reads⟩ := readParts_followed container complete earlier starts
      (by omega : front.length ≤ fuel)
    obtain ⟨left, rfl⟩ := Nat.exists_eq_succ_of_ne_zero (by omega : left ≠ 0)
    have read := complete.reads last (by omega : written.length ≤ left)
      (stops_of_blank blankBehind (container.stops_closing rest))
    rw [readEnclosed_of_startsWell blankBefore (earlier.startsWell complete.starts starts), reads,
      readParts_last read blankBehind]
    rfl

/-- **One part that is nested too deeply** is what parts in brackets are refused for. Each part that is
read before it takes one unit of fuel, and so does the bracket. -/
theorem readEnclosed_tooDeep (container : Container) {deep : Container}
    (complete : Completes (part depth) one) (blank : Blank before)
    (earlier : Followed part (depth + 1) front others) (starts : StartsWell t)
    (refused : ∀ {left}, 2 * t.length ≤ left → one left t = .error (.tooDeep deep))
    (enough : 2 * (before.length + (front.length + t.length)) < fuel) :
    readEnclosed container one fuel (before ++ (front ++ t)) = .error (.tooDeep deep) := by
  obtain ⟨left, less, reads⟩ := readParts_followed container complete earlier starts
    (by omega : front.length ≤ fuel)
  obtain ⟨left, rfl⟩ := Nat.exists_eq_succ_of_ne_zero (by omega : left ≠ 0)
  rw [readEnclosed_of_startsWell blank (earlier.startsWell complete.starts starts), reads, readParts,
    refused (by omega)]
  rfl

/-! ### What was read -/

/-- **What one step of the reader of parts can do**: the first part is refused, or it is the last, or a
comma and others follow, or nothing that may follow does. -/
theorem readParts_cases (closing : CodePoint) (one : PartReader α) (fuel : Nat)
    (t : Text) :
    (∃ error, one fuel t = .error error ∧ readParts closing one (fuel + 1) t = .error error) ∨
    ∃ a more, one fuel t = .ok (a, more) ∧
      ((∃ behind rest, Blank behind ∧ more = behind ++ closing :: rest ∧
          readParts closing one (fuel + 1) t = .ok ([a], rest)) ∨
        (∃ behind before later, Blank behind ∧ Blank before ∧
          more = behind ++ CodePoint.ofChar ',' :: (before ++ later) ∧
          readParts closing one (fuel + 1) t =
            (readParts closing one fuel later).map fun (others, rest) => (a :: others, rest)) ∨
        readParts closing one (fuel + 1) t = .error .malformed) := by
  rw [readParts]
  cases first : one fuel t with
  | error error => exact .inl ⟨error, rfl, rfl⟩
  | ok result =>
    obtain ⟨a, more⟩ := result
    refine .inr ⟨a, more, rfl, ?_⟩
    dsimp only
    cases skipped : skipBlanks more with
    | nil => exact .inr (.inr rfl)
    | cons c later =>
      obtain ⟨behind, blank, rfl⟩ := exists_blank_of_skipBlanks skipped
      dsimp only
      by_cases closes : c = closing
      · rw [if_pos closes, closes]
        exact .inl ⟨behind, later, blank, rfl, rfl⟩
      rw [if_neg closes]
      by_cases comma : c = CodePoint.ofChar ','
      · obtain ⟨before, blankBefore, parted⟩ := exists_blank later
        rw [if_pos comma, comma]
        exact .inr (.inl ⟨behind, before, skipBlanks later, blank, blankBefore, by rw [← parted], rfl⟩)
      · rw [if_neg comma]
        exact .inr (.inr rfl)

/-- **What was read as parts** is parts with commas between them. -/
theorem parts_of_readParts {closing : CodePoint} (sound : Sound (part depth) one)
    (found : readParts closing one fuel t = .ok (parts, rest)) :
    ∃ front others written a behind, parts = others ++ [a] ∧ Followed part (depth + 1) front others ∧
      part depth written a ∧ Blank behind ∧ t = front ++ (written ++ (behind ++ closing :: rest)) := by
  induction fuel generalizing t parts with
  | zero =>
    rw [readParts] at found
    cases found
  | succ fuel ih =>
    rcases readParts_cases closing one fuel t with ⟨error, _, step⟩ | ⟨a, more, first, last | next | step⟩
    · rw [step] at found
      cases found
    · obtain ⟨behind, later, blank, rfl, step⟩ := last
      obtain ⟨written, told, rfl⟩ := sound first
      rw [step] at found
      cases found
      exact ⟨[], [], written, a, behind, rfl, .none, told, blank, rfl⟩
    · obtain ⟨behind, before, later, blankBehind, blankBefore, rfl, step⟩ := next
      obtain ⟨written, told, rfl⟩ := sound first
      rw [step] at found
      obtain ⟨⟨others, last⟩, read, same⟩ := map_eq_ok.mp found
      cases same
      obtain ⟨front, earlier, final, b, tail, rfl, followed, final', blank, rfl⟩ := ih read
      refine ⟨_, a :: earlier, final, b, tail, rfl, .next told blankBehind blankBefore followed, final',
        blank, ?_⟩
      simp only [List.append_assoc, List.cons_append]
    · rw [step] at found
      cases found

/-- **Where the reader of parts stops for a level too many**, it is for one of the parts, and those before
it were read. -/
theorem exists_of_readParts_tooDeep {closing : CodePoint} {deep : Container} (sound : Sound (part depth) one)
    (failed : readParts closing one fuel t = .error (.tooDeep deep)) :
    ∃ front others inner left, Followed part (depth + 1) front others ∧ t = front ++ inner ∧
      one left inner = .error (.tooDeep deep) := by
  induction fuel generalizing t with
  | zero =>
    rw [readParts] at failed
    cases failed
  | succ fuel ih =>
    rcases readParts_cases closing one fuel t with ⟨error, first, step⟩ | ⟨a, more, first, last | next | step⟩
    · rw [step] at failed
      rw [Except.error.inj failed] at first
      exact ⟨[], [], t, fuel, .none, rfl, first⟩
    · obtain ⟨behind, later, _, _, step⟩ := last
      rw [step] at failed
      cases failed
    · obtain ⟨behind, before, later, blankBehind, blankBefore, rfl, step⟩ := next
      obtain ⟨written, told, rfl⟩ := sound first
      rw [step] at failed
      obtain ⟨front, others, inner, left, followed, rfl, fails⟩ := ih (map_eq_error.mp failed)
      refine ⟨_, a :: others, inner, left, .next told blankBehind blankBefore followed, ?_, fails⟩
      simp only [List.append_assoc, List.cons_append]
    · rw [step] at failed
      cases failed

/-- **What was read as parts in brackets** is parts in brackets. -/
theorem enclosed_of_readEnclosed (sound : Sound (part depth) one)
    (found : readEnclosed container one fuel t = .ok (parts, rest)) :
    ∃ inner, Enclosed container part (depth + 1) (container.opening :: inner) parts ∧ t = inner ++ rest := by
  rw [readEnclosed] at found
  cases skipped : skipBlanks t with
  | nil =>
    rw [skipped] at found
    cases found
  | cons c later =>
    obtain ⟨before, blankBefore, rfl⟩ := exists_blank_of_skipBlanks skipped
    rw [skipped] at found
    dsimp only at found
    by_cases closes : c = container.closing
    · rw [if_pos closes] at found
      cases found
      exact ⟨_, .empty blankBefore, by rw [closes, List.append_assoc, List.singleton_append]⟩
    · rw [if_neg closes] at found
      obtain ⟨front, others, written, a, behind, rfl, followed, last, blank, text⟩ :=
        parts_of_readParts sound found
      refine ⟨_, .parts blankBefore followed last blank, ?_⟩
      rw [text]
      simp only [List.append_assoc, List.singleton_append]

theorem exists_of_readEnclosed_tooDeep {deep : Container} (sound : Sound (part depth) one)
    (failed : readEnclosed container one fuel t = .error (.tooDeep deep)) :
    ∃ before front others inner left, Blank before ∧ Followed part (depth + 1) front others ∧
      t = before ++ (front ++ inner) ∧ one left inner = .error (.tooDeep deep) := by
  rw [readEnclosed] at failed
  cases skipped : skipBlanks t with
  | nil =>
    rw [skipped] at failed
    cases failed
  | cons c later =>
    obtain ⟨before, blankBefore, rfl⟩ := exists_blank_of_skipBlanks skipped
    rw [skipped] at failed
    dsimp only at failed
    split at failed
    · cases failed
    · obtain ⟨front, others, inner, left, followed, text, fails⟩ :=
        exists_of_readParts_tooDeep sound failed
      exact ⟨before, front, others, inner, left, blankBefore, followed, by rw [text], fails⟩

end Parts

end AlarmFeed.Json
