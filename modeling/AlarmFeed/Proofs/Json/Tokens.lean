/-
**Texts, numbers and words are read as the grammar says.**

For each kind of token that the grammar knows there are two lemmas. What is written as the grammar says
is read so, and the reader stops behind it; a number has to end there (`Stops`). And what was read is
written so.

* `readText_of_saysText`, `saysText_of_readText` — texts between quotes, piece by piece (`Spells`);
* `readUnsigned_of_saysNumber`, `saysNumber_of_readUnsigned` — numbers behind their sign;
* `readPlain_of_saysPlain`, `saysPlain_of_readPlain` — words and numbers.
-/

import AlarmFeed.Proofs.Json.Grammar
import AlarmFeed.Proofs.Json.Quoted
import AlarmFeed.Proofs.Text.Pieces

namespace AlarmFeed.Json

/-! ### Results -/

/-- What follows a good result is good only if each of the two is. -/
theorem bind_eq_ok {ε α β : Type} {first : Except ε α} {next : α → Except ε β} {b : β} :
    (first >>= next) = .ok b ↔ ∃ a, first = .ok a ∧ next a = .ok b := by
  cases first with
  | error error => simp [bind, Except.bind]
  | ok a => simp [bind, Except.bind]

theorem map_eq_ok {ε α β : Type} {result : Except ε α} {f : α → β} {b : β} :
    result.map f = .ok b ↔ ∃ a, result = .ok a ∧ f a = b := by
  cases result with
  | error error => simp [Except.map]
  | ok a => simp [Except.map]

theorem map_eq_error {ε α β : Type} {result : Except ε α} {f : α → β} {error : ε} :
    result.map f = .error error ↔ result = .error error := by
  cases result with
  | error error => simp [Except.map]
  | ok a => simp [Except.map]

/-! ### Texts -/

theorem SaysPiece.spells {written : Text} {piece : Piece} (told : SaysPiece written piece) :
    Spells written [piece] := by
  cases told with
  | self noQuote noBackslash noControl => exact spells_self noQuote noControl noBackslash
  | letter known =>
    refine spells_escape ?_ known
    rintro rfl
    cases known
  | unit known => exact spells_number known

theorem SaysPieces.spells {inner : Text} {pieces : List Piece} (each : SaysPieces inner pieces) :
    Spells inner pieces := by
  induction each with
  | nil => exact spells_nil
  | cons first others ih => exact spells_append first.spells ih

/-- **A text between quotes is read**, and the reader stops behind it. -/
theorem readText_of_saysText {quoted t : Text} (told : SaysText quoted t) :
    ∃ inner, quoted = CodePoint.ofChar '"' :: inner ∧
      ∀ rest, readText (inner ++ rest) = .ok (t, rest) := by
  obtain ⟨each⟩ := told
  refine ⟨_, rfl, fun rest => ?_⟩
  rw [List.append_assoc, List.singleton_append]
  exact readText_of_spells each.spells rest

/-- A piece in front of those that are written as the grammar says. -/
theorem saysPieces_of_prepend {written more rest : Text} {piece : Piece} {pieces : List Piece}
    (first : SaysPiece written piece)
    (others : ∀ {later}, readPieces more = .ok (later, rest) →
      ∃ inner, SaysPieces inner later ∧ more = inner ++ CodePoint.ofChar '"' :: rest)
    (found : prepend piece (readPieces more) = .ok (pieces, rest)) :
    ∃ inner, SaysPieces inner pieces ∧ written ++ more = inner ++ CodePoint.ofChar '"' :: rest := by
  obtain ⟨⟨later, behind⟩, read, same⟩ := map_eq_ok.mp found
  cases same
  obtain ⟨inner, each, rfl⟩ := others read
  exact ⟨written ++ inner, .cons first each, (List.append_assoc _ _ _).symm⟩

theorem saysPieces_of_readPieces {t rest : Text} {pieces : List Piece}
    (found : readPieces t = .ok (pieces, rest)) :
    ∃ inner, SaysPieces inner pieces ∧ t = inner ++ CodePoint.ofChar '"' :: rest := by
  -- where the reader neither ends nor goes on, nothing was found
  fun_induction readPieces t generalizing pieces <;> try cases found
  case case2 => exact ⟨[], .nil, rfl⟩
  case case5 known _ _ ih => exact saysPieces_of_prepend (.unit known) ih found
  case case8 known _ _ ih => exact saysPieces_of_prepend (.letter known) ih found
  case case10 noQuote control noBackslash ih =>
    exact saysPieces_of_prepend (.self noQuote noBackslash (Nat.le_of_not_lt control)) ih found

/-- **A text that was read** was written between quotes. -/
theorem saysText_of_readText {t rest content : Text} (found : readText t = .ok (content, rest)) :
    ∃ inner, SaysText (CodePoint.ofChar '"' :: inner) content ∧ t = inner ++ rest := by
  obtain ⟨⟨pieces, behind⟩, read, same⟩ := map_eq_ok.mp found
  cases same
  obtain ⟨inner, each, rfl⟩ := saysPieces_of_readPieces read
  exact ⟨_, .quoted each, (List.append_assoc inner [_] _).symm⟩

theorem readPieces_ne_tooDeep (t : Text) (deep : Container) : readPieces t ≠ .error (.tooDeep deep) := by
  fun_induction readPieces t <;> intro failed <;> try cases failed
  -- behind a piece, the error is that of the others
  all_goals next ih => exact ih (map_eq_error.mp failed)

theorem readText_ne_tooDeep (t : Text) (deep : Container) : readText t ≠ .error (.tooDeep deep) :=
  fun failed => readPieces_ne_tooDeep t deep (map_eq_error.mp failed)

/-! ### The parts of a number -/

/-- No digit comes next. -/
def NoDigit (rest : Text) : Prop :=
  ∀ c ∈ rest.head?, c.isDigit = false

/-- No digit, point or exponent mark comes next: a number ends here. -/
def Stops (rest : Text) : Prop :=
  ∀ c ∈ rest.head?, c.isDigit = false ∧ c ≠ CodePoint.ofChar '.' ∧ c ≠ CodePoint.ofChar 'e' ∧
    c ≠ CodePoint.ofChar 'E'

theorem stops_nil : Stops [] := by
  intro c member
  cases member

theorem stops_cons {c : CodePoint} (rest : Text) (noDigit : c.isDigit = false)
    (noPoint : c ≠ CodePoint.ofChar '.') (noMark : c ≠ CodePoint.ofChar 'e')
    (noCapital : c ≠ CodePoint.ofChar 'E') : Stops (c :: rest) := by
  intro d member
  obtain rfl := Option.some.inj member
  exact ⟨noDigit, noPoint, noMark, noCapital⟩

theorem Stops.noDigit {rest : Text} (stops : Stops rest) : NoDigit rest :=
  fun c member => (stops c member).1

theorem noDigit_cons {c : CodePoint} (rest : Text) (noDigit : c.isDigit = false) :
    NoDigit (c :: rest) := by
  intro d member
  obtain rfl := Option.some.inj member
  exact noDigit

theorem takeWhile_isDigit_append {digits rest : Text} (allDigits : ∀ c ∈ digits, c.isDigit = true)
    (noDigit : NoDigit rest) : (digits ++ rest).takeWhile CodePoint.isDigit = digits := by
  rw [List.takeWhile_append_of_pos allDigits]
  cases rest with
  | nil => rw [List.takeWhile_nil, List.append_nil]
  | cons c rest =>
    rw [List.takeWhile_cons, noDigit c rfl, if_neg Bool.false_ne_true, List.append_nil]

/-- The whole part of a number is taken up, whatever its first digit. -/
theorem integerDigits_whole {whole rest : Text} (front : Whole whole) (noDigit : NoDigit rest) :
    integerDigits (whole ++ rest) = whole := by
  rw [integerDigits, List.head?_append_of_ne_nil _ front.some]
  by_cases zero : whole.head? = some (CodePoint.ofChar '0')
  · rw [if_pos zero, front.leading zero]
  · rw [if_neg zero, takeWhile_isDigit_append front.digits noDigit]

theorem fraction?_point {decimals rest : Text} (behind : Figures decimals) (noDigit : NoDigit rest) :
    fraction? (CodePoint.ofChar '.' :: (decimals ++ rest)) = some (decimals, rest) := by
  rw [fraction?, takeWhile_isDigit_append behind.digits noDigit, if_pos ⟨rfl, behind.some⟩,
    List.drop_left]

theorem fraction?_other {c : CodePoint} (rest : Text) (noPoint : c ≠ CodePoint.ofChar '.') :
    fraction? (c :: rest) = none :=
  if_neg fun both => noPoint both.1

theorem fraction?_of_stops {rest : Text} (stops : Stops rest) : fraction? rest = none := by
  cases rest with
  | nil => rfl
  | cons c rest => exact fraction?_other rest (stops c rfl).2.1

theorem SaysPower.exists_cons {exponent : Text} {power : Int} (raised : SaysPower exponent power) :
    ∃ mark more, exponent = mark :: more ∧
      (mark = CodePoint.ofChar 'e' ∨ mark = CodePoint.ofChar 'E') := by
  cases raised with
  | bare marked run => exact ⟨_, _, rfl, marked⟩
  | plus marked run => exact ⟨_, _, rfl, marked⟩
  | minus marked run => exact ⟨_, _, rfl, marked⟩

/-- An exponent starts with no digit and with no point. -/
theorem SaysPower.ends_digits {exponent : Text} {power : Int} (raised : SaysPower exponent power)
    (rest : Text) : NoDigit (exponent ++ rest) ∧ fraction? (exponent ++ rest) = none := by
  obtain ⟨mark, more, rfl, marked⟩ := raised.exists_cons
  rcases marked with rfl | rfl
  · exact ⟨noDigit_cons _ (by decide), fraction?_other _ (by decide)⟩
  · exact ⟨noDigit_cons _ (by decide), fraction?_other _ (by decide)⟩

theorem exponent?_power {exponent rest : Text} {power : Int} (raised : SaysPower exponent power)
    (noDigit : NoDigit rest) : exponent? (exponent ++ rest) = some (power, rest) := by
  cases raised with
  | @bare mark figures marked run =>
    have taken := takeWhile_isDigit_append run.digits noDigit
    obtain ⟨c, more, rfl⟩ := List.exists_cons_of_ne_nil run.some
    have digit := run.digits c List.mem_cons_self
    have noMinus : c ≠ CodePoint.ofChar '-' := by rintro rfl; cases digit
    have noPlus : c ≠ CodePoint.ofChar '+' := by rintro rfl; cases digit
    rw [List.cons_append] at taken
    simp [exponent?, marked, noMinus, noPlus, taken, Decimal.signed]
  | @plus mark figures marked run =>
    have taken := takeWhile_isDigit_append run.digits noDigit
    have noMinus : CodePoint.ofChar '+' ≠ CodePoint.ofChar '-' := by decide
    simp [exponent?, marked, noMinus, taken, run.some, Decimal.signed]
  | @minus mark figures marked run =>
    have taken := takeWhile_isDigit_append run.digits noDigit
    simp [exponent?, marked, taken, run.some, Decimal.signed]

theorem exponent?_of_stops {rest : Text} (stops : Stops rest) : exponent? rest = none := by
  cases rest with
  | nil => rfl
  | cons c rest =>
    refine if_neg ?_
    rintro (mark | capital)
    · exact (stops c rfl).2.2.1 mark
    · exact (stops c rfl).2.2.2 capital

/-! ### The parts of a number that was read -/

theorem append_drop_takeWhile (t : Text) :
    t.takeWhile CodePoint.isDigit ++ t.drop (t.takeWhile CodePoint.isDigit).length = t :=
  List.prefix_iff_eq_append.mp (List.takeWhile_prefix _)

theorem figures_takeWhile {t : Text} (some : t.takeWhile CodePoint.isDigit ≠ []) :
    Figures (t.takeWhile CodePoint.isDigit) :=
  ⟨some, List.all_eq_true.mp List.all_takeWhile⟩

theorem integerDigits_append_drop (t : Text) :
    integerDigits t ++ t.drop (integerDigits t).length = t := by
  rw [integerDigits]
  split
  · next zero =>
    obtain ⟨rest, rfl⟩ := List.head?_eq_some_iff.mp zero
    rfl
  · exact append_drop_takeWhile t

theorem whole_integerDigits {t : Text} (some : integerDigits t ≠ []) : Whole (integerDigits t) := by
  rw [integerDigits] at some ⊢
  split
  · exact whole_singleton (by decide)
  · next noZero =>
    rw [if_neg noZero] at some
    refine (figures_takeWhile some).whole ?_
    rwa [← List.head?_append_of_ne_nil _ some, append_drop_takeWhile]

theorem figures_of_fraction? {t digits rest : Text} (found : fraction? t = some (digits, rest)) :
    Figures digits ∧ t = CodePoint.ofChar '.' :: (digits ++ rest) := by
  rcases t with _ | ⟨point, t⟩
  · cases found
  · rw [fraction?] at found
    split at found
    · next both =>
      cases found
      refine ⟨figures_takeWhile both.2, ?_⟩
      rw [append_drop_takeWhile, both.1]
    · cases found

theorem saysPower_of_exponent? {t rest : Text} {power : Int} (found : exponent? t = some (power, rest)) :
    ∃ exponent, SaysPower exponent power ∧ t = exponent ++ rest := by
  rcases t with _ | ⟨mark, t⟩
  · cases found
  rw [exponent?] at found
  by_cases marked : mark = CodePoint.ofChar 'e' ∨ mark = CodePoint.ofChar 'E'
  swap
  · rw [if_neg marked] at found
    cases found
  rw [if_pos marked] at found
  -- the digits that were taken behind the mark and the sign, if there is one
  have taken : ∀ (negative : Bool) {unsigned : Text},
      (if unsigned.takeWhile CodePoint.isDigit = [] then none
        else some (Decimal.signed negative (Decimal.value (unsigned.takeWhile CodePoint.isDigit)),
          unsigned.drop (unsigned.takeWhile CodePoint.isDigit).length)) = some (power, rest) →
      ∃ figures, Figures figures ∧ unsigned = figures ++ rest ∧
        power = Decimal.signed negative (Decimal.value figures) := by
    intro negative unsigned found
    split at found
    · cases found
    · next some =>
      cases found
      exact ⟨_, figures_takeWhile some, (append_drop_takeWhile unsigned).symm, rfl⟩
  by_cases minus : t.head? = some (CodePoint.ofChar '-')
  · obtain ⟨unsigned, rfl⟩ := List.head?_eq_some_iff.mp minus
    obtain ⟨figures, run, rfl, rfl⟩ := taken true found
    exact ⟨_, .minus marked run, rfl⟩
  by_cases plus : t.head? = some (CodePoint.ofChar '+')
  · obtain ⟨unsigned, rfl⟩ := List.head?_eq_some_iff.mp plus
    obtain ⟨figures, run, rfl, rfl⟩ := taken false found
    exact ⟨_, .plus marked run, rfl⟩
  · dsimp only at found
    rw [beq_false_of_ne minus, beq_false_of_ne plus] at found
    obtain ⟨figures, run, rfl, rfl⟩ := taken false found
    exact ⟨_, .bare marked run, rfl⟩

/-! ### Numbers -/

section Numbers

variable {negative : Bool} {t rest : Text} {v : Value}

/-- A number behind its sign starts with a digit. -/
theorem SaysNumber.exists_cons (told : SaysNumber negative t v) :
    ∃ c rest, t = c :: rest ∧ c.isDigit = true := by
  cases told with
  | whole front short =>
    rw [← List.append_nil t]
    exact front.exists_cons []
  | point front behind => exact front.exists_cons _
  | power front raised => exact front.exists_cons _
  | both front behind raised => exact front.exists_cons _

/-- **A number behind its sign is read**, if a number ends there. -/
theorem readUnsigned_of_saysNumber (told : SaysNumber negative t v) (stops : Stops rest) :
    readUnsigned negative (t ++ rest) = .ok (v, rest) := by
  cases told with
  | whole front short =>
    rw [readUnsigned, integerDigits_whole front stops.noDigit, List.drop_left]
    dsimp only
    rw [if_neg front.some, fraction?_of_stops stops]
    dsimp only
    rw [exponent?_of_stops stops]
    dsimp only
    rw [if_neg Bool.false_ne_true, if_neg (Nat.not_lt.mpr short)]
  | @point whole decimals front behind =>
    rw [List.append_assoc, List.cons_append, readUnsigned,
      integerDigits_whole front (noDigit_cons _ (by decide)), List.drop_left]
    dsimp only
    rw [if_neg front.some, fraction?_point behind stops.noDigit]
    dsimp only
    rw [exponent?_of_stops stops]
    dsimp only
    rw [if_pos rfl]
  | @power whole exponent power front raised =>
    obtain ⟨noDigit, noFraction⟩ := raised.ends_digits rest
    rw [List.append_assoc, readUnsigned, integerDigits_whole front noDigit, List.drop_left]
    dsimp only
    rw [if_neg front.some, noFraction]
    dsimp only
    rw [exponent?_power raised stops.noDigit]
    dsimp only
    rw [List.append_nil, List.length_nil, Int.natCast_zero, Int.sub_zero]
  | @both whole decimals exponent power front behind raised =>
    obtain ⟨noDigit, _⟩ := raised.ends_digits rest
    rw [List.append_assoc, List.cons_append, List.append_assoc, readUnsigned,
      integerDigits_whole front (noDigit_cons _ (by decide)), List.drop_left]
    dsimp only
    rw [if_neg front.some, fraction?_point behind noDigit]
    dsimp only
    rw [exponent?_power raised stops.noDigit]

/-- **A number that was read** was written as the grammar says. -/
theorem saysNumber_of_readUnsigned (found : readUnsigned negative t = .ok (v, rest)) :
    ∃ written, SaysNumber negative written v ∧ t = written ++ rest := by
  have parted := integerDigits_append_drop t
  rw [readUnsigned] at found
  by_cases empty : integerDigits t = []
  · rw [if_pos empty] at found
    cases found
  rw [if_neg empty] at found
  have front := whole_integerDigits empty
  generalize t.drop (integerDigits t).length = behind at found parted
  generalize integerDigits t = whole at found parted front empty
  subst parted
  cases fractioned : fraction? behind with
  | none =>
    rw [fractioned] at found
    dsimp only at found
    cases raised : exponent? behind with
    | none =>
      rw [raised] at found
      dsimp only at found
      rw [if_neg Bool.false_ne_true] at found
      split at found
      · cases found
      · next short =>
        cases found
        exact ⟨_, .whole front (Nat.le_of_not_lt short), rfl⟩
    | some result =>
      obtain ⟨power, last⟩ := result
      rw [raised] at found
      dsimp only at found
      rw [List.append_nil, List.length_nil, Int.natCast_zero, Int.sub_zero] at found
      cases found
      obtain ⟨exponent, told, rfl⟩ := saysPower_of_exponent? raised
      exact ⟨_, .power front told, (List.append_assoc _ _ _).symm⟩
  | some result =>
    obtain ⟨decimals, more⟩ := result
    obtain ⟨run, rfl⟩ := figures_of_fraction? fractioned
    rw [fractioned] at found
    dsimp only at found
    cases raised : exponent? more with
    | none =>
      rw [raised] at found
      dsimp only at found
      rw [if_pos rfl] at found
      cases found
      exact ⟨_, .point front run, (List.append_assoc whole (_ :: decimals) rest).symm⟩
    | some result =>
      obtain ⟨power, last⟩ := result
      rw [raised] at found
      cases found
      obtain ⟨exponent, told, rfl⟩ := saysPower_of_exponent? raised
      refine ⟨_, .both front run told, ?_⟩
      rw [List.append_assoc, List.cons_append, List.append_assoc]

end Numbers

/-! ### Words -/

/-- Every word is longer than one code point, and holds no digit. -/
theorem noDigit_of_mem_words :
    ∀ pair ∈ words, 2 ≤ pair.1.length ∧ pair.1.any CodePoint.isDigit = false := by
  decide

theorem findSome?_words_of_digit {t : Text} {c : CodePoint} (early : c ∈ t.take 2)
    (digit : c.isDigit = true) :
    (words.findSome? fun (word, value) => (Text.after? word t).map (value, ·)) = none := by
  refine List.findSome?_eq_none_iff.mpr ?_
  intro pair member
  cases found : Text.after? pair.1 t with
  | none =>
    show (Text.after? pair.1 t).map _ = none
    rw [found]
    rfl
  | some rest =>
    obtain ⟨long, noDigit⟩ := noDigit_of_mem_words pair member
    rw [Text.eq_append_of_after? found, List.take_append_of_le_length long] at early
    exact absurd digit (List.any_eq_false.mp noDigit c (List.mem_of_mem_take early))

/-- What starts with a digit, or with a minus and a digit, is a number. -/
theorem readPlain_of_digit {c : CodePoint} (digit : c.isDigit = true) (rest : Text) :
    readPlain (c :: rest) = readUnsigned false (c :: rest) ∧
      readPlain (CodePoint.ofChar '-' :: c :: rest) = readUnsigned true (c :: rest) := by
  have noMinus : c ≠ CodePoint.ofChar '-' := by
    rintro rfl
    cases digit
  have second : c ∈ (CodePoint.ofChar '-' :: c :: rest).take 2 :=
    List.mem_cons_of_mem _ List.mem_cons_self
  constructor
  · rw [readPlain, findSome?_words_of_digit List.mem_cons_self digit]
    exact if_neg noMinus
  · rw [readPlain, findSome?_words_of_digit second digit]
    exact if_pos rfl

/-- **A word or a number is read**; a number has to end there. -/
theorem readPlain_of_saysPlain {t rest : Text} {v : Value} (told : SaysPlain t v)
    (stops : Stops rest) : readPlain (t ++ rest) = .ok (v, rest) := by
  cases told with
  | word known =>
    simp only [words, List.mem_cons, List.not_mem_nil, or_false, Prod.mk.injEq] at known
    rcases known with ⟨rfl, rfl⟩ | ⟨rfl, rfl⟩ | ⟨rfl, rfl⟩ | ⟨rfl, rfl⟩ | ⟨rfl, rfl⟩ | ⟨rfl, rfl⟩ <;> rfl
  | positive number =>
    obtain ⟨c, more, written, digit⟩ := number.exists_cons
    have reads := readUnsigned_of_saysNumber number stops
    rw [written, List.cons_append] at reads ⊢
    rw [(readPlain_of_digit digit _).1, reads]
  | @negative t v number =>
    obtain ⟨c, more, written, digit⟩ := number.exists_cons
    have reads := readUnsigned_of_saysNumber number stops
    rw [written, List.cons_append] at reads
    rw [written, List.cons_append, List.cons_append, (readPlain_of_digit digit _).2, reads]

/-- **A word or a number that was read** was written as the grammar says. -/
theorem saysPlain_of_readPlain {t rest : Text} {v : Value} (found : readPlain t = .ok (v, rest)) :
    ∃ written, SaysPlain written v ∧ t = written ++ rest := by
  rw [readPlain.eq_def] at found
  split at found
  · next result known =>
    obtain ⟨⟨word, value⟩, member, told⟩ := List.exists_of_findSome?_eq_some known
    obtain ⟨behind, start, same⟩ := Option.map_eq_some_iff.mp told
    rw [Except.ok.inj found] at same
    cases same
    exact ⟨word, .word member, Text.eq_append_of_after? start⟩
  · rcases t with _ | ⟨c, t⟩
    · cases found
    · dsimp only at found
      split at found
      · next minus =>
        obtain ⟨written, number, rfl⟩ := saysNumber_of_readUnsigned found
        exact ⟨_, .negative number, by rw [minus, List.cons_append]⟩
      · obtain ⟨written, number, split⟩ := saysNumber_of_readUnsigned found
        exact ⟨written, .positive number, split⟩

theorem readUnsigned_ne_tooDeep (negative : Bool) (t : Text) (deep : Container) :
    readUnsigned negative t ≠ .error (.tooDeep deep) := by
  intro failed
  rw [readUnsigned] at failed
  dsimp only at failed
  repeat' split at failed
  all_goals cases failed

theorem readPlain_ne_tooDeep (t : Text) (deep : Container) : readPlain t ≠ .error (.tooDeep deep) := by
  intro failed
  rw [readPlain.eq_def] at failed
  split at failed
  · cases failed
  · rcases t with _ | ⟨c, t⟩
    · cases failed
    · dsimp only at failed
      split at failed
      · exact readUnsigned_ne_tooDeep true t deep failed
      · exact readUnsigned_ne_tooDeep false _ deep failed

/-! ### How words and numbers start -/

/-- The code points that a number never starts with: those that open or close a text, a list or an
object, and blanks. -/
def marks : Text := "\"[]\x7b\x7d \n\r\t"

/-- **A text starts like a number**: with none of the marks. -/
def StartsPlain (t : Text) : Prop :=
  ∃ c rest, t = c :: rest ∧ c ∉ marks

theorem ne_of_not_mem_marks {c mark : CodePoint} (unmarked : c ∉ marks) (member : mark ∈ marks) :
    c ≠ mark := by
  rintro rfl
  exact unmarked member

theorem startsPlain_of_digit {c : CodePoint} (digit : c.isDigit = true) (rest : Text) :
    StartsPlain (c :: rest) := by
  have noDigit : marks.any CodePoint.isDigit = false := by decide
  exact ⟨c, rest, rfl, fun member => List.any_eq_false.mp noDigit c member digit⟩

theorem startsPlain_minus (rest : Text) : StartsPlain (CodePoint.ofChar '-' :: rest) :=
  ⟨_, rest, rfl, by decide⟩

/-- A word starts with a letter or a minus, a number with a minus or a digit. -/
theorem SaysPlain.startsPlain {t : Text} {v : Value} (told : SaysPlain t v) : StartsPlain t := by
  cases told with
  | word known =>
    simp only [words, List.mem_cons, List.not_mem_nil, or_false, Prod.mk.injEq] at known
    rcases known with ⟨rfl, _⟩ | ⟨rfl, _⟩ | ⟨rfl, _⟩ | ⟨rfl, _⟩ | ⟨rfl, _⟩ | ⟨rfl, _⟩ <;>
      exact ⟨_, _, rfl, by decide⟩
  | positive number =>
    obtain ⟨c, rest, rfl, digit⟩ := number.exists_cons
    exact startsPlain_of_digit digit rest
  | negative number => exact startsPlain_minus _

end AlarmFeed.Json
