/-
**Texts between quotes.**

A text is written point by point: each point as it is, by an escape of one letter, or by one or two code
units (`PointNotation`). The reader takes each of these up again as pieces (`Spells`).

* `hexNumber?_hex` — a number that is written in enough hexadecimal digits is read back;
* `exists_pieces` — what is written for a point is read as pieces that make this point (`Makes`);
* `exists_readsTextAs` — every text is read back as some text, and the reader stops behind it;
* `readsTextAs_self` — as itself, unless two neighbours in it are the halves of one pair
  (`Text.Unpaired`), since these are read as the code point that they stand for.
-/

import AlarmFeed.Json.Reader
import AlarmFeed.Json.Writer
import AlarmFeed.Proofs.Text.Scalar
import Mathlib.Algebra.Group.Nat.Defs

namespace AlarmFeed

/-! ### Hexadecimal digits -/

namespace Text

theorem hexValue?_hexDigit : ∀ n < 16, (hexDigit n).hexValue? = some n := by decide

theorem hexNumber?_append_singleton (t : Text) (c : CodePoint) :
    hexNumber? (t ++ [c]) = (hexNumber? t).bind fun n => c.hexValue?.map (16 * n + ·) := by
  rw [hexNumber?, List.foldl_append]
  rfl

/-- **The low digits of a number** are read back as that much of it. -/
theorem hexNumber?_hex (places n : Nat) : hexNumber? (hex places n) = some (n % 16 ^ places) := by
  induction places generalizing n with
  | zero => rw [Nat.pow_zero, Nat.mod_one]; rfl
  | succ places ih =>
    have digit : n % 16 < 16 := Nat.mod_lt n (by decide)
    rw [hex, hexNumber?_append_singleton, ih, Option.bind_some, hexValue?_hexDigit _ digit,
      Option.map_some, Nat.pow_succ', Nat.mod_mul, Nat.add_comm]

end Text

namespace Json

/-! ### The notation of a point -/

/-- **How a point is written**: by an escape of one letter, as it is, or by one or two code units. -/
inductive PointNotation (c : CodePoint) : Text → Prop
  | letter (mark : CodePoint) (printable : 0x20 ≤ mark.val ∧ mark.val < 0x7F)
      (noNumber : mark ≠ CodePoint.ofChar 'u') (known : escaped? mark = some c) :
      PointNotation c [CodePoint.ofChar '\\', mark]
  | self (noQuote : c ≠ CodePoint.ofChar '"') (noBackslash : c ≠ CodePoint.ofChar '\\')
      (printable : 0x20 ≤ c.val ∧ c.val < 0x7F) : PointNotation c [c]
  | unit (small : c.val < 0x10000) : PointNotation c (writeUnit c.val)
  | pair (large : ¬c.val < 0x10000) : PointNotation c
      (writeUnit (0xD800 + (c.val - 0x10000) / 0x400) ++ writeUnit (0xDC00 + (c.val - 0x10000) % 0x400))

/-- The cases are those of `writePoint`, one after another. -/
theorem pointNotation_writePoint (c : CodePoint) : PointNotation c (writePoint c) := by
  by_cases quote : c = CodePoint.ofChar '"'
  · subst quote
    exact .letter (CodePoint.ofChar '"') (by decide) (by decide) (by decide)
  by_cases backslash : c = CodePoint.ofChar '\\'
  · subst backslash
    exact .letter (CodePoint.ofChar '\\') (by decide) (by decide) (by decide)
  by_cases lineFeed : c = CodePoint.ofChar '\n'
  · subst lineFeed
    exact .letter (CodePoint.ofChar 'n') (by decide) (by decide) (by decide)
  by_cases carriageReturn : c = CodePoint.ofChar '\r'
  · subst carriageReturn
    exact .letter (CodePoint.ofChar 'r') (by decide) (by decide) (by decide)
  by_cases tab : c = CodePoint.ofChar '\t'
  · subst tab
    exact .letter (CodePoint.ofChar 't') (by decide) (by decide) (by decide)
  by_cases formFeed : c.val = 0x0C
  · obtain rfl : c = CodePoint.ofNat 0x0C := Fin.ext formFeed
    exact .letter (CodePoint.ofChar 'f') (by decide) (by decide) (by decide)
  by_cases backspace : c.val = 0x08
  · obtain rfl : c = CodePoint.ofNat 0x08 := Fin.ext backspace
    exact .letter (CodePoint.ofChar 'b') (by decide) (by decide) (by decide)
  rw [writePoint, if_neg quote, if_neg backslash, if_neg lineFeed, if_neg carriageReturn, if_neg tab,
    if_neg formFeed, if_neg backspace]
  by_cases printable : 0x20 ≤ c.val ∧ c.val < 0x7F
  · rw [if_pos printable]
    exact .self quote backslash printable
  rw [if_neg printable]
  by_cases small : c.val < 0x10000
  · rw [if_pos small]
    exact .unit small
  · rw [if_neg small]
    exact .pair small

/-! ### Pieces -/

/-- A written text that the reader of pieces takes up as given pieces, whatever follows. -/
def Spells (written : Text) (pieces : List Piece) : Prop :=
  ∀ rest, readPieces (written ++ rest) =
    (readPieces rest).map fun (later, rest) => (pieces ++ later, rest)

theorem spells_nil : Spells [] [] := by
  intro rest
  cases found : readPieces rest with
  | error error => rw [List.nil_append, found]; rfl
  | ok read => rw [List.nil_append, found]; rfl

theorem spells_append {first second : Text} {pieces later : List Piece}
    (one : Spells first pieces) (two : Spells second later) :
    Spells (first ++ second) (pieces ++ later) := by
  intro rest
  rw [List.append_assoc, one, two]
  cases readPieces rest with
  | error error => rfl
  | ok read =>
    obtain ⟨last, rest⟩ := read
    show Except.ok (pieces ++ (later ++ last), rest) = .ok (pieces ++ later ++ last, rest)
    rw [List.append_assoc]

theorem spells_self {c : CodePoint} (noQuote : c ≠ CodePoint.ofChar '"') (printable : 0x20 ≤ c.val)
    (noBackslash : c ≠ CodePoint.ofChar '\\') : Spells [c] [.plain c] := by
  intro rest
  rw [List.singleton_append, readPieces.eq_def]
  dsimp only
  rw [if_neg noQuote, if_neg (by omega), if_neg noBackslash]
  rfl

theorem spells_escape {mark point : CodePoint} (noNumber : mark ≠ CodePoint.ofChar 'u')
    (known : escaped? mark = some point) :
    Spells [CodePoint.ofChar '\\', mark] [.plain point] := by
  intro rest
  show readPieces (CodePoint.ofChar '\\' :: mark :: rest) = _
  rw [readPieces.eq_def]
  dsimp only
  rw [if_neg (by decide), if_neg (by decide), if_pos rfl, if_neg noNumber, known]
  rfl

/-- The escape of a code unit by its number. -/
theorem spells_number {a b c d point : CodePoint} (known : unit? a b c d = some point) :
    Spells [CodePoint.ofChar '\\', CodePoint.ofChar 'u', a, b, c, d] [.unit point] := by
  intro rest
  show readPieces (CodePoint.ofChar '\\' :: CodePoint.ofChar 'u' :: a :: b :: c :: d :: rest) = _
  rw [readPieces.eq_def]
  dsimp only
  rw [if_neg (by decide), if_neg (by decide), if_pos rfl, if_pos rfl, known]
  rfl

theorem spells_unit {unit : Nat} (small : unit < 0x10000) :
    Spells (writeUnit unit) [.unit (CodePoint.ofNat unit)] := by
  obtain ⟨a, b, c, d, digits⟩ : ∃ a b c d, Text.hex 4 unit = [a, b, c, d] := ⟨_, _, _, _, rfl⟩
  have whole : unit % 16 ^ 4 = unit := Nat.mod_eq_of_lt small
  have number : unit? a b c d = some (CodePoint.ofNat unit) := by
    rw [unit?, ← digits, Text.hexNumber?_hex, whole]
    rfl
  rw [writeUnit, digits]
  exact spells_number number

/-- **A text is read** if its pieces are, up to the quote behind them. -/
theorem readText_of_spells {written : Text} {pieces : List Piece} (spelled : Spells written pieces)
    (rest : Text) :
    readText (written ++ CodePoint.ofChar '"' :: rest) = .ok (joinPieces pieces, rest) := by
  have closed : readPieces (CodePoint.ofChar '"' :: rest) = .ok ([], rest) := by
    rw [readPieces.eq_def]
    exact if_pos rfl
  rw [readText, spelled, closed]
  show Except.ok (joinPieces (pieces ++ []), rest) = _
  rw [List.append_nil]

/-! ### Joining pieces -/

theorem joinPieces_pair {high low : CodePoint} (first : high.isHighSurrogate = true)
    (second : low.isLowSurrogate = true) (later : List Piece) :
    joinPieces (.unit high :: .unit low :: later) = .ofPair high low :: joinPieces later := by
  rw [joinPieces, first, second, Bool.and_self, if_pos rfl]

theorem ofNat_val (c : CodePoint) : CodePoint.ofNat c.val = c := by
  rw [CodePoint.ofNat, dif_pos c.isLt]

theorem val_ofNat {n : Nat} (small : n < 0x110000) : (CodePoint.ofNat n).val = n := by
  rw [CodePoint.ofNat, dif_pos small]

/-- The two code units of a code point past the first `2 ^ 16` are the halves of its pair. -/
theorem halves_of_large {c : CodePoint} (large : ¬c.val < 0x10000) :
    (CodePoint.ofNat (0xD800 + (c.val - 0x10000) / 0x400)).isHighSurrogate = true ∧
      (CodePoint.ofNat (0xDC00 + (c.val - 0x10000) % 0x400)).isLowSurrogate = true ∧
      CodePoint.ofPair (CodePoint.ofNat (0xD800 + (c.val - 0x10000) / 0x400))
        (CodePoint.ofNat (0xDC00 + (c.val - 0x10000) % 0x400)) = c := by
  have inside := c.isLt
  have high : 0xD800 + (c.val - 0x10000) / 0x400 < 0x110000 := by omega
  have low : 0xDC00 + (c.val - 0x10000) % 0x400 < 0x110000 := by omega
  have sum : 0x10000 + (0xD800 + (c.val - 0x10000) / 0x400 - 0xD800) * 0x400
      + (0xDC00 + (c.val - 0x10000) % 0x400 - 0xDC00) = c.val := by omega
  refine ⟨?_, ?_, ?_⟩
  · rw [CodePoint.isHighSurrogate, val_ofNat high, Bool.and_eq_true, decide_eq_true_eq,
      decide_eq_true_eq]
    omega
  · rw [CodePoint.isLowSurrogate, val_ofNat low, Bool.and_eq_true, decide_eq_true_eq,
      decide_eq_true_eq]
    omega
  · rw [CodePoint.ofPair, val_ofNat high, val_ofNat low, sum, ofNat_val]

/-! ### Points and texts -/

/-- Pieces that start with the second half of a pair. -/
def OpensLow (pieces : List Piece) : Prop :=
  ∃ low later, pieces = .unit low :: later ∧ low.isLowSurrogate = true

/-- **Pieces make a point** if they join to it, whatever comes next; only the second half of a pair must
not come next behind the first. -/
structure Makes (c : CodePoint) (pieces : List Piece) : Prop where
  joins : ∀ later, ¬(c.isHighSurrogate = true ∧ OpensLow later) →
    joinPieces (pieces ++ later) = c :: joinPieces later
  low : ∀ later, OpensLow (pieces ++ later) → c.isLowSurrogate = true

theorem makes_plain (c : CodePoint) : Makes c [.plain c] where
  joins _ _ := rfl
  low later opens := by
    obtain ⟨low, rest, same, _⟩ := opens
    cases same

theorem makes_unit (c : CodePoint) : Makes c [.unit c] where
  joins later apart := by
    rcases later with _ | ⟨_ | d, later⟩
    · rfl
    · rfl
    · have noPair : ¬(c.isHighSurrogate && d.isLowSurrogate) = true := by
        intro pair
        rw [Bool.and_eq_true] at pair
        exact apart ⟨pair.1, d, later, rfl, pair.2⟩
      rw [List.singleton_append, joinPieces, if_neg noPair]
  low later opens := by
    obtain ⟨low, rest, same, half⟩ := opens
    cases same
    exact half

theorem makes_pair {high low : CodePoint} (first : high.isHighSurrogate = true)
    (second : low.isLowSurrogate = true) : Makes (.ofPair high low) [.unit high, .unit low] where
  joins later _ := joinPieces_pair first second later
  low later opens := by
    obtain ⟨half, rest, same, lowHalf⟩ := opens
    cases same
    rw [CodePoint.isHighSurrogate, Bool.and_eq_true, decide_eq_true_eq, decide_eq_true_eq] at first
    rw [CodePoint.isLowSurrogate, Bool.and_eq_true, decide_eq_true_eq, decide_eq_true_eq] at lowHalf
    omega

/-- **What is written for a point** is read as pieces that make it. -/
theorem exists_pieces (c : CodePoint) : ∃ pieces, Spells (writePoint c) pieces ∧ Makes c pieces := by
  have written := pointNotation_writePoint c
  generalize writePoint c = text at written
  cases written with
  | letter mark printable noNumber known =>
    exact ⟨[.plain c], spells_escape noNumber known, makes_plain c⟩
  | self noQuote noBackslash printable =>
    exact ⟨_, spells_self noQuote printable.1 noBackslash, makes_plain c⟩
  | unit small =>
    refine ⟨_, spells_unit small, ?_⟩
    rw [ofNat_val]
    exact makes_unit c
  | pair large =>
    obtain ⟨high, low, whole⟩ := halves_of_large large
    have pair := makes_pair high low
    rw [whole] at pair
    exact ⟨_, spells_append (spells_unit (by omega)) (spells_unit (by omega)), pair⟩

/-- **What is written for a text** is read as pieces, and these join to the text if no two neighbours in
it are the halves of one pair. -/
theorem exists_pieces_of_text (t : Text) :
    ∃ pieces, Spells (t.flatMap writePoint) pieces ∧
      (OpensLow pieces → ∃ c ∈ t.head?, c.isLowSurrogate = true) ∧
      (t.Unpaired → joinPieces pieces = t) := by
  induction t with
  | nil =>
    refine ⟨[], spells_nil, ?_, fun _ => rfl⟩
    rintro ⟨low, later, none, _⟩
    cases none
  | cons c t ih =>
    obtain ⟨first, spelled, makes⟩ := exists_pieces c
    obtain ⟨later, others, opens, whole⟩ := ih
    refine ⟨first ++ later, spells_append spelled others, ?_, ?_⟩
    · intro low
      exact ⟨c, rfl, makes.low later low⟩
    · intro unpaired
      have apart : ¬(c.isHighSurrogate = true ∧ OpensLow later) := by
        rintro ⟨high, low⟩
        obtain ⟨d, second, half⟩ := opens low
        exact unpaired.apart second ⟨high, half⟩
      rw [makes.joins later apart, whole unpaired.tail]

/-- **A text is read as another** wherever it was written, and the reader stops behind its closing
quote. -/
def ReadsTextAs (t said : Text) : Prop :=
  ∀ rest, ∃ inner, writeText t ++ rest = CodePoint.ofChar '"' :: inner ∧
    readText inner = .ok (said, rest)

theorem readsTextAs_joinPieces {t : Text} {pieces : List Piece}
    (spelled : Spells (t.flatMap writePoint) pieces) : ReadsTextAs t (joinPieces pieces) := by
  intro rest
  refine ⟨t.flatMap writePoint ++ (CodePoint.ofChar '"' :: rest), ?_, readText_of_spells spelled rest⟩
  rw [writeText, List.cons_append, List.append_assoc, List.singleton_append]

/-- **Every text is read back** as some text. -/
theorem exists_readsTextAs (t : Text) : ∃ said, ReadsTextAs t said := by
  obtain ⟨pieces, spelled, _, _⟩ := exists_pieces_of_text t
  exact ⟨_, readsTextAs_joinPieces spelled⟩

/-- **A text in which no two neighbours are the halves of one pair** is read back as it is. -/
theorem readsTextAs_self {t : Text} (unpaired : t.Unpaired) : ReadsTextAs t t := by
  obtain ⟨pieces, spelled, _, joined⟩ := exists_pieces_of_text t
  have reads := readsTextAs_joinPieces spelled
  rwa [joined unpaired] at reads

end Json

end AlarmFeed
