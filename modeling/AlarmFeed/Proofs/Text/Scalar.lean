/-
**Texts that a character set can carry.**

A text is scalar if it holds no surrogates. UTF-8 carries the scalar texts and no others
(`unencodable?_utf8`), and what is put together of scalar texts is scalar. In a scalar text no two
neighbours are the halves of one pair (`Scalar.unpaired`).
-/

import AlarmFeed.Proofs.Number.Decimal
import AlarmFeed.Proofs.Text.Pieces
import AlarmFeed.Text.Charset
import Mathlib.Data.List.Chain
import Mathlib.Data.List.TakeWhile

namespace AlarmFeed

/-- A character set can carry a text unless it refuses one of its code points. -/
theorem Charset.unencodable?_eq_none {charset : Charset} {t : Text} :
    charset.unencodable? t = none ↔ ∀ c ∈ t, charset.refuses c = false := by
  have passed : (t.dropWhile fun c => !charset.refuses c) = [] ↔
      ∀ c ∈ t, charset.refuses c = false := by
    simp [List.dropWhile_eq_nil_iff]
  rw [← passed, unencodable?]
  cases t.dropWhile fun c => !charset.refuses c with
  | nil => simp
  | cons c rest => simp

namespace Text

/-- A text without surrogates. -/
def Scalar (t : Text) : Prop :=
  ∀ c ∈ t, c.isSurrogate = false

instance (t : Text) : Decidable t.Scalar :=
  List.decidableBAll (fun c : CodePoint => c.isSurrogate = false) t

/-- **UTF-8 carries scalar texts** and no others. -/
theorem unencodable?_utf8 {t : Text} : Charset.utf8.unencodable? t = none ↔ t.Scalar :=
  Charset.unencodable?_eq_none

/-! ### Pairs of surrogates -/

/-- **A text in which no two neighbours are the halves of one pair.** -/
def Unpaired (t : Text) : Prop :=
  t.IsChain fun c d => ¬(c.isHighSurrogate = true ∧ d.isLowSurrogate = true)

theorem Unpaired.tail {c : CodePoint} {t : Text} (unpaired : Unpaired (c :: t)) : t.Unpaired :=
  List.IsChain.tail unpaired

/-- Behind the first half of a pair there is no second one. -/
theorem Unpaired.apart {c d : CodePoint} {t : Text} (unpaired : Unpaired (c :: t))
    (second : d ∈ t.head?) : ¬(c.isHighSurrogate = true ∧ d.isLowSurrogate = true) := by
  cases t with
  | nil => cases second
  | cons e t =>
    obtain rfl := Option.some.inj second
    exact (List.isChain_cons_cons.mp unpaired).1

theorem isSurrogate_of_isHighSurrogate {c : CodePoint} (high : c.isHighSurrogate = true) :
    c.isSurrogate = true := by
  rw [CodePoint.isHighSurrogate, Bool.and_eq_true, decide_eq_true_eq, decide_eq_true_eq] at high
  rw [CodePoint.isSurrogate, Bool.and_eq_true, decide_eq_true_eq, decide_eq_true_eq]
  omega

theorem Scalar.unpaired {t : Text} (scalar : t.Scalar) : t.Unpaired := by
  induction t with
  | nil => exact List.isChain_nil
  | cons c t ih =>
    have later := ih fun d member => scalar d (List.mem_cons_of_mem c member)
    cases t with
    | nil => exact List.isChain_singleton c
    | cons d t =>
      refine List.isChain_cons_cons.mpr ⟨?_, later⟩
      rintro ⟨high, _⟩
      have whole := scalar c List.mem_cons_self
      rw [isSurrogate_of_isHighSurrogate high] at whole
      cases whole

/-! ### Putting texts together -/

theorem scalar_nil : Scalar [] :=
  fun _ member => nomatch member

theorem scalar_append {s t : Text} : Scalar (s ++ t) ↔ s.Scalar ∧ t.Scalar :=
  List.forall_mem_append

theorem scalar_flatMap {α : Type} {f : α → Text} {l : List α} :
    Scalar (l.flatMap f) ↔ ∀ a ∈ l, (f a).Scalar := by
  constructor
  · exact fun all a member c inside => all c (List.mem_flatMap.mpr ⟨a, member, inside⟩)
  · intro each c member
    obtain ⟨a, among, inside⟩ := List.mem_flatMap.mp member
    exact each a among c inside

/-- Joined texts are scalar if each of them is, and the separator too. -/
theorem scalar_joinWith {separator : Text} {pieces : List Text} (between : separator.Scalar)
    (each : ∀ piece ∈ pieces, piece.Scalar) : Scalar (joinWith separator pieces) := by
  intro c member
  rcases mem_joinWith member with inside | ⟨piece, among, inside⟩
  · exact between c inside
  · exact each piece among c inside

/-! ### Written texts -/

/-- The characters of a string are no surrogates. -/
theorem scalar_ofString (s : String) : (ofString s).Scalar := by
  intro c member
  obtain ⟨char, _, rfl⟩ := List.mem_map.mp member
  have valid : char.toNat < 0xD800 ∨ 0xDFFF < char.toNat ∧ char.toNat < 0x110000 := char.valid
  have same : (CodePoint.ofChar char).val = char.toNat := rfl
  rw [CodePoint.isSurrogate, same, Bool.and_eq_false_iff, decide_eq_false_iff_not,
    decide_eq_false_iff_not]
  omega

theorem isSurrogate_of_isDigit {c : CodePoint} (isDigit : c.isDigit = true) :
    c.isSurrogate = false := by
  rw [CodePoint.isDigit, Bool.and_eq_true, decide_eq_true_eq, decide_eq_true_eq] at isDigit
  rw [CodePoint.isSurrogate, Bool.and_eq_false_iff, decide_eq_false_iff_not, decide_eq_false_iff_not]
  omega

theorem scalar_ofInt (n : Int) : Scalar (Decimal.ofInt n) := by
  intro c member
  rcases Decimal.mem_ofInt member with rfl | digit
  · decide
  · exact isSurrogate_of_isDigit digit

end Text

end AlarmFeed
