/-
**Texts and their bytes in UTF-8.**

* `length_eq` — the length of a text in UTF-8 is the number of its bytes;
* `encode_injective` — two texts with the same bytes are the same text, since the first byte of a code
  point says how many there are (`encodePoint_append_injective`);
* `decode_encode_of_ascii` — the bytes of a text in ASCII are read as that text.
-/

import AlarmFeed.Text.Utf8
import Mathlib.Tactic.SplitIfs

namespace AlarmFeed.Utf8

theorem encode_cons (c : CodePoint) (t : Text) : encode (c :: t) = encodePoint c ++ encode t := rfl

/-! ### Length -/

theorem length_encodePoint (c : CodePoint) : (encodePoint c).length = pointLength c := by
  unfold encodePoint pointLength
  dsimp only
  split_ifs <;> rfl

theorem foldl_pointLength (t : Text) (bytes : Nat) :
    t.foldl (fun bytes c => bytes + pointLength c) bytes = bytes + (encode t).length := by
  induction t generalizing bytes with
  | nil => rfl
  | cons c t ih =>
    rw [List.foldl_cons, ih, encode_cons, List.length_append, length_encodePoint, Nat.add_assoc]

/-- **The length of a text** is the number of its bytes. -/
theorem length_eq (t : Text) : length t = (encode t).length := by
  rw [length, foldl_pointLength, Nat.zero_add]

/-- A text in ASCII has a byte for each code point. -/
theorem length_of_ascii {t : Text} (ascii : ∀ c ∈ t, c.val < 0x80) : length t = t.length := by
  rw [length_eq]
  induction t with
  | nil => rfl
  | cons c t ih =>
    obtain ⟨small, ascii⟩ := List.forall_mem_cons.mp ascii
    rw [encode_cons, List.length_append, length_encodePoint, pointLength, if_pos small, ih ascii,
      List.length_cons, Nat.add_comm]

/-! ### Reading back -/

theorem encodePoint_ne_nil (c : CodePoint) : encodePoint c ≠ [] := by
  unfold encodePoint
  dsimp only
  split_ifs <;> exact List.cons_ne_nil _ _

theorem mod_eq_of_ofNat_eq {a b : Nat} (same : UInt8.ofNat a = UInt8.ofNat b) : a % 256 = b % 256 := by
  have bytes := congrArg UInt8.toNat same
  rwa [UInt8.toNat_ofNat', UInt8.toNat_ofNat'] at bytes

/-- **The bytes of a code point tell where they end**, and which code point it is. -/
theorem encodePoint_append_injective {c d : CodePoint} {s t : Bytes}
    (same : encodePoint c ++ s = encodePoint d ++ t) : c = d ∧ s = t := by
  have smallC := c.isLt
  have smallD := d.isLt
  unfold encodePoint at same
  dsimp only at same
  split_ifs at same <;>
    simp only [List.cons_append, List.nil_append, List.cons.injEq] at same <;>
    have first := mod_eq_of_ofNat_eq same.1
  -- code points of different lengths have different first bytes
  any_goals omega
  · exact ⟨Fin.ext (by omega), same.2⟩
  · have second := mod_eq_of_ofNat_eq same.2.1
    exact ⟨Fin.ext (by omega), same.2.2⟩
  · have second := mod_eq_of_ofNat_eq same.2.1
    have third := mod_eq_of_ofNat_eq same.2.2.1
    exact ⟨Fin.ext (by omega), same.2.2.2⟩
  · have second := mod_eq_of_ofNat_eq same.2.1
    have third := mod_eq_of_ofNat_eq same.2.2.1
    have fourth := mod_eq_of_ofNat_eq same.2.2.2.1
    exact ⟨Fin.ext (by omega), same.2.2.2.2⟩

theorem eq_nil_of_encode_eq_nil {t : Text} (none : encode t = []) : t = [] := by
  cases t with
  | nil => rfl
  | cons c t => exact absurd (List.append_eq_nil_iff.mp none).1 (encodePoint_ne_nil c)

/-- **Two texts with the same bytes** are the same. -/
theorem encode_injective {s t : Text} (same : encode s = encode t) : s = t := by
  induction s generalizing t with
  | nil => exact (eq_nil_of_encode_eq_nil same.symm).symm
  | cons c s ih =>
    cases t with
    | nil => exact eq_nil_of_encode_eq_nil same
    | cons d t =>
      rw [encode_cons, encode_cons] at same
      obtain ⟨rfl, rest⟩ := encodePoint_append_injective same
      rw [ih rest]

/-! ### ASCII -/

theorem toNat_ofNat_of_ascii {n : Nat} (small : n < 0x80) : (UInt8.ofNat n).toNat = n := by
  rw [UInt8.toNat_ofNat', Nat.mod_eq_of_lt (by omega)]

theorem encode_cons_of_ascii {c : CodePoint} (small : c.val < 0x80) (t : Text) :
    encode (c :: t) = UInt8.ofNat c.val :: encode t := by
  have one : encodePoint c = [UInt8.ofNat c.val] := if_pos small
  rw [encode_cons, one, List.singleton_append]

/-- A byte below 128 is the code point with its number, wherever it stands. -/
theorem decodeFrom_cons_of_ascii {c : CodePoint} (small : c.val < 0x80) (surrogates : Bool)
    (position : Nat) (rest : Bytes) :
    decodeFrom surrogates position (UInt8.ofNat c.val :: rest) =
      (c :: ·) <$> decodeFrom surrogates (position + 1) rest := by
  have number : (UInt8.ofNat c.val).toNat = c.val := toNat_ofNat_of_ascii small
  have first : UInt8.ofNat c.val < 0x80 := by
    rw [UInt8.lt_iff_toNat_lt, number]
    exact small
  have point : assemble c.val [] = c := dif_pos c.isLt
  rw [decodeFrom.eq_def]
  dsimp only
  rw [if_pos first, number, point]

/-- **The bytes of a text in ASCII** are read as that text. -/
theorem decode_encode_of_ascii {t : Text} (ascii : ∀ c ∈ t, c.val < 0x80) (surrogates : Bool) :
    decode surrogates (encode t) = .ok t := by
  have anywhere : ∀ position, decodeFrom surrogates position (encode t) = .ok t := by
    induction t with
    | nil =>
      intro position
      rw [encode, List.flatMap_nil, decodeFrom]
    | cons c t ih =>
      intro position
      obtain ⟨small, ascii⟩ := List.forall_mem_cons.mp ascii
      rw [encode_cons_of_ascii small, decodeFrom_cons_of_ascii small, ih ascii]
      rfl
  exact anywhere 0

end AlarmFeed.Utf8
