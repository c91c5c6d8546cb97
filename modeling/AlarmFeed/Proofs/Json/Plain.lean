/-
**What is written is plain ASCII.**

Whatever the value, its notation holds no control character, no line break and nothing beyond ASCII
(`Plain`): all else in a text is written by escapes, and these are plain themselves.

* `Carried.plain` — the notation of a value that JSON can carry is plain;
* `decode?_encode` — a plain text that starts with a brace is what its bytes say: they have no byte order
  mark and no zero byte by which they could be taken for another encoding.
-/

import AlarmFeed.Json.Encoding
import AlarmFeed.Json.Writer
import AlarmFeed.Proofs.Json.Limits
import AlarmFeed.Proofs.Json.Quoted
import AlarmFeed.Proofs.Number.Shortest
import AlarmFeed.Proofs.Text.Pieces
import AlarmFeed.Proofs.Text.Utf8

namespace AlarmFeed.Json

/-- **A text in printable ASCII.** -/
def Plain (t : Text) : Prop :=
  ∀ c ∈ t, 0x20 ≤ c.val ∧ c.val < 0x7F

instance (t : Text) : Decidable (Plain t) :=
  List.decidableBAll (fun c : CodePoint => 0x20 ≤ c.val ∧ c.val < 0x7F) t

theorem Plain.ascii {t : Text} (plain : Plain t) : ∀ c ∈ t, c.val < 0x80 :=
  fun c member => Nat.lt_trans (plain c member).2 (by decide)

/-! ### Putting plain texts together -/

theorem plain_append {s t : Text} : Plain (s ++ t) ↔ Plain s ∧ Plain t :=
  List.forall_mem_append

theorem plain_cons {c : CodePoint} {t : Text} :
    Plain (c :: t) ↔ (0x20 ≤ c.val ∧ c.val < 0x7F) ∧ Plain t :=
  List.forall_mem_cons

theorem plain_flatMap {α : Type} {f : α → Text} {l : List α} (each : ∀ a ∈ l, Plain (f a)) :
    Plain (l.flatMap f) := by
  intro c member
  obtain ⟨a, among, inside⟩ := List.mem_flatMap.mp member
  exact each a among c inside

theorem plain_joinWith {separator : Text} {pieces : List Text} (between : Plain separator)
    (each : ∀ piece ∈ pieces, Plain piece) : Plain (Text.joinWith separator pieces) := by
  intro c member
  rcases Text.mem_joinWith member with inside | ⟨piece, among, inside⟩
  · exact between c inside
  · exact each piece among c inside

/-! ### Numbers -/

theorem plain_of_digits {t : Text} (digits : ∀ c ∈ t, c.isDigit = true) : Plain t := by
  intro c member
  have digit := digits c member
  rw [CodePoint.isDigit, Bool.and_eq_true, decide_eq_true_eq, decide_eq_true_eq] at digit
  omega

theorem plain_ofInt (n : Int) : Plain (Decimal.ofInt n) := by
  have digits : Plain (Decimal.digits n.natAbs) :=
    plain_of_digits (Decimal.isDigit_of_mem_digits n.natAbs)
  rw [Decimal.ofInt_eq]
  split_ifs with negative
  · exact plain_cons.mpr ⟨by decide, digits⟩
  · exact digits

theorem plain_of_sign {sign : CodePoint}
    (signed : sign = CodePoint.ofChar '+' ∨ sign = CodePoint.ofChar '-') :
    0x20 ≤ sign.val ∧ sign.val < 0x7F := by
  rcases signed with rfl | rfl <;> decide

theorem plain_of_fractional {t : Text} (fractional : Fractional t) : Plain t := by
  cases fractional with
  | point front behind =>
    exact plain_append.mpr ⟨plain_of_digits front.digits,
      plain_cons.mpr ⟨by decide, plain_of_digits behind.digits⟩⟩
  | power front signed run =>
    exact plain_append.mpr ⟨plain_of_digits front.digits, plain_cons.mpr ⟨by decide,
      plain_cons.mpr ⟨plain_of_sign signed, plain_of_digits run.digits⟩⟩⟩
  | both front behind signed run =>
    exact plain_append.mpr ⟨plain_of_digits front.digits, plain_cons.mpr ⟨by decide,
      plain_append.mpr ⟨plain_of_digits behind.digits, plain_cons.mpr ⟨by decide,
        plain_cons.mpr ⟨plain_of_sign signed, plain_of_digits run.digits⟩⟩⟩⟩⟩

theorem plain_number (x : Binary64) : Plain (numberStyle.write x) := by
  cases x with
  | nan => decide
  | infinite negative => cases negative <;> decide
  | finite negative mantissa exponent =>
    have plain := plain_of_fractional (numberStyle.fractional_unsigned mantissa exponent)
    cases negative with
    | false => exact plain
    | true => exact plain_cons.mpr ⟨by decide, plain⟩

/-! ### Texts -/

theorem plain_hexDigit : ∀ n < 16, Plain [Text.hexDigit n] := by decide

theorem plain_hex (places n : Nat) : Plain (Text.hex places n) := by
  induction places generalizing n with
  | zero => exact fun _ member => nomatch member
  | succ places ih =>
    exact plain_append.mpr ⟨ih (n / 16), plain_hexDigit (n % 16) (Nat.mod_lt n (by decide))⟩

theorem plain_writeUnit (unit : Nat) : Plain (writeUnit unit) :=
  plain_cons.mpr ⟨by decide, plain_cons.mpr ⟨by decide, plain_hex 4 unit⟩⟩

/-- **Every code point** is written in plain ASCII: as it is only if it is printable. -/
theorem plain_writePoint (c : CodePoint) : Plain (writePoint c) := by
  have written := pointNotation_writePoint c
  generalize writePoint c = text at written
  cases written with
  | letter mark printable noNumber known =>
    exact plain_cons.mpr ⟨by decide, List.forall_mem_singleton.mpr printable⟩
  | self noQuote noBackslash printable => exact List.forall_mem_singleton.mpr printable
  | unit small => exact plain_writeUnit c.val
  | pair large => exact plain_append.mpr ⟨plain_writeUnit _, plain_writeUnit _⟩

theorem plain_writeText (t : Text) : Plain (writeText t) := by
  have inside : Plain (t.flatMap writePoint) := plain_flatMap fun c _ => plain_writePoint c
  exact plain_cons.mpr ⟨by decide, plain_append.mpr ⟨inside, by decide⟩⟩

/-! ### Values -/

theorem mem_writeItems {items : List Value} {piece : Text} (member : piece ∈ writeItems items) :
    ∃ item ∈ items, piece = write item := by
  induction items with
  | nil => exact nomatch member
  | cons item items ih =>
    rw [writeItems, List.mem_cons] at member
    rcases member with rfl | later
    · exact ⟨item, List.mem_cons_self, rfl⟩
    · obtain ⟨other, among, same⟩ := ih later
      exact ⟨other, List.mem_cons_of_mem _ among, same⟩

theorem mem_writeMembers {members : List (Text × Value)} {piece : Text}
    (member : piece ∈ writeMembers members) :
    ∃ pair ∈ members, piece = writeText pair.1 ++ (": " : Text) ++ write pair.2 := by
  induction members with
  | nil => exact nomatch member
  | cons pair members ih =>
    rw [writeMembers, List.mem_cons] at member
    rcases member with rfl | later
    · exact ⟨pair, List.mem_cons_self, rfl⟩
    · obtain ⟨other, among, same⟩ := ih later
      exact ⟨other, List.mem_cons_of_mem _ among, same⟩

/-- **The notation of a value is plain**, by induction on why it can be carried. -/
theorem Carried.plain {depth : Nat} {v : Value} (carried : Carried depth v) : Plain (write v) := by
  induction carried with
  | null => rw [write]; decide
  | bool truth => cases truth <;> rw [write] <;> decide
  | int short => rw [write]; exact plain_ofInt _
  | number x => rw [write]; exact plain_number x
  | text t => rw [write]; exact plain_writeText t
  | list each ih =>
    rw [write]
    refine plain_cons.mpr ⟨by decide, plain_append.mpr ⟨plain_joinWith (by decide) ?_, by decide⟩⟩
    intro piece member
    obtain ⟨item, among, rfl⟩ := mem_writeItems member
    exact ih item among
  | object each ih =>
    rw [write]
    refine plain_cons.mpr ⟨by decide, plain_append.mpr ⟨plain_joinWith (by decide) ?_, by decide⟩⟩
    intro piece member
    obtain ⟨pair, among, rfl⟩ := mem_writeMembers member
    exact plain_append.mpr
      ⟨plain_append.mpr ⟨plain_writeText pair.1, by decide⟩, ih pair among⟩

/-! ### Bytes -/

/-- Bytes that start with a brace and no zero behind it are UTF-8. -/
theorem decode?_of_brace {tail : Bytes} (noZero : ∀ b ∈ tail.head?, b ≠ 0) :
    decode? (0x7B :: tail) = (Utf8.decode true (0x7B :: tail)).toOption := by
  -- without a mark, it is the length that tells which of the first bytes are looked at
  rcases tail with _ | ⟨b, _ | ⟨c, _ | ⟨d, rest⟩⟩⟩
  · rfl
  · show (if b = 0 then Wide.decode16? .little [0x7B, b]
      else (Utf8.decode true [0x7B, b]).toOption) = _
    rw [if_neg (noZero b rfl)]
  · rfl
  · show (if b = 0 then
        if c = 0 ∧ d = 0 then Wide.decode32? .little (0x7B :: b :: c :: d :: rest)
        else Wide.decode16? .little (0x7B :: b :: c :: d :: rest)
      else (Utf8.decode true (0x7B :: b :: c :: d :: rest)).toOption) = _
    rw [if_neg (noZero b rfl)]

theorem Plain.head_ne_zero {t : Text} (plain : Plain t) : ∀ b ∈ (Utf8.encode t).head?, b ≠ 0 := by
  cases t with
  | nil => exact fun b member => nomatch member
  | cons c t =>
    have printable := (plain_cons.mp plain).1
    have small : c.val < 0x80 := by omega
    rw [Utf8.encode_cons_of_ascii small]
    rintro b ⟨⟩ zero
    have number := congrArg UInt8.toNat zero
    rw [Utf8.toNat_ofNat_of_ascii small] at number
    have none : (0 : UInt8).toNat = 0 := rfl
    omega

/-- **A plain text that starts with a brace** is what its bytes say. -/
theorem decode?_encode {t : Text} (plain : Plain (CodePoint.ofChar '\x7b' :: t)) :
    decode? (Utf8.encode (CodePoint.ofChar '\x7b' :: t)) = some (CodePoint.ofChar '\x7b' :: t) := by
  have bytes : Utf8.encode (CodePoint.ofChar '\x7b' :: t) = 0x7B :: Utf8.encode t :=
    Utf8.encode_cons_of_ascii (by decide) t
  have decoded := Utf8.decode_encode_of_ascii plain.ascii true
  rw [bytes] at decoded
  rw [bytes, decode?_of_brace (plain_cons.mp plain).2.head_ne_zero, decoded]
  rfl

theorem readBytes_encode {limit : Nat} {t : Text} (plain : Plain (CodePoint.ofChar '\x7b' :: t)) :
    readBytes (Utf8.encode (CodePoint.ofChar '\x7b' :: t)) limit =
      read (CodePoint.ofChar '\x7b' :: t) limit := by
  rw [readBytes, decode?_encode plain]

end AlarmFeed.Json
