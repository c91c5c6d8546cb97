/-
**Text as a list of code points.**

Alarm data arrives as JSON, whose escapes can spell a surrogate that has no partner. `Text` therefore
ranges over all code points, surrogates included, and not over `Char`. Order and length of a text are
those of the list: texts are compared code point by code point, and a proper start of a text comes before
it. `splitWhen` cuts a text at the code points of a class and keeps every piece, also the empty ones;
`joinWith` puts pieces together again.

`isBlank` is Unicode's property White_Space: it is what surrounds a number written as text and is
ignored there. `isSpace` is the wider class that separates words in a message; it also holds the four
information separators `U+001C` to `U+001F`. `words` lists the words of a text, and `singleLine`
writes them on one line, one space apart.
-/

namespace AlarmFeed

/-- A Unicode code point, surrogates included. -/
abbrev CodePoint := Fin 0x110000

/-- A text: its code points in order. -/
abbrev Text := List CodePoint

namespace CodePoint

/-- The code point of a character. -/
def ofChar (c : Char) : CodePoint :=
  ⟨c.toNat, by
    have valid := c.valid
    simp only [UInt32.isValidChar, Nat.isValidChar, UInt32.toNat] at valid
    simp only [Char.toNat, UInt32.toNat]
    omega⟩

instance : Coe Char CodePoint := ⟨ofChar⟩

/-- The code point with number `n`; numbers past the last code point give NUL. -/
def ofNat (n : Nat) : CodePoint :=
  if small : n < 0x110000 then ⟨n, small⟩ else 0

/-- The first half of a pair that UTF-16 writes for one code point past `U+FFFF`. -/
def isHighSurrogate (c : CodePoint) : Bool :=
  0xD800 ≤ c.val && c.val ≤ 0xDBFF

/-- The second half of such a pair. -/
def isLowSurrogate (c : CodePoint) : Bool :=
  0xDC00 ≤ c.val && c.val ≤ 0xDFFF

/-- A code point that no encoding of Unicode text may carry. -/
def isSurrogate (c : CodePoint) : Bool :=
  0xD800 ≤ c.val && c.val ≤ 0xDFFF

/-- The code point that a surrogate pair stands for. -/
def ofPair (high low : CodePoint) : CodePoint :=
  ofNat (0x10000 + (high.val - 0xD800) * 0x400 + (low.val - 0xDC00))

/-- An ASCII digit. -/
def isDigit (c : CodePoint) : Bool :=
  0x30 ≤ c.val && c.val ≤ 0x39

/-- The value of an ASCII digit. -/
def digitValue (c : CodePoint) : Nat :=
  c.val - 0x30

/-- An ASCII letter. -/
def isLetter (c : CodePoint) : Bool :=
  (0x41 ≤ c.val && c.val ≤ 0x5A) || (0x61 ≤ c.val && c.val ≤ 0x7A)

/-- The value of a hexadecimal digit in either case. -/
def hexValue? (c : CodePoint) : Option Nat :=
  if 0x30 ≤ c.val && c.val ≤ 0x39 then some (c.val - 0x30)
  else if 0x41 ≤ c.val && c.val ≤ 0x46 then some (c.val - 0x37)
  else if 0x61 ≤ c.val && c.val ≤ 0x66 then some (c.val - 0x57)
  else none

/-- Whether a property holds of a code point, given the code points at which it changes, ascending. -/
def isInside (c : CodePoint) (bounds : List Nat) : Bool :=
  (bounds.takeWhile (· ≤ c.val)).length % 2 == 1

/-- The ASCII lower case of a code point; all others stay. -/
def lower (c : CodePoint) : CodePoint :=
  if 0x41 ≤ c.val && c.val ≤ 0x5A then ofNat (c.val + 0x20) else c

end CodePoint

namespace Text

/-- The text of a string. -/
def ofString (s : String) : Text :=
  s.toList.map CodePoint.ofChar

instance : Coe String Text := ⟨ofString⟩

/-- Cuts a text at each code point of a class; the pieces hold none of them, and there is one piece
more than there are cuts. -/
def splitWhen (cut : CodePoint → Bool) : Text → List Text
  | [] => [[]]
  | c :: rest =>
    if cut c then [] :: splitWhen cut rest
    else match splitWhen cut rest with
      | [] => [[c]]
      | piece :: pieces => (c :: piece) :: pieces

/-- Cuts a text at each occurrence of one code point. -/
def splitOn (separator : CodePoint) (t : Text) : List Text :=
  splitWhen (· == separator) t

/-- The pieces in order, with a separator between neighbours. -/
def joinWith (separator : Text) : List Text → Text
  | [] => []
  | [piece] => piece
  | piece :: next :: pieces => piece ++ separator ++ joinWith separator (next :: pieces)

/-- Every text has at least one piece. -/
theorem splitWhen_ne_nil (cut : CodePoint → Bool) (t : Text) : splitWhen cut t ≠ [] := by
  cases t with
  | nil => exact List.cons_ne_nil _ _
  | cons c rest =>
    rw [splitWhen]
    split
    · exact List.cons_ne_nil _ _
    · split
      · exact List.cons_ne_nil _ _
      · exact List.cons_ne_nil _ _

/-- A code point in front of the first piece stands in front of the joined pieces. -/
theorem joinWith_cons_cons (separator piece : Text) (c : CodePoint) (pieces : List Text) :
    joinWith separator ((c :: piece) :: pieces) = c :: joinWith separator (piece :: pieces) := by
  cases pieces with
  | nil => rfl
  | cons next pieces => rfl

/-- The pieces joined by the code point that they were cut at are the text. -/
theorem joinWith_splitOn (separator : CodePoint) (t : Text) :
    joinWith [separator] (splitOn separator t) = t := by
  induction t with
  | nil => rfl
  | cons c rest ih =>
    rw [splitOn] at ih ⊢
    cases found : splitWhen (· == separator) rest with
    | nil => exact absurd found (splitWhen_ne_nil _ rest)
    | cons piece pieces =>
      rw [found] at ih
      by_cases same : c = separator
      · have cut : (c == separator) = true := beq_iff_eq.mpr same
        rw [splitWhen, if_pos cut, found, joinWith, ih, same]
        rfl
      · have stays : ¬(c == separator) = true := fun equal => same (beq_iff_eq.mp equal)
        rw [splitWhen, if_neg stays, found]
        dsimp only
        rw [joinWith_cons_cons, ih]

/-- Drops the code points of a class from the end. -/
def trimEnd (drop : CodePoint → Bool) (t : Text) : Text :=
  (t.reverse.dropWhile drop).reverse

/-- Drops the code points of a class from both ends. -/
def trim (drop : CodePoint → Bool) (t : Text) : Text :=
  trimEnd drop (t.dropWhile drop)

/-- The text with its ASCII letters in lower case. -/
def lower (t : Text) : Text :=
  t.map CodePoint.lower

/-- Whether a text starts with another. -/
def startsWith (start : Text) (t : Text) : Bool :=
  start.isPrefixOf t

/-- Whether a text holds another. -/
def holds (part : Text) : Text → Bool
  | [] => part == []
  | c :: rest => startsWith part (c :: rest) || holds part rest

/-- The rest of a text after a given start, if it has that start. -/
def after? : Text → Text → Option Text
  | [], t => some t
  | _ :: _, [] => none
  | s :: start, c :: t => if s = c then after? start t else none

/-- The first occurrence of a code point splits the text into what is before and what is after. -/
def cutAt? (separator : CodePoint) : Text → Option (Text × Text)
  | [] => none
  | c :: rest =>
    if c = separator then some ([], rest)
    else (cutAt? separator rest).map fun (before, behind) => (c :: before, behind)

/-- Reads a run of hexadecimal digits as a number; none if some code point is no such digit. -/
def hexNumber? (t : Text) : Option Nat :=
  t.foldl (fun sum c => sum.bind fun n => c.hexValue?.map (16 * n + ·)) (some 0)

/-- One lower-case hexadecimal digit. -/
def hexDigit (n : Nat) : CodePoint :=
  CodePoint.ofNat (if n < 10 then 0x30 + n else 0x57 + n)

/-- A number in hexadecimal, the low digits only, as many as asked for. -/
def hex : Nat → Nat → Text
  | 0, _ => []
  | places + 1, n => hex places (n / 16) ++ [hexDigit (n % 16)]

/-! ### The order of texts -/

/-- Compares two texts by their code points. -/
def compare : Text → Text → Ordering
  | [], [] => .eq
  | [], _ :: _ => .lt
  | _ :: _, [] => .gt
  | c :: s, d :: t => if c < d then .lt else if d < c then .gt else compare s t

end Text

/-! ### Blanks and words -/

namespace CodePoint

/-- Unicode's property White_Space. -/
def isBlank (c : CodePoint) : Bool :=
  (0x09 ≤ c.val && c.val ≤ 0x0D) || c.val == 0x20 || c.val == 0x85 || c.val == 0xA0
    || c.val == 0x1680 || (0x2000 ≤ c.val && c.val ≤ 0x200A) || c.val == 0x2028
    || c.val == 0x2029 || c.val == 0x202F || c.val == 0x205F || c.val == 0x3000

/-- What separates words: White_Space and the four information separators. -/
def isSpace (c : CodePoint) : Bool :=
  c.isBlank || (0x1C ≤ c.val && c.val ≤ 0x1F)

/-- The blanks that ASCII has without its information separators. -/
def isAsciiBlank (c : CodePoint) : Bool :=
  (0x09 ≤ c.val && c.val ≤ 0x0D) || c.val == 0x20

end CodePoint

namespace Text

/-- The longest runs without a space, in order. -/
def words (t : Text) : List Text :=
  (splitWhen CodePoint.isSpace t).filter fun word => !word.isEmpty

/-- The words of a text on one line, one space between two words. -/
def singleLine (t : Text) : Text :=
  joinWith [' '] (words t)

end Text

end AlarmFeed
