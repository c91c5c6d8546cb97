/-
**What a character set cannot carry.**

A token travels in ASCII and a table in UTF-8. `Charset.unencodable?` finds the first run of code
points that the set cannot carry; its `message` names the code point, or the span if there are several.
-/

import AlarmFeed.Number.Decimal
import AlarmFeed.Text.Printable

namespace AlarmFeed

/-- The character sets that text leaves the program in. -/
inductive Charset
  | ascii
  | utf8
  deriving DecidableEq

/-- A run of code points that a character set cannot carry. -/
structure Unencodable where
  charset : Charset
  /-- The position of the run. -/
  first : Nat
  /-- The first code point of the run. -/
  point : CodePoint
  /-- How many more code points the run has. -/
  more : Nat
  deriving DecidableEq

namespace Charset

/-- The name of a character set. -/
def name : Charset → Text
  | .ascii => "ascii"
  | .utf8 => "utf-8"

/-- Why a code point is refused. -/
def reason : Charset → Text
  | .ascii => "ordinal not in range(128)"
  | .utf8 => "surrogates not allowed"

/-- The code points that a character set cannot carry. -/
def refuses : Charset → CodePoint → Bool
  | .ascii, c => 0x80 ≤ c.val
  | .utf8, c => c.isSurrogate

/-- The first run that a character set cannot carry. -/
def unencodable? (charset : Charset) (t : Text) : Option Unencodable :=
  match t.dropWhile fun c => !charset.refuses c with
  | [] => none
  | point :: rest =>
    some ⟨charset, t.length - rest.length - 1, point, (rest.takeWhile charset.refuses).length⟩

end Charset

/-- The report on a run that cannot be carried. -/
def Unencodable.message (u : Unencodable) : Text :=
  let start := ("'" : Text) ++ u.charset.name ++ ("' codec can't encode character" : Text)
  let position := Decimal.digits u.first
  let what :=
    if u.more = 0 then (" '" : Text) ++ u.point.numbered ++ ("' in position " : Text) ++ position
    else ("s in position " : Text) ++ position ++ ("-" : Text) ++ Decimal.digits (u.first + u.more)
  start ++ what ++ (": " : Text) ++ u.charset.reason

end AlarmFeed
