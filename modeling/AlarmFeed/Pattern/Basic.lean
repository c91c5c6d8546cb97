/-
**Patterns.**

A pattern is a regular expression with captured groups, references back to them, anchors and
assertions. It is matched by trying: where there is a choice, the options are tried in order, and an
earlier one is given up only when what is behind the pattern cannot be matched after it. An atomic
pattern and an assertion settle for their first match.

`Pattern.follow` matches a pattern from a place on, and then what is behind it, which is a function of
the place where the pattern ends. A text matches as a whole if the pattern can be followed from its start
by its end.
-/

import AlarmFeed.Text.Basic
import AlarmFeed.Text.Lowercase
import AlarmFeed.Text.Word

namespace AlarmFeed

/-- The kinds of code points that have an escape of their own. -/
inductive PointKind
  | digit
  | space
  | word
  deriving DecidableEq

/-- Whether a code point is of a kind, among all code points or only among those of ASCII. -/
def PointKind.accepts (ascii : Bool) (kind : PointKind) (c : CodePoint) : Bool :=
  (!ascii || c.val < 0x80) &&
    match kind with
    | digit => c.decimalValue?.isSome
    | space => if ascii then c.isAsciiBlank else c.isSpace
    | word => c.isWordPoint

/-- A part of a set of code points. -/
inductive PointItem
  | range (first last : Nat)
  | kind (kind : PointKind) (negated : Bool)
  deriving DecidableEq

/-- A set of code points. -/
structure PointSet where
  items : List PointItem
  negated : Bool := false
  /-- Whether the two cases of a letter count as one. -/
  foldCase : Bool := false
  /-- Whether the kinds are those of ASCII. -/
  ascii : Bool := false
  deriving DecidableEq

namespace PointSet

/-- Whether an item holds a code point. -/
def itemAccepts (ascii : Bool) (c : CodePoint) : PointItem → Bool
  | .range first last => first ≤ c.val && c.val ≤ last
  | .kind kind negated => kind.accepts ascii c != negated

/-- The code points that count as one with a given one. -/
def forms (set : PointSet) (c : CodePoint) : List CodePoint :=
  if !set.foldCase then [c]
  else if set.ascii then c.asciiForms
  else c.caseForms

/-- Whether a set holds a code point. -/
def accepts (set : PointSet) (c : CodePoint) : Bool :=
  ((set.forms c).any fun form => set.items.any (itemAccepts set.ascii form)) != set.negated

end PointSet

/-- Places between code points that a pattern may ask for. -/
inductive Anchor
  | start
  | lineStart
  /-- The end, or a line feed at the end. -/
  | finish
  | lineFinish
  | veryEnd
  /-- Between a word and what is none. -/
  | wordEdge (ascii negated : Bool)
  deriving DecidableEq

/-- How many code points a pattern matches: the least number, and the greatest one if there is one. -/
structure Width where
  least : Nat
  most : Option Nat
  deriving DecidableEq

namespace Width

/-- So many code points exactly. -/
def exactly (n : Nat) : Width := ⟨n, some n⟩

/-- The width of one thing after another. -/
def sum (first second : Width) : Width :=
  ⟨first.least + second.least, do return (← first.most) + (← second.most)⟩

/-- The width of one of two things. -/
def either (first second : Width) : Width :=
  ⟨min first.least second.least, do return max (← first.most) (← second.most)⟩

/-- The width of something that is repeated. -/
def times (width : Width) (least : Nat) (most : Option Nat) : Width :=
  ⟨least * width.least,
    if width.most = some 0 ∨ most = some 0 then some 0 else do return (← most) * (← width.most)⟩

end Width

/-- How letters are compared with what a group has matched. -/
inductive LetterRule
  | exact
  /-- The two cases of an ASCII letter count as one. -/
  | ascii
  /-- Letters with the same lower case count as one. -/
  | caseless
  deriving DecidableEq

/-- What stands for a letter when it is compared. -/
def LetterRule.image : LetterRule → CodePoint → CodePoint
  | exact, c => c
  | ascii, c => c.lower
  | caseless, c => c.small

/-- A pattern. -/
inductive Pattern
  | empty
  | point (set : PointSet)
  | sequence (first second : Pattern)
  /-- The first option is tried before the second one. -/
  | either (first second : Pattern)
  /-- As many rounds as possible are tried first, or, if it is lazy, as few. -/
  | repeated (least : Nat) (most : Option Nat) (isLazy : Bool) (body : Pattern)
  /-- Only the first match counts. -/
  | atomic (body : Pattern)
  | group (number : Nat) (body : Pattern)
  /-- What a group has matched, whose body has a given width. -/
  | reference (number : Nat) (rule : LetterRule) (width : Width)
  | anchor (edge : Anchor)
  | ahead (negated : Bool) (body : Pattern)
  /-- What is behind has a given number of code points. -/
  | behind (negated : Bool) (width : Nat) (body : Pattern)
  /-- One of two patterns, depending on whether a group has matched. -/
  | ifGroup (number : Nat) (yes no : Pattern)

namespace Pattern

/-! ### Places -/

/-- A place in a text, and where the groups on the way to it start and end, the last match of a group
in front. -/
structure Place where
  position : Nat
  starts : List (Nat × Nat) := []
  finishes : List (Nat × Nat) := []

/-- Where a group has matched. While it is matched once more, its last match counts only if that does
not end before the new one starts. -/
def Place.span? (place : Place) (number : Nat) : Option (Nat × Nat) := do
  let start ← place.starts.lookup number
  let finish ← place.finishes.lookup number
  if start ≤ finish then return (start, finish) else none

/-- Whether a word goes on at a position. -/
def isWordAt (t : Array CodePoint) (ascii : Bool) (position : Nat) : Bool :=
  t[position]?.any (PointKind.word.accepts ascii)

/-- Whether an anchor holds at a position. -/
def holdsAt (t : Array CodePoint) (position : Nat) : Anchor → Bool
  | .start => position == 0
  | .lineStart => position == 0 || t[position - 1]? == some (CodePoint.ofChar '\n')
  | .finish =>
    position == t.size || (position + 1 == t.size && t[position]? == some (CodePoint.ofChar '\n'))
  | .lineFinish => position == t.size || t[position]? == some (CodePoint.ofChar '\n')
  | .veryEnd => position == t.size
  | .wordEdge ascii negated =>
    t.size != 0 && ((0 < position && isWordAt t ascii (position - 1)) != isWordAt t ascii position) != negated

/-- The place behind what a group has matched, if the same comes next. -/
def Place.repeats? (t : Array CodePoint) (place : Place) (number : Nat) (rule : LetterRule) :
    Option Place := do
  let (start, finish) ← place.span? number
  let position := place.position + (finish - start)
  let image (first last : Nat) : Text := (t.extract first last).toList.map rule.image
  if image place.position position = image start finish then return { place with position := position }
  else none

/-! ### Matching -/

/-- Rounds of a repeated pattern, and then what is behind it, given how many rounds are behind a place
and where the last of them started that was not needed. A round that was not needed and has matched
nothing is the last one. -/
def rounds (round : Place → (Place → Option Place) → Option Place) (least : Nat) (most : Option Nat)
    (isLazy : Bool) (next : Place → Option Place) : Nat → Nat → Option Nat → Place → Option Place
  | 0, _, _, _ => none
  | fuel + 1, count, last, place =>
    let more (last : Option Nat) : Option Place :=
      round place (rounds round least most isLazy next fuel (count + 1) last)
    if count < least then more last
    else if most = some count ∨ last = some place.position then next place
    else if isLazy then next place <|> more (some place.position)
    else more (some place.position) <|> next place

/-- What comes of an assertion at a place, given where its body ends: its groups are kept, and the place
is not left. -/
def assert (negated : Bool) (place : Place) (found : Option Place) (next : Place → Option Place) :
    Option Place :=
  match found with
  | some last => if negated then none else next { last with position := place.position }
  | none => if negated then next place else none

/-- Matches a pattern from a place on, and then what is behind it. A match has at most as many rounds
that are not needed as there are code points, and one more that matches nothing. -/
def follow (t : Array CodePoint) : Pattern → Place → (Place → Option Place) → Option Place
  | empty, place, next => next place
  | point set, place, next =>
    if t[place.position]?.any set.accepts then next { place with position := place.position + 1 }
    else none
  | sequence first second, place, next => follow t first place fun middle => follow t second middle next
  | either first second, place, next => follow t first place next <|> follow t second place next
  | repeated least most isLazy body, place, next =>
    rounds (follow t body) least most isLazy next (least + t.size + 3) 0 none place
  | atomic body, place, next => (follow t body place some).bind next
  | group number body, place, next =>
    follow t body { place with starts := (number, place.position) :: place.starts } fun last =>
      next { last with finishes := (number, last.position) :: last.finishes }
  | reference number rule _, place, next => (place.repeats? t number rule).bind next
  | anchor edge, place, next => if holdsAt t place.position edge then next place else none
  | ahead negated body, place, next => assert negated place (follow t body place some) next
  | behind negated width body, place, next =>
    let found :=
      if place.position < width then none
      else follow t body { place with position := place.position - width } some
    assert negated place found next
  | ifGroup number yes no, place, next =>
    if (place.span? number).isSome then follow t yes place next else follow t no place next

/-- Whether a text matches as a whole. -/
def isWhole (pattern : Pattern) (t : Text) : Bool :=
  let text := t.toArray
  let atEnd (last : Place) : Option Place := if last.position = text.size then some last else none
  (pattern.follow text { position := 0 } atEnd).isSome

/-- How many code points a pattern matches. -/
def width : Pattern → Width
  | point _ => .exactly 1
  | sequence first second => (width first).sum (width second)
  | either first second => (width first).either (width second)
  | repeated least most _ body => (width body).times least most
  | atomic body => width body
  | group _ body => width body
  | reference _ _ width => width
  | ifGroup _ yes no => (width yes).either (width no)
  | _ => .exactly 0

end Pattern

end AlarmFeed
