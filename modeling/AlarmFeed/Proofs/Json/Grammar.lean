/-
**The grammar of a document.**

What a text means, said without a reader: `Says depth t v` holds if `t` is the notation of the value `v`
and nests lists and objects at most `depth` levels deep.

* `SaysText`, `SaysNumber`, `SaysPlain` — texts between quotes, numbers, and words;
* `Enclosed` — the parts of a list or an object in their brackets, with commas between them;
* `Says`, `SaysMember` — values and the members of objects. The members are those that are written; only
  the value of the object has each name once (`Fields.ofPairs`);
* `Overflows` — a text opens one level more than it may before anything else in it goes wrong.

Blanks stand around values, names, commas and colons.
-/

import AlarmFeed.Json.Reader
import AlarmFeed.Proofs.Number.Shortest

namespace AlarmFeed.Json

/-- Nothing but blanks. -/
def Blank (t : Text) : Prop :=
  ∀ c ∈ t, isBlank c = true

instance (t : Text) : Decidable (Blank t) :=
  List.decidableBAll (fun c => isBlank c = true) t

/-! ### Texts -/

/-- **How one piece of a text is written** between the quotes: as it is, by an escape of one letter, or by
the number of a code unit. -/
inductive SaysPiece : Text → Piece → Prop
  | self {c : CodePoint} (noQuote : c ≠ CodePoint.ofChar '"') (noBackslash : c ≠ CodePoint.ofChar '\\')
      (noControl : 0x20 ≤ c.val) : SaysPiece [c] (.plain c)
  | letter {mark c : CodePoint} (known : escaped? mark = some c) :
      SaysPiece [CodePoint.ofChar '\\', mark] (.plain c)
  | unit {a b c d point : CodePoint} (known : unit? a b c d = some point) :
      SaysPiece [CodePoint.ofChar '\\', CodePoint.ofChar 'u', a, b, c, d] (.unit point)

/-- The pieces of a text, one after another. -/
inductive SaysPieces : Text → List Piece → Prop
  | nil : SaysPieces [] []
  | cons {written later : Text} {piece : Piece} {pieces : List Piece} (first : SaysPiece written piece)
      (others : SaysPieces later pieces) : SaysPieces (written ++ later) (piece :: pieces)

/-- **A text between quotes**: the pieces in it are joined. -/
inductive SaysText : Text → Text → Prop
  | quoted {inner : Text} {pieces : List Piece} (each : SaysPieces inner pieces) :
      SaysText (CodePoint.ofChar '"' :: (inner ++ [CodePoint.ofChar '"'])) (joinPieces pieces)

/-! ### Numbers and words -/

/-- An exponent: a mark, perhaps a sign, and digits. -/
inductive SaysPower : Text → Int → Prop
  | bare {mark : CodePoint} {figures : Text}
      (marked : mark = CodePoint.ofChar 'e' ∨ mark = CodePoint.ofChar 'E') (run : Figures figures) :
      SaysPower (mark :: figures) (Decimal.value figures)
  | plus {mark : CodePoint} {figures : Text}
      (marked : mark = CodePoint.ofChar 'e' ∨ mark = CodePoint.ofChar 'E') (run : Figures figures) :
      SaysPower (mark :: CodePoint.ofChar '+' :: figures) (Decimal.value figures)
  | minus {mark : CodePoint} {figures : Text}
      (marked : mark = CodePoint.ofChar 'e' ∨ mark = CodePoint.ofChar 'E') (run : Figures figures) :
      SaysPower (mark :: CodePoint.ofChar '-' :: figures) (-(Decimal.value figures : Int))

/-- **A number behind its sign.** It is an integer if it has neither a point nor an exponent, and must not
be too long then. -/
inductive SaysNumber (negative : Bool) : Text → Value → Prop
  | whole {whole : Text} (front : Whole whole) (short : whole.length ≤ Decimal.digitLimit) :
      SaysNumber negative whole (.int (Decimal.signed negative (Decimal.value whole)))
  | point {whole decimals : Text} (front : Whole whole) (behind : Figures decimals) :
      SaysNumber negative (whole ++ CodePoint.ofChar '.' :: decimals)
        (.number (.ofDecimal negative (Decimal.value (whole ++ decimals)) (-(decimals.length : Int))))
  | power {whole exponent : Text} {power : Int} (front : Whole whole)
      (raised : SaysPower exponent power) :
      SaysNumber negative (whole ++ exponent)
        (.number (.ofDecimal negative (Decimal.value whole) power))
  | both {whole decimals exponent : Text} {power : Int} (front : Whole whole)
      (behind : Figures decimals) (raised : SaysPower exponent power) :
      SaysNumber negative (whole ++ CodePoint.ofChar '.' :: (decimals ++ exponent))
        (.number (.ofDecimal negative (Decimal.value (whole ++ decimals)) (power - decimals.length)))

/-- A value that is a word or a number. -/
inductive SaysPlain : Text → Value → Prop
  | word {word : Text} {v : Value} (known : (word, v) ∈ words) : SaysPlain word v
  | positive {t : Text} {v : Value} (number : SaysNumber false t v) : SaysPlain t v
  | negative {t : Text} {v : Value} (number : SaysNumber true t v) :
      SaysPlain (CodePoint.ofChar '-' :: t) v

/-! ### Lists and objects -/

/-- The bracket or brace that opens a list or an object. -/
def Container.opening : Container → CodePoint
  | list => '['
  | object => '\x7b'

/-- The bracket or brace that closes it. -/
def Container.closing : Container → CodePoint
  | list => ']'
  | object => '\x7d'

/-- Parts of a list or an object with a comma behind each of them. The list or object is one level of
nesting more than its parts. -/
inductive Followed {α : Type} (part : Nat → Text → α → Prop) : Nat → Text → List α → Prop
  | none {depth : Nat} : Followed part (depth + 1) [] []
  | next {depth : Nat} {written behind before later : Text} {a : α} {others : List α}
      (one : part depth written a) (blankBehind : Blank behind) (blankBefore : Blank before)
      (more : Followed part (depth + 1) later others) :
      Followed part (depth + 1) (written ++ (behind ++ CodePoint.ofChar ',' :: (before ++ later)))
        (a :: others)

/-- **The parts of a list or an object** in their brackets: none at all, or a last one with a comma behind
each of the others. -/
inductive Enclosed {α : Type} (container : Container) (part : Nat → Text → α → Prop) :
    Nat → Text → List α → Prop
  | empty {depth : Nat} {inner : Text} (blank : Blank inner) :
      Enclosed container part (depth + 1) (container.opening :: (inner ++ [container.closing])) []
  | parts {depth : Nat} {before front written behind : Text} {a : α} {others : List α}
      (blankBefore : Blank before) (earlier : Followed part (depth + 1) front others)
      (last : part depth written a) (blankBehind : Blank behind) :
      Enclosed container part (depth + 1)
        (container.opening :: (before ++ (front ++ (written ++ (behind ++ [container.closing])))))
        (others ++ [a])

/-- The name of a member with the colon and the blanks that follow. -/
inductive SaysName : Text → Text → Prop
  | named {quoted name behind before : Text} (text : SaysText quoted name) (blankBehind : Blank behind)
      (blankBefore : Blank before) :
      SaysName (quoted ++ (behind ++ CodePoint.ofChar ':' :: before)) name

mutual

/-- **A text says a value**, nested at most so deep. -/
inductive Says : Nat → Text → Value → Prop
  | plain {depth : Nat} {t : Text} {v : Value} (plain : SaysPlain t v) : Says depth t v
  | text {depth : Nat} {quoted t : Text} (text : SaysText quoted t) : Says depth quoted (.text t)
  | list {depth : Nat} {t : Text} {items : List Value} (each : Enclosed .list Says depth t items) :
      Says depth t (.list items)
  | object {depth : Nat} {t : Text} {members : List (Text × Value)}
      (each : Enclosed .object SaysMember depth t members) :
      Says depth t (.object (Fields.ofPairs members))

/-- A text says a member: its name, and its value. -/
inductive SaysMember : Nat → Text → Text × Value → Prop
  | member {depth : Nat} {front written name : Text} {v : Value} (named : SaysName front name)
      (valued : Says depth written v) : SaysMember depth (front ++ written) (name, v)

end

/-- **One level too many**: the text opens this list or object where it may be nested no deeper, and all
that stands before it is as it should be. What stands behind it makes no difference. -/
inductive Overflows (container : Container) : Nat → Text → Prop
  | opens (rest : Text) : Overflows container 0 (container.opening :: rest)
  | item {depth : Nat} {before front t : Text} {items : List Value} (blankBefore : Blank before)
      (earlier : Followed Says (depth + 1) front items) (inner : Overflows container depth t) :
      Overflows container (depth + 1) (CodePoint.ofChar '[' :: (before ++ (front ++ t)))
  | member {depth : Nat} {before front start name t : Text} {members : List (Text × Value)}
      (blankBefore : Blank before) (earlier : Followed SaysMember (depth + 1) front members)
      (named : SaysName start name) (inner : Overflows container depth t) :
      Overflows container (depth + 1)
        (CodePoint.ofChar '\x7b' :: (before ++ (front ++ (start ++ t))))

end AlarmFeed.Json
