/-
**Values of documents.**

`Value` is what a JSON text or a YAML document says: null, truth values, integers of any size, binary
floating point numbers, texts, lists, and objects whose members keep their order. A YAML document can
also say bytes.

`Value.literal` writes a value with quoted texts, in brackets and braces; `Value.display` is the same
except that a text stands for itself. A floating point number is written positionally from `10 ^ -4`
up to `10 ^ 16`.

Not every value can be printed: an integer may have too many digits, and lists and objects may be nested
too deeply. `Value.obstacle?` finds what is in the way.
-/

import AlarmFeed.Number.Binary64
import AlarmFeed.Number.Shortest
import AlarmFeed.Text.Fields
import AlarmFeed.Text.Printable
import AlarmFeed.Text.Utf8

namespace AlarmFeed

/-- What a document says. -/
inductive Value
  | null
  | bool (truth : Bool)
  | int (number : Int)
  | number (number : Binary64)
  | text (content : Text)
  | bytes (content : Bytes)
  | list (items : List Value)
  | object (members : List (Text × Value))
  deriving Inhabited, BEq

/-- The members of an object, in order. -/
abbrev Members := Fields Value

namespace Value

/-- How deep lists and objects may be nested in what is read and in what is printed. The levels of nesting
share a stack with the calls around them, so whatever reads or prints takes this as an argument; here is
what is left of the stack for a caller that is not deep in calls itself. -/
def depthLimit : Nat := 990

/-- The empty values: null, false, zero, and the empty text, bytes, list and object. -/
def isEmpty : Value → Bool
  | null => true
  | bool truth => !truth
  | int n => n == 0
  | number x => x.isZero
  | text t => List.isEmpty t
  | bytes content => List.isEmpty content
  | list items => items.isEmpty
  | object members => List.isEmpty members

end Value

/-! ### Values in messages -/

/-- Numbers in messages. -/
def NumberStyle.message : NumberStyle :=
  ⟨-4, 16, 2, "inf", "nan"⟩

namespace Value

/-- Bytes between quotes: those that are no printable ASCII are written by their numbers. -/
def bytesLiteral (content : Bytes) : Text :=
  let points : Text := content.map fun byte => CodePoint.ofNat byte.toNat
  let quote := Text.quoteFor points
  'b' :: quote :: (points.flatMap (fun c =>
    if c.val < 0x7F then Text.quotedPoint quote c else CodePoint.numbered c) ++ [quote])

mutual

/-- A value with its texts quoted. -/
def literal : Value → Text
  | null => "None"
  | bool true => "True"
  | bool false => "False"
  | int n => Decimal.ofInt n
  | number x => NumberStyle.message.write x
  | text t => t.quoted
  | bytes content => bytesLiteral content
  | list items => '[' :: (Text.joinWith ", " (literals items) ++ [CodePoint.ofChar ']'])
  | object members => '{' :: (Text.joinWith ", " (memberLiterals members) ++ [CodePoint.ofChar '}'])

/-- Each value of a list with its texts quoted. -/
def literals : List Value → List Text
  | [] => []
  | item :: items => literal item :: literals items

/-- Each member of an object, its name and its value quoted. -/
def memberLiterals : List (Text × Value) → List Text
  | [] => []
  | (name, value) :: members =>
    (name.quoted ++ (": " : Text) ++ literal value) :: memberLiterals members

end

/-- A value as it stands in a message. -/
def display : Value → Text
  | text t => t
  | value => literal value

/-! ### What can be printed -/

/-- What keeps a value from being printed. -/
inductive Obstacle
  /-- An integer has too many digits. -/
  | longInteger
  /-- Lists and objects are nested too deeply. -/
  | nesting
  deriving DecidableEq

mutual

/-- The first obstacle in a value, with so many levels of nesting left. -/
def obstacle? : Value → Nat → Option Obstacle
  | int n, _ => if Decimal.Short n then none else some .longInteger
  | list items, depth => itemObstacle? items depth
  | object members, depth => memberObstacle? members depth
  | _, _ => none

/-- The first obstacle in the values of a list. -/
def itemObstacle? : List Value → Nat → Option Obstacle
  | [], _ => none
  | _ :: _, 0 => some .nesting
  | item :: items, depth + 1 => (obstacle? item depth).or (itemObstacle? items (depth + 1))

/-- The first obstacle in the values of an object's members. -/
def memberObstacle? : List (Text × Value) → Nat → Option Obstacle
  | [], _ => none
  | _ :: _, 0 => some .nesting
  | (_, value) :: members, depth + 1 =>
    (obstacle? value depth).or (memberObstacle? members (depth + 1))

end

/-- The name of a value's kind. -/
def kindName : Value → Text
  | null => "NoneType"
  | bool _ => "bool"
  | int _ => "int"
  | number _ => "float"
  | text _ => "str"
  | bytes _ => "bytes"
  | list _ => "list"
  | object _ => "dict"

end Value

end AlarmFeed
