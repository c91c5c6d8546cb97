/-
**From text to tokens.**

`tokens` reads the tokens of a text, as many as are certain if it is malformed. Indentation opens and
closes blocks. A scalar, a collection, an anchor or a tag may turn out to be a key only when the colon
behind it is read, so each place where a key may have started is remembered, one for every level of
brackets; the marks of the key and of its mapping are then put in front of what has been read since. A
key has to fit on one line of at most 1024 code points.
-/

import AlarmFeed.Yaml.Token
import AlarmFeed.Yaml.Token.Block
import AlarmFeed.Yaml.Token.Scalar

namespace AlarmFeed.Yaml

/-- A place where a key may have started. -/
structure KeyStart where
  /-- How many tokens stand in front of it. -/
  position : Nat
  /-- Whether nothing but a key can stand here. -/
  required : Bool
  index : Nat
  line : Nat
  column : Nat

/-- What is known in the middle of a text. -/
structure Lexer where
  cursor : Cursor
  /-- The tokens so far, the last one first. -/
  tokens : List Token := []
  /-- How many brackets are open. -/
  flowLevel : Nat := 0
  /-- The indentation of the innermost block. -/
  indentation : Int := -1
  /-- The indentations of the blocks around it. -/
  outer : List Int := []
  /-- Whether a key may start here. -/
  keyAllowed : Bool := true
  /-- Where a key may have started, for each level of brackets. -/
  keyStarts : List (Nat × KeyStart) := []

/-- The tokens of a text up to its end, or up to the place where it is malformed. -/
structure Tokens where
  list : List Token
  /-- What is wrong behind the last token; nobody asks for it if that is the end of the text. -/
  fault : Fault

/-- A reader that adds tokens. -/
abbrev Lex := StateT Lexer (Except Fault)

namespace Lex

/-- The text is malformed. -/
def fail {α : Type} : Lex α :=
  throw .document

/-- Fails unless a condition holds. -/
def require (condition : Bool) : Lex Unit :=
  if condition then pure () else fail

/-- Reads with the cursor. -/
def scan {α : Type} (reader : Scan α) : Lex α := do
  let lexer ← get
  let (a, cursor) ← reader.run lexer.cursor
  set { lexer with cursor := cursor }
  return a

/-- Adds a token. -/
def push (token : Token) : Lex Unit :=
  modify fun lexer => { lexer with tokens := token :: lexer.tokens }

/-- Puts a token behind the first ones. -/
def insertAt (position : Nat) (token : Token) : Lex Unit :=
  modify fun lexer =>
    let behind := lexer.tokens.length - position
    { lexer with tokens := lexer.tokens.take behind ++ token :: lexer.tokens.drop behind }

/-- Says whether a key may start at the next token. -/
def allowKey (allowed : Bool) : Lex Unit :=
  modify fun lexer => { lexer with keyAllowed := allowed }

/-- Whether no bracket is open. -/
def inBlock : Lex Bool := do
  return (← get).flowLevel == 0

/-- Opens a block, if its column is further to the right than the block around it. -/
def openBlock (column : Nat) : Lex Bool := do
  let lexer ← get
  if lexer.indentation < column then
    set { lexer with indentation := column, outer := lexer.indentation :: lexer.outer }
    return true
  else return false

/-- Closes the blocks that are further to the right than a column, so many at most. -/
def closeBlocksFrom (column : Int) : Nat → Lex Unit
  | 0 => return
  | fuel + 1 => do
    let lexer ← get
    if column < lexer.indentation then
      set { lexer with
        indentation := lexer.outer.headD (-1), outer := lexer.outer.tail,
        tokens := .blockEnd :: lexer.tokens }
      closeBlocksFrom column fuel

/-- Closes the blocks that are further to the right than a column, unless a bracket is open. -/
def closeBlocks (column : Int) : Lex Unit := do
  let lexer ← get
  if ← inBlock then closeBlocksFrom column (lexer.outer.length + 1)

/-- Whether a key that started earlier can still end here. -/
def isFresh (cursor : Cursor) (start : KeyStart) : Bool :=
  start.line == cursor.line && cursor.index - start.index ≤ 1024

/-- Forgets the key starts whose keys can no longer end; a required one is a fault. -/
def dropStaleKeys : Lex Unit := do
  let lexer ← get
  let fresh (entry : Nat × KeyStart) : Bool := isFresh lexer.cursor entry.2
  require (lexer.keyStarts.all fun entry => fresh entry || !entry.2.required)
  set { lexer with keyStarts := lexer.keyStarts.filter fresh }

/-- The key start at the current level of brackets. -/
def keyStart? : Lex (Option KeyStart) := do
  let lexer ← get
  return (lexer.keyStarts.find? fun (level, _) => level == lexer.flowLevel).map Prod.snd

/-- Forgets the key start at the current level of brackets. -/
def clearKey : Lex Unit :=
  modify fun lexer =>
    { lexer with keyStarts := lexer.keyStarts.filter fun (level, _) => level != lexer.flowLevel }

/-- Gives up the key start at the current level of brackets; a required one is a fault. -/
def dropKey : Lex Unit := do
  let start ← keyStart?
  require (!start.any KeyStart.required)
  clearKey

/-- Remembers that a key may start here. -/
def saveKey : Lex Unit := do
  let lexer ← get
  if lexer.keyAllowed then
    dropKey
    let cursor := lexer.cursor
    let required := lexer.flowLevel == 0 && lexer.indentation == cursor.column
    let start : KeyStart :=
      ⟨lexer.tokens.length, required, cursor.index, cursor.line, cursor.column⟩
    modify fun lexer => { lexer with keyStarts := (lexer.flowLevel, start) :: lexer.keyStarts }

/-- Moves behind spaces, comments and line ends. -/
def skipToToken : Nat → Lex Unit
  | 0 => return
  | fuel + 1 => do
    scan Scan.skipSpaces
    if ← scan (Scan.sees '#') then scan Scan.skipLine
    let lineEnd ← scan Scan.lineBreak
    if !lineEnd.isEmpty then
      if ← inBlock then allowKey true
      skipToToken fuel

/-- The end of the text. -/
def readEnd : Lex Unit := do
  closeBlocks (-1)
  dropKey
  allowKey false
  push .streamEnd

/-- A directive. -/
def readDirective : Lex Unit := do
  closeBlocks (-1)
  dropKey
  allowKey false
  push (.directive (← scan Scan.directive))

/-- A mark between documents. -/
def readSeparator (token : Token) : Lex Unit := do
  closeBlocks (-1)
  dropKey
  allowKey false
  scan (Scan.advance 3)
  push token

/-- An opening bracket. -/
def readOpening (token : Token) : Lex Unit := do
  saveKey
  modify fun lexer => { lexer with flowLevel := lexer.flowLevel + 1 }
  allowKey true
  scan (Scan.advance 1)
  push token

/-- A closing bracket; one that was never opened is a fault. -/
def readClosing (token : Token) : Lex Unit := do
  dropKey
  require (!(← inBlock))
  modify fun lexer => { lexer with flowLevel := lexer.flowLevel - 1 }
  allowKey false
  scan (Scan.advance 1)
  push token

/-- A comma between brackets. -/
def readComma : Lex Unit := do
  allowKey true
  dropKey
  scan (Scan.advance 1)
  push .flowEntry

/-- Outside brackets, a mark may stand only where a key may start, and opens a block. -/
def openBlockFor (token : Token) : Lex Unit := do
  if ← inBlock then
    let lexer ← get
    require lexer.keyAllowed
    if ← openBlock lexer.cursor.column then push token

/-- The mark of an item. -/
def readEntry : Lex Unit := do
  openBlockFor .blockSequenceStart
  allowKey true
  dropKey
  scan (Scan.advance 1)
  push .blockEntry

/-- The mark of a key. -/
def readKey : Lex Unit := do
  openBlockFor .blockMappingStart
  allowKey (← inBlock)
  dropKey
  scan (Scan.advance 1)
  push .key

/-- The mark of a value. If a key may have started earlier, that was a key. -/
def readValue : Lex Unit := do
  match ← keyStart? with
  | some start =>
    clearKey
    insertAt start.position .key
    if ← inBlock then
      if ← openBlock start.column then insertAt start.position .blockMappingStart
    allowKey false
  | none =>
    openBlockFor .blockMappingStart
    allowKey (← inBlock)
    dropKey
  scan (Scan.advance 1)
  push .value

/-- A token that may start a key. -/
def readNamed {α : Type} (reader : Scan α) (token : α → Token) : Lex Unit := do
  saveKey
  allowKey false
  push (token (← scan reader))

/-- A block scalar. -/
def readBlock (fold : Bool) : Lex Unit := do
  allowKey true
  dropKey
  let content ← scan (Scan.block fold (← get).indentation)
  push (.scalar content false)

/-- A plain scalar. -/
def readPlain : Lex Unit := do
  saveKey
  allowKey false
  let lexer ← get
  let (content, ended) ← scan (Scan.plain (lexer.flowLevel != 0) lexer.indentation)
  if ended then allowKey true
  push (.scalar content true)

/-- Whether a plain scalar may start with two given code points. -/
def startsPlain (flow : Bool) (c : CodePoint) (next : Option CodePoint) : Bool :=
  !(endsToken (some c) || isOneOf "-?:,[]\x7b\x7d#&*!|>'\"%@`" c)
    || (!endsToken next && (c == '-' || (!flow && isOneOf "?:" c)))

/-- The token that starts with a code point. -/
def readToken (c : CodePoint) : Lex Unit := do
  let lexer ← get
  let flow := lexer.flowLevel != 0
  let start := lexer.cursor.column == 0
  let next := lexer.cursor.rest[1]?
  let separator ← scan Scan.atSeparator
  if c == '%' && start then readDirective
  else if c == '-' && start && separator then readSeparator .documentStart
  else if c == '.' && start && separator then readSeparator .documentEnd
  else if c == '[' then readOpening .flowSequenceStart
  else if c == '{' then readOpening .flowMappingStart
  else if c == ']' then readClosing .flowSequenceEnd
  else if c == '}' then readClosing .flowMappingEnd
  else if c == ',' then readComma
  else if c == '-' && endsToken next then readEntry
  else if c == '?' && (flow || endsToken next) then readKey
  else if c == ':' && (flow || endsToken next) then readValue
  else if c == '*' then readNamed Scan.anchorName .reference
  else if c == '&' then readNamed Scan.anchorName .anchor
  else if c == '!' then readNamed Scan.tag .tag
  else if c == '|' && !flow then readBlock false
  else if c == '>' && !flow then readBlock true
  else if c == '\'' then readNamed (Scan.quoted false) fun content => .scalar content false
  else if c == '"' then readNamed (Scan.quoted true) fun content => .scalar content false
  else if startsPlain flow c next then readPlain
  else fail

/-- Reads one more token, and says whether the text goes on. -/
def readNext : Lex Bool := do
  skipToToken ((← get).cursor.rest.length + 1)
  dropStaleKeys
  closeBlocks (← get).cursor.column
  match ← scan Scan.peek with
  | none => do
    readEnd
    return false
  | some c => do
    readToken c
    return true

/-- How many of the tokens so far stay where they are: those in front of every key that may still end. -/
def settled (lexer : Lexer) : Nat :=
  let starts := lexer.keyStarts.filter fun entry => isFresh lexer.cursor entry.2
  starts.foldl (fun least entry => min least entry.2.position) lexer.tokens.length

/-- Reads tokens up to the end of the text or up to a fault. -/
def readAll : Nat → Lexer → Tokens
  | 0, lexer => ⟨lexer.tokens.reverse, .document⟩
  | fuel + 1, lexer =>
    match readNext.run lexer with
    | .error fault => ⟨lexer.tokens.reverse.take (settled lexer), fault⟩
    | .ok (goesOn, lexer) =>
      if goesOn then readAll fuel lexer else ⟨lexer.tokens.reverse, .document⟩

end Lex

/-- Whether a code point may stand in a YAML text. -/
def isAllowed (c : CodePoint) : Bool :=
  c.val == 0x09 || c.val == 0x0A || c.val == 0x0D || (0x20 ≤ c.val && c.val ≤ 0x7E)
    || c.val == 0x85 || (0xA0 ≤ c.val && c.val ≤ 0xD7FF) || (0xE000 ≤ c.val && c.val ≤ 0xFFFD)
    || 0x10000 ≤ c.val

/-- The tokens of a text. A byte order mark at its start is skipped. -/
def tokens (t : Text) : Tokens :=
  if t.all isAllowed then
    let cursor : Cursor := ⟨t, 0, 0, 0⟩
    let start := if t.head? == some (CodePoint.ofNat 0xFEFF) then cursor.step else cursor
    Lex.readAll (t.length + 2) { cursor := start }
  else ⟨[], .document⟩

end AlarmFeed.Yaml
