import RichTemplate.Yaml.ScalarText
import RichTemplate.Yaml.Source

/-!
# The tokens of a document

Indentation opens and closes blocks. A colon makes a key of the node in front of it, if that is on
one line and short enough, so the place where a key might start is remembered, and the marks that
open the key are put in there when the colon comes. Where no token can be read, the tokens end
with what is wrong; those from the first place on where a key might still start are not told.
-/

namespace RichTemplate.Yaml

/-- A place where a key may have started. A required key is one that must turn out to be a key,
because nothing else may stand at that indentation. -/
structure PossibleKey where
  position : Nat
  required : Bool
  index : Nat
  line : Nat
  column : Nat

/-- How far a key may reach. -/
def longestKey : Nat := 1024

/-- The tokens read so far, in reverse, and what the next one depends on. -/
structure Tokens where
  cursor : Cursor
  tokens : List Token
  count : Nat
  flowLevel : Nat
  indent : Int
  indents : List Int
  keyAllowed : Bool
  keys : List (Nat × PossibleKey)

namespace Tokens

def ofText (cs : List Char) : Tokens :=
  ⟨Cursor.ofText cs, [], 0, 0, -1, [], true, []⟩

def inFlow (s : Tokens) : Bool := s.flowLevel != 0

def column (s : Tokens) : Int := s.cursor.column

def emit (t : Token) (s : Tokens) : Tokens :=
  { s with tokens := t :: s.tokens, count := s.count + 1 }

def insertAt (position : Nat) (t : Token) (s : Tokens) : Tokens :=
  { s with tokens := s.tokens.insertIdx (s.count - position) t, count := s.count + 1 }

def moveTo (c : Cursor) (s : Tokens) : Tokens :=
  { s with cursor := c }

def emitPast (length : Nat) (t : Token) (s : Tokens) : Tokens :=
  (s.moveTo (s.cursor.skip length)).emit t

/-- Moves past spaces, comments and breaks; outside brackets a key may start on a new line. -/
def skipBlank : Nat → Tokens → Tokens
  | 0, s => s
  | fuel + 1, s =>
    let c := s.cursor.skipSpaces.skipComment
    match c.takeBreak? with
    | some (_, c') =>
      skipBlank fuel { s with cursor := c', keyAllowed := s.keyAllowed || !s.inFlow }
    | none => { s with cursor := c }

/-- Moves to where the next token starts. A byte order mark may open the text. -/
def toNextToken (s : Tokens) : Tokens :=
  let c := s.cursor
  let c' := if c.index = 0 ∧ c.first? = some '\ufeff' then c.next else c
  skipBlank (c'.rest.length + 1) { s with cursor := c' }

def isStale (s : Tokens) (k : PossibleKey) : Bool :=
  k.line != s.cursor.line || longestKey < s.cursor.index - k.index

def dropStaleKeys (s : Tokens) : Except Error Tokens :=
  if s.keys.any fun e => s.isStale e.2 && e.2.required then .error .malformed
  else .ok { s with keys := s.keys.filter fun e => !s.isStale e.2 }

def dropKey (s : Tokens) : Except Error Tokens :=
  if s.keys.any fun e => e.1 == s.flowLevel && e.2.required then .error .malformed
  else .ok { s with keys := s.keys.filter fun e => e.1 != s.flowLevel }

def noteKey (s : Tokens) : Except Error Tokens :=
  if s.keyAllowed then do
    let s' ← s.dropKey
    let key : PossibleKey :=
      ⟨s.count, !s.inFlow && s.indent == s.column, s.cursor.index, s.cursor.line,
        s.cursor.column⟩
    return { s' with keys := (s.flowLevel, key) :: s'.keys }
  else .ok s

def closeBlocks (column : Int) : List Int → Tokens → Tokens
  | [], s => s
  | outer :: rest, s =>
    if column < s.indent then
      closeBlocks column rest ({ s with indent := outer, indents := rest }.emit .blockEnd)
    else s

/-- Closes the blocks that end at a column; brackets know no indentation. -/
def unwindTo (column : Int) (s : Tokens) : Tokens :=
  if s.inFlow then s else closeBlocks column s.indents s

def openBlock (column : Int) (opening : Tokens → Tokens) (s : Tokens) : Tokens :=
  if s.indent < column then
    opening { s with indent := column, indents := s.indent :: s.indents }
  else s

def disallowKey (s : Tokens) : Tokens := { s with keyAllowed := false }

def allowKey (s : Tokens) : Tokens := { s with keyAllowed := true }

/-- Closes all blocks and keys in front of a mark that stands outside of them. -/
def leaveDocument (s : Tokens) : Except Error Tokens := do
  let s' ← (s.unwindTo (-1)).dropKey
  return s'.disallowKey

def readDocumentMark (t : Token) (s : Tokens) : Except Error Tokens := do
  return (← s.leaveDocument).emitPast 3 t

def readDirectiveLine (s : Tokens) : Except Error Tokens := do
  let s' ← s.leaveDocument
  let (d, c) ← readDirective s'.cursor
  return (s'.moveTo c).emit (.directive d)

def openFlow (t : Token) (s : Tokens) : Except Error Tokens := do
  let s' ← s.noteKey
  return { s'.allowKey with flowLevel := s'.flowLevel + 1 }.emitPast 1 t

def closeFlow (t : Token) (s : Tokens) : Except Error Tokens := do
  if s.inFlow then
    let s' ← s.dropKey
    return { s'.disallowKey with flowLevel := s'.flowLevel - 1 }.emitPast 1 t
  else .error .malformed

def readFlowEntry (s : Tokens) : Except Error Tokens := do
  return (← s.allowKey.dropKey).emitPast 1 .flowEntry

def readBlockEntry (s : Tokens) : Except Error Tokens := do
  if s.inFlow then return (← s.allowKey.dropKey).emitPast 1 .blockEntry
  else if s.keyAllowed then
    let s' := s.openBlock s.column (emit .blockSequenceStart)
    return (← s'.allowKey.dropKey).emitPast 1 .blockEntry
  else .error .malformed

/-- Opens a mapping where a key or a value stands by itself. -/
def openMapping (s : Tokens) : Except Error Tokens :=
  if s.inFlow then .ok s
  else if s.keyAllowed then .ok (s.openBlock s.column (emit .blockMappingStart))
  else .error .malformed

def readKey (s : Tokens) : Except Error Tokens := do
  let s' ← s.openMapping
  return (← { s' with keyAllowed := !s'.inFlow }.dropKey).emitPast 1 .key

/-- A colon makes a key of what may have started one; without that, the key is empty. -/
def readValue (s : Tokens) : Except Error Tokens := do
  match s.keys.lookup s.flowLevel with
  | some key =>
    let s1 := { s with keys := s.keys.filter fun e => e.1 != s.flowLevel }
    let s1 := s1.insertAt key.position .key
    let s2 :=
      if s.inFlow then s1
      else s1.openBlock key.column (insertAt key.position .blockMappingStart)
    return s2.disallowKey.emitPast 1 .value
  | none =>
    let s' ← s.openMapping
    return (← { s' with keyAllowed := !s'.inFlow }.dropKey).emitPast 1 .value

/-- Reads a node's part that is one token and may start a key. -/
def readPart (part : Cursor → Except Error (Token × Cursor)) (s : Tokens) :
    Except Error Tokens := do
  let s' ← s.noteKey
  let (t, c) ← part s'.cursor
  return (s'.disallowKey.moveTo c).emit t

def readNamed (token : String → Token) (s : Tokens) : Except Error Tokens :=
  s.readPart fun c => do
    let (name, c') ← readAnchorName c.next
    return (token name, c')

def readTagToken (s : Tokens) : Except Error Tokens :=
  s.readPart fun c => do
    let (name, c') ← readTag c
    return (.tag name, c')

def readQuotedToken (quote : Char) (s : Tokens) : Except Error Tokens :=
  s.readPart fun c => do
    let (text, c') ← readQuoted quote c
    return (.scalar text false, c')

def readBlockToken (folded : Bool) (s : Tokens) : Except Error Tokens := do
  let s' ← s.allowKey.dropKey
  let (text, c) ← readBlockScalar folded s'.indent s'.cursor
  return (s'.moveTo c).emit (.scalar text false)

def readPlainToken (s : Tokens) : Except Error Tokens := do
  let s' ← s.noteKey
  let scalar := readPlain s.inFlow (s.indent + 1) s'.cursor
  let s' := { s' with keyAllowed := scalar.keyAllowed }.moveTo scalar.after
  return s'.emit (.scalar (String.ofList scalar.text) true)

def startsPlain (s : Tokens) : Bool :=
  let first := s.cursor.first?
  let follows := !endsWord (s.cursor.ahead? 1)
  (!endsWord first && !isOneOf "-?:,[]\x7b\x7d#&*!|>'\"%@`" first) ||
    (follows && (first == some '-' || (!s.inFlow && isOneOf "?:" first)))

def readFrom (first : Char) (s : Tokens) : Except Error Tokens :=
  let atStart := s.cursor.column == 0
  let ends := endsWord (s.cursor.ahead? 1)
  if first == '%' && atStart then s.readDirectiveLine
  else if atStart && s.cursor.atMark '-' then s.readDocumentMark .documentStart
  else if atStart && s.cursor.atMark '.' then s.readDocumentMark .documentEnd
  else if first == '[' then s.openFlow .flowSequenceStart
  else if first == '\x7b' then s.openFlow .flowMappingStart
  else if first == ']' then s.closeFlow .flowSequenceEnd
  else if first == '\x7d' then s.closeFlow .flowMappingEnd
  else if first == ',' then s.readFlowEntry
  else if first == '-' && ends then s.readBlockEntry
  else if first == '?' && (s.inFlow || ends) then s.readKey
  else if first == ':' && (s.inFlow || ends) then s.readValue
  else if first == '*' then s.readNamed .alias
  else if first == '&' then s.readNamed .anchor
  else if first == '!' then s.readTagToken
  else if first == '|' && !s.inFlow then s.readBlockToken false
  else if first == '>' && !s.inFlow then s.readBlockToken true
  else if first == '\'' || first == '"' then s.readQuotedToken first
  else if s.startsPlain then s.readPlainToken
  else .error .malformed

/-- How many tokens are certain: no key can be put in front of them any more. -/
def certain (s : Tokens) : Nat :=
  s.keys.foldl (fun n e => min n e.2.position) s.count

/-- The tokens that are certain, and what is wrong behind them. -/
def failed (s : Tokens) (e : Error) : List Token :=
  .invalid e :: s.tokens.drop (s.count - s.certain)

/-- What stops the reading of the text here, if this is its end and something does. -/
def stopHere? (stop : Option Error) (s : Tokens) : Option Error :=
  if s.cursor.rest.isEmpty then stop else none

/-- The error that counts where the text ends early: what stops the reading of it. -/
def stoppedBy (stop : Option Error) : Error → Error
  | .endsEarly => stop.getD .endsEarly
  | e => e

def run (stop : Option Error) : Nat → Tokens → List Token
  | 0, s => s.failed .malformed
  | fuel + 1, s =>
    let start := s.toNextToken
    match start.stopHere? stop, start.dropStaleKeys with
    | some e, _ => s.failed e
    | none, .error e => s.failed e
    | none, .ok start =>
      let start := start.unwindTo start.column
      match start.cursor.first? with
      | none =>
        match start.leaveDocument with
        | .ok last => .streamEnd :: last.tokens
        | .error e => s.failed e
      | some first =>
        match start.readFrom first with
        | .error e => s.failed (stoppedBy stop e)
        | .ok next =>
          match next.stopHere? stop, next.dropStaleKeys with
          | some e, _ => s.failed e
          | none, .error e => s.failed e
          | none, .ok next => run stop fuel next

end Tokens

/-- The tokens of a text. The last one is the end of the text, or says what is wrong. -/
def Token.ofSource (source : Source) : List Token :=
  ((Tokens.ofText source.text).run source.stop (source.text.length + 2)).reverse

end RichTemplate.Yaml
