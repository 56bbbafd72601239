import RichTemplate.Text.Decode
import RichTemplate.Yaml.Cursor
import RichTemplate.Yaml.Error

/-!
# The text of a document

A document is read from its file in blocks of characters, and no further than it is looked at. So a
fault in a later block counts only if the tokens in front of it make sense: the text ends with the
block before, and behind it stands what stops the reading.
-/

namespace RichTemplate.Yaml

/-- The text that can be read, and what stops reading behind it unless it is whole. -/
structure Source where
  text : List Char
  stop : Option Error

namespace Source

def blockLength : Nat := 4096

/-- How many blocks are read before anything is looked at. -/
def firstBlocks : Nat := 2

/-- How many bytes are decoded at once, if that is enough for a block. -/
def chunkSize : Nat := 8192

/-! ## Broken encodings -/

def mayFollow (first second : UInt8) : Bool :=
  if first = 0xe0 then 0xa0 ≤ second && second ≤ 0xbf
  else if first = 0xed then 0x80 ≤ second && second ≤ 0x9f
  else if first = 0xf0 then 0x90 ≤ second && second ≤ 0xbf
  else if first = 0xf4 then 0x80 ≤ second && second ≤ 0x8f
  else 0x80 ≤ second && second ≤ 0xbf

def goesOn (byte : UInt8) : Bool :=
  0x80 ≤ byte && byte ≤ 0xbf

/-- How many bytes at the front could start the encoding of a character, which they do not
finish. -/
def soundStart : List UInt8 → Nat
  | first :: rest =>
    if 0xc2 ≤ first && first ≤ 0xf4 then
      match rest with
      | second :: rest =>
        if mayFollow first second then 2 + (rest.take 1).countP goesOn else 1
      | [] => 1
    else 0
  | [] => 0

/-- The place behind the whole encoded characters that follow a place. -/
def soundLength (bytes : ByteArray) : Nat → Nat → Nat
  | 0, i => i
  | fuel + 1, i =>
    match bytes.utf8DecodeChar? i with
    | some c => soundLength bytes fuel (i + c.utf8Size)
    | none => i

def characterStart (bytes : ByteArray) : Nat → Nat → Nat
  | 0, i => i
  | fuel + 1, i =>
    match bytes[i]? with
    | some byte => if goesOn byte then characterStart bytes fuel (i - 1) else i
    | none => i

def textBefore (bytes : ByteArray) (i : Nat) : List Char :=
  (decodeText? (bytes.extract 0 i)).getD []

/-- How many characters are at hand once so many bytes are decoded, of which the first `sound` are
whole characters. A carriage return at the end waits for what follows it. -/
def countBefore (bytes : ByteArray) (sound i : Nat) : Nat :=
  let i := min sound (characterStart bytes 3 i)
  let waiting := if 0 < i && bytes[i - 1]? == some 0x0d then 1 else 0
  (textBefore bytes i).length - waiting

/-- The bytes and the characters of the chunk that was decoded last. -/
structure Chunk where
  bytes : Nat
  characters : Nat

/-- How many bytes are decoded next for so many characters: as many as the last chunk would have
needed, but a whole chunk at least. -/
def Chunk.next (c : Chunk) (wanted : Nat) : Nat :=
  max chunkSize (c.bytes * wanted / c.characters)

/-- How many characters are at hand when decoding comes to a broken byte; if that is the end of the
file, all of it has been decoded before. -/
def countAtFault (bytes : ByteArray) (sound broken : Nat) : Nat → Chunk → Nat → Nat → Nat
  | 0, _, _, count => count
  | fuel + 1, last, decoded, count =>
    let stop := min bytes.size (decoded + last.next (blockLength - count % blockLength))
    if broken < stop || decoded = bytes.size then count
    else
      let count' := countBefore bytes sound stop
      countAtFault bytes sound broken fuel ⟨stop - decoded, count' - count⟩ stop count'

/-! ## Reading -/

/-- The text up to a block, unless that is one of the first blocks. -/
def upToBlock (text : List Char) (block : Nat) (e : Error) : Except Error Source :=
  if block < firstBlocks then .error e else .ok ⟨text.take (blockLength * block), some e⟩

def ofText (text : List Char) (stop : Option Error) : Except Error Source :=
  match text.findIdx? fun c => !isAllowed c with
  | some i => upToBlock text (i / blockLength) .malformed
  | none => .ok ⟨text, stop⟩

def ofBytes (bytes : ByteArray) : Except Error Source :=
  match decodeText? bytes with
  | some text => ofText text none
  | none => do
    let sound := soundLength bytes bytes.size 0
    let broken := sound + soundStart (bytes.extract sound (sound + 3)).toList
    let count := countAtFault bytes sound broken bytes.size ⟨0, 0⟩ 0 0
    let source ← upToBlock (textBefore bytes sound) (count / blockLength) .notUtf8
    ofText source.text source.stop

end Source

end RichTemplate.Yaml
