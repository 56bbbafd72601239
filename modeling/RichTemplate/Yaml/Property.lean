import RichTemplate.Text.Digit
import RichTemplate.Text.Word
import RichTemplate.Yaml.Cursor
import RichTemplate.Yaml.Token

/-!
# Anchors, tags and directives
-/

namespace RichTemplate.Yaml

def isNameChar (c : Char) : Bool :=
  isWordChar c || c == '-'

def hexDigit? (c : Char) : Option Nat :=
  if c.isDigit then some (c.toNat - '0'.toNat)
  else if 'a' ≤ c ∧ c ≤ 'f' then some (c.toNat - 'a'.toNat + 10)
  else if 'A' ≤ c ∧ c ≤ 'F' then some (c.toNat - 'A'.toNat + 10)
  else none

/-- The number that exactly `count` hexadecimal digits at the front spell. -/
def hexNumber? (count : Nat) (cs : List Char) : Option Nat :=
  let digits := cs.take count
  if digits.length = count then
    digits.foldlM (fun n c => (hexDigit? c).map (n * 16 + ·)) 0
  else none

def hexFault (count : Nat) (cs : List Char) : Error :=
  if (cs.take count).all fun c => (hexDigit? c).isSome then .endsEarly else .malformed

def readAnchorName (c : Cursor) : Except Error (String × Cursor) :=
  let (name, c') := c.takeWhile isNameChar
  if name.isEmpty then .error c'.fault
  else if endsWord c'.first? || isOneOf "?:,]\x7d%@`" c'.first? then
    .ok (String.ofList name, c')
  else .error .malformed

def isUriChar (c : Char) : Bool :=
  c.isAlphanum || isOneOf "-;/?:@&=+$,_.!~*'()[]%" (some c)

def readEscapedBytes : Nat → Cursor → Except Error (List UInt8 × Cursor)
  | 0, c => .ok ([], c)
  | fuel + 1, c =>
    if c.first? == some '%' then
      match hexNumber? 2 (c.rest.drop 1) with
      | some n => do
        let (bytes, c') ← readEscapedBytes fuel (c.skip 3)
        return (n.toUInt8 :: bytes, c')
      | none => .error (hexFault 2 (c.rest.drop 1))
    else .ok ([], c)

/-- Reads pieces of a tag: unescaped runs, and runs of escaped bytes, which must be UTF-8. -/
def readUriPieces : Nat → Cursor → Except Error (List Char × Cursor)
  | 0, c => .ok ([], c)
  | fuel + 1, c =>
    if c.first? == some '%' then do
      let (bytes, c') ← readEscapedBytes c.rest.length c
      match String.fromUTF8? ⟨bytes.toArray⟩ with
      | some s =>
        let (more, c'') ← readUriPieces fuel c'
        return (s.toList ++ more, c'')
      | none => .error .malformed
    else
      let (run, c') := c.takeWhile fun ch => isUriChar ch && ch != '%'
      if run.isEmpty then .ok ([], c)
      else do
        let (more, c'') ← readUriPieces fuel c'
        return (run ++ more, c'')

def readUri (c : Cursor) : Except Error (String × Cursor) := do
  let (text, c') ← readUriPieces (c.rest.length + 1) c
  if c'.rest.length = c.rest.length then .error c.fault
  else return (String.ofList text, c')

/-- Reads a handle: one mark, or a name between two. -/
def readHandle (c : Cursor) : Except Error (String × Cursor) :=
  if c.first? == some '!' then
    let (name, c') := c.next.takeWhile isNameChar
    if c'.first? == some '!' then .ok (String.ofList ('!' :: name ++ ['!']), c'.next)
    else if name.isEmpty && c'.first? == some ' ' then .ok ("!", c')
    else .error c'.fault
  else .error c.fault

/-- Whether a second mark comes before the end of a tag, so that the tag has a named handle. -/
def hasNamedHandle (c : Cursor) : Bool :=
  (c.rest.drop 1).takeWhile (fun ch => !endsField (some ch)) |>.contains '!'

def readTagName (c : Cursor) : Except Error (TagName × Cursor) :=
  if c.ahead? 1 == some '<' then do
    let (suffix, c') ← readUri (c.skip 2)
    if c'.first? == some '>' then return (⟨none, suffix⟩, c'.next) else .error c'.fault
  else if endsWord (c.ahead? 1) then .ok (⟨none, "!"⟩, c.next)
  else if hasNamedHandle c then do
    let (handle, c') ← readHandle c
    let (suffix, c'') ← readUri c'
    return (⟨some handle, suffix⟩, c'')
  else do
    let (suffix, c') ← readUri c.next
    return (⟨some "!", suffix⟩, c')

def readTag (c : Cursor) : Except Error (TagName × Cursor) := do
  let (name, c') ← readTagName c
  if endsField c'.first? then return (name, c') else .error .malformed

def readVersionNumber (c : Cursor) : Except Error (Nat × Cursor) :=
  let (digits, c') := c.takeWhile Char.isDigit
  if digits.isEmpty then .error c.fault
  else if mostDigits < digits.length then .error (.tooManyDigits digits.length)
  else .ok (digits.foldl (fun n d => n * 10 + (d.toNat - '0'.toNat)) 0, c')

def readVersion (c : Cursor) : Except Error (Directive × Cursor) := do
  let (major, c') ← readVersionNumber c.skipSpaces
  if c'.first? == some '.' then
    let (_, c'') ← readVersionNumber c'.next
    if endsField c''.first? then return (.version major, c'') else .error .malformed
  else .error c'.fault

def readTagDirective (c : Cursor) : Except Error (Directive × Cursor) := do
  let (handle, c') ← readHandle c.skipSpaces
  if c'.first? == some ' ' then
    let (leading, c'') ← readUri c'.skipSpaces
    if endsField c''.first? then return (.tag handle leading, c'') else .error .malformed
  else .error c'.fault

/-- Moves past what may follow on a line: spaces, a comment and the break. -/
def skipLineRest (c : Cursor) : Except Error Cursor :=
  let c' := c.skipSpaces.skipComment
  if endsLine c'.first? then .ok c'.skipBreak else .error .malformed

def readDirective (c : Cursor) : Except Error (Directive × Cursor) := do
  let (name, c') := c.next.takeWhile isNameChar
  if name.isEmpty || !endsField c'.first? then .error c'.fault
  else
    let (d, c'') ←
      if name == "YAML".toList then readVersion c'
      else if name == "TAG".toList then readTagDirective c'
      else .ok (.ignored, c'.skipWhile fun ch => !isBreak ch)
    return (d, ← skipLineRest c'')

end RichTemplate.Yaml
