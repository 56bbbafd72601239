import RichTemplate.Text.Printable

/-!
# Quoted text

The one-line spelling of a text inside messages. Single quotes enclose it, or double quotes where
the text has a single quote and no double one. Backslashes, the enclosing quote, line breaks and
tabs are escaped by a backslash, and every other unprintable character by its code point.
-/

namespace RichTemplate

/-- The lower-case hexadecimal digits of a number, at least `width` of them. -/
def hexDigits (width n : Nat) : List Char :=
  let digits := Nat.toDigits 16 n
  List.replicate (width - digits.length) '0' ++ digits

namespace Quoted

def quote (cs : List Char) : Char :=
  if cs.contains '\'' && !cs.contains '"' then '"' else '\''

/-- The spelling of an unprintable character: two, four or eight digits, whichever fits. -/
def codePoint (n : Nat) : List Char :=
  if n < 0x100 then '\\' :: 'x' :: hexDigits 2 n
  else if n < 0x10000 then '\\' :: 'u' :: hexDigits 4 n
  else '\\' :: 'U' :: hexDigits 8 n

/-- The spelling of one character between quotes `q`. -/
def escape (q c : Char) : List Char :=
  if c == q || c == '\\' then ['\\', c]
  else if c == '\n' then ['\\', 'n']
  else if c == '\r' then ['\\', 'r']
  else if c == '\t' then ['\\', 't']
  else if isPrintable c then [c]
  else codePoint c.toNat

/-- The spelling of one byte between quotes `q`: printable ASCII stands for itself. -/
def escapeByte (q : Char) (b : UInt8) : List Char :=
  let c := Char.ofNat b.toNat
  if b.toNat < 0x7f then escape q c else codePoint b.toNat

end Quoted

def quoted (s : String) : String :=
  let q := Quoted.quote s.toList
  String.ofList (q :: s.toList.flatMap (Quoted.escape q) ++ [q])

/-- The quoted spelling of a byte string, marked by a leading `b`. -/
def quotedBytes (bs : List UInt8) : String :=
  let q := Quoted.quote (bs.map fun b => Char.ofNat b.toNat)
  String.ofList ('b' :: q :: bs.flatMap (Quoted.escapeByte q) ++ [q])

end RichTemplate
