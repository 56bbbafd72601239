import RichTemplate.Text.Word
import RichTemplate.Yaml.Cursor

/-!
# What plain scalars stand for

The first character of a plain scalar selects the kinds it may be, in a fixed order, and the first
kind whose form it has is its kind; a scalar of no such form is a text. Profiles keep the words
`on`, `off`, `yes` and `no` as texts, because they are also names: of the words for truth values
only those that start like `true` and `false` count.
-/

namespace RichTemplate.Yaml

inductive Kind where
  | bool
  | float
  | int
  | merge
  | null
  | timestamp
  | value
  /-- A mark of the language itself, for which no value stands. -/
  | mark
deriving DecidableEq, Repr

/-! ## Forms -/

namespace Form

def afterSign : List Char → List Char
  | '-' :: cs => cs
  | '+' :: cs => cs
  | cs => cs

def isDigitOr (c : Char) : Bool := c.isDigit || c == '_'

def isDigits : List Char → Bool
  | [] => false
  | c :: cs => c.isDigit && cs.all isDigitOr

def isSixtieth : List Char → Bool
  | [a] => a.isDigit
  | [a, b] => a.isDigit && a.toNat < '6'.toNat && b.isDigit
  | _ => false

def colonParts (cs : List Char) : List (List Char) :=
  match cs with
  | [] => [[]]
  | ':' :: rest => [] :: colonParts rest
  | c :: rest =>
    match colonParts rest with
    | [] => [[c]]
    | part :: parts => (c :: part) :: parts

def isBool (cs : List Char) : Bool :=
  ["yes", "Yes", "YES", "no", "No", "NO", "true", "True", "TRUE", "false", "False", "FALSE",
    "on", "On", "ON", "off", "Off", "OFF"].contains (String.ofList cs)

/-- An exponent, which must have a sign; none at all is fine. -/
def isExponent : List Char → Bool
  | [] => true
  | 'e' :: s :: d :: ds => (s == '-' || s == '+') && (d :: ds).all Char.isDigit
  | 'E' :: s :: d :: ds => (s == '-' || s == '+') && (d :: ds).all Char.isDigit
  | _ => false

/-- Digits and a point, more of both kinds of mark, and an exponent. -/
def isPointed (cs : List Char) : Bool :=
  match cs with
  | [] => false
  | c :: rest =>
    c.isDigit &&
      match rest.dropWhile isDigitOr with
      | '.' :: fraction => isExponent (fraction.dropWhile isDigitOr)
      | _ => false

def isFraction : List Char → Bool
  | '.' :: d :: rest => d.isDigit && isExponent (rest.dropWhile isDigitOr)
  | _ => false

/-- Groups of sixty between colons, the last with a point. -/
def isSexagesimalPointed (cs : List Char) : Bool :=
  let whole := cs.takeWhile (· != '.')
  match cs.dropWhile (· != '.') with
  | '.' :: fraction =>
    match colonParts whole with
    | first :: second :: more =>
      isDigits first && (second :: more).all isSixtieth && fraction.all isDigitOr
    | _ => false
  | _ => false

def isFloat (cs : List Char) : Bool :=
  isPointed (afterSign cs) || isFraction cs || isSexagesimalPointed (afterSign cs) ||
    [".inf", ".Inf", ".INF"].contains (String.ofList (afterSign cs)) ||
    [".nan", ".NaN", ".NAN"].contains (String.ofList cs)

/-- A decimal number that does not start with a zero, unless it is zero. -/
def isDecimal : List Char → Bool
  | ['0'] => true
  | c :: cs => c.isDigit && c != '0' && cs.all isDigitOr
  | [] => false

def isSexagesimal (cs : List Char) : Bool :=
  match colonParts cs with
  | first :: second :: more =>
    isDecimal first && first.head? != some '0' && (second :: more).all isSixtieth
  | _ => false

/-- Digits of a base behind its mark; there is at least one. -/
def isBased (cs : List Char) : Bool :=
  match cs with
  | '0' :: 'b' :: d :: ds => (d :: ds).all fun c => c == '0' || c == '1' || c == '_'
  | '0' :: 'x' :: d :: ds =>
    (d :: ds).all fun c => isDigitOr c || ('a' ≤ c && c ≤ 'f') || ('A' ≤ c && c ≤ 'F')
  | _ => false

def isOctal : List Char → Bool
  | '0' :: d :: ds => (d :: ds).all fun c => ('0' ≤ c && c ≤ '7') || c == '_'
  | _ => false

def isInt (cs : List Char) : Bool :=
  let digits := afterSign cs
  isBased digits || isOctal digits || isDecimal digits || isSexagesimal digits

def isMerge (cs : List Char) : Bool := cs == ['<', '<']

def isValue (cs : List Char) : Bool := cs == ['=']

def isMark (cs : List Char) : Bool := cs == ['!'] || cs == ['&'] || cs == ['*']

def isNull (cs : List Char) : Bool :=
  ["~", "null", "Null", "NULL", ""].contains (String.ofList cs)

end Form

/-! ## Timestamps -/

structure ClockText where
  hour : List Char
  minute : List Char
  second : List Char
  fraction : List Char
  /-- Nothing, universal time, or an offset with its sign, hours and minutes. -/
  zone : Option (Option (Char × List Char × List Char))

structure TimestampText where
  year : List Char
  month : List Char
  day : List Char
  clock : Option ClockText

namespace TimestampText

def digits? (count : Nat) (cs : List Char) : Option (List Char × List Char) :=
  let front := cs.take count
  if front.length = count && front.all Char.isDigit then some (front, cs.drop count) else none

def upToTwo? (cs : List Char) : Option (List Char × List Char) :=
  (digits? 2 cs).orElse fun _ => digits? 1 cs

def past? (mark : Char) : List Char → Option (List Char)
  | c :: cs => if c == mark then some cs else none
  | [] => none

def isPadding (c : Char) : Bool := c == ' ' || c == '\t'

def zone? (cs : List Char) : Option (Option (Option (Char × List Char × List Char))) :=
  match cs with
  | [] => some none
  | _ =>
    match cs.dropWhile isPadding with
    | ['Z'] => some (some none)
    | sign :: rest => do
      guard (sign == '-' || sign == '+')
      let (hours, rest) ← upToTwo? rest
      if rest.isEmpty then return some (some (sign, hours, []))
      else
        let (minutes, rest) ← digits? 2 (← past? ':' rest)
        guard rest.isEmpty
        return some (some (sign, hours, minutes))
    | [] => none

def clock? (cs : List Char) : Option ClockText := do
  let (hour, rest) ← upToTwo? cs
  let (minute, rest) ← digits? 2 (← past? ':' rest)
  let (second, rest) ← digits? 2 (← past? ':' rest)
  let (fraction, rest) :=
    match rest with
    | '.' :: rest => rest.span Char.isDigit
    | _ => ([], rest)
  return ⟨hour, minute, second, fraction, ← zone? rest⟩

/-- What parts a time from its day: a letter, or spaces and tabs. -/
def pastGap? (cs : List Char) : Option (List Char) :=
  match cs with
  | 'T' :: rest => some rest
  | 't' :: rest => some rest
  | c :: rest => if isPadding c then some (rest.dropWhile isPadding) else none
  | [] => none

/-- The parts of a day, with the time of the day if there is one. -/
def ofText? (cs : List Char) : Option TimestampText := do
  let (year, rest) ← digits? 4 cs
  let (month, rest) ← upToTwo? (← past? '-' rest)
  let (day, rest) ← upToTwo? (← past? '-' rest)
  if rest.isEmpty then return ⟨year, month, day, none⟩
  else return ⟨year, month, day, some (← clock? (← pastGap? rest))⟩

/-- Whether a plain scalar is a timestamp. A day alone must be written in full. -/
def isPlain (cs : List Char) : Bool :=
  match ofText? cs with
  | some t => t.clock.isSome || (t.month.length == 2 && t.day.length == 2)
  | none => false

end TimestampText

/-! ## The tables -/

/-- A kind, the first characters that select it, and its form. -/
structure Resolver where
  kind : Kind
  firsts : List Char
  fits : List Char → Bool

/-- The kinds in the order in which they are tried. A null may also be the empty scalar. -/
def standardResolvers : List Resolver :=
  [⟨.bool, "yYnNtTfFoO".toList, Form.isBool⟩,
    ⟨.float, "-+0123456789.".toList, Form.isFloat⟩,
    ⟨.int, "-+0123456789".toList, Form.isInt⟩,
    ⟨.merge, "<".toList, Form.isMerge⟩,
    ⟨.null, "~nN".toList, Form.isNull⟩,
    ⟨.timestamp, "0123456789".toList, TimestampText.isPlain⟩,
    ⟨.value, "=".toList, Form.isValue⟩,
    ⟨.mark, "!&*".toList, Form.isMark⟩]

/-- The table of profiles: a truth value starts like `true` or `false`. -/
def profileResolvers : List Resolver :=
  standardResolvers.map fun r =>
    if r.kind = .bool then { r with firsts := r.firsts.filter "tTfF".toList.contains } else r

/-- The text without the line feed at its end; the forms do not look at it. -/
def withoutFinalBreak (cs : List Char) : List Char :=
  if cs.getLast? = some '\n' then cs.dropLast else cs

/-- The kind of a plain scalar by a table; a text has none. -/
def resolve (table : List Resolver) (cs : List Char) : Option Kind :=
  match cs with
  | [] => if table.any fun r => r.kind = .null then some .null else none
  | c :: _ =>
    (table.find? fun r => r.firsts.contains c && (r.fits cs || r.fits (withoutFinalBreak cs))).map
      (·.kind)

end RichTemplate.Yaml
