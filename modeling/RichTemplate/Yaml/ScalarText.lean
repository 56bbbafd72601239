import RichTemplate.Yaml.Property

/-!
# The text of scalars

Plain, quoted and block scalars, with their lines folded. One break between lines becomes a space
and further breaks are kept; what a line starts and ends with is left out.
-/

namespace RichTemplate.Yaml

def foldBreaks (first : Char) (more : List Char) : List Char :=
  if first != '\n' then first :: more
  else if more.isEmpty then [' ']
  else more

/-! ## Plain scalars -/

/-- Whether a plain scalar stops here: at the end of a word, at a colon that ends a key, and inside
brackets at their marks. -/
def stopsPlain (inFlow : Bool) : List Char → Bool
  | [] => true
  | c :: cs =>
    endsWord (some c) ||
      (c == ':' && (endsWord cs.head? || (inFlow && isOneOf ",[]\x7b\x7d" cs.head?))) ||
      (inFlow && isOneOf ",?[]\x7b\x7d" (some c))

def plainRun (inFlow : Bool) : List Char → List Char
  | [] => []
  | c :: cs => if stopsPlain inFlow (c :: cs) then [] else c :: plainRun inFlow cs

/-- The breaks between two lines of a plain scalar, unless a document mark comes first. -/
def plainBreaks : Nat → Cursor → Option (List Char) × Cursor
  | 0, c => (some [], c)
  | fuel + 1, c =>
    if c.first? == some ' ' then plainBreaks fuel c.next
    else
      match c.takeBreak? with
      | some (b, c') =>
        if c'.atDocumentMark then (none, c')
        else
          let (more, c'') := plainBreaks fuel c'
          (more.map (b :: ·), c'')
      | none => (some [], c)

structure PlainGap where
  /-- What the gap folds into; nothing ends the scalar. -/
  fill : List Char
  /-- Whether a line ended in the gap. -/
  newLine : Bool
  after : Cursor

def plainGap (c : Cursor) : PlainGap :=
  let (spaces, c') := c.takeWhile (· == ' ')
  match c'.takeBreak? with
  | some (b, c'') =>
    if c''.atDocumentMark then ⟨[], true, c''⟩
    else
      match plainBreaks (c''.rest.length + 1) c'' with
      | (some more, after) => ⟨foldBreaks b more, true, after⟩
      | (none, after) => ⟨[], true, after⟩
  | none => ⟨spaces, false, c'⟩

/-- A plain scalar: its text, whether a key may start behind it, and the place behind it. -/
structure PlainScalar where
  text : List Char
  keyAllowed : Bool
  after : Cursor

/-- Reads the rest of a plain scalar behind a gap. Outside brackets its lines must be indented. -/
def plainParts (inFlow : Bool) (indent : Int) : Nat → List Char → Bool → Cursor → PlainScalar
  | 0, _, keyAllowed, c => ⟨[], keyAllowed, c⟩
  | fuel + 1, gap, keyAllowed, c =>
    let run := if c.first? == some '#' then [] else plainRun inFlow c.rest
    if run.isEmpty then ⟨[], keyAllowed, c⟩
    else
      let next := plainGap (c.skip run.length)
      let ended := next.fill.isEmpty || next.after.first? == some '#' ||
        (!inFlow && (next.after.column : Int) < indent)
      if ended then ⟨gap ++ run, next.newLine, next.after⟩
      else
        let more := plainParts inFlow indent fuel next.fill next.newLine next.after
        ⟨gap ++ run ++ more.text, more.keyAllowed, more.after⟩

def readPlain (inFlow : Bool) (indent : Int) (c : Cursor) : PlainScalar :=
  plainParts inFlow indent (c.rest.length + 1) [] false c

/-! ## Quoted scalars -/

def namedEscapes : List (Char × Char) :=
  [('0', '\x00'), ('a', '\x07'), ('b', '\x08'), ('t', '\t'), ('\t', '\t'), ('n', '\n'),
    ('v', '\x0b'), ('f', '\x0c'), ('r', '\r'), ('e', '\x1b'), (' ', ' '), ('"', '"'), ('\\', '\\'),
    ('/', '/'), ('N', '\x85'), ('_', '\xa0'), ('L', '\u2028'), ('P', '\u2029')]

/-- How many digits follow a backslash and a letter that introduce a code point. -/
def codePointEscapes : List (Char × Nat) :=
  [('x', 2), ('u', 4), ('U', 8)]

/-- The breaks between two lines of a quoted scalar. A document mark must not come between. -/
def quotedBreaks : Nat → Cursor → Except Error (List Char × Cursor)
  | 0, c => .ok ([], c)
  | fuel + 1, c =>
    if c.atDocumentMark then .error .malformed
    else
      let c' := c.skipWhile fun ch => ch == ' ' || ch == '\t'
      match c'.takeBreak? with
      | some (b, c'') => do
        let (more, after) ← quotedBreaks fuel c''
        return (b :: more, after)
      | none => .ok ([], c')

def readEscape (c : Cursor) : Except Error (List Char × Cursor) :=
  match c.first? with
  | none => .error c.fault
  | some ch =>
    match namedEscapes.lookup ch with
    | some meant => .ok ([meant], c.next)
    | none =>
      match codePointEscapes.lookup ch with
      | some count =>
        match hexNumber? count c.next.rest with
        | some code =>
          if code < 0x110000 then .ok ([Char.ofNat code], c.skip (count + 1))
          else .error (.codePointOutOfRange code)
        | none => .error (hexFault count c.next.rest)
      | none =>
        if isBreak ch then quotedBreaks (c.rest.length + 1) c.skipBreak else .error .malformed

def endsQuotedRun (c : Char) : Bool :=
  c == '\'' || c == '"' || c == '\\' || endsWord (some c)

def quotedParts (quote : Char) : Nat → Cursor → Except Error (List Char × Cursor)
  | 0, _ => .error .malformed
  | fuel + 1, c =>
    let followedBy (text : List Char) (c' : Cursor) : Except Error (List Char × Cursor) := do
      let (more, after) ← quotedParts quote fuel c'
      return (text ++ more, after)
    match c.first? with
    | none => .error c.fault
    | some ch =>
      if ch == quote then
        if quote == '\'' && c.ahead? 1 == some '\'' then followedBy ['\''] (c.skip 2)
        else .ok ([], c.next)
      else if ch == ' ' || ch == '\t' then
        let (spaces, c') := c.takeWhile fun ch => ch == ' ' || ch == '\t'
        match c'.first? with
        | none => .error c'.fault
        | some next => if isBreak next then followedBy [] c' else followedBy spaces c'
      else if isBreak ch then
        match c.takeBreak? with
        | some (b, c') => do
          let (more, after) ← quotedBreaks (c'.rest.length + 1) c'
          followedBy (foldBreaks b more) after
        | none => .error .malformed
      else if quote == '"' && ch == '\\' then do
        let (text, after) ← readEscape c.next
        followedBy text after
      else if endsQuotedRun ch then followedBy [ch] c.next
      else
        let (run, c') := c.takeWhile fun ch => !endsQuotedRun ch
        followedBy run c'

def readQuoted (quote : Char) (c : Cursor) : Except Error (String × Cursor) := do
  let (text, after) ← quotedParts quote (c.rest.length + 1) c.next
  return (String.ofList text, after)

/-! ## Block scalars -/

inductive Chomping where
  | clip
  | strip
  | keep
deriving DecidableEq, Repr

structure BlockHeader where
  chomping : Chomping
  increment : Option Nat

def chomping? : Option Char → Option Chomping
  | some '+' => some .keep
  | some '-' => some .strip
  | _ => none

def increment? : Option Char → Except Error (Option Nat)
  | some c =>
    if c == '0' then .error .malformed
    else if c.isDigit then .ok (some (c.toNat - '0'.toNat))
    else .ok none
  | none => .ok none

/-- Reads the marks behind the one that starts a block scalar, in either order. -/
def readBlockHeader (c : Cursor) : Except Error (BlockHeader × Cursor) := do
  let (header, c') ←
    match chomping? c.first? with
    | some chomping => do
      match ← increment? c.next.first? with
      | some n => pure (⟨chomping, some n⟩, c.skip 2)
      | none => pure (⟨chomping, none⟩, c.next)
    | none => do
      match ← increment? c.first? with
      | some n =>
        match chomping? c.next.first? with
        | some chomping => pure (⟨chomping, some n⟩, c.skip 2)
        | none => pure (⟨.clip, some n⟩, c.next)
      | none => pure ((⟨.clip, none⟩, c) : BlockHeader × Cursor)
  if endsField c'.first? then return (header, c') else .error .malformed

/-- The breaks before the first line of a block scalar, and the greatest indentation seen. -/
def blockLead : Nat → Nat → Cursor → List Char × Nat × Cursor
  | 0, deepest, c => ([], deepest, c)
  | fuel + 1, deepest, c =>
    if c.first? == some ' ' then
      blockLead fuel (max deepest c.next.column) c.next
    else
      match c.takeBreak? with
      | some (b, c') =>
        let (more, rest) := blockLead fuel deepest c'
        (b :: more, rest)
      | none => ([], deepest, c)

def skipIndent (indent : Nat) (c : Cursor) : Cursor :=
  c.skip (min (indent - c.column) (c.rest.takeWhile (· == ' ')).length)

/-- The breaks of empty lines, and the place where the next line's text starts. -/
def blockBreaks (indent : Nat) : Nat → Cursor → List Char × Cursor
  | 0, c => ([], c)
  | fuel + 1, c =>
    let c' := skipIndent indent c
    match c'.takeBreak? with
    | some (b, c'') =>
      let (more, after) := blockBreaks indent fuel c''
      (b :: more, after)
    | none => ([], c')

/-- The lines of a block scalar, the breaks before the first of them given. At the end, the last
break and the empty lines are kept as the chomping says. -/
def blockLines (folded : Bool) (chomping : Chomping) (indent : Nat) :
    Nat → List Char → Cursor → List Char × Cursor
  | 0, _, c => ([], c)
  | fuel + 1, breaks, c =>
    let startsWithText := !isOneOf " \t" c.first?
    let (line, c') := c.takeWhile fun ch => !isBreak ch
    let (lineBreak, c'') :=
      match c'.takeBreak? with
      | some (b, c'') => ([b], c'')
      | none => ([], c')
    let (more, after) := blockBreaks indent (c''.rest.length + 1) c''
    if after.column == indent && after.first?.isSome then
      let joint :=
        if folded && lineBreak == ['\n'] && startsWithText && !isOneOf " \t" after.first? then
          (if more.isEmpty then [' '] else [])
        else lineBreak
      let (rest, last) := blockLines folded chomping indent fuel more after
      (breaks ++ line ++ joint ++ rest, last)
    else
      let ending :=
        match chomping with
        | .strip => []
        | .clip => lineBreak
        | .keep => lineBreak ++ more
      (breaks ++ line ++ ending, after)

def readBlockScalar (folded : Bool) (parent : Int) (c : Cursor) :
    Except Error (String × Cursor) := do
  let (header, c') ← readBlockHeader c.next
  let start ← skipLineRest c'
  let least := (max (parent + 1) 1).toNat
  let (breaks, indent, first) :=
    match header.increment with
    | some n =>
      let indent := least + n - 1
      let (breaks, first) := blockBreaks indent (start.rest.length + 1) start
      (breaks, indent, first)
    | none =>
      let (breaks, deepest, first) := blockLead (start.rest.length + 1) 0 start
      (breaks, max least deepest, first)
  if first.column == indent && first.first?.isSome then
    let fuel := first.rest.length + 1
    let (text, after) := blockLines folded header.chomping indent fuel breaks first
    return (String.ofList text, after)
  else
    let kept := if header.chomping = .keep then breaks else []
    return (String.ofList kept, first)

end RichTemplate.Yaml
