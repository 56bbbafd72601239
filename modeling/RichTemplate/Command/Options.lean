import RichTemplate.Log
import RichTemplate.Text.Digit

/-!
# Command-line arguments

An argument is an option, the separator, or an ordinary argument. Options may be shortened as far as
they stay unique, may carry their value behind an equals sign, and may stand anywhere; behind the
separator everything is an ordinary argument. Negative numbers and texts with spaces are ordinary
arguments even though they start with a dash. A separator as the value of an option is dropped, so
that the option is there and has no value.
-/

namespace RichTemplate.Command

/-- Where a template comes from; what should be its text or its path may be missing. -/
inductive TemplateSource where
  | text (s : String)
  | file (path : String)
  | noText
  | noFile
deriving DecidableEq, Repr

def TemplateSource.isFile : TemplateSource → Bool
  | text _ => false
  | noText => false
  | file _ => true
  | noFile => true

inductive OutputFormat where
  | text
  | json
deriving DecidableEq, Repr

/-- What options set. A level may be asked for without being named. -/
structure Settings where
  template : Option TemplateSource
  profile : Option String
  format : OutputFormat
  strict : Bool
  quiet : Bool
  level : Option Level
deriving DecidableEq, Repr

def Settings.initial : Settings :=
  ⟨none, none, .text, false, false, some .warning⟩

def Settings.threshold (s : Settings) : Level :=
  if s.quiet then .error else s.level.getD .warning

inductive Invocation where
  | noCommand
  | render (profile : String) (template : TemplateSource) (settings : Settings)
  | inspect (template : TemplateSource) (settings : Settings)
deriving DecidableEq, Repr

/-- Why no command is run: help was asked for, or the arguments make no sense. -/
inductive Stop where
  | help
  | usage
deriving DecidableEq, Repr

inductive Action where
  | help
  | template
  | templateFile
  | profile
  | format
  | strict
  | quiet
  | logLevel
deriving DecidableEq, Repr

namespace Action

def takesValue : Action → Bool
  | help => false
  | strict => false
  | quiet => false
  | _ => true

end Action

namespace Settings

/-- Sets where the template comes from; it cannot come from two kinds of places. -/
def withTemplate (s : Settings) (source : TemplateSource) : Except Stop Settings :=
  if s.template.any fun t => t.isFile != source.isFile then .error .usage
  else .ok { s with template := some source }

def format? : String → Option OutputFormat
  | "text" => some .text
  | "json" => some .json
  | _ => none

def level? : String → Option Level
  | "debug" => some .debug
  | "info" => some .info
  | "warn" => some .warning
  | "error" => some .error
  | _ => none

def apply (s : Settings) (action : Action) (value : String) : Except Stop Settings :=
  match action with
  | .help => .error .help
  | .template => s.withTemplate (.text value)
  | .templateFile => s.withTemplate (.file value)
  | .profile => .ok { s with profile := some value }
  | .format =>
    match format? value with
    | some f => .ok { s with format := f }
    | none => .error .usage
  | .strict => .ok { s with strict := true }
  | .quiet => .ok { s with quiet := true }
  | .logLevel =>
    match level? value with
    | some l => .ok { s with level := some l }
    | none => .error .usage

def applyEmpty (s : Settings) : Action → Except Stop Settings
  | .template => s.withTemplate .noText
  | .templateFile => s.withTemplate .noFile
  | .profile => .ok { s with profile := none }
  | .format => .ok { s with format := .text }
  | .logLevel => .ok { s with level := none }
  | .help => .ok s
  | .strict => .ok s
  | .quiet => .ok s

end Settings

/-! ## Options and ordinary arguments -/

abbrev OptionTable := List (String × Action)

def commonOptions : OptionTable := [("-h", .help), ("--help", .help)]

def templateOptions : OptionTable :=
  [("--template", .template), ("--template-file", .templateFile)]

def loggingOptions : OptionTable := [("--quiet", .quiet), ("--log-level", .logLevel)]

def renderOptions : OptionTable :=
  commonOptions ++ templateOptions ++ [("--format", .format), ("--strict", .strict)] ++
    loggingOptions

def inspectOptions : OptionTable :=
  commonOptions ++ templateOptions ++ [("--profile", .profile)] ++ loggingOptions

/-- An option that was met: what it does, unless nobody knows it, whether it is written with one
dash, and the value that is written in the same argument. -/
structure Hit where
  action? : Option Action
  oneDash : Bool
  value? : Option (List Char)
deriving DecidableEq, Repr

inductive Argument where
  | ordinary (s : String)
  | separator
  | option (h : Hit)
deriving DecidableEq, Repr

namespace Argument

def isOption : Argument → Bool
  | option _ => true
  | _ => false

def isDigit (c : Char) : Bool := (decimalDigit? c).isSome

/-- Whether a text looks like a negative number. A line feed may follow it. -/
def isNegativeNumber (cs : List Char) : Bool :=
  let body := if cs.getLast? = some '\n' then cs.dropLast else cs
  match body with
  | '-' :: digits =>
    let rest := digits.dropWhile isDigit
    (rest.isEmpty && !digits.isEmpty) ||
      match rest with
      | '.' :: fraction => !fraction.isEmpty && fraction.all isDigit
      | _ => false
  | _ => false

/-- What is written in front of the first equals sign, and what behind it. -/
def splitAtMark (cs : List Char) : List Char × Option (List Char) :=
  match cs.dropWhile (· != '=') with
  | [] => (cs, none)
  | _ :: value => (cs.takeWhile (· != '='), some value)

/-- The options that a shortened one may stand for. -/
def candidates (table : OptionTable) (cs : List Char) : List Hit :=
  match cs with
  | '-' :: '-' :: _ =>
    let (name, value) := splitAtMark cs
    (table.filter fun o => name.isPrefixOf o.1.toList).map fun o =>
      ⟨some o.2, false, value⟩
  | _ =>
    table.filterMap fun o =>
      if o.1.toList = cs.take 2 then some ⟨some o.2, true, some (cs.drop 2)⟩
      else if cs.isPrefixOf o.1.toList then some ⟨some o.2, false, none⟩
      else none

def classify (table : OptionTable) (s : String) : Except Stop Argument :=
  let cs := s.toList
  let oneDash := cs.take 2 != ['-', '-']
  let exact (name : List Char) : Option Action := table.lookup (String.ofList name)
  if cs.head? ≠ some '-' then .ok (.ordinary s)
  else
    match exact cs with
    | some action => .ok (.option ⟨some action, oneDash, none⟩)
    | none =>
      if cs.length = 1 then .ok (.ordinary s)
      else
        let (name, value) := splitAtMark cs
        match value, exact name with
        | some v, some action => .ok (.option ⟨some action, oneDash, some v⟩)
        | _, _ =>
          match candidates table cs with
          | [h] => .ok (.option h)
          | [] =>
            if isNegativeNumber cs || cs.contains ' ' then .ok (.ordinary s)
            else .ok (.option ⟨none, oneDash, none⟩)
          | _ => .error .usage

def classifyAll (table : OptionTable) : List String → Except Stop (List Argument)
  | [] => .ok []
  | s :: rest =>
    if s = "--" then .ok (.separator :: rest.map .ordinary)
    else do
      let first ← classify table s
      let more ← classifyAll table rest
      return first :: more

end Argument

/-! ## Reading arguments -/

/-- A flag with a value in the same argument: one-dash flags may be written together, and the only
one of them asks for help. -/
def bundledFlags (flags : List Char) : Stop :=
  if !flags.isEmpty && flags.all (· == 'h') then .help else .usage

/-- What has been read: the settings, the ordinary argument if one is wanted and there is one, and
whether anything was left over. -/
structure Progress where
  settings : Settings
  wanted : Bool
  ordinary : Option String
  leftover : Bool
deriving DecidableEq, Repr

namespace Progress

def take (p : Progress) (s : String) : Progress :=
  if p.wanted && p.ordinary.isNone then { p with ordinary := some s }
  else { p with leftover := true }

def takeOption (p : Progress) (h : Hit) (value : String) : Except Stop Progress :=
  match h.action?, h.value? with
  | none, _ => .ok { p with leftover := true }
  | some action, some v =>
    if action.takesValue then do
      let value := String.ofList v
      let settings ←
        if value = "--" then p.settings.applyEmpty action else p.settings.apply action value
      return { p with settings := settings }
    else if h.oneDash then .error (bundledFlags v)
    else .error .usage
  | some action, none => do return { p with settings := ← p.settings.apply action value }

def needsNext (h : Hit) : Bool :=
  h.value?.isNone && h.action?.any Action.takesValue

/-- Takes what stands behind the last option, where the separator may stand too. -/
def takeRest (p : Progress) (args : List Argument) : Progress :=
  let rest :=
    if p.wanted && p.ordinary.isNone then
      match args with
      | .separator :: .ordinary s :: rest => (some s, rest)
      | .ordinary s :: .separator :: rest => (some s, rest)
      | .ordinary s :: rest => (some s, rest)
      | _ => (none, args)
    else (p.ordinary, args)
  { p with ordinary := rest.1, leftover := p.leftover || !rest.2.isEmpty }

def takeAll (p : Progress) : List Argument → Except Stop Progress
  | [] => .ok p
  | .option h :: .ordinary s :: rest =>
    if needsNext h then do (← p.takeOption h s).takeAll rest
    else do (← p.takeOption h "").takeAll (.ordinary s :: rest)
  | .option h :: rest =>
    if needsNext h then .error .usage else do (← p.takeOption h "").takeAll rest
  | .ordinary s :: rest =>
    if rest.any Argument.isOption then (p.take s).takeAll rest
    else .ok (p.takeRest (.ordinary s :: rest))
  | .separator :: rest => .ok (p.takeRest (.separator :: rest))

end Progress

def readArguments (table : OptionTable) (wanted : Bool) (args : List String) :
    Except Stop Progress := do
  (⟨.initial, wanted, none, false⟩ : Progress).takeAll (← Argument.classifyAll table args)

def readCommand (name : String) (args : List String) : Except Stop Invocation :=
  if name = "render" then do
    let p ← readArguments renderOptions true args
    match p.ordinary, p.settings.template, p.leftover with
    | some profile, some template, false => return .render profile template p.settings
    | _, _, _ => .error .usage
  else if name = "inspect" then do
    let p ← readArguments inspectOptions false args
    match p.settings.template, p.leftover with
    | some template, false => return .inspect template p.settings
    | _, _ => .error .usage
  else .error .usage

/-- Reads arguments up to the name of the command. Options that nobody knows there are left over,
which is found out only after the command's own arguments have been read. -/
def readMain (leftover : Bool) : List Argument → List String → Except Stop Invocation
  | [], _ => if leftover then .error .usage else .ok .noCommand
  | _, [] => if leftover then .error .usage else .ok .noCommand
  | .ordinary _ :: _, name :: args => do
    let invocation ← readCommand name args
    if leftover then .error .usage else return invocation
  | .separator :: _, _ => .error .usage
  | .option h :: rest, _ :: args => do
    let p ← (⟨.initial, false, none, leftover⟩ : Progress).takeOption h ""
    readMain p.leftover rest args

def Invocation.ofArguments (args : List String) : Except Stop Invocation := do
  readMain false (← Argument.classifyAll commonOptions args) args

end RichTemplate.Command
