import RichTemplate.Log

/-!
# Diagnostics and reporters

A problem with a template never stops it from being filled: it is reported and left out. A reporter
is a chain of collectors, each of which keeps every diagnostic and hands it on, ended by nothing or
by a logger.
-/

namespace RichTemplate

/-- A problem that leaves markup without a node. -/
inductive Diagnostic where
  | unbound (name : String)
  | wrapperInPlaceholder (name : String)
deriving DecidableEq, Repr

namespace Diagnostic

def message : Diagnostic → String
  | unbound name => "no replacement bound for '" ++ name ++ "'"
  | wrapperInPlaceholder name =>
    "binding '" ++ name ++ "' wraps tag content and cannot fill placeholder \x7b\x7b" ++ name ++
      "\x7d\x7d"

def record (logger : String) (d : Diagnostic) : LogRecord :=
  ⟨logger, .warning, "translate error: " ++ d.message⟩

end Diagnostic

/-- A chain of collectors, outermost first, and the logger at its end, if there is one. -/
structure Reporter where
  collectors : List (List Diagnostic)
  logger : Option String
deriving DecidableEq, Repr

namespace Reporter

/-- The logger that diagnostics go to when nobody else takes them. -/
def defaultLogger : String := "richinterp.interpolation.diagnostics"

/-- The logger above all others, which has no name of its own. -/
def rootLogger : String := "root"

/-- A reporter that only logs; without a name it is the root that logs. -/
def logging (logger : String) : Reporter :=
  ⟨[], some (if logger = "" then rootLogger else logger)⟩

def collecting (next : Reporter) : Reporter :=
  ⟨[] :: next.collectors, next.logger⟩

/-- The end of a chain that goes nowhere. -/
def nowhere : Reporter := ⟨[], none⟩

def report (r : Reporter) (ds : List Diagnostic) : Reporter :=
  { r with collectors := r.collectors.map (· ++ ds) }

def records (r : Reporter) (ds : List Diagnostic) : List LogRecord :=
  match r.logger with
  | some logger => ds.map (Diagnostic.record logger)
  | none => []

/-- Each collector keeps a diagnostic and hands it on to what is next. What comes to the end of the
chain is logged, if there is a logger. -/
def handOn (d : Diagnostic) (logger : Option String) :
    List (List Diagnostic) → List (List Diagnostic) × List LogRecord
  | [] => ([], (logger.map fun name => d.record name).toList)
  | kept :: next =>
    let (next, records) := handOn d logger next
    ((kept ++ [d]) :: next, records)

/-- Takes one diagnostic. -/
def take (r : Reporter) (d : Diagnostic) : Reporter × List LogRecord :=
  let (collectors, records) := handOn d r.logger r.collectors
  ({ r with collectors := collectors }, records)

/-- Empties the outermost collector; a reporter that only logs has none. -/
def clear? (r : Reporter) : Option Reporter :=
  match r.collectors with
  | [] => none
  | _ :: rest => some { r with collectors := [] :: rest }

def count? (r : Reporter) : Option Nat :=
  r.collectors.head?.map List.length

end Reporter

end RichTemplate
