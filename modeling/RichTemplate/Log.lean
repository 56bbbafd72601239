/-!
# Log records
-/

namespace RichTemplate

inductive Level where
  | debug
  | info
  | warning
  | error
deriving DecidableEq, Repr

namespace Level

def name : Level → String
  | debug => "DEBUG"
  | info => "INFO"
  | warning => "WARNING"
  | error => "ERROR"

def rank : Level → Nat
  | debug => 10
  | info => 20
  | warning => 30
  | error => 40

end Level

structure LogRecord where
  logger : String
  level : Level
  message : String
deriving DecidableEq, Repr

namespace LogRecord

def line (r : LogRecord) : String :=
  r.logger ++ " - " ++ r.level.name ++ " - " ++ r.message

def atLeast (threshold : Level) (records : List LogRecord) : List LogRecord :=
  records.filter fun r => threshold.rank ≤ r.level.rank

end LogRecord

end RichTemplate
