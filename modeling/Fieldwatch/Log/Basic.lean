/-!
# Log records

What the service tells of its own running. A record has a level, a target that says which part of
the service it is about, and a message.
-/
namespace Fieldwatch.Log

/-- How grave a record is, the gravest first. -/
inductive Level
  | error
  | warn
  | info
  | debug
  | trace
  deriving DecidableEq, Repr

namespace Level

def all : List Level := [error, warn, info, debug, trace]

def name : Level → String
  | error => "ERROR"
  | warn => "WARN"
  | info => "INFO"
  | debug => "DEBUG"
  | trace => "TRACE"

/-- The place of a level, the gravest being first. -/
def rank : Level → Nat
  | error => 1
  | warn => 2
  | info => 3
  | debug => 4
  | trace => 5

end Level

structure Record where
  level : Level
  /-- The part of the service that it is about. -/
  target : String
  message : String
  deriving DecidableEq, Repr

def Record.text (record : Record) : String :=
  record.level.name ++ " " ++ record.target ++ ": " ++ record.message

end Fieldwatch.Log
