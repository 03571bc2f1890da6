import JobControl.Text.UpperCase

/-!
# Severities

How much a message matters, from the least to the most.
-/

namespace JobControl

/-- How much a message matters. -/
inductive Severity
  | trace
  | debug
  | info
  | warn
  | error
  deriving DecidableEq, Repr, Inhabited

namespace Severity

/-- All severities, the least first. -/
def all : List Severity := [trace, debug, info, warn, error]

/-- The name in settings. -/
def name : Severity → String
  | trace => "trace"
  | debug => "debug"
  | info => "info"
  | warn => "warn"
  | error => "error"

/-- The name in listings. -/
def title : Severity → String
  | trace => "TRACE"
  | debug => "DEBUG"
  | info => "INFO"
  | warn => "WARN"
  | error => "ERROR"

/-- The name in records. -/
def label : Severity → String
  | trace => "Trace"
  | debug => "Debug"
  | info => "Info"
  | warn => "Warn"
  | error => "Error"

def rank : Severity → Nat
  | trace => 0
  | debug => 1
  | info => 2
  | warn => 3
  | error => 4

/-- The severity that a setting names, in letters of either case. -/
def ofText? (text : String) : Option Severity :=
  let lower := Text.asciiLowerCase text
  if lower == "warning" then some warn else all.find? fun s => s.name == lower

end Severity

end JobControl
