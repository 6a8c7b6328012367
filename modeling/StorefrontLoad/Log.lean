/-!
# Log lines
-/

namespace StorefrontLoad

/-- From the gravest to the slightest. -/
inductive Severity
  | error
  | warn
  | info
  | debug
  | trace
  deriving DecidableEq, Repr

namespace Severity

def name : Severity → String
  | error => "ERROR"
  | warn => "WARN"
  | info => "INFO"
  | debug => "DEBUG"
  | trace => "TRACE"

/-- Zero for the gravest. -/
def rank : Severity → Nat
  | error => 0
  | warn => 1
  | info => 2
  | debug => 3
  | trace => 4

end Severity

structure LogLine where
  severity : Severity
  message : String
  deriving DecidableEq, Repr

namespace LogLine

def error (message : String) : LogLine := ⟨.error, message⟩

def warn (message : String) : LogLine := ⟨.warn, message⟩

def info (message : String) : LogLine := ⟨.info, message⟩

def debug (message : String) : LogLine := ⟨.debug, message⟩

def trace (message : String) : LogLine := ⟨.trace, message⟩

/-- Whether the line is shown when the slightest severity shown is the given one. -/
def isShownAt (slightest : Severity) (line : LogLine) : Bool :=
  line.severity.rank ≤ slightest.rank

def text (line : LogLine) : String := line.severity.name ++ " " ++ line.message

end LogLine

end StorefrontLoad
