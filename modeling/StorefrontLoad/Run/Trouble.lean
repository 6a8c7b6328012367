/-!
# Errors with their causes

What went wrong in a run is told as a chain of messages, from the outermost to the one that started
it. A trouble that began as a bail-out stays one, whatever context is put around it.
-/

namespace StorefrontLoad

structure Trouble where
  message : String
  causes : List String
  isBail : Bool
  deriving DecidableEq, Repr

namespace Trouble

def ofMessage (message : String) : Trouble := ⟨message, [], false⟩

/-- An agent that asks to be taken out of the run. -/
def bail (message : String) : Trouble := ⟨message, [], true⟩

def defaultBail : Trouble := bail "Agent is bailing"

def context (outer : String) (t : Trouble) : Trouble :=
  ⟨outer, t.message :: t.causes, t.isBail⟩

def chain (t : Trouble) : List String := t.message :: t.causes

/-- Indents the lines of a cause after its first one. -/
def indented (indent : String) (text : String) : List Char :=
  text.toList.flatMap fun c ↦ if c = '\n' then '\n' :: indent.toList else [c]

/-- A position right-aligned in five columns. -/
def numbered (n : Nat) (text : String) : List Char :=
  let digits := Nat.toDigits 10 n
  List.replicate (5 - digits.length) ' ' ++ digits ++ [':', ' '] ++ indented "       " text

def causeLines : List String → List (List Char)
  | [] => []
  | [cause] => ["    ".toList ++ indented "    " cause]
  | causes => causes.mapIdx numbered

/-- The whole chain; several causes are numbered. -/
def report (t : Trouble) : String :=
  match t.causes with
  | [] => t.message
  | causes =>
    t.message ++ "\n\nCaused by:" ++
      String.ofList ((causeLines causes).flatMap ('\n' :: ·))

end Trouble

end StorefrontLoad
