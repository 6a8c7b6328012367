import StorefrontLoad.Disk
import StorefrontLoad.Run.Summary
import StorefrontLoad.Text.Blank

/-!
# Files of run summaries

Each summary is a line of its own and a new one goes to the end. Blank lines hold no summary.
-/

namespace StorefrontLoad.RunSummary

/-- Why a file of summaries cannot be read or extended. -/
inductive FileError
  | disk (fault : Disk.Fault)
  | notText
  | malformed (e : Json.ReadError)

def FileError.message : FileError → String
  | .disk fault => fault.message
  | .notText => "stream did not contain valid UTF-8"
  | .malformed e => e.message

/-- Cuts at every line feed and drops a carriage return before it. A last line without a line feed
counts, an empty one does not. -/
def lines : List UInt8 → List (List UInt8)
  | [] => []
  | 0x0A :: rest => [] :: lines rest
  | 0x0D :: 0x0A :: rest => [] :: lines rest
  | b :: rest =>
    match rest, lines rest with
    | [], _ => [[b]]
    | _, [] => [[b]]
    | _, line :: more => (b :: line) :: more

/-- Reads one line; a blank one holds no summary. -/
def ofLine (line : List UInt8) : Except FileError (Option RunSummary) :=
  match Text.decode? line with
  | none => .error .notText
  | some text =>
    if Text.isBlank text then .ok none
    else match ofText text with
      | .error e => .error (.malformed e)
      | .ok summary => .ok (some summary)

/-- Reads the summaries of a file's content, up to the first line that is none. -/
def ofContent (content : List UInt8) : Except FileError (List RunSummary) :=
  ((lines content).mapM ofLine).map (·.filterMap id)

/-- A summary as it is stored. -/
def line (s : RunSummary) : List UInt8 := Text.encode s.text ++ [0x0A]

def loadAll (path : String) (disk : Disk) : Except FileError (List RunSummary) :=
  match disk.read path with
  | .error fault => .error (.disk fault)
  | .ok content => ofContent content

def appendTo (path : String) (s : RunSummary) (disk : Disk) : Except Disk.Fault Disk :=
  disk.append path s.line

end StorefrontLoad.RunSummary
