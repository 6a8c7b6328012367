/-!
# The command line

Options are read from left to right. A value is checked only when the next option starts or the line
ends, so an unknown option right behind a bad value is reported first.
-/

namespace StorefrontLoad

inductive Reporter
  | inMemory
  | noop
  deriving DecidableEq, Repr

namespace CommandLine

inductive ErrorKind
  | unknownArgument
  | argumentConflict
  | missingRequiredArgument
  | valueValidation
  | invalidValue
  | tooManyValues
  | displayHelp
  deriving DecidableEq, Repr

def ErrorKind.message : ErrorKind → String
  | .unknownArgument => "unexpected argument"
  | .argumentConflict => "an argument cannot be used together with another one or a second time"
  | .missingRequiredArgument => "a required argument is missing"
  | .valueValidation => "a value cannot be read"
  | .invalidValue => "a value is missing or not one of the possible ones"
  | .tooManyValues => "a value was given to an argument that takes none"
  | .displayHelp => "help was asked for"

inductive Opt
  | targetUrl
  | channel
  | concurrency
  | iterations
  | duration
  | maxDuration
  | thinkTimeMs
  | requestTimeout
  | seed
  | noProgress
  | reporter
  | runId
  | summaryFile
  | help
  deriving DecidableEq, Repr

namespace Opt

def all : List Opt :=
  [targetUrl, channel, concurrency, iterations, duration, maxDuration, thinkTimeMs, requestTimeout,
    seed, noProgress, reporter, runId, summaryFile, help]

def long : Opt → String
  | targetUrl => "target-url"
  | channel => "channel"
  | concurrency => "concurrency"
  | iterations => "iterations"
  | duration => "duration"
  | maxDuration => "max-duration"
  | thinkTimeMs => "think-time-ms"
  | requestTimeout => "request-timeout"
  | seed => "seed"
  | noProgress => "no-progress"
  | reporter => "reporter"
  | runId => "run-id"
  | summaryFile => "summary-file"
  | help => "help"

def short? : Opt → Option Char
  | targetUrl => some 't'
  | concurrency => some 'c'
  | runId => some 'r'
  | help => some 'h'
  | _ => none

def ofLong? (name : String) : Option Opt := all.find? (·.long = name)

def ofShort? (letter : Char) : Option Opt := all.find? (·.short? = some letter)

def takesValue : Opt → Bool
  | noProgress | help => false
  | _ => true

/-- How the option is written. -/
def usage (opt : Opt) : String :=
  let short := match opt.short? with
    | some letter => s!"-{letter}, "
    | none => "    "
  s!"  {short}--{opt.long}" ++ if opt.takesValue then " <VALUE>\n" else "\n"

end Opt

def usage : String := "Options:\n" ++ String.join (Opt.all.map Opt.usage)

/-- A number of at most 64 bits in decimal digits, with an optional plus sign. -/
def number? (text : String) : Option UInt64 :=
  let digits := match text.toList with
    | '+' :: rest => rest
    | rest => rest
  if digits ≠ [] ∧ digits.all Char.isDigit then
    let n := digits.foldl (fun n c ↦ n * 10 + (c.toNat - '0'.toNat)) 0
    if n < UInt64.size then some n.toUInt64 else none
  else none

def reporter? : String → Option Reporter
  | "in-memory" => some .inMemory
  | "noop" => some .noop
  | _ => none

/-- What the options say; those without a default may be absent. -/
structure Arguments where
  targetUrl : String
  channel : String
  concurrency : Option UInt64
  iterations : Option UInt64
  duration : Option UInt64
  maxDuration : UInt64
  thinkTimeMs : UInt64
  requestTimeout : UInt64
  seed : Option UInt64
  noProgress : Bool
  reporter : Reporter
  runId : Option String
  summaryFile : Option String
  deriving DecidableEq, Repr

/-! ## Reading the arguments -/

def checkValue (opt : Opt) (value : String) : Except ErrorKind Unit :=
  match opt with
  | .concurrency | .iterations | .duration | .maxDuration | .thinkTimeMs | .requestTimeout
  | .seed => if (number? value).isSome then .ok () else .error .valueValidation
  | .reporter => if (reporter? value).isSome then .ok () else .error .invalidValue
  | .summaryFile => if value.isEmpty then .error .invalidValue else .ok ()
  | _ => .ok ()

/-- What has been read so far. -/
structure State where
  given : List (Opt × String)
  /-- An option whose value, if it has come yet, is still to be checked. -/
  pending : Option (Opt × Option String)

namespace State

def empty : State := ⟨[], none⟩

def isGiven (s : State) (opt : Opt) : Bool := s.given.any (·.1 = opt)

/-- An option may be given only once. -/
def commit (s : State) (opt : Opt) (value : String) : Except ErrorKind State :=
  if s.isGiven opt then .error .argumentConflict
  else do
    checkValue opt value
    .ok { s with given := s.given ++ [(opt, value)] }

/-- Checks the option that waits. -/
def settle (s : State) : Except ErrorKind State :=
  match s.pending with
  | none => .ok s
  | some (_, none) => .error .invalidValue
  | some (opt, some value) => commit { s with pending := none } opt value

/-- Starts an option that takes a value, which may be attached to it. -/
def startOption (s : State) (opt : Opt) (attached : Option String) : Except ErrorKind State := do
  let s ← s.settle
  match attached with
  | some value => s.commit opt value
  | none => .ok { s with pending := some (opt, none) }

def startFlag (s : State) (opt : Opt) : Except ErrorKind State := do
  let s ← s.settle
  if opt = .help then .error .displayHelp else s.commit opt "true"

end State

/-- Reads an argument that starts with two hyphens. -/
def readLong (s : State) (body : List Char) : Except ErrorKind State :=
  let name := String.ofList (body.takeWhile (· ≠ '='))
  let attached := match body.dropWhile (· ≠ '=') with
    | _ :: value => some (String.ofList value)
    | [] => none
  match Opt.ofLong? name with
  | none => .error .unknownArgument
  | some opt =>
    if opt.takesValue then s.startOption opt attached
    else if attached.isSome then .error .tooManyValues
    else s.startFlag opt

/-- What stands behind the letter of an option; an equals sign in front of it does not count. -/
def attachedValue : List Char → Option String
  | [] => none
  | '=' :: value => some (String.ofList value)
  | value => some (String.ofList value)

/-- Reads letters behind a single hyphen. -/
def readShort (s : State) : List Char → Except ErrorKind State
  | [] => .ok s
  | letter :: rest =>
    match Opt.ofShort? letter with
    | none => .error .unknownArgument
    | some opt =>
      if opt.takesValue then s.startOption opt (attachedValue rest)
      else do
        let s ← s.startFlag opt
        readShort s rest

/-- There are no arguments beside the options, so after `--` nothing may follow. -/
def readAll : List String → State → Except ErrorKind State
  | [], s => s.settle
  | arg :: rest, s =>
    match arg.toList with
    | ['-', '-'] => if rest = [] then s.settle else .error .unknownArgument
    | '-' :: '-' :: body => do
      let s ← readLong s body
      readAll rest s
    | '-' :: letter :: more => do
      let s ← readShort s (letter :: more)
      readAll rest s
    | _ =>
      match s.pending with
      | some (opt, none) => readAll rest { s with pending := some (opt, some arg) }
      | _ => .error .unknownArgument

/-! ## Making sense of them -/

def State.value? (s : State) (opt : Opt) : Option String :=
  (s.given.find? (·.1 = opt)).map Prod.snd

def State.number? (s : State) (opt : Opt) : Option UInt64 :=
  (s.value? opt).bind CommandLine.number?

/-- Reads the arguments after the program's name; `environment` holds a target to fall back on. -/
def parse (environment : Option String) (args : List String) : Except ErrorKind Arguments := do
  let s ← readAll args .empty
  if s.isGiven .iterations ∧ s.isGiven .duration then .error .argumentConflict
  else match s.value? .targetUrl <|> environment with
    | none => .error .missingRequiredArgument
    | some targetUrl => .ok {
        targetUrl := targetUrl
        channel := (s.value? .channel).getD "default-channel"
        concurrency := s.number? .concurrency
        iterations := s.number? .iterations
        duration := s.number? .duration
        maxDuration := (s.number? .maxDuration).getD 14400
        thinkTimeMs := (s.number? .thinkTimeMs).getD 1000
        requestTimeout := (s.number? .requestTimeout).getD 60
        seed := s.number? .seed
        noProgress := s.isGiven .noProgress
        reporter := ((s.value? .reporter).bind reporter?).getD .inMemory
        runId := s.value? .runId
        summaryFile := s.value? .summaryFile }

end CommandLine

end StorefrontLoad
