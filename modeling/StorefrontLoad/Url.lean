import StorefrontLoad.Url.Address
import StorefrontLoad.Url.Domain
import StorefrontLoad.Url.Path

/-!
# URLs

A text is read as an absolute URL and taken apart; written again it is in its normal form. The
schemes of the web and of files have an authority and a path of segments, and in them a backslash
serves as a slash. In any other scheme a path that does not start with a slash is one opaque text.
-/

namespace StorefrontLoad

namespace Url

/-- Who is addressed, each part in its written form. -/
structure Authority where
  userinfo : List Char
  host : List Char
  portNumber : Option Nat

inductive Path
  | opaqueText (text : List Char)
  | segments (list : List (List Char))

end Url

structure Url where
  scheme : List Char
  /-- Absent in a URL without two slashes. -/
  authority : Option Url.Authority
  path : Url.Path
  query : Option (List Char)
  fragment : Option (List Char)

namespace Url

/-! ## Authority -/

/-- User and password, the colon left out when the password is empty. -/
def userinfoText (text : List Char) : List Char :=
  let user := text.takeWhile (· ≠ ':')
  let password := (text.dropWhile (· ≠ ':')).drop 1
  encodeWith userinfoSet user ++
    (if password = [] then [] else ':' :: encodeWith userinfoSet password)

/-- Cuts an authority at its last at sign. -/
def splitUserinfo (authority : List Char) : Option (List Char) × List Char :=
  if '@' ∈ authority then
    let host := (authority.reverse.takeWhile (· ≠ '@')).reverse
    (some (authority.take (authority.length - host.length - 1)), host)
  else (none, authority)

/-- Cuts at the first colon outside of square brackets. -/
def splitPort : Bool → List Char → List Char × Option (List Char)
  | _, [] => ([], none)
  | bracketed, c :: rest =>
    if c = ':' ∧ ¬ bracketed then ([], some rest)
    else
      let inside := c = '[' ∨ (bracketed ∧ c ≠ ']')
      let (host, portText) := splitPort inside rest
      (c :: host, portText)

def portValue (scheme digits : List Char) : Except ParseError (Option Nat) :=
  match Text.natOfRadix? 10 digits with
  | none => .error .invalidPort
  | some n =>
    if 65535 < n then .error .invalidPort
    else if digits = [] ∨ some n = defaultPort scheme then .ok none
    else .ok (some n)

def bracketedHost (host : List Char) : Except ParseError (List Char) :=
  if host.getLast? = some ']' then do
    let groups ← ipv6 ((host.drop 1).dropLast)
    .ok ('[' :: ipv6Text groups ++ [']'])
  else .error .invalidIpv6

/-- The host of a scheme whose hosts are domain names. -/
def domainHost (host : List Char) : Except ParseError (List Char) :=
  if host.head? = some '[' then bracketedHost host
  else do
    let domain ← domainToAscii (decodePercent host)
    if domain = [] then .error .emptyHost
    else if endsInNumber domain then (ipv4 domain).map ipv4Text
    else .ok domain

def isForbiddenInHost (c : Char) : Bool :=
  c ∈ ['\x00', '\t', '\n', '\r', ' ', '#', '/', ':', '<', '>', '?', '@', '[', '\\', ']', '^', '|']

/-- The host of any other scheme. -/
def opaqueHost (host : List Char) : Except ParseError (List Char) :=
  if host.head? = some '[' then bracketedHost host
  else if host.any isForbiddenInHost then .error .invalidHostCharacter
  else .ok (encodeWith [] host)

/-- Reads an authority and gives what is left of its text: a backslash ends the digits behind a
host. `isLast` when nothing follows the authority. Only a scheme that is not of the web may leave
the host out, and then nothing else may stand there. -/
def authorityOf (scheme : List Char) (isLast : Bool) (text : List Char) :
    Except ParseError (Authority × List Char) := do
  let kind := kindOfScheme scheme
  let (userinfo, hostAndPort) := splitUserinfo text
  let (host, portText) := splitPort false hostAndPort
  let shown := userinfoText (userinfo.getD [])
  let needsHost : Bool :=
    kind = .web ∨ portText.isSome ∨ shown ≠ [] ∨ (userinfo = some [] ∧ ¬ isLast)
  if host = [] ∧ needsHost then .error .emptyHost
  else do
    let host ← if kind = .web then domainHost host else opaqueHost host
    let afterColon := portText.getD []
    let portNumber ← portValue scheme (afterColon.takeWhile (· ≠ '\\'))
    .ok (⟨shown, host, portNumber⟩, afterColon.dropWhile (· ≠ '\\'))

/-! ## Whole URLs -/

def isEdge (c : Char) : Bool := c.toNat ≤ 0x20

def trimEdges (text : List Char) : List Char :=
  ((text.dropWhile isEdge).reverse.dropWhile isEdge).reverse

def isPathEnd (c : Char) : Bool := c = '?' ∨ c = '#'

/-- Query and fragment, from the mark that starts them. -/
def queryAndFragment (kind : SchemeKind) (text : List Char) :
    Option (List Char) × Option (List Char) :=
  let set := if kind.isSpecial then specialQuerySet else querySet
  let fragment := match text.dropWhile (· ≠ '#') with
    | _ :: rest => some (encodeWith fragmentSet rest)
    | [] => none
  match text with
  | '?' :: rest => (some (encodeWith set (rest.takeWhile (· ≠ '#'))), fragment)
  | _ => (none, fragment)

/-- An authority for the host of a file; the local host is not named. -/
def fileAuthority (host : List Char) : Except ParseError Authority :=
  if host = [] then .ok ⟨[], [], none⟩
  else do
    let host ← domainHost host
    .ok ⟨[], if String.ofList host = "localhost" then [] else host, none⟩

/-- Drops characters from the front, breaks uncounted. -/
def dropCounted : Nat → List Char → List Char
  | 0, text => text
  | _ + 1, [] => []
  | count + 1, c :: rest => dropCounted (if isBreak c then count + 1 else count) rest

/-- Authority and path of a file. A drive letter is never taken for a host, and a path that starts
with one has no host. Without a host the path keeps its first slash. -/
def fileParts (raw : List Char) : Except ParseError (Authority × List (List Char)) :=
  let text := withoutBreaks raw
  let slashes := (text.take 2).takeWhile (isSlash .file)
  let rest := text.drop slashes.length
  let here : Authority := ⟨[], [], none⟩
  let whole := trailOf .file (dropCounted slashes.length raw)
  if slashes.length < 2 then .ok (here, whole.path .file)
  else
    let host := rest.takeWhile (¬ isSlash .file ·)
    let after := rest.drop host.length
    if isDriveLetter host then .ok (here, whole.path .file)
    else do
      let authority ← fileAuthority host
      let beforePath := text.length - after.length
      if authority.host = [] then
        .ok (here, (trailOf .file (dropCounted beforePath raw)).path .file)
      else
        let trail := trailOf .file (dropCounted (beforePath + 1) raw)
        .ok (if trail.hasDrive then here else authority, trail.path .file)

/-- Reads a text without the controls and spaces at its edges. -/
def parseTrimmed (raw : List Char) : Except ParseError Url :=
  match scheme? (withoutBreaks raw) with
  | none => .error .relativeWithoutBase
  | some (scheme, rest) =>
    let kind := kindOfScheme scheme
    let main := rest.takeWhile (¬ isPathEnd ·)
    let (query, fragment) := queryAndFragment kind (rest.drop main.length)
    let build (authority : Option Authority) (path : Path) : Url :=
      ⟨scheme, authority, path, query, fragment⟩
    let withAuthority (text : List Char) : Except ParseError Url := do
      let after := text.dropWhile (¬ isSlash kind ·)
      let isLast : Bool := after = [] ∧ query = none ∧ fragment = none
      let (authority, left) ← authorityOf scheme isLast (text.takeWhile (¬ isSlash kind ·))
      .ok (build (some authority) (.segments ((trailBehindHost kind (left ++ after)).path kind)))
    match kind with
    | .file => do
      let behindColon := (raw.dropWhile (· ≠ ':')).drop 1
      let (authority, path) ← fileParts (behindColon.takeWhile (¬ isPathEnd ·))
      .ok (build (some authority) (.segments path))
    | .web => withAuthority (main.dropWhile (isSlash kind))
    | .other =>
      match main with
      | '/' :: '/' :: rest => withAuthority rest
      | '/' :: rest => .ok (build none (.segments ((trailOf kind rest).path kind)))
      | text => .ok (build none (.opaqueText (encodeWith [] text)))

def parse (text : String) : Except ParseError Url := parseTrimmed (trimEdges text.toList)

/-! ## Normal form -/

def Authority.text (a : Authority) : List Char :=
  '/' :: '/' :: (if a.userinfo = [] then [] else a.userinfo ++ ['@']) ++ a.host ++
    (match a.portNumber with
      | some n => ':' :: Nat.toDigits 10 n
      | none => [])

/-- Without an authority an empty first segment would be taken for one. -/
def Path.text (hasAuthority : Bool) : Path → List Char
  | .opaqueText text => text
  | .segments list =>
    let path := list.flatMap ('/' :: ·)
    if ¬ hasAuthority ∧ path.take 2 = ['/', '/'] then '/' :: '.' :: path else path

def marked (mark : Char) : Option (List Char) → List Char
  | some text => mark :: text
  | none => []

def text (u : Url) : String :=
  String.ofList (u.scheme ++ ':' :: ((u.authority.map Authority.text).getD [] ++
    u.path.text u.authority.isSome ++ marked '?' u.query ++ marked '#' u.fragment))

def schemeText (u : Url) : String := String.ofList u.scheme

def host (u : Url) : List Char := (u.authority.map Authority.host).getD []

/-- Whether there is a user or a password that can be read as text; a user that cannot be read hides
the password too. -/
def Authority.hasCredentials (a : Authority) : Bool :=
  let user := a.userinfo.takeWhile (· ≠ ':')
  let password := (a.userinfo.dropWhile (· ≠ ':')).drop 1
  let isReadable (text : List Char) : Bool := (Text.decode? (decodePercent text)).isSome
  isReadable user ∧ (user ≠ [] ∨ (password ≠ [] ∧ isReadable password))

def withoutCredentials (u : Url) : Url :=
  { u with
    authority := u.authority.map fun a ↦ if a.hasCredentials then { a with userinfo := [] } else a }

end Url

end StorefrontLoad
