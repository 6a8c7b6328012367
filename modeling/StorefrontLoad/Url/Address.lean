import StorefrontLoad.Text.Digits
import StorefrontLoad.Text.Split
import StorefrontLoad.Url.Error

/-!
# Internet addresses

An IPv4 address may have fewer than four parts, each decimal, octal or hexadecimal, the last one
filling what is left. An IPv6 address is written with its longest run of zeroes shortened.
-/

namespace StorefrontLoad.Url

open Text (splitOn joinWith natOfRadix?)

/-! ## Four bytes -/

/-- A part of an IPv4 address; a bare hexadecimal mark stands for zero. -/
def ipv4Part? (part : List Char) : Option Nat :=
  match part with
  | [] => none
  | '0' :: 'x' :: digits => natOfRadix? 16 digits
  | '0' :: 'X' :: digits => natOfRadix? 16 digits
  | '0' :: digit :: digits => natOfRadix? 8 (digit :: digits)
  | digits => natOfRadix? 10 digits

/-- A trailing full stop does not count as a part. -/
def addressParts (domain : List Char) : List (List Char) :=
  match (splitOn '.' domain).reverse with
  | [] :: before => before.reverse
  | parts => parts.reverse

/-- Whether a host has to be an IPv4 address. -/
def endsInNumber (domain : List Char) : Bool :=
  match (addressParts domain).getLast? with
  | none => false
  | some last => (last ≠ [] ∧ last.all Char.isDigit) ∨ (ipv4Part? last).isSome

/-- The value of the parts before the last one, each a byte. -/
def leadingBytes : Nat → List Nat → Option Nat
  | _, [] => some 0
  | place, n :: rest => do
    let more ← leadingBytes (place - 1) rest
    if n ≤ 255 then some (n * Nat.pow 256 place + more) else none

def ipv4 (domain : List Char) : Except ParseError Nat :=
  match (addressParts domain).mapM ipv4Part? with
  | none => .error .invalidIpv4
  | some numbers =>
    match numbers.reverse with
    | [] => .error .invalidIpv4
    | last :: before =>
      if 3 < before.length ∨ Nat.pow 256 (4 - before.length) ≤ last then .error .invalidIpv4
      else match leadingBytes 3 before.reverse with
        | none => .error .invalidIpv4
        | some leading => .ok (leading + last)

def ipv4Text (address : Nat) : List Char :=
  let byte (place : Nat) : List Char := Nat.toDigits 10 (address / Nat.pow 256 place % 256)
  Text.joinWith '.' [byte 3, byte 2, byte 1, byte 0]

/-! ## Eight groups of sixteen bits -/

/-- A group of one to four hexadecimal digits. -/
def ipv6Group? (digits : List Char) : Option Nat :=
  if digits ≠ [] ∧ digits.length ≤ 4 then natOfRadix? 16 digits else none

/-- A decimal byte without leading zeros. -/
def decimalByte? (digits : List Char) : Option Nat :=
  if digits ≠ [] ∧ (digits.length = 1 ∨ digits.head? ≠ some '0') then
    (natOfRadix? 10 digits).filter (· ≤ 255)
  else none

/-- The two groups that an IPv4 address at the end stands for. -/
def embeddedIpv4? (part : List Char) : Option (List Nat) :=
  match (splitOn '.' part).mapM decimalByte? with
  | some [a, b, c, d] => some [a * 256 + b, c * 256 + d]
  | _ => none

/-- Groups separated by colons, the last of which may be an IPv4 address. -/
def ipv6Groups? : List (List Char) → Option (List Nat)
  | [] => some []
  | [last] => if '.' ∈ last then embeddedIpv4? last else (ipv6Group? last).map ([·])
  | group :: rest => do
    let n ← ipv6Group? group
    let more ← ipv6Groups? rest
    some (n :: more)

/-- Cuts a text at its first double colon. -/
def atDoubleColon : List Char → Option (List Char × List Char)
  | ':' :: ':' :: rest => some ([], rest)
  | c :: rest => (atDoubleColon rest).map fun (before, after) ↦ (c :: before, after)
  | [] => none

def groupsOf? (text : List Char) : Option (List Nat) :=
  if text = [] then some [] else ipv6Groups? (splitOn ':' text)

def ipv6 (text : List Char) : Except ParseError (List Nat) :=
  match atDoubleColon text with
  | none =>
    match groupsOf? text with
    | some groups => if groups.length = 8 then .ok groups else .error .invalidIpv6
    | none => .error .invalidIpv6
  | some (before, after) =>
    match groupsOf? before, groupsOf? after with
    | some left, some right =>
      if '.' ∉ before ∧ left.length + right.length < 8 then
        .ok (left ++ List.replicate (8 - left.length - right.length) 0 ++ right)
      else .error .invalidIpv6
    | _, _ => .error .invalidIpv6

/-- How many zeroes stand at the front. -/
def zeroRun (groups : List Nat) : Nat := (groups.takeWhile (· = 0)).length

/-- Start and length of the first of the longest runs of at least two zeroes. -/
def longestZeroRun (groups : List Nat) : Option (Nat × Nat) :=
  let runs := (List.range groups.length).map fun i ↦ (i, zeroRun (groups.drop i))
  runs.foldl (fun best run ↦
    if run.2 < 2 then best
    else match best with
      | none => some run
      | some b => if b.2 < run.2 then some run else some b) none

def groupsText (groups : List Nat) : List Char := joinWith ':' (groups.map (Nat.toDigits 16))

def ipv6Text (groups : List Nat) : List Char :=
  match longestZeroRun groups with
  | none => groupsText groups
  | some (start, length) =>
    groupsText (groups.take start) ++ ':' :: ':' :: groupsText (groups.drop (start + length))

end StorefrontLoad.Url
