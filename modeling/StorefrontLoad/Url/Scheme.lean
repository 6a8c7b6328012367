/-!
# Schemes

The schemes of the web and of files are special: their hosts are domain names, their paths are never
opaque, and a backslash serves as a slash.
-/

namespace StorefrontLoad.Url

inductive SchemeKind
  | file
  /-- A scheme that always has a host. -/
  | web
  | other
  deriving DecidableEq

def kindOfScheme (scheme : List Char) : SchemeKind :=
  match String.ofList scheme with
  | "file" => .file
  | "http" | "https" | "ws" | "wss" | "ftp" => .web
  | _ => .other

def SchemeKind.isSpecial (kind : SchemeKind) : Bool := kind ≠ .other

def defaultPort (scheme : List Char) : Option Nat :=
  match String.ofList scheme with
  | "http" | "ws" => some 80
  | "https" | "wss" => some 443
  | "ftp" => some 21
  | _ => none

def isSchemeChar (c : Char) : Bool := c.isAlphanum ∨ c ∈ ['+', '-', '.']

/-- The scheme in lower case and what follows its colon. -/
def scheme? (text : List Char) : Option (List Char × List Char) :=
  match text.dropWhile isSchemeChar with
  | ':' :: rest =>
    if (text.head?.map Char.isAlpha).getD false then
      some ((text.takeWhile isSchemeChar).map Char.toLower, rest)
    else none
  | _ => none

def isSlash (kind : SchemeKind) (c : Char) : Bool := c = '/' ∨ (kind.isSpecial ∧ c = '\\')

end StorefrontLoad.Url
