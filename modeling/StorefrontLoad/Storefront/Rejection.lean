import StorefrontLoad.Json.Decoder

/-!
# Reasons for refusing a checkout

All three parts of a reason are optional. When a reason is written all of them are named, an absent
one as null.
-/

namespace StorefrontLoad.Storefront

structure Rejection where
  field : Option String
  message : Option String
  code : Option String
  deriving DecidableEq, Repr

namespace Rejection

def text (r : Rejection) : List Char :=
  Json.objectText [
    ("field", Json.optionText Json.quote r.field),
    ("message", Json.optionText Json.quote r.message),
    ("code", Json.optionText Json.quote r.code)]

def listText (rejections : List Rejection) : List Char :=
  '[' :: Json.commaSeparated (rejections.map text) ++ [']']

/-- Parts read so far; a part that was read may still be null. -/
structure Draft where
  field : Option (Option String)
  message : Option (Option String)
  code : Option (Option String)

def record : Json.Record Draft Rejection where
  name := "CheckoutError"
  empty := ⟨none, none, none⟩
  fields := [
    { Json.Field.of "field" (.optional .string) Draft.field
        (fun draft part ↦ { draft with field := some part }) with mayEnd := true },
    { Json.Field.of "message" (.optional .string) Draft.message
        (fun draft part ↦ { draft with message := some part }) with mayEnd := true },
    { Json.Field.of "code" (.optional .string) Draft.code
        (fun draft part ↦ { draft with code := some part }) with mayEnd := true }]
  finish draft := .ok ⟨draft.field.join, draft.message.join, draft.code.join⟩

def ofText (text : String) : Except Json.ReadError Rejection :=
  Json.document record.decoder (Text.symbolsOfText text.toList)

def listOfText (text : List Char) : Except Json.ReadError (List Rejection) :=
  Json.document (Json.Decoder.list record.decoder) (Text.symbolsOfText text)

end Rejection

end StorefrontLoad.Storefront
