import UploadMessages.Decimal
import UploadMessages.Json.Reader
import UploadMessages.Field
import UploadMessages.Text.Characters

/-! # Payloads

A payload is a JSON object in which each key of a message has a value of the kind
that the message declares for it, is null or does not occur. Of several members
with one key the last counts; other keys are of no interest.
-/

namespace UploadMessages

/-- The kinds of value that a message declares. -/
inductive Kind
  | text
  | flag
  | integer (bits : Nat)
deriving DecidableEq, Repr

namespace Kind

abbrev Carrier : Kind → Type
  | .text => String
  | .flag => Bool
  | .integer bits => Signed bits

def message : Kind → String
  | .text => "a string"
  | .flag => "a boolean"
  | .integer bits => "i" ++ String.ofList (Numeral.ofNat 10 bits).toChars

def accept? : (kind : Kind) → Json.Value → Option kind.Carrier
  | .text, .text s => some s
  | .flag, .boolean b => some b
  | .integer bits, .number l => l.toInt?.bind (Signed.ofInt? bits)
  | _, _ => none

end Kind

/-- The kinds that a message declares for its keys, in the order of the key names. -/
abbrev Schema := List (Key × Kind)

namespace Payload

inductive Found
  | null
  | boolean (b : Bool)
  | integer (n : Int)
  | floatingPoint (l : Json.Literal)
  | text (s : String)
  | list
  | object
deriving DecidableEq, Repr

namespace Found

def ofValue : Json.Value → Found
  | .null => .null
  | .boolean b => .boolean b
  | .number l => match l.toInt? with
    | some n => .integer n
    | none => .floatingPoint l
  | .text s => .text s
  | .list _ => .list
  | .object _ => .object

def message : Found → String
  | .null => "null"
  | .boolean b => "boolean `" ++ (if b then "true" else "false") ++ "`"
  | .integer n => "integer `" ++ String.ofList (Numeral.ofInt n) ++ "`"
  | .floatingPoint l => "floating point `" ++ Decimal.floatingPoint l.negative l.magnitude ++ "`"
  | .text s => "string " ++ Text.quoted s
  | .list => "sequence"
  | .object => "map"

end Found

inductive Fault
  | blank
  | notJson (fault : Json.Fault)
  | notAnObject
  | mistyped (found : Found) (wanted : Kind)
deriving DecidableEq, Repr

/-- An integer that is wanted but too large is called a wrong value, all else a wrong type. -/
def Fault.message : Fault → String
  | .blank => "payload is empty"
  | .notJson fault => fault.message
  | .notAnObject => "expected a JSON object"
  | .mistyped found wanted =>
    let matter := match found, wanted with
      | .integer _, .integer _ => "invalid value: "
      | _, _ => "invalid type: "
    matter ++ found.message ++ ", expected " ++ wanted.message

def mistyped? (members : Json.Members) (key : Key) (kind : Kind) : Option Fault :=
  match members.last? key.name with
  | none | some .null => none
  | some v => match kind.accept? v with
    | some _ => none
    | none => some (.mistyped (.ofValue v) kind)

/-- The members of the payload that a text writes. Of the keys with a value of the wrong kind
the first in the order of the names is reported. -/
def members (schema : Schema) (text : String) : Except Fault Json.Members :=
  if text.toList.all Text.isBlank then .error .blank
  else match Json.read text.toList with
    | .error fault => .error (.notJson fault)
    | .ok (.object members) =>
      match schema.findSome? fun (key, kind) => mistyped? members key kind with
      | some fault => .error fault
      | none => .ok members
    | .ok _ => .error .notAnObject

/-- The value of a key, unless it is null, of another kind or absent. -/
def field? (members : Json.Members) (key : Key) (kind : Kind) : Option kind.Carrier :=
  (members.last? key.name).bind kind.accept?

end Payload

end UploadMessages
