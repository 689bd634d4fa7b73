import AdminConsole.Json
import AdminConsole.Notification.Id
import AdminConsole.Text.Quoted

/-!
# Reading values of known types

How a JSON value is read as text, as a list or as a record, and what is said of a value that does
not fit. A record is an object or the list of its fields. Of an object, the fields present are read
in the order of their names before any is missed; of a list, the items are read in order before
their number counts.
-/

namespace AdminConsole.Json

/-- What a reader was ready to take. -/
inductive Expectation where
  | string
  | sequence
  | record (name : String)
  | unit
  /-- One of several words, alone or as the name of the one member of an object. -/
  | choice
  | identifier
deriving DecidableEq, Repr

def Expectation.text : Expectation → String
  | string => "a string"
  | sequence => "a sequence"
  | record name => "struct " ++ name
  | unit => "unit"
  | choice => "string or map"
  | identifier => "a formatted UUID string"

/-- A value as it is described when it was not what was expected. -/
inductive Found where
  | null
  | boolean (b : Bool)
  | integer (i : Int)
  | string (s : String)
  | sequence
  | map
deriving DecidableEq, Repr

def found : Json → Found
  | null => .null
  | bool b => .boolean b
  | int i => .integer i
  | str s => .string s
  | arr _ => .sequence
  | obj _ => .map

/-- A text between two grave accents. -/
def ticked (s : String) : String := "\x60" ++ s ++ "\x60"

def Found.text : Found → String
  | null => "null"
  | boolean b => "boolean " ++ ticked (if b then "true" else "false")
  | integer i => "integer " ++ ticked (toString i)
  | string s => "string " ++ Text.quoted s
  | sequence => "sequence"
  | map => "map"

/-- Why a value cannot be read. -/
inductive DecodeError where
  | wrongType (found : Found) (expected : Expectation)
  | missingField (name : String)
  /-- A list has fewer items than the record has fields that must be given. -/
  | tooShort (length : Nat) (record : String) (fields : Nat)
  | tooLong (length : Nat)
  | unknownPermission (name : String)
  | unknownChoice (name : String) (choices : List String)
  /-- An object that should name one choice has no member or several. -/
  | notOneChoice
  | badIdentifier (fault : NotificationId.Fault)
deriving DecidableEq, Repr

def DecodeError.message : DecodeError → String
  | wrongType found expected => "invalid type: " ++ found.text ++ ", expected " ++ expected.text
  | missingField name => "missing field " ++ ticked name
  | tooShort length record fields =>
    s!"invalid length {length}, expected struct {record} with {fields} elements"
  | tooLong length => s!"invalid length {length}, expected fewer elements in array"
  | unknownPermission name => "unknown permission '" ++ name ++ "'"
  | unknownChoice name choices =>
    "unknown variant " ++ ticked name ++ ", expected " ++ " or ".intercalate (choices.map ticked)
  | notOneChoice => "invalid value: map, expected map with a single key"
  | badIdentifier fault => "UUID parsing failed: " ++ fault.message

/-- A reader of one type of value. -/
abbrev Decoder (α : Type) := Json → Except DecodeError α

def Decoder.string : Decoder String
  | str s => .ok s
  | v => .error (.wrongType v.found .string)

def Decoder.list {α : Type} (item : Decoder α) : Decoder (List α)
  | arr items => items.mapM item
  | v => .error (.wrongType v.found .sequence)

def Decoder.unit : Decoder Unit
  | null => .ok ()
  | v => .error (.wrongType v.found .unit)

/-- Reads a member of an object, if it is there. -/
def optional {α : Type} (d : Decoder α) (name : String) (members : List (String × Json)) :
    Except DecodeError (Option α) :=
  match member? name members with
  | some v => some <$> d v
  | none => .ok none

/-- A field that must have been there. -/
def present {α : Type} (name : String) : Option α → Except DecodeError α
  | some a => .ok a
  | none => .error (.missingField name)

/-- Reads an item of a list, if the list is long enough. -/
def optionalItem {α : Type} (d : Decoder α) (i : Nat) (items : List Json) :
    Except DecodeError (Option α) :=
  match items[i]? with
  | some v => some <$> d v
  | none => .ok none

/-- Refuses a list with more items than a record has fields. -/
def noMoreThan (fields : Nat) (items : List Json) : Except DecodeError Unit :=
  if fields < items.length then .error (.tooLong items.length) else .ok ()

end AdminConsole.Json
