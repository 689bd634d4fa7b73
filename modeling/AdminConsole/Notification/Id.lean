import AdminConsole.Text.Bytes
import AdminConsole.Text.Digits

/-!
# Notification identifiers

A notification is named by a 128-bit number, written as 32 hexadecimal digits in five groups. The
number may be read from the bare digits, from the grouped digits, and from the grouped digits in
braces or after `urn:uuid:`; it is always written in groups and in lower case.

A text in none of these forms is refused with the first fault that a reader of grouped digits meets.

| here | there |
| --- | --- |
| `toString`, `parse` | how a `NotificationId` is shown and read, by way of its `Uuid` |
| `Fault.message` | the text of the error of a `Uuid` |
| `Fault.refusal` | the text of `DomainError::InvalidId` |
-/

namespace AdminConsole

/-- A 128-bit identifier. Identifiers are ordered as numbers. -/
structure NotificationId where
  bits : BitVec 128
deriving DecidableEq, Repr, Inhabited

namespace NotificationId

instance : LT NotificationId := ⟨fun a b => a.bits < b.bits⟩
instance : LE NotificationId := ⟨fun a b => a.bits ≤ b.bits⟩
instance : DecidableLT NotificationId := fun a b => inferInstanceAs (Decidable (a.bits < b.bits))
instance : DecidableLE NotificationId := fun a b => inferInstanceAs (Decidable (a.bits ≤ b.bits))

/-- How many digits each group has. -/
def groupSizes : List Nat := [8, 4, 4, 4, 12]

/-! ## Writing -/

/-- The 32 hexadecimal digits, the most significant first. -/
def digits (id : NotificationId) : List Char := Text.digits 16 32 id.bits.toNat

/-- The characters in groups of the given sizes, a hyphen between two groups. -/
def group : List Nat → List Char → List Char
  | [], cs => cs
  | [_], cs => cs
  | n :: sizes, cs => cs.take n ++ '-' :: group sizes (cs.drop n)

def toString (id : NotificationId) : String := String.ofList (group groupSizes id.digits)

/-! ## Reading -/

/-- The characters of groups of exactly the given sizes, without the hyphens between the groups. -/
def ungroup? : List Nat → List Char → Option (List Char)
  | [], cs => if cs.isEmpty then some [] else none
  | [n], cs => if cs.length = n then some cs else none
  | n :: sizes, cs =>
    match cs.drop n with
    | '-' :: rest => (ungroup? sizes rest).map (cs.take n ++ ·)
    | _ => none

/-- The text between a pair of braces that encloses all of it. -/
def unbrace? : List Char → Option (List Char)
  | '\x7b' :: cs => if cs.getLast? = some '\x7d' then some cs.dropLast else none
  | _ => none

def urnScheme : List Char := ['u', 'r', 'n', ':', 'u', 'u', 'i', 'd', ':']

/-- The text after the scheme, which may be in either case. -/
def stripScheme? (cs : List Char) : Option (List Char) :=
  if (cs.take 9).map Char.toLower = urnScheme then some (cs.drop 9) else none

/-- The grouped digits that a text of the right length holds, whatever they are wrapped in. -/
def groupedBody? (cs : List Char) : Option (List Char) :=
  match cs.length with
  | 36 => some cs
  | 38 => unbrace? cs
  | 45 => stripScheme? cs
  | _ => none

/-- The number with the given hexadecimal digits, the most significant first. -/
def ofDigits? (cs : List Char) : Option NotificationId :=
  if cs.length = 32 then
    (cs.mapM Text.hexValue?).map fun ds => ⟨.ofNat 128 (Text.ofDigitValues 16 ds)⟩
  else none

def ofText? (cs : List Char) : Option NotificationId :=
  ofDigits? cs <|> (groupedBody? cs >>= ungroup? groupSizes >>= ofDigits?)

/-! ## Faults -/

/-- What keeps a text from being an identifier. Lengths and places count bytes of UTF-8. -/
inductive Fault where
  | length (found : Nat)
  | character (found : Char) (place : Nat)
  | groupCount (found : Nat)
  | groupLength (group expected found : Nat)
deriving DecidableEq, Repr

def Fault.message : Fault → String
  | .length n => s!"invalid length: found {n}"
  | .character c place =>
    "invalid character: found " ++ String.ofList ['\x60', c, '\x60'] ++ s!" at {place}"
  | .groupCount n => s!"invalid group count: expected 5, found {n}"
  | .groupLength g want n => s!"invalid group length in group {g}: expected {want}, found {n}"

/-- What is said of a text that is no identifier. -/
def Fault.refusal (f : Fault) : String := "invalid identifier: NotificationId: " ++ f.message

/-- The places of the hyphens, or the first character that is neither a hyphen nor a digit. -/
def hyphenPlaces (place : Nat) : List Char → Except Fault (List Nat)
  | [] => .ok []
  | c :: cs =>
    if c = '-' then (hyphenPlaces (place + c.utf8Size) cs).map (place :: ·)
    else if (Text.hexValue? c).isSome then hyphenPlaces (place + c.utf8Size) cs
    else .error (.character c place)

/-- The first group of the wrong size, given where the group starts and where each of the hyphens
stands. The last group is as long as the whole text is beyond its start. -/
def misfit (length : Nat) : Nat → Nat → List Nat → List Nat → Fault
  | g, start, size :: sizes, h :: hs =>
    if h = start + size then misfit length (g + 1) (h + 1) sizes hs
    else .groupLength g size (h - start)
  | g, start, size :: _, [] => .groupLength g size (length - start)
  | g, start, [], _ => .groupLength g 0 (length - start)

/-- The fault of a text of `length` bytes whose digits, `cs`, start at byte `offset`. -/
def faultIn (length offset : Nat) (grouped : Bool) (cs : List Char) : Fault :=
  match hyphenPlaces offset cs with
  | .error f => f
  | .ok places =>
    if places.isEmpty && !grouped then .length length
    else if places.length ≠ 4 then .groupCount (places.length + 1)
    else misfit length 0 0 groupSizes (places.map (· - offset))

/-- The fault of a text. Of a wrapped text only the body is looked at. Where the wrapping leaves a
body of the right length, and in a text of that length, which counts as a body with or without
wrapping, places and lengths are those of the body; elsewhere they are those of the whole text. -/
def fault (cs : List Char) : Fault :=
  let length := Text.byteLength cs
  if length = 0 ∨ 45 < length then .length length
  else if length = 36 then faultIn 36 0 true cs
  else
    match unbrace? cs, stripScheme? cs with
    | some body, _ => if length = 38 then faultIn 36 0 true body else faultIn length 1 true body
    | none, some body => if length = 45 then faultIn 36 0 true body else faultIn length 9 true body
    | none, none => faultIn length 0 false cs

/-- Reads an identifier. -/
def parse (text : String) : Except Fault NotificationId :=
  match ofText? text.toList with
  | some id => .ok id
  | none => .error (fault text.toList)

end NotificationId

end AdminConsole
