import LotusReport.Encoding.Date
import LotusReport.Encoding.Json

/-!
# Validation of decoded objects

Field by field construction of typed values from JSON objects, as declarative
models do it. Dates and identifiers are converted by the validating library;
its conversions are parameters.
-/

namespace Encoding

/-- A date of the calendar. -/
abbrev Date := { d : CalendarDate // d.valid = true }

/-- The day after, in the calendar without a last day. -/
def CalendarDate.next (d : CalendarDate) : CalendarDate :=
  if d.day < daysInMonth d.year d.month then ⟨d.year, d.month, d.day + 1⟩
  else if d.month < 12 then ⟨d.year, d.month + 1, 1⟩
  else ⟨d.year + 1, 1, 1⟩

/-- `date + timedelta(days=1)`, which overflows behind 9999-12-31. -/
def Date.next? (d : Date) : Option Date :=
  if h : d.1.next.valid = true then some ⟨d.1.next, h⟩ else none

/-- What the validating library converts: dates, UUIDs and aware times, the latter two to the
text that writes them. -/
structure Coercions where
  date : Json → Option Date
  uuid : Json → Option String
  awareDatetime : Json → Option String

/-- The validating library reads the text of an aware time back as that time. -/
def Coercions.Rereads (co : Coercions) : Prop :=
  ∀ j text, co.awareDatetime j = some text → co.awareDatetime (.str text) = some text

/-- The conversions of texts that are already written in the standard form. -/
def Coercions.standard : Coercions where
  date
    | .str text =>
        match dateFromIsoformat text with
        | some d => if h : d.valid = true then some ⟨d, h⟩ else none
        | none => none
    | _ => none
  uuid
    | .str text => some text
    | _ => none
  awareDatetime
    | .str text => some text
    | _ => none

theorem Coercions.rereads_standard : Coercions.standard.Rereads := by
  intro j text h
  cases j with
  | str stored => exact rfl
  | _ => cases h

/-- Why a value is not constructed: a field or a validator refused it, or date arithmetic left
the calendar. -/
inductive Invalid where
  | refused
  | overflow
deriving DecidableEq, Repr

section Fields

variable {α : Type}

/-- The fields of an object. -/
def fieldsOf : Json → Except Invalid Fields
  | .obj fields => .ok fields
  | _ => .error .refused

/-- `extra="forbid"`. -/
def forbidExtra (names : List String) (fields : Fields) : Except Invalid Unit :=
  if fields.all fun f => names.contains f.1 then .ok () else .error .refused

/-- A field without a default. -/
def required (fields : Fields) (name : String) (validate : Json → Except Invalid α) :
    Except Invalid α :=
  match Json.lookup fields name with
  | some value => validate value
  | none => .error .refused

/-- A field that may be absent or null. -/
def nullable (fields : Fields) (name : String) (validate : Json → Except Invalid α) :
    Except Invalid (Option α) :=
  match Json.lookup fields name with
  | none | some .null => .ok none
  | some value => (validate value).map some

/-- The value of a conversion that may fail. -/
def converted (value : Option α) : Except Invalid α :=
  match value with
  | some a => .ok a
  | none => .error .refused

/-- A text that meets a constraint. -/
def textWith (constraint : String → Bool) : Json → Except Invalid String
  | .str text => if constraint text then .ok text else .error .refused
  | _ => .error .refused

/-- A strict integer within bounds. -/
def intWith (constraint : Int → Bool) : Json → Except Invalid Int
  | .int n => if constraint n then .ok n else .error .refused
  | _ => .error .refused

/-- A list of a bounded length. -/
def listWith (least most : Nat) (validate : Json → Except Invalid α) :
    Json → Except Invalid (List α)
  | .arr items =>
      if least ≤ items.length ∧ items.length ≤ most then items.mapM validate else .error .refused
  | _ => .error .refused

/-- A dictionary from texts to texts. -/
def textEntries (fields : Fields) : Except Invalid (List (String × String)) :=
  fields.mapM fun f => (textWith (fun _ => true) f.2).map fun text => (f.1, text)

end Fields

section Patterns

/-- A white-space character in the sense of a pattern's `\s`. -/
def patternSpace (c : Char) : Bool :=
  let n := c.toNat
  (9 ≤ n && n ≤ 13) || n == 32 || n == 133 || n == 160 || n == 5760 ||
    (8192 ≤ n && n ≤ 8202) || n == 8232 || n == 8233 || n == 8239 || n == 8287 || n == 12288

/-- The bytes that write a text. -/
def utf8Bytes (text : String) : List UInt8 := text.toByteArray.data.toList

/-- A lower-case hexadecimal digit. -/
def isLowerHex (byte : UInt8) : Bool := (48 ≤ byte && byte ≤ 57) || (97 ≤ byte && byte ≤ 102)

/-- 64 lower-case hexadecimal digits. -/
def areHex64 (bytes : List UInt8) : Bool := bytes.length == 64 && bytes.all isLowerHex

/-- `^[0-9a-f]{64}$`. -/
def isHex64 (text : String) : Bool := areHex64 (utf8Bytes text)

/-- `^sha256:[0-9a-f]{64}$`; the first seven bytes are `sha256:`. -/
def isSha256Text (text : String) : Bool :=
  match utf8Bytes text with
  | 115 :: 104 :: 97 :: 50 :: 53 :: 54 :: 58 :: digits => areHex64 digits
  | _ => false

/-- A length within bounds. -/
def lengthWithin (least most : Nat) (text : String) : Bool :=
  least ≤ text.length && text.length ≤ most

end Patterns

end Encoding
