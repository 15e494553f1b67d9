import Mathlib.Data.List.Sort

/-!
# JSON values

Objects keep their fields in insertion order, and the canonical form sorts the
fields of every object by name. Floating-point numbers are carried by the text
that writes them.
-/

namespace Encoding

/-- A JSON value. -/
inductive Json where
  | null
  | bool (value : Bool)
  | int (value : Int)
  | float (text : String)
  | str (value : String)
  | arr (items : List Json)
  | obj (fields : List (String × Json))
deriving Repr

/-- Fields in order, each under its name. -/
abbrev Fields := List (String × Json)

namespace Json

section Equality

mutual

/-- Equality of values, field order included. -/
def same : Json → Json → Bool
  | null, null => true
  | bool a, bool b => a == b
  | int a, int b => a == b
  | float a, float b => a == b
  | str a, str b => a == b
  | arr as, arr bs => sameItems as bs
  | obj as, obj bs => sameFields as bs
  | _, _ => false

def sameItems : List Json → List Json → Bool
  | [], [] => true
  | a :: as, b :: bs => same a b && sameItems as bs
  | _, _ => false

def sameFields : Fields → Fields → Bool
  | [], [] => true
  | (k, a) :: as, (l, b) :: bs => k == l && same a b && sameFields as bs
  | _, _ => false

end

mutual

theorem same_iff : ∀ a b : Json, same a b = true ↔ a = b
  | null, b => by cases b <;> simp [same]
  | bool _, b => by cases b <;> simp [same]
  | int _, b => by cases b <;> simp [same]
  | float _, b => by cases b <;> simp [same]
  | str _, b => by cases b <;> simp [same]
  | arr as, b => by cases b <;> simp [same, sameItems_iff as]
  | obj as, b => by cases b <;> simp [same, sameFields_iff as]

theorem sameItems_iff : ∀ as bs : List Json, sameItems as bs = true ↔ as = bs
  | [], bs => by cases bs <;> simp [sameItems]
  | a :: as, bs => by cases bs <;> simp [sameItems, same_iff a, sameItems_iff as]

theorem sameFields_iff : ∀ as bs : Fields, sameFields as bs = true ↔ as = bs
  | [], bs => by cases bs <;> simp [sameFields]
  | (k, a) :: as, bs => by
      rcases bs with _ | ⟨⟨l, b⟩, bs⟩ <;> simp [sameFields, same_iff a, sameFields_iff as]

end

instance : DecidableEq Json := fun a b => decidable_of_iff _ (same_iff a b)

end Equality

/-- The fields of an object in the order of their names. -/
def sortFields (fields : Fields) : Fields :=
  fields.insertionSort fun a b => a.1 ≤ b.1

mutual

/-- The value with the fields of every object sorted by name. -/
def canonical : Json → Json
  | arr items => arr (canonicalItems items)
  | obj fields => obj (sortFields (canonicalFields fields))
  | value => value

def canonicalItems : List Json → List Json
  | [] => []
  | j :: js => canonical j :: canonicalItems js

def canonicalFields : Fields → Fields
  | [] => []
  | (k, j) :: fields => (k, canonical j) :: canonicalFields fields

end

/-- A nullable text. -/
def ofText? : Option String → Json
  | some text => str text
  | none => null

/-- A list of texts. -/
def ofTexts (texts : List String) : Json := arr (texts.map str)

/-- Fields by name, as a dictionary reads them. -/
def lookup (fields : Fields) (name : String) : Option Json :=
  (fields.find? fun f => f.1 == name).map Prod.snd

/-- Dictionary assignment: replace the value in place, or append the field. -/
def assign (fields : Fields) (name : String) (value : Json) :
    Fields :=
  if fields.any fun f => f.1 == name then
    fields.map fun f => if f.1 == name then (name, value) else f
  else fields ++ [(name, value)]

/-- The truth value of a JSON value in a condition: empty and zero values are false. -/
def truthy : Json → Bool
  | null => false
  | bool b => b
  | int n => n != 0
  | float text => text != "0.0" && text != "-0.0"
  | str s => s != ""
  | arr items => !items.isEmpty
  | obj fields => !fields.isEmpty

mutual

/-- Every number of the value is one that a JSON document can write. -/
def finite : Json → Bool
  | float text => text != "NaN" && text != "Infinity" && text != "-Infinity"
  | arr items => finiteItems items
  | obj fields => finiteFields fields
  | _ => true

def finiteItems : List Json → Bool
  | [] => true
  | j :: items => finite j && finiteItems items

def finiteFields : Fields → Bool
  | [] => true
  | (_, j) :: fields => finite j && finiteFields fields

end

theorem finite_arr {items : List Json} :
    finite (arr items) = true ↔ ∀ j ∈ items, finite j = true := by
  rw [finite]
  induction items with
  | nil => simp [finiteItems]
  | cons j items ih => simp [finiteItems, ih]

theorem finite_obj {fields : Fields} :
    finite (obj fields) = true ↔ ∀ f ∈ fields, finite f.2 = true := by
  rw [finite]
  induction fields with
  | nil => simp [finiteFields]
  | cons f fields ih =>
      obtain ⟨name, j⟩ := f
      rw [finiteFields, Bool.and_eq_true, ih, List.forall_mem_cons]

section Dumps

/-- The `n` lowest hexadecimal digits of a number. -/
def hexDigits : Nat → Nat → List Char
  | 0, _ => []
  | n + 1, code => hexDigits n (code / 16) ++ [Nat.digitChar (code % 16)]

/-- `\uXXXX`, or a surrogate pair for a character outside the basic plane. -/
def unicodeEscape (code : Nat) : List Char :=
  if code < 0x10000 then ['\\', 'u'] ++ hexDigits 4 code
  else
    ['\\', 'u'] ++ hexDigits 4 (0xd800 + (code - 0x10000) / 0x400) ++
      ['\\', 'u'] ++ hexDigits 4 (0xdc00 + (code - 0x10000) % 0x400)

/-- The characters that write one character of a JSON string. -/
def escapeChar (ensureAscii : Bool) (c : Char) : List Char :=
  if c = '"' then ['\\', '"']
  else if c = '\\' then ['\\', '\\']
  else if c = '\n' then ['\\', 'n']
  else if c = '\r' then ['\\', 'r']
  else if c = '\t' then ['\\', 't']
  else if c.toNat = 12 then ['\\', 'f']
  else if c.toNat = 8 then ['\\', 'b']
  else if c.toNat < 32 || (ensureAscii && 126 < c.toNat) then unicodeEscape c.toNat
  else [c]

/-- A JSON string with its quotes. -/
def quote (ensureAscii : Bool) (s : String) : String :=
  String.ofList ('"' :: s.toList.flatMap (escapeChar ensureAscii) ++ ['"'])

mutual

/-- `json.dumps` with the separators `,` and `:`. -/
def dumps (ensureAscii : Bool) : Json → String
  | null => "null"
  | bool b => if b then "true" else "false"
  | int n => toString n
  | float text => text
  | str s => quote ensureAscii s
  | arr items => "[" ++ ",".intercalate (dumpsItems ensureAscii items) ++ "]"
  | obj fields => "\x7b" ++ ",".intercalate (dumpsFields ensureAscii fields) ++ "\x7d"

def dumpsItems (ensureAscii : Bool) : List Json → List String
  | [] => []
  | j :: js => dumps ensureAscii j :: dumpsItems ensureAscii js

def dumpsFields (ensureAscii : Bool) : Fields → List String
  | [] => []
  | (k, j) :: fields =>
      (quote ensureAscii k ++ ":" ++ dumps ensureAscii j) :: dumpsFields ensureAscii fields

end

/-- The canonical text: sorted fields, ASCII only. -/
def canonicalJson (j : Json) : String := dumps true (canonical j)

example : canonicalJson (obj [("b", arr [int (-1), null]), ("a", str "x\"y")]) =
    "\x7b\"a\":\"x\\\"y\",\"b\":[-1,null]\x7d" := by decide

end Dumps

/-- Some number of the value is not finite, which strict writers refuse. -/
def hasNonFinite (j : Json) : Bool := !j.finite

end Json

end Encoding
