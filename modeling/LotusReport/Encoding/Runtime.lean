import LotusReport.Encoding.Json

/-!
# Platform functions

What the program takes from its platform beyond plain data: the digest of a
text and the table of printable characters. `pyRepr` and `pyStr` are the
language's two conversions of a JSON value to text.
-/

namespace Encoding

/-- The SHA-256 hex digest of a text, and `str.isprintable` of one character. -/
structure Runtime where
  sha256 : String → String
  isPrintable : Char → Bool

/-- A platform whose digest is the text itself, for closed examples. -/
def Runtime.verbatim : Runtime := ⟨id, fun _ => true⟩

/-- The digest of the canonical text of a value. -/
def Runtime.digest (py : Runtime) (j : Json) : String := py.sha256 (Json.canonicalJson j)

/-- The quote that `repr` chooses for a text. -/
def reprQuote (cs : List Char) : Char :=
  if cs.contains (Char.ofNat 39) && !cs.contains '"' then '"' else Char.ofNat 39

/-- The characters that write one character inside a quoted text. -/
def reprChar (py : Runtime) (mark c : Char) : List Char :=
  if c = mark || c = '\\' then ['\\', c]
  else if c = '\t' then ['\\', 't']
  else if c = '\n' then ['\\', 'n']
  else if c = '\r' then ['\\', 'r']
  else if c.toNat < 32 || c.toNat = 127 then ['\\', 'x'] ++ Json.hexDigits 2 c.toNat
  else if c.toNat < 127 || py.isPrintable c then [c]
  else if c.toNat < 0x100 then ['\\', 'x'] ++ Json.hexDigits 2 c.toNat
  else if c.toNat < 0x10000 then ['\\', 'u'] ++ Json.hexDigits 4 c.toNat
  else ['\\', 'U'] ++ Json.hexDigits 8 c.toNat

/-- `repr` of a text. -/
def reprText (py : Runtime) (s : String) : String :=
  let mark := reprQuote s.toList
  String.ofList (mark :: s.toList.flatMap (reprChar py mark) ++ [mark])

mutual

/-- `repr` of a value read from JSON. -/
def pyRepr (py : Runtime) : Json → String
  | .null => "None"
  | .bool b => if b then "True" else "False"
  | .int n => toString n
  | .float text => text
  | .str s => reprText py s
  | .arr items => "[" ++ ", ".intercalate (pyReprItems py items) ++ "]"
  | .obj fields => "\x7b" ++ ", ".intercalate (pyReprFields py fields) ++ "\x7d"

def pyReprItems (py : Runtime) : List Json → List String
  | [] => []
  | j :: js => pyRepr py j :: pyReprItems py js

def pyReprFields (py : Runtime) : Fields → List String
  | [] => []
  | (k, j) :: fields => (reprText py k ++ ": " ++ pyRepr py j) :: pyReprFields py fields

end

/-- `str` of a value read from JSON: a text is itself. -/
def pyStr (py : Runtime) : Json → String
  | .str s => s
  | j => pyRepr py j

/-- `sorted(texts)`. -/
def sortedTexts (texts : List String) : List String := texts.insertionSort fun a b => a ≤ b

/-- `sorted(set(texts))`. -/
def sortedSet (texts : List String) : List String := sortedTexts texts.dedup

end Encoding
