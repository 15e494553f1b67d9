import LotusReport.Composite.Authority
import LotusReport.Encoding.Equality
import LotusReport.Encoding.Runtime
import LotusReport.Encoding.Schema

/-!
# Operations on source documents

Admission reads decoded documents with the operations of the language:
subscripts and attribute calls that may raise, equality, iteration, and the
canonical hash that a source states about itself.
-/

namespace LotusReport.Composite

open Encoding

/-- A `datetime`: its time in microseconds, and whether that is a time of the world or of a
nameless place. -/
structure PyDatetime where
  microseconds : Int
  aware : Bool
deriving DecidableEq, Repr

/-- What admission takes from the language, its libraries and the published source schemas. -/
structure SourceLibrary where
  runtime : Runtime
  coercions : Coercions
  floatValue : String → FloatValue
  /-- The texts that convert to a finite decimal. -/
  isDecimal : String → Bool
  /-- `datetime.fromisoformat`. -/
  datetime : String → Option PyDatetime
  /-- `int(text)`. -/
  parseInt : String → Option Int
  /-- `strftime("%Y-%m")`. -/
  yearMonth : Date → String
  /-- `base64.b64decode(text, validate=True)`. -/
  base64 : String → Option (List UInt8)
  /-- The SHA-256 hex digest of bytes. -/
  sha256Bytes : List UInt8 → String
  /-- The document has no error under the schema of a product and a version. -/
  conforms : String → String → Json → Bool

section Reading

/-- `value[key]`. -/
def subscript (value : Json) (key : String) : Except CaptureError Json :=
  match value with
  | .obj fields =>
      match Json.lookup fields key with
      | some found => .ok found
      | none => .error (.raised "KeyError")
  | _ => .error (.raised "TypeError")

/-- `value.get(key)`. -/
def getItem (value : Json) (key : String) : Except CaptureError Json :=
  match value with
  | .obj fields => .ok ((Json.lookup fields key).getD .null)
  | _ => .error (.raised "AttributeError")

/-- The items that a loop over a value visits. -/
def itemsOf : Json → Except CaptureError (List Json)
  | .arr items => .ok items
  | .obj fields => .ok (fields.map fun f => .str f.1)
  | .str text => .ok (text.toList.map fun c => .str c.toString)
  | _ => .error (.raised "TypeError")

/-- The text that an operation on texts needs. -/
def textOf : Json → Except CaptureError String
  | .str text => .ok text
  | _ => .error (.raised "TypeError")

/-- `value[k₁]…[kₙ]`. -/
def readAt (value : Json) (path : List String) : Except CaptureError Json :=
  path.foldlM subscript value

/-- A text that the program writes. -/
def given (text : String) : Except CaptureError Json := .ok (.str text)

/-- A value that can be a key or a member of a set. -/
def isHashable : Json → Bool
  | .arr _ | .obj _ => false
  | _ => true

/-- The members of a set, in the order in which they were found. -/
def setOf (items : List Json) : Except CaptureError (List Json) :=
  if items.all isHashable then .ok items else .error (.raised "TypeError")

/-- Conditions joined by `or`: the first true one decides. -/
def firstTrue : List (Except CaptureError Bool) → Except CaptureError Bool
  | [] => .ok false
  | condition :: conditions => do
      if ← condition then .ok true else firstTrue conditions

/-- Conditions joined by `and`: the first false one decides. -/
def allTrue : List (Except CaptureError Bool) → Except CaptureError Bool
  | [] => .ok true
  | condition :: conditions => do
      if ← condition then allTrue conditions else .ok false

/-- `not condition`. -/
def negated (condition : Except CaptureError Bool) : Except CaptureError Bool := do
  return !(← condition)

/-- Refuse the evidence on a condition. -/
def refuseIf (condition : Except CaptureError Bool) (code : String) : Except CaptureError Unit := do
  if ← condition then .error (.evidenceRefused code) else .ok ()

theorem firstTrue_eq_false {conditions : List (Except CaptureError Bool)} :
    firstTrue conditions = .ok false ↔ ∀ condition ∈ conditions, condition = .ok false := by
  induction conditions with
  | nil => simp [firstTrue]
  | cons condition conditions ih =>
      rw [List.forall_mem_cons, ← ih]
      cases condition with
      | error e => simp [firstTrue, bind, Except.bind]
      | ok value => cases value <;> simp [firstTrue, bind, Except.bind]

theorem allTrue_eq_true {conditions : List (Except CaptureError Bool)} :
    allTrue conditions = .ok true ↔ ∀ condition ∈ conditions, condition = .ok true := by
  induction conditions with
  | nil => simp [allTrue]
  | cons condition conditions ih =>
      rw [List.forall_mem_cons, ← ih]
      cases condition with
      | error e => simp [allTrue, bind, Except.bind]
      | ok value => cases value <;> simp [allTrue, bind, Except.bind]

theorem refuseIf_eq_ok {condition : Except CaptureError Bool} {code : String} :
    refuseIf condition code = .ok () ↔ condition = .ok false := by
  cases condition with
  | error e => simp [refuseIf, bind, Except.bind]
  | ok value => cases value <;> simp [refuseIf, bind, Except.bind]

theorem negated_eq_ok {condition : Except CaptureError Bool} {value : Bool} :
    negated condition = .ok value ↔ condition = .ok !value := by
  cases condition with
  | error e => simp [negated, bind, Except.bind]
  | ok found => cases found <;> cases value <;> simp [negated, bind, Except.bind, pure, Except.pure]

theorem subscript_eq_ok {value found : Json} {key : String} :
    subscript value key = .ok found ↔
      ∃ fields, value = .obj fields ∧ Json.lookup fields key = some found := by
  cases value with
  | obj fields =>
      unfold subscript
      dsimp only
      cases h : Json.lookup fields key <;> simp [h]
  | _ => simp [subscript]

theorem readAt_cons {value found : Json} {key : String} {path : List String} :
    readAt value (key :: path) = .ok found ↔
      ∃ next, subscript value key = .ok next ∧ readAt next path = .ok found := by
  rw [readAt, List.foldlM_cons, Fallible.bind_eq_ok]
  rfl

theorem readAt_of_subscript {value next : Json} {key : String} {path : List String}
    (h : subscript value key = .ok next) : readAt value (key :: path) = readAt next path := by
  rw [readAt, List.foldlM_cons, h]
  rfl

theorem readAt_singleton {value : Json} {key : String} :
    readAt value [key] = subscript value key := by
  rw [readAt, List.foldlM_cons]
  cases subscript value key <;> rfl

theorem readAt_append_of_ok {value next : Json} {path rest : List String}
    (h : readAt value path = .ok next) : readAt value (path ++ rest) = readAt next rest := by
  rw [readAt, List.foldlM_append]
  change (readAt value path >>= _) = _
  rw [h]
  rfl

end Reading

section Library

variable (lib : SourceLibrary)

/-- `==`. -/
def SourceLibrary.eq (a b : Json) : Bool := pyEq lib.floatValue a b

/-- Equality of tuples. -/
def SourceLibrary.eqAll (as bs : List Json) : Bool := pyEqItems lib.floatValue as bs

/-- `a == b`, of two values that are read first. -/
def SourceLibrary.same (a b : Except CaptureError Json) : Except CaptureError Bool := do
  return lib.eq (← a) (← b)

/-- `a != b`, of two values that are read first. -/
def SourceLibrary.differ (a b : Except CaptureError Json) : Except CaptureError Bool :=
  negated (lib.same a b)

/-- `!=` of two tuples, whose items are read first. -/
def SourceLibrary.differAll (as bs : List (Except CaptureError Json)) :
    Except CaptureError Bool := do
  return !lib.eqAll (← as.mapM id) (← bs.mapM id)

/-- `value in items`. -/
def SourceLibrary.isIn (value : Json) (items : List Json) : Bool := items.any (lib.eq value)

/-- `a > b`, for numbers. -/
def SourceLibrary.greater (a b : Json) : Except CaptureError Bool :=
  match numberOf lib.floatValue a, numberOf lib.floatValue b with
  | some x, some y => .ok (y.lt x)
  | _, _ => .error (.raised "TypeError")

/-- `a <= b`, for numbers. -/
def SourceLibrary.atMost (a b : Json) : Except CaptureError Bool :=
  match numberOf lib.floatValue a, numberOf lib.floatValue b with
  | some x, some y => .ok (x.lt y || x.eq y)
  | _, _ => .error (.raised "TypeError")

/-- `datetime.fromisoformat(value)`. -/
def SourceLibrary.datetimeOf (value : Json) : Except CaptureError PyDatetime := do
  match lib.datetime (← textOf value) with
  | some time => .ok time
  | none => .error (.raised "ValueError")

/-- `a < b` for two times, which are both aware or both not. -/
def PyDatetime.before (a b : PyDatetime) : Except CaptureError Bool :=
  if a.aware = b.aware then .ok (decide (a.microseconds < b.microseconds))
  else .error (.raised "TypeError")

/-- `date.fromisoformat(value)`. -/
def dateOf (value : Json) : Except CaptureError CalendarDate := do
  match dateFromIsoformat (← textOf value) with
  | some date => .ok date
  | none => .error (.raised "ValueError")

/-- The first and the last day of a month. -/
def monthBounds (month : String) : Except CaptureError (CalendarDate × CalendarDate) := do
  let first ← dateOf (.str (month ++ "-01"))
  return (first, { first with day := daysInMonth first.year first.month })

theorem SourceLibrary.same_eq_true {a b : Except CaptureError Json} :
    lib.same a b = .ok true ↔ ∃ x y, a = .ok x ∧ b = .ok y ∧ lib.eq x y = true := by
  cases a with
  | error e => simp [SourceLibrary.same, bind, Except.bind]
  | ok x =>
      cases b with
      | error e => simp [SourceLibrary.same, bind, Except.bind]
      | ok y => simp [SourceLibrary.same, bind, Except.bind, pure, Except.pure]

theorem SourceLibrary.differ_eq_false {a b : Except CaptureError Json} :
    lib.differ a b = .ok false ↔ lib.same a b = .ok true := negated_eq_ok

/-- Tuples are equal when their items are, one by one. -/
theorem SourceLibrary.differAll_eq_false {as bs : List (Except CaptureError Json)} :
    lib.differAll as bs = .ok false ↔ List.Forall₂ (fun a b => lib.same a b = .ok true) as bs := by
  simp only [SourceLibrary.differAll, Fallible.bind_eq_ok, pure, Except.pure, Except.ok.injEq,
    Bool.not_eq_false']
  induction as generalizing bs with
  | nil =>
      cases bs with
      | nil => simp [pure, Except.pure, SourceLibrary.eqAll, pyEqItems]
      | cons b bs =>
          simp [List.mapM_cons, Fallible.bind_eq_ok, pure, Except.pure, SourceLibrary.eqAll]
          intro y _ ys _
          rfl
  | cons a as ih =>
      cases bs with
      | nil =>
          simp [List.mapM_cons, Fallible.bind_eq_ok, pure, Except.pure, SourceLibrary.eqAll,
            pyEqItems]
      | cons b bs =>
          rw [List.forall₂_cons, ← ih, SourceLibrary.same_eq_true]
          simp only [List.mapM_cons, Fallible.bind_eq_ok, pure, Except.pure, Except.ok.injEq, id]
          constructor
          · rintro ⟨_, ⟨x, hx, xs, hxs, rfl⟩, _, ⟨y, hy, ys, hys, rfl⟩, heq⟩
            obtain ⟨hxy, hrest⟩ := Bool.and_eq_true_iff.mp heq
            exact ⟨⟨x, y, hx, hy, hxy⟩, xs, hxs, ys, hys, hrest⟩
          · rintro ⟨⟨x, y, hx, hy, hxy⟩, xs, hxs, ys, hys, hrest⟩
            refine ⟨_, ⟨x, hx, xs, hxs, rfl⟩, _, ⟨y, hy, ys, hys, rfl⟩, ?_⟩
            exact Bool.and_eq_true_iff.mpr ⟨hxy, hrest⟩

theorem SourceLibrary.same_trans {a b c : Except CaptureError Json}
    (hab : lib.same a b = .ok true) (hbc : lib.same b c = .ok true) :
    lib.same a c = .ok true := by
  rw [SourceLibrary.same_eq_true] at *
  obtain ⟨x, y, hx, hy, hxy⟩ := hab
  obtain ⟨y', z, hy', hz, hyz⟩ := hbc
  cases hy.symm.trans hy'
  exact ⟨x, z, hx, hz, pyEq_trans x hxy hyz⟩

/-- Two values that are read equal one text. -/
theorem SourceLibrary.same_text {a : Except CaptureError Json} {text : String} :
    lib.same a (.ok (.str text)) = .ok true ↔ a = .ok (.str text) := by
  rw [SourceLibrary.same_eq_true]
  constructor
  · rintro ⟨x, y, hx, hy, hxy⟩
    cases hy
    rw [hx, pyEq_str_right.mp hxy]
  · intro ha
    exact ⟨_, _, ha, rfl, pyEq_str_right.mpr rfl⟩

theorem SourceLibrary.same_text_left {b : Except CaptureError Json} {text : String} :
    lib.same (.ok (.str text)) b = .ok true ↔ b = .ok (.str text) := by
  rw [SourceLibrary.same_eq_true]
  constructor
  · rintro ⟨x, y, hx, hy, hxy⟩
    cases hx
    rw [hy, pyEq_str_left.mp hxy]
  · intro hb
    exact ⟨_, _, rfl, hb, pyEq_str_left.mpr rfl⟩

theorem SourceLibrary.eq_text {j : Json} {text : String} :
    lib.eq j (.str text) = true ↔ j = .str text := pyEq_str_right

theorem SourceLibrary.greater_eq_true {a b : Json} : lib.greater a b = .ok true ↔
    ∃ x y, numberOf lib.floatValue a = some x ∧ numberOf lib.floatValue b = some y ∧
      y.lt x = true := by
  unfold SourceLibrary.greater
  split
  · rename_i x y hx hy
    simp [hx, hy]
  · rename_i hnone
    constructor
    · intro h
      cases h
    · rintro ⟨x, y, hx, hy, -⟩
      exact absurd hy (hnone x y hx)

theorem SourceLibrary.greater_trans {a b c : Json} (hab : lib.greater a b = .ok true)
    (hbc : lib.greater b c = .ok true) : lib.greater a c = .ok true := by
  rw [SourceLibrary.greater_eq_true] at *
  obtain ⟨x, y, hx, hy, hxy⟩ := hab
  obtain ⟨y', z, hy', hz, hyz⟩ := hbc
  cases hy.symm.trans hy'
  exact ⟨x, z, hx, hz, FloatValue.lt_trans hyz hxy⟩

/-- What exceeds a number exceeds its equals. -/
theorem SourceLibrary.greater_of_eq {a b c : Json} (hab : lib.greater a b = .ok true)
    (hbc : lib.eq b c = true) : lib.greater a c = .ok true := by
  rw [SourceLibrary.greater_eq_true] at *
  obtain ⟨x, y, hx, hy, hxy⟩ := hab
  exact ⟨x, y, hx, (numberOf_of_pyEq hy hbc).1, hxy⟩

/-- An integer that is not at most another one exceeds it. -/
theorem SourceLibrary.greater_of_not_atMost {n m : Int}
    (h : lib.atMost (.int n) (.int m) = .ok false) : lib.greater (.int n) (.int m) = .ok true := by
  have horder : ¬((n : ℚ) < m) ∧ ¬((n : ℚ) = m) := by
    simpa [SourceLibrary.atMost, numberOf, FloatValue.lt, FloatValue.eq] using h
  have hlt : (m : ℚ) < n := lt_of_le_of_ne (not_lt.mp horder.1) (Ne.symm horder.2)
  simpa [SourceLibrary.greater, numberOf, FloatValue.lt] using hlt

/-- `Model.model_validate(value)`. -/
def SourceLibrary.validate (shape : Schema) (value : Json) : Except CaptureError Unit :=
  if shape.accepts lib.coercions lib.isDecimal value then .ok ()
  else .error (.raised "ValidationError")

theorem SourceLibrary.validate_eq_ok {shape : Schema} {value : Json} :
    lib.validate shape value = .ok () ↔
      shape.accepts lib.coercions lib.isDecimal value = true := by
  unfold SourceLibrary.validate
  split <;> simp_all

theorem subscript_of_accepts {co : Coercions} {isDecimal : String → Bool} {isOpen : Bool}
    {fields : List (String × Bool × Schema)} {j : Json} {name : String} {shape : Schema}
    (h : Schema.accepts co isDecimal (.object isOpen fields) j = true)
    (hfield : (name, true, shape) ∈ fields) :
    ∃ value, subscript j name = .ok value ∧ Schema.accepts co isDecimal shape value = true := by
  obtain ⟨entries, value, rfl, hlookup, haccepts⟩ := Schema.accepts_required h hfield
  exact ⟨value, subscript_eq_ok.mpr ⟨entries, rfl, hlookup⟩, haccepts⟩

mutual

/-- The value without the hashes that its parts state. -/
def withoutHashes : Json → Json
  | .arr items => .arr (withoutHashesItems items)
  | .obj fields => .obj (withoutHashesFields fields)
  | value => value

def withoutHashesItems : List Json → List Json
  | [] => []
  | j :: items => withoutHashes j :: withoutHashesItems items

def withoutHashesFields : Fields → Fields
  | [] => []
  | (name, j) :: fields =>
      if name = "content_hash" then withoutHashesFields fields
      else (name, withoutHashes j) :: withoutHashesFields fields

end

/-- The hash of canonical content, which has no number that is not finite. -/
def SourceLibrary.contentHash (content : Json) : Except CaptureError String :=
  if content.hasNonFinite then .error (.raised "ValueError")
  else .ok ("sha256:" ++ lib.runtime.digest content)

/-- `source_hash`. -/
def SourceLibrary.sourceHash (recursive : Bool) (payload : Json) : Except CaptureError String :=
  match recursive, payload with
  | true, payload => lib.contentHash (withoutHashes payload)
  | false, .obj fields => lib.contentHash (.obj (fields.filter fun f => f.1 != "content_hash"))
  | false, _ => .error (.raised "AttributeError")

/-- `require_hash`. -/
def SourceLibrary.requireHash (recursive : Bool) (payload : Json) : Except CaptureError Unit :=
  refuseIf (do
      let stated ← getItem payload "content_hash"
      let hash ← lib.sourceHash recursive payload
      return !lib.eq stated (.str hash))
    "COMPOSITE_ELIGIBILITY_SOURCE_HASH_CONFLICT"

/-- `response_digest`. -/
def SourceLibrary.responseDigest (payload : Json) : String :=
  "sha256:" ++ lib.runtime.digest payload

end Library

end LotusReport.Composite
