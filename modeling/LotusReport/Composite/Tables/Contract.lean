import LotusReport.Composite.Documents
import LotusReport.Encoding.Leaves

/-!
# Table cells and their sources

A cell of a composite table names the place in the dataset that its value was
read from. The place is written as a pointer: the keys and indices on the way,
each behind a slash, with the slashes and tildes of a key escaped.
-/

namespace LotusReport.Composite

open Encoding Json

section Tables

inductive ValueType where
  | text
  | decimalReturn
  | money
  | count
deriving DecidableEq, Repr

inductive CellUnit where
  | text
  | decimalRatio
  | currencyUnits
  | portfolioCount
deriving DecidableEq, Repr

inductive DisplayUnit where
  | text
  | percent
  | percentagePoints
  | currencyUnits
  | portfolioCount
deriving DecidableEq, Repr

inductive DisplayConversion where
  | identity
  | ratioToPercentDisplay
deriving DecidableEq, Repr

inductive Availability where
  | available
  | unavailable
  | unknown
  | notApplicable
deriving DecidableEq, Repr

/-- A column as a builder states it; the currency is taken over from the selection. -/
structure CompositeColumn where
  columnId : String
  label : String
  valueType : ValueType
  unit : CellUnit
  displayUnit : DisplayUnit
  displayConversion : DisplayConversion
  displayDecimalPlaces : Option Nat
  currency : Json
deriving DecidableEq, Repr

structure CompositeCell where
  canonicalValue : Option String
  availability : Availability
  reasonCodes : List String
  sourcePointer : String
deriving DecidableEq, Repr

structure CompositeRow where
  rowId : String
  cells : List (String × CompositeCell)
deriving DecidableEq, Repr

structure CompositeTable where
  tableId : String
  title : String
  columns : List CompositeColumn
  rows : List CompositeRow
deriving DecidableEq, Repr

/-- `CALCULATION_BOUNDARY`. -/
def calculationBoundary : String :=
  "Configured-identity controlled producer custody only; no cryptographic or bank " ++
    "provenance acceptance, TWR, MWR, dispersion, contribution or model-fee calculation. " ++
    "CONTROLLED / NOT_ATTESTED."

end Tables

section Pointers

/-- `text.replace(c, new)` for one character. -/
def replaceChar (c : Char) (new : List Char) (cs : List Char) : List Char :=
  cs.flatMap fun x => if x = c then new else [x]

/-- `text.replace(ab, new)` for two characters. -/
def replacePair (a b new : Char) : List Char → List Char
  | x :: y :: cs =>
      if x = a ∧ y = b then new :: replacePair a b new cs else x :: replacePair a b new (y :: cs)
  | cs => cs

/-- `key.replace("~", "~0").replace("/", "~1")`. -/
def escapeKey (key : String) : String :=
  String.ofList (replaceChar '/' ['~', '1'] (replaceChar '~' ['~', '0'] key.toList))

/-- `part.replace("~1", "/").replace("~0", "~")`. -/
def unescapeKey (part : List Char) : String :=
  String.ofList (replacePair '~' '0' '~' (replacePair '~' '1' '/' part))

/-- `pointer.split("/")[1:]`. -/
def pointerParts (pointer : String) : List (List Char) := (pointer.toList.splitOn '/').tail

/-- An index of a list: decimal digits as `str` writes them. -/
def indexOf (key : String) : Option Nat :=
  let n := Nat.ofDigitChars 10 key.toList 0
  if key.toList.all Char.isDigit && key == toString n then some n else none

/-- The refusal of a pointer that leads nowhere. -/
def pointerInvalid : CaptureError := .evidenceRefused "COMPOSITE_REPORT_CELL_POINTER_INVALID"

/-- One step of a pointer. -/
def resolvePart (current : Json) (part : List Char) : Except CaptureError Json :=
  let key := unescapeKey part
  let found := match current with
    | .arr items => (indexOf key).bind fun n => items[n]?
    | .obj fields => Json.lookup fields key
    | _ => none
  match found with
  | some value => .ok value
  | none => .error pointerInvalid

/-- `resolve_source_pointer`. -/
def resolveSourcePointer (dataset : Json) (pointer : String) : Except CaptureError Json :=
  (pointerParts pointer).foldlM resolvePart dataset

end Pointers

section Escaping

theorem replaceChar_append (c : Char) (new xs ys : List Char) :
    replaceChar c new (xs ++ ys) = replaceChar c new xs ++ replaceChar c new ys := by
  simp [replaceChar]

/-- A character of a key as it is written in a pointer. -/
def escapedChar (c : Char) : List Char :=
  if c = '~' then ['~', '0'] else if c = '/' then ['~', '1'] else [c]

theorem toList_escapeKey (key : String) : (escapeKey key).toList = key.toList.flatMap escapedChar := by
  simp only [escapeKey, String.toList_ofList]
  induction key.toList with
  | nil => rfl
  | cons c cs ih =>
      have hcons : replaceChar '~' ['~', '0'] (c :: cs) =
          replaceChar '~' ['~', '0'] [c] ++ replaceChar '~' ['~', '0'] cs :=
        replaceChar_append _ _ [c] cs
      rw [hcons, replaceChar_append, ih, List.flatMap_cons]
      congr 1
      unfold escapedChar
      by_cases htilde : c = '~'
      · rw [htilde]
        decide
      · by_cases hslash : c = '/'
        · rw [hslash]
          decide
        · simp [replaceChar, htilde, hslash]

/-- A character of a key with its slashes restored. -/
def halfChar (c : Char) : List Char := if c = '~' then ['~', '0'] else [c]

theorem replacePair_other {a b new x : Char} {cs : List Char} (h : x ≠ a) :
    replacePair a b new (x :: cs) = x :: replacePair a b new cs := by
  cases cs with
  | nil => rfl
  | cons y cs => simp [replacePair, h]

theorem replacePair_slashes (cs : List Char) :
    replacePair '~' '1' '/' (cs.flatMap escapedChar) = cs.flatMap halfChar := by
  induction cs with
  | nil => rfl
  | cons c cs ih =>
      rw [List.flatMap_cons, List.flatMap_cons, ← ih]
      by_cases htilde : c = '~'
      · subst htilde
        have hzero : replacePair '~' '1' '/' ('0' :: cs.flatMap escapedChar) =
            '0' :: replacePair '~' '1' '/' (cs.flatMap escapedChar) :=
          replacePair_other (by decide)
        rw [show escapedChar '~' = ['~', '0'] from rfl, show halfChar '~' = ['~', '0'] from rfl]
        simp only [List.cons_append, List.nil_append, replacePair]
        rw [if_neg (by decide), hzero]
      · by_cases hslash : c = '/'
        · subst hslash
          rw [show escapedChar '/' = ['~', '1'] from rfl, show halfChar '/' = ['/'] from rfl]
          simp [replacePair]
        · have hplain : escapedChar c = [c] := by simp [escapedChar, htilde, hslash]
          have hhalf : halfChar c = [c] := by simp [halfChar, htilde]
          rw [hplain, hhalf]
          exact replacePair_other htilde

theorem replacePair_tildes (cs : List Char) :
    replacePair '~' '0' '~' (cs.flatMap halfChar) = cs := by
  induction cs with
  | nil => rfl
  | cons c cs ih =>
      rw [List.flatMap_cons]
      by_cases htilde : c = '~'
      · subst htilde
        rw [show halfChar '~' = ['~', '0'] from rfl]
        simp [replacePair, ih]
      · have hhalf : halfChar c = [c] := by simp [halfChar, htilde]
        rw [hhalf, List.singleton_append, replacePair_other htilde, ih]

/-- Escaping a key is undone, whatever characters it has. -/
theorem unescapeKey_escapeKey (key : String) : unescapeKey (escapeKey key).toList = key := by
  rw [unescapeKey, toList_escapeKey, replacePair_slashes, replacePair_tildes, String.ofList_toList]

theorem slash_not_mem_escapeKey (key : String) : '/' ∉ (escapeKey key).toList := by
  rw [toList_escapeKey, List.mem_flatMap]
  rintro ⟨c, -, hc⟩
  unfold escapedChar at hc
  split at hc
  · simp at hc
  · split at hc
    · simp at hc
    · rename_i hslash
      exact hslash (List.mem_singleton.mp hc).symm

theorem indexOf_toString (n : Nat) : indexOf (toString n) = some n := by
  have hdigits : (toString n).toList = Nat.toDigits 10 n := by simp [toString]
  have hall : (Nat.toDigits 10 n).all Char.isDigit = true := by
    rw [List.all_eq_true]
    exact fun c hc => digit_of_mem hc
  simp only [indexOf, hdigits, Nat.ofDigitChars_ten_toDigits, hall, beq_self_eq_true, Bool.and_self,
    if_true]

theorem slash_not_mem_index (n : Nat) : '/' ∉ (toString n).toList := by
  intro h
  have hdigits : (toString n).toList = Nat.toDigits 10 n := by simp [toString]
  rw [hdigits] at h
  cases digit_of_mem h

theorem unescapeKey_index (n : Nat) : unescapeKey (toString n).toList = toString n := by
  have hdigits : (toString n).toList = Nat.toDigits 10 n := by simp [toString]
  have hplain : ∀ (b new : Char) (cs : List Char), (∀ c ∈ cs, c.isDigit = true) →
      replacePair '~' b new cs = cs := by
    intro b new cs hcs
    induction cs with
    | nil => rfl
    | cons c cs ih =>
        rw [List.forall_mem_cons] at hcs
        have hne : c ≠ '~' := by
          rintro rfl
          cases hcs.1
        rw [replacePair_other hne, ih hcs.2]
  have hall : ∀ c ∈ (toString n).toList, c.isDigit = true := by
    rw [hdigits]
    exact fun c hc => digit_of_mem hc
  rw [unescapeKey, hplain _ _ _ hall, hplain _ _ _ hall, String.ofList_toList]

end Escaping

section Positions

/-- A step as a pointer writes it. -/
def segment : Step → String
  | .key name => escapeKey name
  | .index n => toString n

/-- The pointer to a position below a root. -/
def pointerTo (root : String) (path : List Step) : String :=
  path.foldl (fun pointer step => pointer ++ "/" ++ segment step) root

@[simp] theorem pointerTo_nil (root : String) : pointerTo root [] = root := rfl

@[simp] theorem pointerTo_cons (root : String) (step : Step) (path : List Step) :
    pointerTo root (step :: path) = pointerTo (root ++ "/" ++ segment step) path := rfl

theorem slash_not_mem_segment (step : Step) : '/' ∉ (segment step).toList := by
  cases step with
  | key name => exact slash_not_mem_escapeKey name
  | index n => exact slash_not_mem_index n

theorem pointerParts_append (root : String) (step : Step) :
    pointerParts (root ++ "/" ++ segment step) =
      pointerParts root ++ [(segment step).toList] := by
  have hsegment : (segment step).toList.splitOn '/' = [(segment step).toList] := by
    apply List.splitOnP_eq_singleton
    intro c hc
    apply beq_eq_false_iff_ne.mpr
    rintro rfl
    exact slash_not_mem_segment step hc
  have hroot : root.toList.splitOn '/' ≠ [] := List.splitOnP_ne_nil _ _
  have hsplit : (root.toList ++ '/' :: (segment step).toList).splitOn '/' =
      root.toList.splitOn '/' ++ (segment step).toList.splitOn '/' :=
    List.splitOnP_append_cons _ _ (by simp)
  have hchars : (root ++ "/" ++ segment step).toList = root.toList ++ '/' :: (segment step).toList := by
    simp
  rw [pointerParts, pointerParts, hchars, hsplit, hsegment, List.tail_append_of_ne_nil hroot]

theorem pointerParts_pointerTo (root : String) (path : List Step) :
    pointerParts (pointerTo root path) =
      pointerParts root ++ path.map fun step => (segment step).toList := by
  induction path generalizing root with
  | nil => simp
  | cons step path ih => rw [pointerTo_cons, ih, pointerParts_append, List.map_cons, List.append_assoc]; rfl

theorem resolvePart_key {fields : Fields} {name : String} {child : Json}
    (hfields : Distinct fields) (h : (name, child) ∈ fields) :
    resolvePart (.obj fields) (segment (.key name)).toList = .ok child := by
  simp only [resolvePart, segment, unescapeKey_escapeKey, (lookup_eq_some_iff hfields).mpr h]

theorem resolvePart_index {items : List Json} {n : Nat} {child : Json}
    (h : items[n]? = some child) :
    resolvePart (.arr items) (segment (.index n)).toList = .ok child := by
  simp only [resolvePart, segment, unescapeKey_index, indexOf_toString, Option.bind_some, h]

theorem resolve_leafAt {v leaf : Json} {path : List Step} (h : LeafAt v path leaf)
    (hv : wellFormed v = true) :
    (path.map fun step => (segment step).toList).foldlM resolvePart v = .ok leaf := by
  induction h with
  | here => rfl
  | field hmem _ ih =>
      obtain ⟨hdistinct, hall⟩ := wellFormed_obj.mp hv
      rw [List.map_cons, List.foldlM_cons, resolvePart_key hdistinct hmem]
      exact ih (hall _ hmem)
  | item hmem _ ih =>
      rw [List.map_cons, List.foldlM_cons, resolvePart_index hmem]
      exact ih (wellFormed_arr.mp hv _ (List.mem_of_getElem? hmem))

/-- Within one container the segments of different steps are different. -/
theorem segment_inj_of_leafAt {v leaf leaf' : Json} {path path' : List Step}
    (h : LeafAt v path leaf) (h' : LeafAt v path' leaf') (hv : wellFormed v = true)
    (heq : path.map segment = path'.map segment) : path = path' := by
  induction h generalizing path' leaf' with
  | here =>
      cases path' with
      | nil => rfl
      | cons step path' => cases heq
  | @field fields name child leaf path hmem hleaf ih =>
      cases h' with
      | here => cases heq
      | @field _ name' child' _ path' hmem' hleaf' =>
          rw [List.map_cons, List.map_cons, List.cons.injEq] at heq
          obtain ⟨hfirst, hrest⟩ := heq
          obtain rfl : name = name' := by
            have hkeys := congrArg (fun s : String => unescapeKey s.toList) hfirst
            simpa only [segment, unescapeKey_escapeKey] using hkeys
          obtain ⟨hdistinct, hall⟩ := wellFormed_obj.mp hv
          obtain rfl : child = child' := by
            have hfound := (lookup_eq_some_iff hdistinct).mpr hmem
            rw [(lookup_eq_some_iff hdistinct).mpr hmem'] at hfound
            exact (Option.some.inj hfound).symm
          rw [ih hleaf' (hall _ hmem) hrest]
  | @item items n child leaf path hmem hleaf ih =>
      cases h' with
      | here => cases heq
      | @item _ n' child' _ path' hmem' hleaf' =>
          rw [List.map_cons, List.map_cons, List.cons.injEq] at heq
          obtain ⟨hfirst, hrest⟩ := heq
          obtain rfl : n = n' := by
            have hindices := congrArg indexOf hfirst
            simpa only [segment, indexOf_toString, Option.some.injEq] using hindices
          obtain rfl : child = child' := by
            rw [hmem] at hmem'
            exact Option.some.inj hmem'
          rw [ih hleaf' (wellFormed_arr.mp hv _ (List.mem_of_getElem? hmem)) hrest]

/-- Different positions of leaves have different pointers. -/
theorem pointerTo_inj {v leaf leaf' : Json} {path path' : List Step} {root : String}
    (h : LeafAt v path leaf) (h' : LeafAt v path' leaf') (hv : wellFormed v = true)
    (heq : pointerTo root path = pointerTo root path') : path = path' := by
  apply segment_inj_of_leafAt h h' hv
  have hparts := congrArg pointerParts heq
  rw [pointerParts_pointerTo, pointerParts_pointerTo, List.append_cancel_left_eq] at hparts
  have htexts := congrArg (List.map String.ofList) hparts
  simpa only [List.map_map, Function.comp_def, String.ofList_toList] using htexts

end Positions

end LotusReport.Composite
