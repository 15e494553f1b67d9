import LotusReport.Encoding.Written
import Mathlib.Algebra.Order.Ring.Unbundled.Rat

/-!
# Equality and order of decoded values

The language compares numbers by value, whatever their type, and containers
item by item and key by key. The value of a floating-point text is given by
the platform.
-/

namespace Encoding

/-- The value of a floating-point number. -/
inductive FloatValue where
  | finite (value : ℚ)
  | infinite (negative : Bool)
  | nan
deriving DecidableEq

namespace FloatValue

/-- `==`: a NaN equals nothing. -/
def eq : FloatValue → FloatValue → Bool
  | .nan, _ => false
  | a, b => decide (a = b)

/-- `<`. -/
def lt : FloatValue → FloatValue → Bool
  | .finite a, .finite b => decide (a < b)
  | .infinite true, .finite _ => true
  | .finite _, .infinite false => true
  | .infinite true, .infinite false => true
  | _, _ => false

theorem eq_iff {a b : FloatValue} : a.eq b = true ↔ a = b ∧ a ≠ .nan := by
  cases a <;> simp [eq]

theorem eq_swap (a b : FloatValue) : a.eq b = b.eq a := by
  rw [Bool.eq_iff_iff, eq_iff, eq_iff]
  constructor <;>
  · rintro ⟨rfl, h⟩
    exact ⟨rfl, h⟩

theorem lt_trans {a b c : FloatValue} (hab : a.lt b = true) (hbc : b.lt c = true) :
    a.lt c = true := by
  cases a with
  | finite a =>
      cases b with
      | finite b =>
          cases c with
          | finite c =>
              simp only [lt, decide_eq_true_eq] at hab hbc ⊢
              exact hab.trans hbc
          | infinite negative => cases negative <;> simp_all [lt]
          | nan => simp [lt] at hbc
      | infinite negative => cases negative <;> cases c <;> simp_all [lt]
      | nan => simp [lt] at hab
  | infinite negative =>
      cases negative with
      | false => cases b <;> simp [lt] at hab
      | true =>
          cases b with
          | finite b => cases c with
            | finite c => rfl
            | infinite negative => cases negative <;> simp_all [lt]
            | nan => simp [lt] at hbc
          | infinite negative => cases negative <;> cases c <;> simp_all [lt]
          | nan => simp [lt] at hab
  | nan => cases b <;> simp [lt] at hab

end FloatValue

section Values

variable (floatValue : String → FloatValue)

/-- The number that a value is. -/
def numberOf : Json → Option FloatValue
  | .bool b => some (.finite (if b then 1 else 0))
  | .int n => some (.finite n)
  | .float text => some (floatValue text)
  | _ => none

/-- Equality of two numbers. -/
def numbersEq (a b : Json) : Bool :=
  match numberOf floatValue a, numberOf floatValue b with
  | some x, some y => x.eq y
  | _, _ => false

mutual

/-- `==` on decoded values. -/
def pyEq : Json → Json → Bool
  | .null, .null => true
  | .str a, .str b => a == b
  | .arr as, .arr bs => pyEqItems as bs
  | .obj xs, .obj ys =>
      xs.length == ys.length && ys.all (fun f => (Json.lookup xs f.1).isSome) && pyEqFields xs ys
  | a, b => numbersEq floatValue a b

def pyEqItems : List Json → List Json → Bool
  | [], [] => true
  | a :: as, b :: bs => pyEq a b && pyEqItems as bs
  | _, _ => false

def pyEqFields : Fields → Fields → Bool
  | [], _ => true
  | (k, a) :: xs, ys => (Json.lookup ys k).any (fun b => pyEq a b) && pyEqFields xs ys

end

variable {floatValue}

attribute [local simp] pyEq in
/-- Only the text itself equals a text. -/
@[simp] theorem pyEq_str_left {text : String} {j : Json} :
    pyEq floatValue (.str text) j = true ↔ j = .str text := by
  cases j with
  | str other =>
      rw [pyEq, beq_iff_eq, Json.str.injEq]
      exact eq_comm
  | _ => simp [pyEq, numbersEq, numberOf]

@[simp] theorem pyEq_str_right {text : String} {j : Json} :
    pyEq floatValue j (.str text) = true ↔ j = .str text := by
  cases j <;> simp [pyEq, numbersEq, numberOf]

theorem mem_of_lookup {fields : Fields} {name : String} {j : Json}
    (h : Json.lookup fields name = some j) : (name, j) ∈ fields := by
  unfold Json.lookup at h
  obtain ⟨f, hf, rfl⟩ := Option.map_eq_some_iff.mp h
  have hname : f.1 = name := by simpa using List.find?_some hf
  rw [← hname]
  exact List.mem_of_find?_eq_some hf

theorem pyEqFields_iff {xs ys : Fields} : pyEqFields floatValue xs ys = true ↔
    ∀ f ∈ xs, ∃ b, Json.lookup ys f.1 = some b ∧ pyEq floatValue f.2 b = true := by
  induction xs with
  | nil => simp [pyEqFields]
  | cons f xs ih =>
      obtain ⟨k, a⟩ := f
      rw [pyEqFields, Bool.and_eq_true, ih, List.forall_mem_cons, Option.any_eq_true]

theorem pyEq_obj {xs ys : Fields} :
    pyEq floatValue (.obj xs) (.obj ys) = true ↔
      xs.length = ys.length ∧ (∀ f ∈ ys, ∃ a, Json.lookup xs f.1 = some a) ∧
        ∀ f ∈ xs, ∃ b, Json.lookup ys f.1 = some b ∧ pyEq floatValue f.2 b = true := by
  rw [pyEq, Bool.and_eq_true, Bool.and_eq_true, beq_iff_eq, pyEqFields_iff, List.all_eq_true,
    and_assoc]
  simp only [Option.isSome_iff_exists]

/-- A dictionary equals one with distinct keys exactly if it has its keys and equal values. -/
theorem pyEq_obj_iff_lookup {xs ys : Fields} (hys : Distinct ys) :
    pyEq floatValue (.obj xs) (.obj ys) = true ↔ Distinct xs ∧ ∀ name,
      Option.Rel (fun a b => pyEq floatValue a b = true) (Json.lookup xs name)
        (Json.lookup ys name) := by
  have hnames : ∀ (zs : Fields) name,
      name ∈ zs.map Prod.fst ↔ ∃ j, Json.lookup zs name = some j := by
    intro zs name
    rw [← Option.ne_none_iff_exists', Ne, Json.lookup_eq_none_iff, not_not]
  rw [pyEq_obj]
  constructor
  · rintro ⟨hlength, hkeys, hvalues⟩
    have hsub : ys.map Prod.fst ⊆ xs.map Prod.fst := by
      intro name hname
      obtain ⟨f, hf, rfl⟩ := List.mem_map.mp hname
      exact (hnames xs f.1).mpr (hkeys f hf)
    have hperm : (ys.map Prod.fst).Perm (xs.map Prod.fst) := by
      apply (List.subperm_of_subset hys hsub).perm_of_length_le
      rw [List.length_map, List.length_map, hlength]
    refine ⟨hperm.nodup_iff.mp hys, fun name => ?_⟩
    cases ha : Json.lookup xs name with
    | some a =>
        obtain ⟨b, hb, hab⟩ := hvalues _ (mem_of_lookup ha)
        rw [hb]
        exact Option.Rel.some hab
    | none =>
        cases hb : Json.lookup ys name with
        | none => exact Option.Rel.none
        | some b =>
            obtain ⟨a, ha'⟩ := hkeys _ (mem_of_lookup hb)
            rw [ha] at ha'
            cases ha'
  · rintro ⟨hxs, hrel⟩
    have hsome : ∀ name, (∃ a, Json.lookup xs name = some a) ↔ ∃ b, Json.lookup ys name = some b := by
      intro name
      have hname := hrel name
      generalize Json.lookup xs name = x at hname ⊢
      generalize Json.lookup ys name = y at hname ⊢
      cases hname with
      | some hab => simp
      | none => simp
    have hperm : (xs.map Prod.fst).Perm (ys.map Prod.fst) := by
      rw [List.perm_ext_iff_of_nodup hxs hys]
      intro name
      rw [hnames, hnames, hsome]
    refine ⟨?_, ?_, ?_⟩
    · have hlength := hperm.length_eq
      rw [List.length_map, List.length_map] at hlength
      exact hlength
    · intro f hf
      exact (hsome f.1).mpr ((hnames ys f.1).mp (List.mem_map_of_mem hf))
    · intro f hf
      have hvalue := hrel f.1
      rw [(lookup_eq_some_iff hxs).mpr hf] at hvalue
      generalize Json.lookup ys f.1 = y at hvalue ⊢
      cases hvalue with
      | some hab => exact ⟨_, rfl, hab⟩

/-- Equal dictionaries have equal values at each key of the second. -/
theorem pyEq_lookup {j : Json} {ys : Fields} {name : String} {b : Json}
    (h : pyEq floatValue j (.obj ys) = true) (hb : Json.lookup ys name = some b) :
    ∃ xs a, j = .obj xs ∧ Json.lookup xs name = some a ∧ pyEq floatValue a b = true := by
  cases j with
  | obj xs =>
      obtain ⟨-, hkeys, hvalues⟩ := pyEq_obj.mp h
      obtain ⟨a, ha⟩ := hkeys _ (mem_of_lookup hb)
      obtain ⟨b', hb', hab⟩ := hvalues _ (mem_of_lookup ha)
      cases hb.symm.trans hb'
      exact ⟨xs, a, rfl, ha, hab⟩
  | _ => simp [pyEq, numbersEq, numberOf] at h

@[simp] theorem pyEq_null_left {j : Json} : pyEq floatValue .null j = true ↔ j = .null := by
  cases j <;> simp [pyEq, numbersEq, numberOf]

/-- A number is compared by its value. -/
theorem pyEq_of_number {a : Json} {x : FloatValue} (ha : numberOf floatValue a = some x)
    (b : Json) : pyEq floatValue a b = numbersEq floatValue a b := by
  cases a <;> cases b <;> first | rfl | simp [numberOf] at ha

/-- Equal values are the same number, if they are numbers. -/
theorem numberOf_of_pyEq {a b : Json} {x : FloatValue} (ha : numberOf floatValue a = some x)
    (h : pyEq floatValue a b = true) : numberOf floatValue b = some x ∧ x ≠ .nan := by
  rw [pyEq_of_number ha, numbersEq, ha] at h
  cases hb : numberOf floatValue b with
  | none => simp [hb] at h
  | some y =>
      rw [hb] at h
      obtain ⟨rfl, hnan⟩ := FloatValue.eq_iff.mp h
      exact ⟨rfl, hnan⟩

theorem pyEq_trans_number {a b c : Json} {x : FloatValue} (ha : numberOf floatValue a = some x)
    (hab : pyEq floatValue a b = true) (hbc : pyEq floatValue b c = true) :
    pyEq floatValue a c = true := by
  obtain ⟨hb, hnan⟩ := numberOf_of_pyEq ha hab
  obtain ⟨hc, -⟩ := numberOf_of_pyEq hb hbc
  rw [pyEq_of_number ha, numbersEq, ha, hc]
  exact FloatValue.eq_iff.mpr ⟨rfl, hnan⟩

theorem pyEqItems_trans {as : List Json}
    (ih : ∀ a ∈ as, ∀ {b c : Json}, pyEq floatValue a b = true → pyEq floatValue b c = true →
      pyEq floatValue a c = true) :
    ∀ {bs cs : List Json}, pyEqItems floatValue as bs = true → pyEqItems floatValue bs cs = true →
      pyEqItems floatValue as cs = true := by
  induction as with
  | nil =>
      intro bs cs hab hbc
      cases bs with
      | nil => exact hbc
      | cons b bs => simp [pyEqItems] at hab
  | cons a as iha =>
      intro bs cs hab hbc
      cases bs with
      | nil => simp [pyEqItems] at hab
      | cons b bs =>
          cases cs with
          | nil => simp [pyEqItems] at hbc
          | cons c cs =>
              simp only [pyEqItems, Bool.and_eq_true] at hab hbc ⊢
              constructor
              · exact ih a List.mem_cons_self hab.1 hbc.1
              · exact iha (fun a' ha' => ih a' (List.mem_cons_of_mem a ha')) hab.2 hbc.2

/-- Equality is transitive. -/
theorem pyEq_trans (a : Json) : ∀ {b c : Json}, pyEq floatValue a b = true →
    pyEq floatValue b c = true → pyEq floatValue a c = true := by
  induction a using Json.ind with
  | hnull =>
      intro b c hab hbc
      rw [pyEq_null_left] at hab
      rwa [hab] at hbc
  | hbool value => exact fun hab hbc => pyEq_trans_number rfl hab hbc
  | hint value => exact fun hab hbc => pyEq_trans_number rfl hab hbc
  | hfloat text => exact fun hab hbc => pyEq_trans_number rfl hab hbc
  | hstr text =>
      intro b c hab hbc
      rw [pyEq_str_left] at hab
      rwa [hab] at hbc
  | harr items ih =>
      intro b c hab hbc
      cases b with
      | arr bs =>
          cases c with
          | arr cs => exact pyEqItems_trans (fun a ha => ih a ha) hab hbc
          | _ => simp [pyEq, numbersEq, numberOf] at hbc
      | _ => simp [pyEq, numbersEq, numberOf] at hab
  | hobj fields ih =>
      intro b c hab hbc
      cases b with
      | obj ys =>
          cases c with
          | obj zs =>
              rw [pyEq_obj] at hab hbc ⊢
              refine ⟨hab.1.trans hbc.1, ?_, ?_⟩
              · intro f hf
                obtain ⟨y, hy⟩ := hbc.2.1 f hf
                exact hab.2.1 (f.1, y) (mem_of_lookup hy)
              · intro f hf
                obtain ⟨y, hy, hfy⟩ := hab.2.2 f hf
                obtain ⟨z, hz, hyz⟩ := hbc.2.2 _ (mem_of_lookup hy)
                exact ⟨z, hz, ih f hf hfy hyz⟩
          | _ => simp [pyEq, numbersEq, numberOf] at hbc
      | _ => simp [pyEq, numbersEq, numberOf] at hab

theorem pyEq_of_number_right {a b : Json} {y : FloatValue} (hb : numberOf floatValue b = some y) :
    pyEq floatValue a b = numbersEq floatValue b a := by
  have hswap : numbersEq floatValue a b = numbersEq floatValue b a := by
    unfold numbersEq
    rw [hb]
    cases numberOf floatValue a with
    | none => rfl
    | some x => exact FloatValue.eq_swap x y
  rw [← hswap]
  cases a <;> cases b <;> first | rfl | simp [numberOf] at hb

/-- Equality with a number is symmetric. -/
theorem pyEq_symm_number {a b : Json} {y : FloatValue} (hb : numberOf floatValue b = some y)
    (h : pyEq floatValue a b = true) : pyEq floatValue b a = true := by
  rwa [pyEq_of_number hb, ← pyEq_of_number_right hb]

/-- Equality with a value whose keys are distinct is symmetric. -/
theorem pyEq_symm (b : Json) : ∀ {a : Json}, Json.wellFormed b = true → pyEq floatValue a b = true →
    pyEq floatValue b a = true := by
  induction b using Json.ind with
  | hnull =>
      intro a _ h
      cases a <;> simp [pyEq, numbersEq, numberOf] at h ⊢
  | hbool value => exact fun _ h => pyEq_symm_number rfl h
  | hint value => exact fun _ h => pyEq_symm_number rfl h
  | hfloat text => exact fun _ h => pyEq_symm_number rfl h
  | hstr text =>
      intro a _ h
      rw [pyEq_str_right] at h
      rw [h, pyEq_str_left]
  | harr items ih =>
      intro a hwf h
      cases a with
      | arr as =>
          rw [Json.wellFormed_arr] at hwf
          rw [pyEq] at h ⊢
          induction items generalizing as with
          | nil =>
              cases as with
              | nil => rfl
              | cons a as => simp [pyEqItems] at h
          | cons b items ihItems =>
              cases as with
              | nil => simp [pyEqItems] at h
              | cons a as =>
                  rw [List.forall_mem_cons] at hwf
                  simp only [pyEqItems, Bool.and_eq_true] at h ⊢
                  exact ⟨ih b List.mem_cons_self hwf.1 h.1,
                    ihItems (fun b' hb' => ih b' (List.mem_cons_of_mem b hb')) hwf.2 as h.2⟩
      | _ => simp [pyEq, numbersEq, numberOf] at h
  | hobj fields ih =>
      intro a hwf h
      cases a with
      | obj xs =>
          rw [Json.wellFormed_obj] at hwf
          obtain ⟨hxs, hrel⟩ := (pyEq_obj_iff_lookup hwf.1).mp h
          rw [pyEq_obj_iff_lookup hxs]
          refine ⟨hwf.1, fun name => ?_⟩
          have hname := hrel name
          cases hvalue : Json.lookup fields name with
          | none =>
              rw [hvalue] at hname
              generalize Json.lookup xs name = x at hname ⊢
              cases hname with
              | none => exact Option.Rel.none
          | some y =>
              rw [hvalue] at hname
              generalize Json.lookup xs name = x at hname ⊢
              have hmem := mem_of_lookup hvalue
              cases hname with
              | some hxy => exact Option.Rel.some (ih _ hmem (hwf.2 _ hmem) hxy)
      | _ => simp [pyEq, numbersEq, numberOf] at h

end Values

end Encoding
