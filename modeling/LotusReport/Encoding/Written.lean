import Mathlib.Data.List.Basic
import LotusReport.Encoding.Fields

/-!
# Written values

The text of a JSON value determines the value and its end: a bare token ends at
the first mark, a string at the first quote that is not escaped, and a list or
an object at its bracket. So `json.dumps` is injective on well-formed values.
-/

namespace Encoding

namespace Json

section Induction

variable {P : Json → Prop}

mutual

/-- Induction over a value and what it holds. -/
theorem ind (hnull : P null) (hbool : ∀ b, P (bool b)) (hint : ∀ n, P (int n))
    (hfloat : ∀ text, P (float text)) (hstr : ∀ s, P (str s))
    (harr : ∀ items : List Json, (∀ j ∈ items, P j) → P (arr items))
    (hobj : ∀ fields : Fields, (∀ f ∈ fields, P f.2) → P (obj fields)) :
    ∀ j, P j
  | null => hnull
  | bool b => hbool b
  | int n => hint n
  | float text => hfloat text
  | str s => hstr s
  | arr items => harr items (indItems hnull hbool hint hfloat hstr harr hobj items)
  | obj fields => hobj fields (indFields hnull hbool hint hfloat hstr harr hobj fields)

theorem indItems (hnull : P null) (hbool : ∀ b, P (bool b)) (hint : ∀ n, P (int n))
    (hfloat : ∀ text, P (float text)) (hstr : ∀ s, P (str s))
    (harr : ∀ items : List Json, (∀ j ∈ items, P j) → P (arr items))
    (hobj : ∀ fields : Fields, (∀ f ∈ fields, P f.2) → P (obj fields)) :
    ∀ items : List Json, ∀ j ∈ items, P j
  | [] => by simp
  | j :: items => by
      simp only [List.forall_mem_cons]
      exact ⟨ind hnull hbool hint hfloat hstr harr hobj j,
        indItems hnull hbool hint hfloat hstr harr hobj items⟩

theorem indFields (hnull : P null) (hbool : ∀ b, P (bool b)) (hint : ∀ n, P (int n))
    (hfloat : ∀ text, P (float text)) (hstr : ∀ s, P (str s))
    (harr : ∀ items : List Json, (∀ j ∈ items, P j) → P (arr items))
    (hobj : ∀ fields : Fields, (∀ f ∈ fields, P f.2) → P (obj fields)) :
    ∀ fields : Fields, ∀ f ∈ fields, P f.2
  | [] => by simp
  | (_, j) :: fields => by
      simp only [List.forall_mem_cons]
      exact ⟨ind hnull hbool hint hfloat hstr harr hobj j,
        indFields hnull hbool hint hfloat hstr harr hobj fields⟩

end

end Induction

section WellFormed

/-- The text of a floating-point number: it has a point or an exponent, or names a value that is
not finite. -/
def isFloatText (text : String) : Bool :=
  text == "NaN" || text == "Infinity" || text == "-Infinity" ||
    text.toList.all (fun c => c.isDigit || c == '+' || c == '-' || c == '.' || c == 'e') &&
      text.toList.any fun c => c == '.' || c == 'e'

mutual

/-- A value that a program can hold: objects are dictionaries, and floating-point numbers have
the text of one. -/
def wellFormed : Json → Bool
  | float text => isFloatText text
  | arr items => wellFormedItems items
  | obj fields => decide (fields.map Prod.fst).Nodup && wellFormedFields fields
  | _ => true

def wellFormedItems : List Json → Bool
  | [] => true
  | j :: items => wellFormed j && wellFormedItems items

def wellFormedFields : Fields → Bool
  | [] => true
  | (_, j) :: fields => wellFormed j && wellFormedFields fields

end

@[simp] theorem wellFormed_str (s : String) : wellFormed (str s) = true := rfl

theorem wellFormed_arr {items : List Json} :
    wellFormed (arr items) = true ↔ ∀ j ∈ items, wellFormed j = true := by
  rw [wellFormed]
  induction items with
  | nil => simp [wellFormedItems]
  | cons j items ih => simp [wellFormedItems, ih]

theorem wellFormedFields_iff {fields : Fields} :
    wellFormedFields fields = true ↔ ∀ f ∈ fields, wellFormed f.2 = true := by
  induction fields with
  | nil => simp [wellFormedFields]
  | cons f fields ih =>
      obtain ⟨k, j⟩ := f
      rw [wellFormedFields, Bool.and_eq_true, ih, List.forall_mem_cons]

theorem wellFormed_obj {fields : Fields} :
    wellFormed (obj fields) = true ↔
      Distinct fields ∧ ∀ f ∈ fields, wellFormed f.2 = true := by
  rw [wellFormed, Bool.and_eq_true, wellFormedFields_iff, decide_eq_true_eq]
  rfl

end WellFormed

section Tokens

/-- A character that ends a bare token. -/
def isMark (c : Char) : Bool :=
  c == '"' || c == ',' || c == ':' || c == '[' || c == ']' || c == '\x7b' || c == '\x7d'

/-- What follows a value: nothing, or a mark. -/
def Ends (cs : List Char) : Prop := ∀ c ∈ cs.head?, isMark c = true

theorem ends_cons {c : Char} {cs : List Char} (hc : isMark c = true) : Ends (c :: cs) := by
  intro d hd
  cases hd
  exact hc

/-- A bare token ends at the first mark. -/
theorem token_append_inj {t t' x y : List Char} (ht : ∀ c ∈ t, isMark c = false)
    (ht' : ∀ c ∈ t', isMark c = false) (hx : Ends x) (hy : Ends y) (h : t ++ x = t' ++ y) :
    t = t' ∧ x = y := by
  have hread : ∀ {t x : List Char}, (∀ c ∈ t, isMark c = false) → Ends x →
      (t ++ x).takeWhile (fun c => !isMark c) = t := by
    intro t x ht hx
    rw [List.takeWhile_append_of_pos (by simpa using ht)]
    cases x with
    | nil => simp
    | cons c x => simp [hx c rfl]
  have heq : t = t' := by
    rw [← hread ht hx, h, hread ht' hy]
  subst heq
  exact ⟨rfl, List.append_cancel_left h⟩

theorem not_mark_of_digit {c : Char} (h : c.isDigit = true) : isMark c = false := by
  by_contra hmark
  simp only [isMark, Bool.not_eq_false, Bool.or_eq_true, beq_iff_eq] at hmark
  rcases hmark with (((((rfl | rfl) | rfl) | rfl) | rfl) | rfl) | rfl <;> cases h

theorem toList_repr_int (n : Int) :
    n.repr.toList = if 0 ≤ n then Nat.toDigits 10 n.toNat else '-' :: Nat.toDigits 10 (-n).toNat := by
  rw [Int.repr_eq_if]
  split <;> simp

theorem digits_inj {m n : Nat} (h : Nat.toDigits 10 m = Nat.toDigits 10 n) : m = n := by
  rw [← Nat.ofDigitChars_ten_toDigits (n := m), h, Nat.ofDigitChars_ten_toDigits]

theorem digit_of_mem {n : Nat} {c : Char} (h : c ∈ Nat.toDigits 10 n) : c.isDigit = true :=
  Nat.isDigit_of_mem_toDigits (by decide) (by decide) h

/-- A character of an integer. -/
theorem char_of_int {n : Int} {c : Char} (h : c ∈ n.repr.toList) : c = '-' ∨ c.isDigit = true := by
  rw [toList_repr_int] at h
  split at h
  · exact Or.inr (digit_of_mem h)
  · exact (List.mem_cons.mp h).imp id digit_of_mem

theorem int_text_inj {m n : Int} (h : m.repr = n.repr) : m = n := by
  have hchars := congrArg String.toList h
  rw [toList_repr_int, toList_repr_int] at hchars
  have hsign : ∀ {k l : Nat}, Nat.toDigits 10 k ≠ '-' :: Nat.toDigits 10 l := by
    intro k l heq
    have hdigit := digit_of_mem (n := k) (c := '-') (heq ▸ List.mem_cons_self)
    cases hdigit
  split at hchars <;> split at hchars
  · have := digits_inj hchars
    omega
  · exact absurd hchars hsign
  · exact absurd hchars.symm hsign
  · have := digits_inj (List.cons.inj hchars).2
    omega

end Tokens

section Scalars

/-- A value that is written as a bare token. -/
def isScalar : Json → Bool
  | null | bool _ | int _ | float _ => true
  | _ => false

variable {e : Bool} {j k : Json}

theorem noMark_of_all {cs : List Char} (h : cs.all (fun c => !isMark c) = true) :
    ∀ c ∈ cs, isMark c = false := by
  intro c hc
  simpa using List.all_eq_true.mp h c hc

theorem float_chars {text : String} (h : isFloatText text = true) :
    text.toList ≠ [] ∧ (∀ c ∈ text.toList, isMark c = false) ∧
      (∃ c ∈ text.toList, c ≠ '-' ∧ c.isDigit = false) ∧
      text ≠ "null" ∧ text ≠ "true" ∧ text ≠ "false" := by
  simp only [isFloatText, Bool.or_eq_true, Bool.and_eq_true, beq_iff_eq, List.all_eq_true,
    List.any_eq_true] at h
  rcases h with ((rfl | rfl) | rfl) | ⟨hall, c, hc, hpoint⟩
  · exact ⟨by decide, noMark_of_all (by decide), ⟨'N', by decide⟩, by decide⟩
  · exact ⟨by decide, noMark_of_all (by decide), ⟨'I', by decide⟩, by decide⟩
  · exact ⟨by decide, noMark_of_all (by decide), ⟨'I', by decide⟩, by decide⟩
  · have hother : ∀ {d : Char}, d ∈ text.toList → d ≠ 'l' ∧ d ≠ 'u' ∧ isMark d = false := by
      intro d hd
      rcases hall d hd with (((hdigit | rfl) | rfl) | rfl) | rfl
      · refine ⟨?_, ?_, not_mark_of_digit hdigit⟩ <;> rintro rfl <;> cases hdigit
      all_goals decide
    refine ⟨List.ne_nil_of_mem hc, fun d hd => (hother hd).2.2, ⟨c, hc, ?_⟩, ?_, ?_, ?_⟩
    · rcases hpoint with rfl | rfl <;> decide
    · rintro rfl
      exact (hother (d := 'l') (by decide)).1 rfl
    · rintro rfl
      exact (hother (d := 'u') (by decide)).2.1 rfl
    · rintro rfl
      exact (hother (d := 'l') (by decide)).1 rfl

/-- A bare token is not empty and has no mark. -/
theorem scalar_chars (hj : isScalar j = true) (hwf : wellFormed j = true) :
    (dumps e j).toList ≠ [] ∧ ∀ c ∈ (dumps e j).toList, isMark c = false := by
  cases j with
  | null => exact ⟨by simp only [dumps]; decide, noMark_of_all (by simp only [dumps]; decide)⟩
  | bool b =>
      cases b <;>
        exact ⟨by simp only [dumps]; decide, noMark_of_all (by simp only [dumps]; decide)⟩
  | int n =>
      refine ⟨?_, fun c hc => ?_⟩
      · simp only [dumps, toString, toList_repr_int]
        split
        · exact Nat.toDigits_ne_nil
        · exact List.cons_ne_nil _ _
      · rcases char_of_int hc with rfl | hdigit
        · rfl
        · exact not_mark_of_digit hdigit
  | float text => exact ⟨(float_chars hwf).1, (float_chars hwf).2.1⟩
  | str _ | arr _ | obj _ => cases hj

/-- An integer is written with digits and a sign, no other bare token is. -/
theorem int_of_chars (hj : isScalar j = true) (hwf : wellFormed j = true)
    (h : ∀ c ∈ (dumps e j).toList, c = '-' ∨ c.isDigit = true) : ∃ n, j = int n := by
  cases j with
  | int n => exact ⟨n, rfl⟩
  | null => exact absurd (h 'n' (by simp only [dumps]; decide)) (by decide)
  | bool b =>
      cases b with
      | true => exact absurd (h 't' (by simp only [dumps]; decide)) (by decide)
      | false => exact absurd (h 'f' (by simp only [dumps]; decide)) (by decide)
  | float text =>
      obtain ⟨c, hc, hsign, hdigit⟩ := (float_chars hwf).2.2.1
      rcases h c hc with heq | hyes
      · exact absurd heq hsign
      · rw [hdigit] at hyes
        cases hyes
  | str _ | arr _ | obj _ => cases hj

/-- Bare tokens are different for different values. -/
theorem scalar_inj (hj : isScalar j = true) (hk : isScalar k = true)
    (hwfj : wellFormed j = true) (hwfk : wellFormed k = true) (h : dumps e j = dumps e k) :
    j = k := by
  by_cases hints : ∀ c ∈ (dumps e j).toList, c = '-' ∨ c.isDigit = true
  · obtain ⟨m, rfl⟩ := int_of_chars hj hwfj hints
    obtain ⟨n, rfl⟩ := int_of_chars hk hwfk (h ▸ hints)
    exact congrArg int (int_text_inj h)
  · have hnot : ∀ {n : Int}, dumps e j ≠ dumps e (int n) := by
      intro n heq
      rw [heq] at hints
      exact hints fun c hc => char_of_int hc
    cases j with
    | int n => exact absurd rfl hnot
    | null =>
        cases k with
        | null => rfl
        | bool b => cases b <;> simp [dumps] at h
        | int n => exact absurd h hnot
        | float text => exact absurd h.symm (float_chars hwfk).2.2.2.1
        | str _ | arr _ | obj _ => cases hk
    | bool b =>
        cases k with
        | null => cases b <;> simp [dumps] at h
        | bool b' => cases b <;> cases b' <;> simp [dumps] at h ⊢
        | int n => exact absurd h hnot
        | float text =>
            cases b with
            | true => exact absurd h.symm (float_chars hwfk).2.2.2.2.1
            | false => exact absurd h.symm (float_chars hwfk).2.2.2.2.2
        | str _ | arr _ | obj _ => cases hk
    | float text =>
        cases k with
        | null => exact absurd h (float_chars hwfj).2.2.2.1
        | bool b =>
            cases b with
            | true => exact absurd h (float_chars hwfj).2.2.2.2.1
            | false => exact absurd h (float_chars hwfj).2.2.2.2.2
        | int n => exact absurd h hnot
        | float text' => exact congrArg float h
        | str _ | arr _ | obj _ => cases hk
    | str _ | arr _ | obj _ => cases hj

end Scalars

section Strings

/-- The number that hexadecimal digits write. -/
def hexValue (cs : List Char) : Nat :=
  cs.foldl (fun n c => 16 * n + if c.isDigit then c.toNat - 48 else c.toNat - 87) 0

theorem hexValue_append_digit (cs : List Char) {d : Nat} (hd : d < 16) :
    hexValue (cs ++ [Nat.digitChar d]) = 16 * hexValue cs + d := by
  have hdigit : ∀ d < 16, (if (Nat.digitChar d).isDigit then (Nat.digitChar d).toNat - 48
      else (Nat.digitChar d).toNat - 87) = d := by decide
  rw [hexValue, List.foldl_append]
  simp only [List.foldl_cons, List.foldl_nil, hdigit d hd]
  rfl

theorem hexValue_hexDigits (n code : Nat) (h : code < 16 ^ n) : hexValue (hexDigits n code) = code := by
  induction n generalizing code with
  | zero =>
      have hzero : code = 0 := by simpa using h
      rw [hzero]
      rfl
  | succ n ih =>
      have hrest : code / 16 < 16 ^ n := by
        rw [Nat.div_lt_iff_lt_mul (by decide)]
        rwa [pow_succ] at h
      rw [hexDigits, hexValue_append_digit _ (Nat.mod_lt _ (by decide)), ih _ hrest]
      omega

theorem length_hexDigits (n code : Nat) : (hexDigits n code).length = n := by
  induction n generalizing code with
  | zero => rfl
  | succ n ih => rw [hexDigits, List.length_append, ih]; rfl

/-- The character behind `\u`: a surrogate is followed by its other half. -/
def readUnicode (cs : List Char) : Char × List Char :=
  let high := hexValue (cs.take 4)
  let rest := cs.drop 4
  if 0xd800 ≤ high ∧ high < 0xdc00 then
    (Char.ofNat (0x10000 + (high - 0xd800) * 0x400 + (hexValue ((rest.drop 2).take 4) - 0xdc00)),
      (rest.drop 2).drop 4)
  else (Char.ofNat high, rest)

/-- The character that a letter behind a backslash stands for. -/
def namedEscape (c : Char) : Char :=
  if c = 'n' then '\n' else if c = 'r' then '\r' else if c = 't' then '\t'
  else if c = 'f' then Char.ofNat 12 else if c = 'b' then Char.ofNat 8 else c

/-- The first character of the text of a string. -/
def readChar : List Char → Option (Char × List Char)
  | [] => none
  | c :: cs =>
      if c = '\\' then
        match cs with
        | [] => none
        | k :: cs => if k = 'u' then some (readUnicode cs) else some (namedEscape k, cs)
      else some (c, cs)

theorem readUnicode_hexDigits {code : Nat} (hcode : code < 0x10000)
    (hplain : ¬ (0xd800 ≤ code ∧ code < 0xdc00)) (x : List Char) :
    readUnicode (hexDigits 4 code ++ x) = (Char.ofNat code, x) := by
  have htake : (hexDigits 4 code ++ x).take 4 = hexDigits 4 code :=
    List.take_left' (length_hexDigits 4 code)
  have hdrop : (hexDigits 4 code ++ x).drop 4 = x := List.drop_left' (length_hexDigits 4 code)
  unfold readUnicode
  simp only [htake, hdrop, hexValue_hexDigits 4 code hcode, if_neg hplain]

theorem readUnicode_surrogates {high low : Nat} (hhigh : 0xd800 ≤ high ∧ high < 0xdc00)
    (hlow : low < 0x10000) (a b : Char) (x : List Char) :
    readUnicode (hexDigits 4 high ++ a :: b :: (hexDigits 4 low ++ x)) =
      (Char.ofNat (0x10000 + (high - 0xd800) * 0x400 + (low - 0xdc00)), x) := by
  have htake : (hexDigits 4 high ++ a :: b :: (hexDigits 4 low ++ x)).take 4 = hexDigits 4 high :=
    List.take_left' (length_hexDigits 4 high)
  have hdrop : (hexDigits 4 high ++ a :: b :: (hexDigits 4 low ++ x)).drop 4 =
      a :: b :: (hexDigits 4 low ++ x) := List.drop_left' (length_hexDigits 4 high)
  have hnext : (hexDigits 4 low ++ x).take 4 = hexDigits 4 low :=
    List.take_left' (length_hexDigits 4 low)
  have hrest : (hexDigits 4 low ++ x).drop 4 = x := List.drop_left' (length_hexDigits 4 low)
  unfold readUnicode
  simp only [htake, hdrop, hexValue_hexDigits 4 high (by omega), if_pos hhigh, List.drop_succ_cons,
    List.drop_zero, hnext, hrest, hexValue_hexDigits 4 low hlow]

/-- An escaped character is read back. -/
theorem readUnicode_unicodeEscape (c : Char) (x : List Char) :
    ∃ cs, unicodeEscape c.toNat ++ x = '\\' :: 'u' :: cs ∧ readUnicode cs = (c, x) := by
  have hvalid : c.toNat < 0xd800 ∨ 0xdfff < c.toNat ∧ c.toNat < 0x110000 := c.valid
  unfold unicodeEscape
  split
  · rename_i hsmall
    refine ⟨hexDigits 4 c.toNat ++ x, rfl, ?_⟩
    rw [readUnicode_hexDigits hsmall (by omega), Char.ofNat_toNat]
  · rename_i hlarge
    refine ⟨hexDigits 4 (0xd800 + (c.toNat - 0x10000) / 0x400) ++
      '\\' :: 'u' :: (hexDigits 4 (0xdc00 + (c.toNat - 0x10000) % 0x400) ++ x), by simp, ?_⟩
    rw [readUnicode_surrogates (by omega) (by omega)]
    have hcode : 0x10000 + (0xd800 + (c.toNat - 0x10000) / 0x400 - 0xd800) * 0x400 +
        (0xdc00 + (c.toNat - 0x10000) % 0x400 - 0xdc00) = c.toNat := by omega
    rw [hcode, Char.ofNat_toNat]

/-- The first character of a written string is read back, whatever follows. -/
theorem readChar_escapeChar (e : Bool) (c : Char) (x : List Char) :
    readChar (escapeChar e c ++ x) = some (c, x) := by
  have hchar : ∀ n, c.toNat = n → Char.ofNat n = c := by
    rintro n rfl
    exact Char.ofNat_toNat c
  unfold escapeChar
  split_ifs with hquote hslash hline hreturn htab hfeed hback hescape
  · rw [hquote]; rfl
  · rw [hslash]; rfl
  · rw [hline]; rfl
  · rw [hreturn]; rfl
  · rw [htab]; rfl
  · rw [← hchar 12 hfeed]; rfl
  · rw [← hchar 8 hback]; rfl
  · obtain ⟨cs, hcs, hread⟩ := readUnicode_unicodeEscape c x
    rw [hcs, readChar, if_pos rfl]
    simp only [if_true, hread]
  · simp [readChar, hslash]

/-- No character of a string is written with a bare quote in front. -/
theorem escapeChar_ne_quote {e : Bool} {c : Char} {x y : List Char} :
    escapeChar e c ++ x ≠ '"' :: y := by
  intro h
  have hread := readChar_escapeChar e c x
  rw [h] at hread
  obtain ⟨rfl, -⟩ : '"' = c ∧ y = x := by simpa [readChar] using hread
  simp [escapeChar] at h

/-- A string ends at the first quote that is not escaped. -/
theorem quoted_append_inj {e : Bool} : ∀ {cs ds x y : List Char},
    cs.flatMap (escapeChar e) ++ '"' :: x = ds.flatMap (escapeChar e) ++ '"' :: y →
      cs = ds ∧ x = y
  | [], [], x, y, h => by simpa using h
  | [], d :: ds, x, y, h => by
      rw [List.flatMap_cons, List.append_assoc] at h
      exact absurd h.symm escapeChar_ne_quote
  | c :: cs, [], x, y, h => by
      rw [List.flatMap_cons, List.append_assoc] at h
      exact absurd h escapeChar_ne_quote
  | c :: cs, d :: ds, x, y, h => by
      rw [List.flatMap_cons, List.flatMap_cons, List.append_assoc, List.append_assoc] at h
      have hread := congrArg readChar h
      rw [readChar_escapeChar, readChar_escapeChar, Option.some.injEq, Prod.mk.injEq] at hread
      obtain ⟨rfl, hrest⟩ := hread
      obtain ⟨rfl, rfl⟩ := quoted_append_inj hrest
      exact ⟨rfl, rfl⟩

theorem toList_quote (e : Bool) (s : String) :
    (quote e s).toList = '"' :: (s.toList.flatMap (escapeChar e) ++ ['"']) := by
  simp [quote]

theorem quote_append_inj {e : Bool} {s t : String} {x y : List Char}
    (h : (quote e s).toList ++ x = (quote e t).toList ++ y) : s = t ∧ x = y := by
  rw [toList_quote, toList_quote] at h
  simp only [List.cons_append, List.append_assoc, List.nil_append, List.cons.injEq, true_and] at h
  obtain ⟨hchars, hrest⟩ := quoted_append_inj h
  exact ⟨String.toList_inj.mp hchars, hrest⟩

end Strings

section Lists

variable {α : Type} {w : α → List Char} {close : Char} {x y : List Char}

/-- Written elements with commas between them. -/
def separated (w : α → List Char) : List α → List Char
  | [] => []
  | a :: as => w a ++ as.flatMap fun b => ',' :: w b

theorem toList_intercalate_comma (texts : List String) :
    (",".intercalate texts).toList = separated String.toList texts := by
  rw [String.toList_intercalate]
  cases texts with
  | nil => rfl
  | cons t texts =>
      induction texts generalizing t with
      | nil => simp [separated]
      | cons u texts ih =>
          have hu := ih u
          rw [List.map_cons] at hu
          rw [List.map_cons, List.map_cons, List.intercalate_cons_cons, hu]
          simp [separated]

/-- Elements behind the first one end at the closing bracket. -/
theorem rest_append_inj (hclose : isMark close = true) (hcomma : close ≠ ',') :
    ∀ {as bs : List α}, (∀ a ∈ as, ∀ b ∈ bs, ∀ x y, Ends x → Ends y → w a ++ x = w b ++ y →
        a = b ∧ x = y) →
      as.flatMap (fun a => ',' :: w a) ++ close :: x = bs.flatMap (fun b => ',' :: w b) ++ close :: y →
      as = bs ∧ x = y
  | [], [], _, h => by simpa using h
  | [], b :: bs, _, h => by
      simp only [List.flatMap_nil, List.nil_append, List.flatMap_cons, List.cons_append,
        List.cons.injEq] at h
      exact absurd h.1 hcomma
  | a :: as, [], _, h => by
      simp only [List.flatMap_nil, List.nil_append, List.flatMap_cons, List.cons_append,
        List.cons.injEq] at h
      exact absurd h.1.symm hcomma
  | a :: as, b :: bs, hw, h => by
      have hends : ∀ (cs : List α) (z : List Char),
          Ends (cs.flatMap (fun c => ',' :: w c) ++ close :: z) := by
        intro cs z
        cases cs with
        | nil => exact ends_cons hclose
        | cons c cs => exact ends_cons rfl
      simp only [List.flatMap_cons, List.cons_append, List.append_assoc, List.cons.injEq,
        true_and] at h
      obtain ⟨rfl, hrest⟩ := hw a (by simp) b (by simp) _ _ (hends as x) (hends bs y) h
      obtain ⟨rfl, rfl⟩ := rest_append_inj hclose hcomma
        (fun a ha b hb => hw a (List.mem_cons_of_mem _ ha) b (List.mem_cons_of_mem _ hb)) hrest
      exact ⟨rfl, rfl⟩

/-- A bracketed list of written elements determines them. -/
theorem separated_append_inj (hclose : isMark close = true) (hcomma : close ≠ ',')
    {as bs : List α}
    (hw : ∀ a ∈ as, ∀ b ∈ bs, ∀ x y, Ends x → Ends y → w a ++ x = w b ++ y → a = b ∧ x = y)
    (hopen : ∀ a, a ∈ as ∨ a ∈ bs → ∀ x y, w a ++ x ≠ close :: y)
    (h : separated w as ++ close :: x = separated w bs ++ close :: y) : as = bs ∧ x = y := by
  cases as with
  | nil =>
      cases bs with
      | nil => simpa [separated] using h
      | cons b bs =>
          rw [separated, separated, List.nil_append, List.append_assoc] at h
          exact absurd h.symm (hopen b (by simp) _ _)
  | cons a as =>
      cases bs with
      | nil =>
          rw [separated, separated, List.nil_append, List.append_assoc] at h
          exact absurd h (hopen a (by simp) _ _)
      | cons b bs =>
          -- a comma in front makes the first element one of the rest
          refine rest_append_inj hclose hcomma hw ?_
          simpa [separated] using h

end Lists

section Values

variable {e : Bool} {j : Json} {x y : List Char}

/-- A written field of an object. -/
def fieldChars (e : Bool) (f : String × Json) : List Char :=
  (quote e f.1).toList ++ ':' :: (dumps e f.2).toList

theorem toList_dumps_arr (items : List Json) : (dumps e (arr items)).toList =
    '[' :: (separated (fun j => (dumps e j).toList) items ++ [']']) := by
  have hitems : dumpsItems e items = items.map (dumps e) := by
    induction items with
    | nil => rfl
    | cons j items ih => rw [dumpsItems, ih, List.map_cons]
  rw [dumps, hitems, String.toList_append, String.toList_append, toList_intercalate_comma]
  cases items <;> simp [separated, List.flatMap_map]

theorem toList_dumps_obj (fields : Fields) : (dumps e (obj fields)).toList =
    '\x7b' :: (separated (fieldChars e) fields ++ ['\x7d']) := by
  have hfields : dumpsFields e fields =
      fields.map fun f => quote e f.1 ++ ":" ++ dumps e f.2 := by
    induction fields with
    | nil => rfl
    | cons f fields ih => rw [dumpsFields, ih, List.map_cons]
  rw [dumps, hfields, String.toList_append, String.toList_append, toList_intercalate_comma]
  cases fields <;> simp [separated, List.flatMap_map, fieldChars]

/-- A value that is no bare token starts with an opening mark. -/
theorem opening_of_not_scalar (hj : isScalar j = false) :
    ∃ c cs, (dumps e j).toList = c :: cs ∧ (c = '"' ∨ c = '[' ∨ c = '\x7b') := by
  cases j with
  | null | bool _ | int _ | float _ => cases hj
  | str s => exact ⟨'"', _, toList_quote e s, Or.inl rfl⟩
  | arr items => exact ⟨'[', _, toList_dumps_arr items, Or.inr (Or.inl rfl)⟩
  | obj fields => exact ⟨'\x7b', _, toList_dumps_obj fields, Or.inr (Or.inr rfl)⟩

/-- A bare token is no opening mark. -/
theorem scalar_ne_mark (hj : isScalar j = true) (hwf : wellFormed j = true) {c : Char}
    (hc : isMark c = true) : (dumps e j).toList ++ x ≠ c :: y := by
  obtain ⟨hne, hplain⟩ := scalar_chars (e := e) hj hwf
  intro h
  cases hchars : (dumps e j).toList with
  | nil => exact hne hchars
  | cons d ds =>
      rw [hchars, List.cons_append, List.cons.injEq] at h
      have hd := hplain d (by simp [hchars])
      rw [h.1, hc] at hd
      cases hd

/-- No value starts with a closing bracket. -/
theorem dumps_ne_close (hwf : wellFormed j = true) {close : Char} (hmark : isMark close = true)
    (hclose : close ≠ '"' ∧ close ≠ '[' ∧ close ≠ '\x7b') :
    (dumps e j).toList ++ x ≠ close :: y := by
  cases hj : isScalar j with
  | true => exact scalar_ne_mark hj hwf hmark
  | false =>
      obtain ⟨c, cs, hchars, hopening⟩ := opening_of_not_scalar (e := e) hj
      intro h
      rw [hchars, List.cons_append, List.cons.injEq] at h
      obtain ⟨hquote, hbracket, hbrace⟩ := hclose
      rcases hopening with rfl | rfl | rfl
      · exact hquote h.1.symm
      · exact hbracket h.1.symm
      · exact hbrace h.1.symm

/-- The text of a well-formed value determines the value and its end. -/
theorem dumps_append_inj (j : Json) : ∀ {k : Json} {x y : List Char}, wellFormed j = true →
    wellFormed k = true → Ends x → Ends y → (dumps e j).toList ++ x = (dumps e k).toList ++ y →
      j = k ∧ x = y := by
  -- what is left when one of the values is a bare token
  have hscalar : ∀ {j k : Json} {x y : List Char}, isScalar j = true → wellFormed j = true →
      wellFormed k = true → Ends x → Ends y → (dumps e j).toList ++ x = (dumps e k).toList ++ y →
        j = k ∧ x = y := by
    intro j k x y hj hwfj hwfk hx hy h
    cases hk : isScalar k with
    | true =>
        obtain ⟨htext, hrest⟩ := token_append_inj (scalar_chars hj hwfj).2 (scalar_chars hk hwfk).2
          hx hy h
        exact ⟨scalar_inj hj hk hwfj hwfk (String.toList_inj.mp htext), hrest⟩
    | false =>
        obtain ⟨c, cs, hchars, hopening⟩ := opening_of_not_scalar (e := e) hk
        rw [hchars, List.cons_append] at h
        refine absurd h (scalar_ne_mark hj hwfj ?_)
        rcases hopening with rfl | rfl | rfl <;> rfl
  have hscalar' : ∀ {j k : Json} {x y : List Char}, isScalar k = true → wellFormed j = true →
      wellFormed k = true → Ends x → Ends y → (dumps e j).toList ++ x = (dumps e k).toList ++ y →
        j = k ∧ x = y := by
    intro j k x y hk hwfj hwfk hx hy h
    obtain ⟨rfl, rfl⟩ := hscalar hk hwfk hwfj hy hx h.symm
    exact ⟨rfl, rfl⟩
  induction j using ind with
  | hnull => exact hscalar rfl
  | hbool b => exact hscalar rfl
  | hint n => exact hscalar rfl
  | hfloat text => exact hscalar rfl
  | hstr s =>
      intro k x y hj hk hx hy h
      cases k with
      | str t =>
          obtain ⟨rfl, rfl⟩ := quote_append_inj h
          exact ⟨rfl, rfl⟩
      | arr items => simp [dumps, toList_quote] at h
      | obj fields => simp [dumps, toList_quote] at h
      | null | bool _ | int _ | float _ => exact hscalar' rfl hj hk hx hy h
  | harr items ih =>
      intro k x y hj hk hx hy h
      cases k with
      | arr items' =>
          rw [toList_dumps_arr, toList_dumps_arr] at h
          simp only [List.cons_append, List.append_assoc, List.nil_append, List.cons.injEq,
            true_and] at h
          rw [wellFormed_arr] at hj hk
          obtain ⟨rfl, rfl⟩ := separated_append_inj rfl (by decide)
            (fun a ha b hb x y hx hy => ih a ha (hj a ha) (hk b hb) hx hy)
            (fun a ha x y => dumps_ne_close (ha.elim (hj a) (hk a)) rfl (by decide)) h
          exact ⟨rfl, rfl⟩
      | str t => simp [dumps, toList_quote] at h
      | obj fields => simp [toList_dumps_obj, toList_dumps_arr] at h
      | null | bool _ | int _ | float _ => exact hscalar' rfl hj hk hx hy h
  | hobj fields ih =>
      intro k x y hj hk hx hy h
      cases k with
      | obj fields' =>
          rw [toList_dumps_obj, toList_dumps_obj] at h
          simp only [List.cons_append, List.append_assoc, List.nil_append, List.cons.injEq,
            true_and] at h
          rw [wellFormed_obj] at hj hk
          have hfield : ∀ a ∈ fields, ∀ b ∈ fields', ∀ x y, Ends x → Ends y →
              fieldChars e a ++ x = fieldChars e b ++ y → a = b ∧ x = y := by
            intro a ha b hb x y hx hy h
            simp only [fieldChars, List.append_assoc, List.cons_append] at h
            obtain ⟨hname, hvalue⟩ := quote_append_inj h
            rw [List.cons.injEq] at hvalue
            obtain ⟨hsame, hrest⟩ := ih a ha (hj.2 a ha) (hk.2 b hb) hx hy hvalue.2
            exact ⟨Prod.ext hname hsame, hrest⟩
          obtain ⟨rfl, rfl⟩ := separated_append_inj rfl (by decide) hfield
            (fun a _ x y => by simp [fieldChars, toList_quote]) h
          exact ⟨rfl, rfl⟩
      | str t => simp [dumps, toList_quote] at h
      | arr items => simp [toList_dumps_obj, toList_dumps_arr] at h
      | null | bool _ | int _ | float _ => exact hscalar' rfl hj hk hx hy h

/-- Well-formed values with the same text are equal. -/
theorem dumps_inj {j k : Json} (hj : wellFormed j = true) (hk : wellFormed k = true)
    (h : dumps e j = dumps e k) : j = k := by
  have hends : Ends [] := by
    intro c hc
    cases hc
  exact (dumps_append_inj (e := e) j hj hk hends hends (by rw [h])).1

end Values

section Agreement

mutual

/-- Equality of values, whatever the order of the fields of their objects. -/
def agrees : Json → Json → Bool
  | null, null => true
  | bool a, bool b => a == b
  | int a, int b => a == b
  | float a, float b => a == b
  | str a, str b => a == b
  | arr as, arr bs => agreesItems as bs
  | obj xs, obj ys => xs.length == ys.length && agreesFields xs ys
  | _, _ => false

def agreesItems : List Json → List Json → Bool
  | [], [] => true
  | a :: as, b :: bs => agrees a b && agreesItems as bs
  | _, _ => false

/-- Every field has a field of the same name and an equal value among the others. -/
def agreesFields : Fields → Fields → Bool
  | [], _ => true
  | (k, a) :: xs, ys => (lookup ys k).any (fun b => agrees a b) && agreesFields xs ys

end

theorem agreesFields_iff {xs ys : Fields} : agreesFields xs ys = true ↔
    ∀ f ∈ xs, ∃ b, lookup ys f.1 = some b ∧ agrees f.2 b = true := by
  induction xs with
  | nil => simp [agreesFields]
  | cons f xs ih =>
      obtain ⟨k, a⟩ := f
      rw [agreesFields, Bool.and_eq_true, ih, List.forall_mem_cons, Option.any_eq_true]

theorem lookup_eq_none_iff {fields : Fields} {name : String} :
    lookup fields name = none ↔ name ∉ fields.map Prod.fst := by
  simp only [lookup, Option.map_eq_none_iff, List.find?_eq_none, beq_iff_eq, List.mem_map,
    not_exists, not_and]

theorem distinct_canonicalFields {fields : Fields} (h : Distinct fields) :
    Distinct (canonicalFields fields) := by
  rw [canonicalFields_eq_map]
  unfold Distinct
  rwa [List.map_map]

/-- Dictionaries have the same canonical form exactly when their entries have. -/
theorem canonical_obj_eq_iff {xs ys : Fields} (hxs : Distinct xs)
    (hys : Distinct ys) : canonical (obj xs) = canonical (obj ys) ↔
      ∀ name, (lookup xs name).map canonical = (lookup ys name).map canonical := by
  simp only [canonical, obj.injEq, ← lookup_canonicalFields]
  constructor
  · intro h name
    rw [← lookup_sortFields, h, lookup_sortFields]
  · exact sortFields_eq_of_lookup (distinct_canonicalFields hxs) (distinct_canonicalFields hys)

theorem canonical_arr_eq_iff {as bs : List Json} : canonical (arr as) = canonical (arr bs) ↔
    as.map canonical = bs.map canonical := by
  simp only [canonical, canonicalItems_eq_map, arr.injEq]

theorem agrees_obj_iff {xs ys : Fields} (hxs : Distinct xs) (hys : Distinct ys)
    (ih : ∀ f ∈ xs, ∀ b, lookup ys f.1 = some b →
      (agrees f.2 b = true ↔ canonical f.2 = canonical b)) :
    agrees (obj xs) (obj ys) = true ↔ canonical (obj xs) = canonical (obj ys) := by
  rw [canonical_obj_eq_iff hxs hys, agrees, Bool.and_eq_true, beq_iff_eq, agreesFields_iff]
  constructor
  · rintro ⟨hlength, hfound⟩ name
    have hnames : (xs.map Prod.fst).Perm (ys.map Prod.fst) := by
      refine (List.subperm_of_subset hxs fun k hk => ?_).perm_of_length_le (by simp [hlength])
      obtain ⟨f, hf, rfl⟩ := List.mem_map.mp hk
      obtain ⟨b, hb, -⟩ := hfound f hf
      by_contra hnone
      rw [lookup_eq_none_iff.mpr hnone] at hb
      cases hb
    cases hx : lookup xs name with
    | none =>
        rw [lookup_eq_none_iff, hnames.mem_iff, ← lookup_eq_none_iff] at hx
        rw [hx]
    | some a =>
        have hmem := (lookup_eq_some_iff hxs).mp hx
        obtain ⟨b, hb, hagrees⟩ := hfound _ hmem
        rw [hb, Option.map_some, Option.map_some, (ih _ hmem b hb).mp hagrees]
  · intro h
    have hsame : ∀ f ∈ xs, ∃ b, lookup ys f.1 = some b ∧ canonical f.2 = canonical b := by
      intro f hf
      have hname := h f.1
      rw [(lookup_eq_some_iff hxs).mpr hf, Option.map_some] at hname
      obtain ⟨b, hb, heq⟩ := Option.map_eq_some_iff.mp hname.symm
      exact ⟨b, hb, heq.symm⟩
    refine ⟨?_, fun f hf => ?_⟩
    · have hcanonical := (canonical_obj_eq_iff hxs hys).mpr h
      rw [canonical, canonical, obj.injEq] at hcanonical
      have hlength := congrArg List.length hcanonical
      simpa [sortFields, canonicalFields_eq_map] using hlength
    · obtain ⟨b, hb, heq⟩ := hsame f hf
      exact ⟨b, hb, (ih f hf b hb).mpr heq⟩

/-- The canonical form forgets the order of fields and nothing else. -/
theorem agrees_iff_canonical (j : Json) : ∀ {k : Json}, wellFormed j = true →
    wellFormed k = true → (agrees j k = true ↔ canonical j = canonical k) := by
  induction j using ind with
  | hnull => intro k _ _; cases k <;> simp [agrees, canonical]
  | hbool b => intro k _ _; cases k <;> simp [agrees, canonical]
  | hint n => intro k _ _; cases k <;> simp [agrees, canonical]
  | hfloat text => intro k _ _; cases k <;> simp [agrees, canonical]
  | hstr s => intro k _ _; cases k <;> simp [agrees, canonical]
  | harr items ih =>
      intro k hj hk
      cases k with
      | arr items' =>
          rw [canonical_arr_eq_iff, agrees]
          rw [wellFormed_arr] at hj hk
          induction items generalizing items' with
          | nil => cases items' <;> simp [agreesItems]
          | cons a items ihItems =>
              cases items' with
              | nil => simp [agreesItems]
              | cons b items' =>
                  simp only [List.forall_mem_cons] at ih hj hk
                  rw [agreesItems, Bool.and_eq_true, ih.1 hj.1 hk.1, ihItems ih.2 hj.2 items' hk.2]
                  simp
      | _ => simp [agrees, canonical]
  | hobj fields ih =>
      intro k hj hk
      cases k with
      | obj fields' =>
          rw [wellFormed_obj] at hj hk
          refine agrees_obj_iff hj.1 hk.1 fun f hf b hb => ih f hf (hj.2 f hf) ?_
          exact hk.2 _ ((lookup_eq_some_iff hk.1).mp hb)
      | _ => simp [agrees, canonical]

/-- Objects agree exactly when their entries do. -/
theorem agrees_obj_iff_lookup {xs ys : Fields} (hxs : wellFormed (obj xs) = true)
    (hys : wellFormed (obj ys) = true) : agrees (obj xs) (obj ys) = true ↔
      ∀ name, Option.Rel (fun v w => agrees v w = true) (lookup xs name) (lookup ys name) := by
  rw [agrees_iff_canonical _ hxs hys]
  rw [wellFormed_obj] at hxs hys
  rw [canonical_obj_eq_iff hxs.1 hys.1]
  refine forall_congr' fun name => ?_
  cases hx : lookup xs name with
  | none => cases lookup ys name <;> simp
  | some v =>
      cases hy : lookup ys name with
      | none => simp
      | some w =>
          have hv := hxs.2 _ ((lookup_eq_some_iff hxs.1).mp hx)
          have hw := hys.2 _ ((lookup_eq_some_iff hys.1).mp hy)
          simpa using (agrees_iff_canonical v hv hw).symm

theorem wellFormed_canonical (j : Json) : wellFormed j = true → wellFormed (canonical j) = true := by
  induction j using ind with
  | hnull | hbool _ | hint _ | hfloat _ | hstr _ => exact id
  | harr items ih =>
      simp only [canonical, wellFormed_arr, canonicalItems_eq_map, List.forall_mem_map]
      exact fun h j hj => ih j hj (h j hj)
  | hobj fields ih =>
      simp only [canonical, wellFormed_obj, mem_sortFields]
      rintro ⟨hdistinct, hfields⟩
      refine ⟨?_, fun f hf => ?_⟩
      · exact ((List.perm_insertionSort _ _).map _).nodup_iff.mpr (distinct_canonicalFields hdistinct)
      · rw [canonicalFields_eq_map] at hf
        obtain ⟨g, hg, rfl⟩ := List.mem_map.mp hf
        exact ih g hg (hfields g hg)

/-- Well-formed values have the same canonical text exactly when they agree. -/
theorem canonicalJson_eq_iff {j k : Json} (hj : wellFormed j = true) (hk : wellFormed k = true) :
    canonicalJson j = canonicalJson k ↔ agrees j k = true := by
  rw [agrees_iff_canonical j hj hk]
  constructor
  · exact dumps_inj (wellFormed_canonical j hj) (wellFormed_canonical k hk)
  · intro h
    rw [canonicalJson, h, canonicalJson]

end Agreement

end Json

end Encoding
