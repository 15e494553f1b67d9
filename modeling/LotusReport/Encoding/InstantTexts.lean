import LotusReport.Encoding.DayCount
import LotusReport.Encoding.Days
import Mathlib.Data.String.Basic

/-!
# The order of instant texts

The ISO text of an instant has a part of fixed width, down to the second, and a
rest that is shorter when there is no fraction. The fixed parts compare as the
seconds do, and the rests as the ranks of `Timestamp`, so texts compare as
`Timestamp` says.
-/

namespace Encoding

section Widths

/-- Texts that begin with parts of one length compare by these parts first. -/
theorem append_lt_append_iff {as bs xs ys : List Char} (h : as.length = bs.length) :
    as ++ xs < bs ++ ys ↔ as < bs ∨ as = bs ∧ xs < ys := by
  induction as generalizing bs with
  | nil =>
      cases bs with
      | nil => simp
      | cons b bs => cases h
  | cons a as ih =>
      cases bs with
      | nil => cases h
      | cons b bs =>
          rw [List.cons_append, List.cons_append, List.cons_lt_cons_iff, List.cons_lt_cons_iff,
            ih (Nat.succ.inj h), List.cons.injEq]
          tauto

theorem mul_add_lt_mul_add {power x y m n : Nat} (hx : x < power) (h : m < n) :
    power * m + x < power * n + y := by
  calc power * m + x
      < power * m + power := Nat.add_lt_add_left hx _
    _ = power * (m + 1) := (Nat.mul_succ power m).symm
    _ ≤ power * n := Nat.mul_le_mul_left _ h
    _ ≤ power * n + y := Nat.le_add_right _ _

/-- The number that a digit stands for. -/
theorem digit_le {c : Char} (h : c.isDigit = true) : 48 ≤ c.toNat ∧ c.toNat ≤ 57 :=
  Char.isDigit_iff_toNat.mp h

theorem ofDigitChars_lt {cs : List Char} (h : ∀ c ∈ cs, c.isDigit = true) :
    Nat.ofDigitChars 10 cs 0 < 10 ^ cs.length := by
  induction cs with
  | nil => simp
  | cons c cs ih =>
      have hrest := ih fun d hd => h d (List.mem_cons_of_mem c hd)
      have hdigit : 10 * 0 + (c.toNat - 48) < 10 := by
        have hbounds := digit_le (h c List.mem_cons_self)
        omega
      rw [Nat.ofDigitChars_cons, Nat.ofDigitChars_eq_ofDigitChars_zero, List.length_cons, pow_succ]
      exact mul_add_lt_mul_add (y := 0) hrest hdigit

/-- Digits of one length compare as the numbers that they write. -/
theorem digits_lt_iff {cs ds : List Char} (hcs : ∀ c ∈ cs, c.isDigit = true)
    (hds : ∀ d ∈ ds, d.isDigit = true) (h : cs.length = ds.length) :
    cs < ds ↔ Nat.ofDigitChars 10 cs 0 < Nat.ofDigitChars 10 ds 0 := by
  induction cs generalizing ds with
  | nil =>
      cases ds with
      | nil => simp
      | cons d ds => cases h
  | cons c cs ih =>
      cases ds with
      | nil => cases h
      | cons d ds =>
          have hlength : cs.length = ds.length := Nat.succ.inj h
          have hcs' : ∀ c ∈ cs, c.isDigit = true := fun x hx => hcs x (List.mem_cons_of_mem c hx)
          have hds' : ∀ d ∈ ds, d.isDigit = true := fun x hx => hds x (List.mem_cons_of_mem d hx)
          have hc := digit_le (hcs c List.mem_cons_self)
          have hd := digit_le (hds d List.mem_cons_self)
          have hltc := ofDigitChars_lt hcs'
          have hltd := ofDigitChars_lt hds'
          have hchar : c < d ↔ c.toNat < d.toNat := Iff.rfl
          have hsame : c = d ↔ c.toNat = d.toNat := Char.toNat_inj.symm
          have hzero : '0'.toNat = 48 := rfl
          have hvalue := @Nat.ofDigitChars_eq_ofDigitChars_zero cs (10 * 0 + (c.toNat - 48))
          have hvalue' := @Nat.ofDigitChars_eq_ofDigitChars_zero ds (10 * 0 + (d.toNat - 48))
          rw [List.cons_lt_cons_iff, ih hcs' hds' hlength, Nat.ofDigitChars_cons,
            Nat.ofDigitChars_cons, hzero, hvalue, hvalue', hlength, hchar, hsame]
          rw [hlength] at hltc
          rcases lt_trichotomy c.toNat d.toNat with hless | heq | hgreater
          · exact iff_of_true (.inl hless) (mul_add_lt_mul_add hltc (by omega))
          · rw [heq]
            omega
          · have hback := @mul_add_lt_mul_add _ _ (Nat.ofDigitChars 10 cs 0)
              (10 * 0 + (d.toNat - 48)) (10 * 0 + (c.toNat - 48)) hltd (by omega)
            exact iff_of_false (by omega) (lt_asymm hback)

variable {width m n : Nat} {xs ys : List Char}

/-- Numbers of one width compare first, and then what follows them. -/
theorem padded_append_lt_iff (hwidth : 0 < width) (hm : m < 10 ^ width) (hn : n < 10 ^ width) :
    (padded width m).toList ++ xs < (padded width n).toList ++ ys ↔ m < n ∨ m = n ∧ xs < ys := by
  have hlength : (padded width m).toList.length = (padded width n).toList.length := by
    rw [length_padded hwidth hm, length_padded hwidth hn]
  have hsame : (padded width m).toList = (padded width n).toList ↔ m = n := by
    constructor
    · exact fun heq => padded_inj (String.ext heq)
    · rintro rfl
      rfl
  rw [append_lt_append_iff hlength, digits_lt_iff (fun _ => digit_of_padded)
    (fun _ => digit_of_padded) hlength, ofDigitChars_padded, ofDigitChars_padded, hsame]

end Widths

section Replacement

/-- `str.replace` on characters; the first argument counts the characters of an occurrence that are
still to be skipped. -/
def replaceFrom (old new : List Char) : Nat → List Char → List Char
  | _, [] => []
  | skipped + 1, _ :: cs => replaceFrom old new skipped cs
  | 0, c :: cs =>
      if old.isPrefixOf (c :: cs) then new ++ replaceFrom old new (old.length - 1) cs
      else c :: replaceFrom old new 0 cs

/-- `str.replace(old, new)` with a text `old` that is not empty. -/
def replaceText (old new s : String) : String :=
  String.ofList (replaceFrom old.toList new.toList 0 s.toList)

/-- Where the first character of an occurrence does not stand, nothing is replaced. -/
theorem replaceFrom_append {o : Char} {old new cs rest : List Char} (h : o ∉ cs) :
    replaceFrom (o :: old) new 0 (cs ++ rest) = cs ++ replaceFrom (o :: old) new 0 rest := by
  induction cs with
  | nil => rfl
  | cons c cs ih =>
      rw [List.mem_cons, not_or] at h
      have hnot : (o :: old).isPrefixOf (c :: (cs ++ rest)) = false := by
        simp [List.isPrefixOf, h.1]
      rw [List.cons_append, replaceFrom, if_neg (by simp [hnot]), ih h.2, List.cons_append]

end Replacement

section Moments

/-- The instants from the start of year 1 to the end of year 9999. -/
def InCalendar (t : Int) : Prop := -62135596800000000 ≤ t ∧ t < 253402300800000000

instance (t : Int) : Decidable (InCalendar t) := inferInstanceAs (Decidable (_ ∧ _))

/-- The characters of an instant's text down to the second. -/
def stemOf (t : Int) : List Char :=
  let day := (t / 1000000 / 86400 + epochDays).toNat
  let time := (t / 1000000 % 86400).toNat
  (padded 4 (CalendarDate.ofDays day).year).toList ++
    '-' :: ((padded 2 (CalendarDate.ofDays day).month).toList ++
    '-' :: ((padded 2 (CalendarDate.ofDays day).day).toList ++
    'T' :: ((padded 2 (time / 3600)).toList ++ ':' :: ((padded 2 (time / 60 % 60)).toList ++
    ':' :: (padded 2 (time % 60)).toList))))

/-- The characters of the fraction of a second. -/
def fractionOf (t : Int) : List Char :=
  if (t % 1000000).toNat = 0 then [] else '.' :: (padded 6 (t % 1000000).toNat).toList

theorem toList_isoText (t : Int) :
    (isoText t).toList = stemOf t ++ (fractionOf t ++ "+00:00".toList) := by
  unfold isoText stemOf fractionOf
  by_cases hzero : (t % 1000000).toNat = 0
  · simp [hzero, toList_isoformat]
  · simp [hzero, toList_isoformat]

variable {a b : Int} {xs ys : List Char}

/-- The fixed parts of two texts compare as the seconds do. -/
theorem stemOf_append_lt_iff (ha : InCalendar a) (hb : InCalendar b) :
    stemOf a ++ xs < stemOf b ++ ys ↔
      a / 1000000 < b / 1000000 ∨ a / 1000000 = b / 1000000 ∧ xs < ys := by
  obtain ⟨ha, ha'⟩ := ha
  obtain ⟨hb, hb'⟩ := hb
  have hday : (a / 1000000 / 86400 + epochDays).toNat < 3652059 := by
    unfold epochDays
    omega
  have hday' : (b / 1000000 / 86400 + epochDays).toNat < 3652059 := by
    unfold epochDays
    omega
  have horder := before_ofDays_iff hday hday'
  have horder' := before_ofDays_iff hday' hday
  rw [CalendarDate.before_iff_lex] at horder horder'
  obtain ⟨hyear, hmonth, hdate⟩ := fits_of_valid (valid_ofDays hday)
  obtain ⟨hyear', hmonth', hdate'⟩ := fits_of_valid (valid_ofDays hday')
  have hdays : (a / 1000000 / 86400 + epochDays).toNat < (b / 1000000 / 86400 + epochDays).toNat ↔
      a / 1000000 / 86400 < b / 1000000 / 86400 := by
    unfold epochDays
    omega
  have hdays' : (b / 1000000 / 86400 + epochDays).toNat < (a / 1000000 / 86400 + epochDays).toNat ↔
      b / 1000000 / 86400 < a / 1000000 / 86400 := by
    unfold epochDays
    omega
  rw [hdays] at horder
  rw [hdays'] at horder'
  have hhour : (a / 1000000 % 86400).toNat / 3600 < 10 ^ 2 := by omega
  have hhour' : (b / 1000000 % 86400).toNat / 3600 < 10 ^ 2 := by omega
  have hminute : (a / 1000000 % 86400).toNat / 60 % 60 < 10 ^ 2 := by omega
  have hminute' : (b / 1000000 % 86400).toNat / 60 % 60 < 10 ^ 2 := by omega
  have hsecond : (a / 1000000 % 86400).toNat % 60 < 10 ^ 2 := by omega
  have hsecond' : (b / 1000000 % 86400).toNat % 60 < 10 ^ 2 := by omega
  unfold stemOf
  simp only [List.append_assoc, List.cons_append]
  generalize CalendarDate.ofDays (a / 1000000 / 86400 + epochDays).toNat = d at *
  generalize CalendarDate.ofDays (b / 1000000 / 86400 + epochDays).toNat = e at *
  rw [padded_append_lt_iff (by decide) hyear hyear', List.cons_lt_cons_self,
    padded_append_lt_iff (by decide) hmonth hmonth', List.cons_lt_cons_self,
    padded_append_lt_iff (by decide) hdate hdate', List.cons_lt_cons_self,
    padded_append_lt_iff (by decide) hhour hhour', List.cons_lt_cons_self,
    padded_append_lt_iff (by decide) hminute hminute', List.cons_lt_cons_self,
    padded_append_lt_iff (by decide) hsecond hsecond']
  by_cases hrest : xs < ys
  · simp only [hrest, and_true]
    omega
  · simp only [hrest, and_false, or_false]
    omega

/-- The fixed part has digits and separators only. -/
theorem plus_notMem_stemOf (t : Int) : '+' ∉ stemOf t := by
  have hdigits : ∀ width n, '+' ∉ (padded width n).toList := by
    intro width n h
    have hdigit := digit_of_padded h
    cases hdigit
  simp [stemOf, hdigits]

theorem plus_notMem_fractionOf (t : Int) : '+' ∉ fractionOf t := by
  unfold fractionOf
  split
  · simp
  · rw [List.mem_cons, not_or]
    exact ⟨by decide, fun h => by cases digit_of_padded h⟩

end Moments

namespace Timestamp

/-- The text itself: `isoformat`, as it is or with `Z` in the place of `+00:00`. -/
def text (t : Timestamp) : String :=
  if t.offset then isoText t.instant else replaceText "+00:00" "Z" (isoText t.instant)

/-- The offset of the text. -/
def suffix (t : Timestamp) : List Char := if t.offset then "+00:00".toList else ['Z']

theorem toList_text (t : Timestamp) :
    t.text.toList = stemOf t.instant ++ (fractionOf t.instant ++ t.suffix) := by
  unfold text suffix
  cases t.offset with
  | true => exact toList_isoText t.instant
  | false =>
      have hquiet : '+' ∉ stemOf t.instant ++ fractionOf t.instant := by
        rw [List.mem_append, not_or]
        exact ⟨plus_notMem_stemOf _, plus_notMem_fractionOf _⟩
      have hreplaced : replaceFrom "+00:00".toList "Z".toList 0 "+00:00".toList = ['Z'] := by decide
      rw [if_neg (by decide), if_neg (by decide), replaceText, String.toList_ofList, toList_isoText,
        ← List.append_assoc]
      exact (replaceFrom_append hquiet).trans (by rw [← List.append_assoc]; exact congrArg _ hreplaced)

variable {a b : Timestamp}

/-- The rest of a text at the start of a second. -/
theorem rest_of_start {t : Timestamp} (h : (t.instant % 1000000).toNat = 0) :
    fractionOf t.instant ++ t.suffix = t.suffix ∧
      t.suffixRank = if t.offset then 0 else 2000001 := by
  have hzero : t.instant % 1000000 = 0 := by
    have hpos : 0 ≤ t.instant % 1000000 := Int.emod_nonneg _ (by decide)
    rw [← Int.toNat_of_nonneg hpos, h]
    rfl
  constructor
  · rw [fractionOf, if_pos h, List.nil_append]
  · rw [suffixRank, fraction, if_pos hzero]

/-- The rest of a text with a fraction. -/
theorem rest_of_fraction {t : Timestamp} {n : Nat} (h : (t.instant % 1000000).toNat = n)
    (hn : n ≠ 0) : fractionOf t.instant ++ t.suffix = '.' :: ((padded 6 n).toList ++ t.suffix) ∧
      t.suffixRank = 2 * (n : Int) + if t.offset then 0 else 1 := by
  have hvalue : t.instant % 1000000 = n := by
    have hpos : 0 ≤ t.instant % 1000000 := Int.emod_nonneg _ (by decide)
    rw [← Int.toNat_of_nonneg hpos, h]
  have hne : (n : Int) ≠ 0 := by exact_mod_cast hn
  constructor
  · rw [fractionOf, h, if_neg hn, List.cons_append]
  · rw [suffixRank, fraction, hvalue, if_neg hne]

theorem suffix_lt_point (t : Timestamp) (xs : List Char) : t.suffix < '.' :: xs ↔ t.offset = true := by
  unfold suffix
  cases t.offset <;> simp [List.cons_lt_cons_iff]

theorem point_lt_suffix (t : Timestamp) (xs : List Char) :
    '.' :: xs < t.suffix ↔ t.offset = false := by
  unfold suffix
  cases t.offset <;> simp [List.cons_lt_cons_iff]

theorem suffix_lt_suffix : a.suffix < b.suffix ↔ a.offset = true ∧ b.offset = false := by
  unfold suffix
  cases a.offset <;> cases b.offset <;> simp [List.cons_lt_cons_iff]

theorem fraction_lt (t : Timestamp) : (t.instant % 1000000).toNat < 1000000 := by
  have hless : t.instant % 1000000 < 1000000 := Int.emod_lt_of_pos _ (by decide)
  have hpos : 0 ≤ t.instant % 1000000 := Int.emod_nonneg _ (by decide)
  exact (Int.toNat_lt hpos).mpr hless

/-- Within one second the texts compare as the ranks of their rests. -/
theorem rest_lt_rest_iff : fractionOf a.instant ++ a.suffix < fractionOf b.instant ++ b.suffix ↔
    a.suffixRank < b.suffixRank := by
  have hbound := fraction_lt a
  have hbound' := fraction_lt b
  generalize hm : (a.instant % 1000000).toNat = m at *
  generalize hn : (b.instant % 1000000).toNat = n at *
  by_cases hzero : m = 0
  · obtain ⟨hrest, hrank⟩ := rest_of_start (hm.trans hzero)
    by_cases hzero' : n = 0
    · obtain ⟨hrest', hrank'⟩ := rest_of_start (hn.trans hzero')
      rw [hrest, hrest', hrank, hrank', suffix_lt_suffix]
      cases a.offset <;> cases b.offset <;> simp
    · obtain ⟨hrest', hrank'⟩ := rest_of_fraction hn hzero'
      rw [hrest, hrest', hrank, hrank', suffix_lt_point]
      cases a.offset <;> cases b.offset <;> simp <;> omega
  · obtain ⟨hrest, hrank⟩ := rest_of_fraction hm hzero
    by_cases hzero' : n = 0
    · obtain ⟨hrest', hrank'⟩ := rest_of_start (hn.trans hzero')
      rw [hrest, hrest', hrank, hrank', point_lt_suffix]
      cases a.offset <;> cases b.offset <;> simp <;> omega
    · obtain ⟨hrest', hrank'⟩ := rest_of_fraction hn hzero'
      rw [hrest, hrest', hrank, hrank', List.cons_lt_cons_self,
        padded_append_lt_iff (by decide) hbound hbound', suffix_lt_suffix]
      cases a.offset <;> cases b.offset <;> simp <;> omega

theorem suffixRank_bound (t : Timestamp) : 0 ≤ t.suffixRank ∧ t.suffixRank < 2000002 := by
  have hbound := fraction_lt t
  generalize hn : (t.instant % 1000000).toNat = n at *
  by_cases hzero : n = 0
  · rw [(rest_of_start (hn.trans hzero)).2]
    split <;> omega
  · rw [(rest_of_fraction hn hzero).2]
    split <;> omega

/-- Texts compare as their ranks. -/
theorem text_lt_text_iff (ha : InCalendar a.instant) (hb : InCalendar b.instant) :
    a.text < b.text ↔ a.rank < b.rank := by
  have hbound := suffixRank_bound a
  have hbound' := suffixRank_bound b
  rw [String.lt_iff_toList_lt, toList_text, toList_text, stemOf_append_lt_iff ha hb,
    rest_lt_rest_iff, rank, rank]
  generalize a.instant / 1000000 = s
  generalize b.instant / 1000000 = t
  omega

theorem text_eq_text_iff (ha : InCalendar a.instant) (hb : InCalendar b.instant) :
    a.text = b.text ↔ a.rank = b.rank := by
  have hless := text_lt_text_iff ha hb
  have hgreater := text_lt_text_iff hb ha
  rw [eq_iff_le_not_lt, eq_iff_le_not_lt, ← not_lt, ← not_lt, hless, hgreater]

end Timestamp

end Encoding
