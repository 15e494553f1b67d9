import Mathlib.Data.List.Induction
import Mathlib.Tactic.IntervalCases
import LotusReport.Encoding.Leaves

/-!
# Spaced texts

`json.dumps` with its default separators. The text of a well-formed value is
printable ASCII, so its characters, its bytes and its UTF-16 units are as many;
written again as a JSON string it at most doubles.
-/

namespace Encoding

/-- The characters from the space to the tilde. -/
def isPlain (c : Char) : Bool := 32 ≤ c.toNat && c.toNat ≤ 126

/-- A text of plain characters. -/
def Plain (s : String) : Prop := ∀ c ∈ s.toList, isPlain c = true

/-- `len(text.encode("utf-16-le")) // 2`. -/
def utf16Units (s : String) : Nat := (s.toList.map fun c => if c.toNat < 0x10000 then 1 else 2).sum

namespace Json

section Spaced

mutual

/-- `json.dumps` with the separators `, ` and `: `, ASCII only. -/
def spaced : Json → String
  | null => "null"
  | bool b => if b then "true" else "false"
  | int n => toString n
  | float text => text
  | str s => quote true s
  | arr items => "[" ++ ", ".intercalate (spacedItems items) ++ "]"
  | obj fields => "\x7b" ++ ", ".intercalate (spacedFields fields) ++ "\x7d"

def spacedItems : List Json → List String
  | [] => []
  | j :: js => spaced j :: spacedItems js

def spacedFields : Fields → List String
  | [] => []
  | (k, j) :: fields => (quote true k ++ ": " ++ spaced j) :: spacedFields fields

end

/-- `json.dumps(value, ensure_ascii=True, sort_keys=True)`. -/
def spacedText (j : Json) : String := spaced (canonical j)

example : spacedText (obj [("b", arr [int 1, null]), ("a", str "x\"y")]) =
    "\x7b\"a\": \"x\\\"y\", \"b\": [1, null]\x7d" := by decide

theorem spacedItems_eq_map (items : List Json) : spacedItems items = items.map spaced := by
  induction items with
  | nil => rfl
  | cons j items ih => rw [spacedItems, ih, List.map_cons]

theorem spacedFields_eq_map (fields : Fields) :
    spacedFields fields = fields.map fun f => quote true f.1 ++ ": " ++ spaced f.2 := by
  induction fields with
  | nil => rfl
  | cons f fields ih => rw [spacedFields, ih, List.map_cons]

end Spaced

end Json

section Units

variable {s t : String}

theorem Plain.append (hs : Plain s) (ht : Plain t) : Plain (s ++ t) := by
  intro c hc
  rw [String.toList_append, List.mem_append] at hc
  rcases hc with hc | hc
  · exact hs c hc
  · exact ht c hc

theorem plain_of_all (h : s.toList.all isPlain = true) : Plain s :=
  fun c hc => List.all_eq_true.mp h c hc

theorem plain_intercalate (hs : Plain s) {parts : List String} (hparts : ∀ p ∈ parts, Plain p) :
    Plain (s.intercalate parts) := by
  induction parts with
  | nil =>
      rw [String.intercalate_nil]
      exact plain_of_all (by decide)
  | cons part parts ih =>
      rw [List.forall_mem_cons] at hparts
      by_cases hnil : parts = []
      · rw [hnil, String.intercalate_singleton]
        exact hparts.1
      · rw [String.intercalate_cons_of_ne_nil hnil]
        exact (hparts.1.append hs).append (ih hparts.2)

/-- A text has at most two units for a character. -/
theorem utf16Units_le (s : String) : utf16Units s ≤ 2 * s.length := by
  rw [utf16Units, ← String.length_toList]
  induction s.toList with
  | nil => simp
  | cons c cs ih =>
      rw [List.map_cons, List.sum_cons, List.length_cons]
      split
      · omega
      · omega

theorem Plain.utf16Units_eq (hs : Plain s) : utf16Units s = s.length := by
  have hone : ∀ c ∈ s.toList, (if c.toNat < 0x10000 then 1 else 2) = 1 := by
    intro c hc
    have hplain := hs c hc
    simp only [isPlain, Bool.and_eq_true, decide_eq_true_eq] at hplain
    rw [if_pos (by omega)]
  rw [utf16Units, List.map_congr_left hone, List.map_const', List.sum_replicate_nat,
    String.length_toList, Nat.mul_one]

/-- The bytes of ASCII characters are as many as the characters. -/
theorem utf8ByteSize_ofList (cs : List Char) (h : ∀ c ∈ cs, isPlain c = true) :
    (String.ofList cs).utf8ByteSize = cs.length := by
  induction cs using List.reverseRecOn with
  | nil => rfl
  | append_singleton cs c ih =>
      have hpush : String.ofList (cs ++ [c]) = (String.ofList cs).push c := by
        apply String.ext
        simp
      have hlast := h c (List.mem_append_right cs List.mem_cons_self)
      have hsize : c.utf8Size = 1 := by
        simp only [isPlain, Bool.and_eq_true, decide_eq_true_eq] at hlast
        exact Char.utf8Size_eq_one_iff.mpr (UInt32.le_iff_toNat_le.mpr (by
          have hval : c.val.toNat = c.toNat := rfl
          have hbound : UInt32.toNat 127 = 127 := rfl
          omega))
      rw [hpush, String.utf8ByteSize_push, hsize, List.length_append,
        ih fun d hd => h d (List.mem_append_left _ hd)]
      rfl

theorem Plain.utf8ByteSize_eq (hs : Plain s) : s.utf8ByteSize = s.length := by
  have hlist := utf8ByteSize_ofList s.toList hs
  rwa [String.ofList_toList, String.length_toList] at hlist

end Units

namespace Json

section Quoted

theorem plain_digitChar {n : Nat} (h : n < 16) : isPlain (Nat.digitChar n) = true := by
  interval_cases n <;> decide

theorem plain_hexDigits (n code : Nat) : ∀ c ∈ hexDigits n code, isPlain c = true := by
  induction n generalizing code with
  | zero => simp [hexDigits]
  | succ n ih =>
      intro c hc
      rw [hexDigits, List.mem_append, List.mem_singleton] at hc
      rcases hc with hc | rfl
      · exact ih _ c hc
      · exact plain_digitChar (Nat.mod_lt _ (by decide))

theorem plain_unicodeEscape (code : Nat) : ∀ c ∈ unicodeEscape code, isPlain c = true := by
  have hstart : ∀ c ∈ ['\\', 'u'], isPlain c = true := by simp [isPlain]
  intro c hc
  unfold unicodeEscape at hc
  split at hc
  · rcases List.mem_append.mp hc with hc | hc
    · exact hstart c hc
    · exact plain_hexDigits _ _ c hc
  · simp only [List.mem_append] at hc
    rcases hc with ((hc | hc) | hc) | hc
    · exact hstart c hc
    · exact plain_hexDigits _ _ c hc
    · exact hstart c hc
    · exact plain_hexDigits _ _ c hc

theorem plain_escapeChar (c : Char) : ∀ d ∈ escapeChar true c, isPlain d = true := by
  unfold escapeChar
  split_ifs with _ _ _ _ _ _ _ hescape
  iterate 7 simp [isPlain]
  · exact plain_unicodeEscape _
  · intro d hd
    rw [List.mem_singleton.mp hd]
    simp only [Bool.true_and, Bool.or_eq_true, decide_eq_true_eq] at hescape
    simp only [isPlain, Bool.and_eq_true, decide_eq_true_eq]
    omega

theorem plain_quote (s : String) : Plain (quote true s) := by
  intro c hc
  rw [quote, String.toList_ofList] at hc
  simp only [List.cons_append, List.mem_cons, List.mem_append, List.mem_flatMap,
    List.not_mem_nil, or_false] at hc
  rcases hc with rfl | ⟨d, -, hc⟩ | rfl
  · decide
  · exact plain_escapeChar d c hc
  · decide

/-- A plain character is written with at most two. -/
theorem length_escapeChar_le {c : Char} (h : isPlain c = true) :
    (escapeChar true c).length ≤ 2 := by
  simp only [isPlain, Bool.and_eq_true, decide_eq_true_eq] at h
  unfold escapeChar
  split_ifs with _ _ _ _ _ _ _ hescape
  iterate 7 decide
  · simp only [Bool.true_and, Bool.or_eq_true, decide_eq_true_eq] at hescape
    omega
  · simp

/-- A plain text at most doubles, and gets its quotes. -/
theorem length_quote_le {s : String} (hs : Plain s) :
    (quote true s).length ≤ 2 * s.length + 2 := by
  have hbody : ∀ cs : List Char, (∀ c ∈ cs, isPlain c = true) →
      (cs.flatMap (escapeChar true)).length ≤ 2 * cs.length := by
    intro cs
    induction cs with
    | nil => simp
    | cons c cs ih =>
        intro h
        rw [List.forall_mem_cons] at h
        have hc := length_escapeChar_le h.1
        have hcs := ih h.2
        rw [List.flatMap_cons, List.length_append, List.length_cons]
        omega
  have h := hbody s.toList hs
  rw [quote, String.length_ofList]
  simp only [List.cons_append, List.length_cons, List.length_append, List.length_nil]
  rw [String.length_toList] at h
  omega

end Quoted

section Texts

theorem plain_digit {c : Char} (h : c.isDigit = true) : isPlain c = true := by
  have hval : c.val.toNat = c.toNat := rfl
  have hfirst : UInt32.toNat '0'.val = 48 := rfl
  have hlast : UInt32.toNat '9'.val = 57 := rfl
  simp only [Char.isDigit, Bool.and_eq_true, decide_eq_true_eq, ge_iff_le,
    UInt32.le_iff_toNat_le] at h
  simp only [isPlain, Bool.and_eq_true, decide_eq_true_eq]
  omega

theorem plain_int (n : Int) : Plain (toString n) := by
  intro c hc
  rcases char_of_int hc with rfl | hdigit
  · decide
  · exact plain_digit hdigit

theorem plain_float {text : String} (h : isFloatText text = true) : Plain text := by
  simp only [isFloatText, Bool.or_eq_true, Bool.and_eq_true, beq_iff_eq, List.all_eq_true] at h
  rcases h with ((rfl | rfl) | rfl) | ⟨hall, -⟩
  iterate 3 exact plain_of_all (by decide)
  intro c hc
  rcases hall c hc with (((hdigit | rfl) | rfl) | rfl) | rfl
  · exact plain_digit hdigit
  all_goals decide

/-- The text of a well-formed value is plain. -/
theorem plain_spaced (j : Json) : wellFormed j = true → Plain (spaced j) := by
  induction j using ind with
  | hnull => exact fun _ => plain_of_all (by simp only [spaced]; decide)
  | hbool b => exact fun _ => plain_of_all (by cases b <;> simp only [spaced] <;> decide)
  | hint n => exact fun _ => by simpa only [spaced] using plain_int n
  | hfloat text => exact fun hwf => by simpa only [spaced] using plain_float hwf
  | hstr s => exact fun _ => by simpa only [spaced] using plain_quote s
  | harr items ih =>
      intro hwf
      rw [wellFormed_arr] at hwf
      rw [spaced, spacedItems_eq_map]
      apply Plain.append
      · apply Plain.append (plain_of_all (by decide))
        apply plain_intercalate (plain_of_all (by decide))
        intro part hpart
        obtain ⟨j, hj, rfl⟩ := List.mem_map.mp hpart
        exact ih j hj (hwf j hj)
      · exact plain_of_all (by decide)
  | hobj fields ih =>
      intro hwf
      rw [wellFormed_obj] at hwf
      rw [spaced, spacedFields_eq_map]
      apply Plain.append
      · apply Plain.append (plain_of_all (by decide))
        apply plain_intercalate (plain_of_all (by decide))
        intro part hpart
        obtain ⟨f, hf, rfl⟩ := List.mem_map.mp hpart
        exact ((plain_quote f.1).append (plain_of_all (by decide))).append (ih f hf (hwf.2 f hf))
      · exact plain_of_all (by decide)

theorem plain_spacedText {j : Json} (hwf : wellFormed j = true) : Plain (spacedText j) :=
  plain_spaced _ (wellFormed_canonical j hwf)

end Texts

end Json

end Encoding
