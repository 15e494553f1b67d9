import LotusReport.Encoding.Text
import Mathlib.Data.List.Infix

/-!
# Lines and searches

The place where a text first occurs in another, and the lines of a text. A
text whose lines are all blank or marked by two dashes is told by one reading
of its characters.
-/

namespace Encoding

section Search

variable {pat cs : List Char} {c : Char} {k : Nat}

/-- `str.find`: how many characters stand before the first occurrence. -/
def find (pat : List Char) : List Char → Option Nat
  | [] => if pat.isEmpty then some 0 else none
  | c :: cs => if pat.isPrefixOf (c :: cs) then some 0 else (find pat cs).map (· + 1)

theorem find_le (h : find pat cs = some k) : k + pat.length ≤ cs.length := by
  induction cs generalizing k with
  | nil =>
      simp only [find, List.isEmpty_iff] at h
      split at h
      · rename_i hempty
        cases h
        rw [hempty]
        rfl
      · cases h
  | cons c cs ih =>
      rw [find] at h
      split at h
      · rename_i hpat
        cases h
        rw [Nat.zero_add]
        exact (List.isPrefixOf_iff_prefix.mp hpat).length_le
      · obtain ⟨j, hj, rfl⟩ := Option.map_eq_some_iff.mp h
        have hle := ih hj
        rw [List.length_cons]
        omega

/-- A character is found behind all the characters that differ from it. -/
theorem getD_find_singleton (c : Char) (cs : List Char) :
    (find [c] cs).getD cs.length = (cs.takeWhile (· ≠ c)).length := by
  induction cs with
  | nil => rfl
  | cons d cs ih =>
      rw [find]
      by_cases hd : d = c
      · subst hd
        simp [List.isPrefixOf]
      · have hne : (c == d) = false := by simpa using Ne.symm hd
        rw [List.takeWhile_cons_of_pos (by simpa using hd), List.length_cons, List.length_cons, ← ih]
        simp only [List.isPrefixOf, hne, Bool.false_and, Bool.false_eq_true, if_false]
        cases find [c] cs <;> simp

theorem find_append_cons {xs ys : List Char} (h : c ∉ xs) : find [c] (xs ++ c :: ys) = some xs.length := by
  induction xs with
  | nil => simp [find, List.isPrefixOf]
  | cons x xs ih =>
      rw [List.mem_cons, not_or] at h
      have hne : (c == x) = false := by simpa using h.1
      rw [List.cons_append, find, ih h.2]
      simp [List.isPrefixOf, hne]

theorem take_length_takeWhile (p : Char → Bool) (cs : List Char) :
    cs.take (cs.takeWhile p).length = cs.takeWhile p :=
  (List.prefix_iff_eq_take.mp (List.takeWhile_prefix p)).symm

theorem drop_length_takeWhile (p : Char → Bool) (cs : List Char) :
    cs.drop (cs.takeWhile p).length = cs.dropWhile p := by
  induction cs with
  | nil => rfl
  | cons c cs ih =>
      by_cases hc : p c = true
      · rw [List.takeWhile_cons_of_pos hc, List.dropWhile_cons_of_pos hc, List.length_cons,
          List.drop_succ_cons, ih]
      · rw [List.takeWhile_cons_of_neg hc, List.dropWhile_cons_of_neg hc]
        rfl

end Search

section Lines

/-- A character at which `str.splitlines` ends a line. -/
def isLineBreak (c : Char) : Bool :=
  let n := c.toNat
  (10 ≤ n && n ≤ 13) || (28 ≤ n && n ≤ 30) || n == 133 || n == 8232 || n == 8233

/-- `str.splitlines`, with the line being read. -/
def splitLinesFrom (line : List Char) : List Char → List (List Char)
  | [] => if line.isEmpty then [] else [line]
  | '\r' :: '\n' :: cs => line :: splitLinesFrom [] cs
  | c :: cs =>
      if isLineBreak c then line :: splitLinesFrom [] cs else splitLinesFrom (line ++ [c]) cs

/-- `str.splitlines`. -/
def splitLines (cs : List Char) : List (List Char) := splitLinesFrom [] cs

theorem isSpace_of_isLineBreak {c : Char} (h : isLineBreak c = true) : isSpace c = true := by
  simp only [isLineBreak, isSpace, Bool.or_eq_true, Bool.and_eq_true, decide_eq_true_eq,
    beq_iff_eq] at h ⊢
  omega

/-- A line is blank, or marked by two dashes. -/
def isDashed (line : List Char) : Bool :=
  (stripChars line).isEmpty || ['-', '-'].isPrefixOf (stripChars line)

/-- Every line is blank or marked, read from inside of a marked line or from the start of one. -/
def isQuiet : Bool → List Char → Bool
  | _, [] => true
  | true, c :: cs => if isLineBreak c then isQuiet false cs else isQuiet true cs
  | false, c :: cs =>
      if isSpace c then isQuiet false cs
      else if c = '-' ∧ cs.head? = some '-' then isQuiet true cs else false

/-- White space in front of a line changes nothing. -/
theorem isQuiet_dropWhile (cs : List Char) :
    isQuiet false (cs.dropWhile isSpace) = isQuiet false cs := by
  induction cs with
  | nil => rfl
  | cons c cs ih =>
      by_cases hc : isSpace c = true
      · rw [List.dropWhile_cons_of_pos hc, ih, isQuiet, if_pos hc]
      · rw [List.dropWhile_cons_of_neg hc]

theorem isQuiet_of_spaces {cs : List Char} (h : ∀ c ∈ cs, isSpace c = true) (marked : Bool) :
    isQuiet marked cs = true := by
  induction cs generalizing marked with
  | nil => cases marked <;> rfl
  | cons c cs ih =>
      rw [List.forall_mem_cons] at h
      cases marked with
      | true => rw [isQuiet, ih h.2, ih h.2, ite_self]
      | false => rw [isQuiet, if_pos h.1, ih h.2]

theorem dash_not_space : isSpace '-' = false := by decide

/-- White space at the end changes nothing. -/
theorem isQuiet_append_spaces {cs spaces : List Char} (h : ∀ c ∈ spaces, isSpace c = true)
    (marked : Bool) : isQuiet marked (cs ++ spaces) = isQuiet marked cs := by
  induction cs generalizing marked with
  | nil =>
      rw [List.nil_append, isQuiet_of_spaces h]
      cases marked <;> rfl
  | cons c cs ih =>
      have hhead : (cs ++ spaces).head? = some '-' ↔ cs.head? = some '-' := by
        cases cs with
        | nil =>
            constructor
            · intro hdash
              have hspace := h '-' (List.mem_of_mem_head? hdash)
              rw [dash_not_space] at hspace
              cases hspace
            · intro hdash
              cases hdash
        | cons d cs => rfl
      cases marked with
      | true => rw [List.cons_append, isQuiet, isQuiet, ih, ih]
      | false => simp only [List.cons_append, isQuiet, ih, hhead]

theorem isQuiet_stripChars (cs : List Char) : isQuiet false (stripChars cs) = isQuiet false cs := by
  have hsplit : (cs.dropWhile isSpace).rdropWhile isSpace ++ (cs.dropWhile isSpace).rtakeWhile isSpace =
      cs.dropWhile isSpace := List.rdropWhile_append_rtakeWhile
  have hspaces : ∀ c ∈ (cs.dropWhile isSpace).rtakeWhile isSpace, isSpace c = true :=
    fun c hc => List.mem_rtakeWhile_imp hc
  rw [← isQuiet_dropWhile cs]
  conv_rhs => rw [← hsplit, isQuiet_append_spaces hspaces]
  rfl

/-- Behind a visible character only trailing white space is stripped. -/
theorem stripChars_cons {c : Char} (h : isSpace c = false) (cs : List Char) :
    stripChars (c :: cs) = c :: cs.rdropWhile isSpace := by
  rw [stripChars, List.dropWhile_cons_of_neg (by simp [h]), List.reverse_cons, List.dropWhile_append]
  unfold List.rdropWhile
  split
  · rename_i hblank
    rw [List.isEmpty_iff.mp hblank, List.dropWhile_cons_of_neg (by simp [h])]
    rfl
  · rw [List.reverse_append]
    rfl

theorem head?_rdropWhile_eq_dash (cs : List Char) :
    (cs.rdropWhile isSpace).head? = some '-' ↔ cs.head? = some '-' := by
  constructor
  · intro h
    obtain ⟨spaces, hsplit⟩ := List.rdropWhile_prefix isSpace (l := cs)
    obtain ⟨rest, hrest⟩ := List.head?_eq_some_iff.mp h
    rw [← hsplit, hrest]
    rfl
  · intro h
    obtain ⟨rest, rfl⟩ := List.head?_eq_some_iff.mp h
    have hkept := stripChars_cons dash_not_space rest
    rw [stripChars, List.dropWhile_cons_of_neg (by decide)] at hkept
    exact congrArg List.head? hkept

/-- A line that starts with a visible character is marked when it starts with two dashes. -/
theorem isDashed_cons {c : Char} (h : isSpace c = false) (cs : List Char) :
    isDashed (c :: cs) = true ↔ c = '-' ∧ cs.head? = some '-' := by
  rw [isDashed, stripChars_cons h, ← head?_rdropWhile_eq_dash]
  generalize cs.rdropWhile isSpace = rest
  cases rest with
  | nil => simp [List.isPrefixOf]
  | cons d rest =>
      simp only [List.isEmpty_cons, Bool.false_or, List.isPrefixOf, Bool.and_true, Bool.and_eq_true,
        beq_iff_eq, List.head?_cons, Option.some.injEq]
      exact and_congr eq_comm eq_comm

theorem isDashed_space_cons {c : Char} (h : isSpace c = true) (cs : List Char) :
    isDashed (c :: cs) = isDashed cs := by
  rw [isDashed, isDashed, stripChars, stripChars, List.dropWhile_cons_of_pos h]

/-- What follows a line: nothing, or a character that ends it. -/
def EndsLine (rest : List Char) : Prop := ∀ c ∈ rest.head?, isLineBreak c = true

/-- A text is quiet when its part before the end of a line is, and the rest. -/
theorem isQuiet_append {cs rest : List Char} (hrest : EndsLine rest) (marked : Bool) :
    isQuiet marked (cs ++ rest) = (isQuiet marked cs && isQuiet false rest) := by
  induction cs generalizing marked with
  | nil =>
      cases marked with
      | false => rfl
      | true =>
          cases rest with
          | nil => rfl
          | cons c rest =>
              have hbreak := hrest c rfl
              simp only [List.nil_append, isQuiet, hbreak, isSpace_of_isLineBreak hbreak, if_true,
                Bool.true_and]
  | cons c cs ih =>
      have hhead : (cs ++ rest).head? = some '-' ↔ cs.head? = some '-' := by
        cases cs with
        | nil =>
            constructor
            · intro hdash
              have hspace := isSpace_of_isLineBreak (hrest '-' hdash)
              rw [dash_not_space] at hspace
              cases hspace
            · intro hdash
              cases hdash
        | cons d cs => rfl
      cases marked with
      | true =>
          rw [List.cons_append, isQuiet, isQuiet, ih, ih]
          split <;> rfl
      | false =>
          simp only [List.cons_append, isQuiet, ih, hhead]
          split
          · rfl
          · split
            · rfl
            · rfl

theorem isQuiet_marked {line : List Char} (hline : ∀ c ∈ line, isLineBreak c = false) :
    isQuiet true line = true := by
  induction line with
  | nil => rfl
  | cons c line ih =>
      rw [List.forall_mem_cons] at hline
      rw [isQuiet, hline.1, ih hline.2]
      rfl

/-- One line is quiet when it is blank or marked. -/
theorem isQuiet_line {line : List Char} (hline : ∀ c ∈ line, isLineBreak c = false) :
    isQuiet false line = isDashed line := by
  induction line with
  | nil => rfl
  | cons c line ih =>
      rw [List.forall_mem_cons] at hline
      by_cases hc : isSpace c = true
      · rw [isQuiet, if_pos hc, ih hline.2, isDashed_space_cons hc]
      · rw [Bool.not_eq_true] at hc
        have hdashed := isDashed_cons hc line
        rw [isQuiet, hc, if_neg (by decide), isQuiet_marked hline.2]
        split
        · rename_i hmark
          exact (hdashed.mpr hmark).symm
        · rename_i hmark
          rw [← hdashed, Bool.not_eq_true] at hmark
          exact hmark.symm

theorem all_isDashed_splitLinesFrom {line : List Char} (hline : ∀ c ∈ line, isLineBreak c = false)
    (cs : List Char) : (splitLinesFrom line cs).all isDashed = isQuiet false (line ++ cs) := by
  induction line, cs using splitLinesFrom.induct with
  | case1 line hempty =>
      rw [List.isEmpty_iff.mp hempty]
      rfl
  | case2 line hempty =>
      rw [splitLinesFrom, if_neg hempty, List.append_nil, isQuiet_line hline, List.all_cons,
        List.all_nil, Bool.and_true]
  | case3 line cs ih =>
      have hbreak : EndsLine ('\r' :: '\n' :: cs) := by
        intro c hc
        cases hc
        decide
      rw [splitLinesFrom, List.all_cons, ih (by simp), isQuiet_append hbreak, isQuiet_line hline]
      rfl
  | case4 line c cs hpair hbreak ih =>
      have hends : EndsLine (c :: cs) := by
        intro d hd
        cases hd
        exact hbreak
      rw [splitLinesFrom, if_pos hbreak, List.all_cons, ih (by simp), isQuiet_append hends,
        isQuiet_line hline, isQuiet, if_pos (isSpace_of_isLineBreak hbreak)]
      · rfl
      · exact hpair
  | case5 line c cs hpair hbreak ih =>
      rw [splitLinesFrom, if_neg hbreak, ih, List.append_assoc]
      · rfl
      · intro d hd
        rcases List.mem_append.mp hd with hd | hd
        · exact hline d hd
        · rw [List.mem_singleton.mp hd]
          exact eq_false_of_ne_true hbreak
      · exact hpair

/-- The lines of a text are all blank or marked when it is quiet. -/
theorem all_isDashed_splitLines (cs : List Char) :
    (splitLines cs).all isDashed = isQuiet false cs :=
  all_isDashed_splitLinesFrom (by simp) cs

end Lines

end Encoding
