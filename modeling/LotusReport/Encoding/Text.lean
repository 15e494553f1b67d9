import Mathlib.Data.List.Basic
import Mathlib.Data.List.DropRight

/-!
# Text operations

The Unicode-aware string methods that normalise keys, summaries and names:
stripping, splitting at white space, and clipping to a number of characters.
-/

namespace Encoding

/-- A white-space character in the sense of `str.isspace`. -/
def isSpace (c : Char) : Bool :=
  let n := c.toNat
  (9 ≤ n && n ≤ 13) || (28 ≤ n && n ≤ 32) || n == 133 || n == 160 || n == 5760 ||
    (8192 ≤ n && n ≤ 8202) || n == 8232 || n == 8233 || n == 8239 || n == 8287 || n == 12288

/-- Characters without leading and trailing white space. -/
def stripChars (cs : List Char) : List Char :=
  ((cs.dropWhile isSpace).reverse.dropWhile isSpace).reverse

/-- `str.strip()`. -/
def strip (s : String) : String := String.ofList (stripChars s.toList)

theorem mem_dropWhile {p : Char → Bool} {c : Char} {cs : List Char} (hc : c ∈ cs)
    (hp : p c = false) : c ∈ cs.dropWhile p := by
  induction cs with
  | nil => cases hc
  | cons d cs ih =>
      rw [List.dropWhile_cons]
      split
      · rename_i hd
        refine ih ((List.mem_cons.mp hc).resolve_left fun heq => ?_)
        rw [← heq, hp] at hd
        cases hd
      · exact hc

/-- A text with a visible character is not blank. -/
theorem strip_ne_empty {s : String} {c : Char} (hc : c ∈ s.toList) (hvisible : isSpace c = false) :
    strip s ≠ "" := by
  have hmem : c ∈ stripChars s.toList := by
    unfold stripChars
    rw [List.mem_reverse]
    exact mem_dropWhile (List.mem_reverse.mpr (mem_dropWhile hc hvisible)) hvisible
  intro h
  have hchars : stripChars s.toList = [] := by simpa [strip] using h
  rw [hchars] at hmem
  cases hmem

/-- Characters without trailing white space. -/
def rstrip (s : String) : String := String.ofList (s.toList.rdropWhile isSpace)

/-- Behind a text that neither starts nor ends with white space only trailing space is lost. -/
theorem strip_append {s t : String} (hs : s.toList ≠ [])
    (hstart : s.toList.dropWhile isSpace = s.toList)
    (hend : s.toList.rdropWhile isSpace = s.toList) : strip (s ++ t) = s ++ rstrip t := by
  have hleft : (s.toList ++ t.toList).dropWhile isSpace = s.toList ++ t.toList := by
    rw [List.dropWhile_append, hstart, if_neg (by simpa using hs)]
  have hright : (s.toList ++ t.toList).rdropWhile isSpace =
      s.toList ++ t.toList.rdropWhile isSpace := by
    unfold List.rdropWhile at hend ⊢
    rw [List.reverse_append, List.dropWhile_append]
    split
    · rename_i hblank
      rw [hend, List.isEmpty_iff.mp hblank, List.reverse_nil, List.append_nil]
    · simp
  unfold strip rstrip stripChars
  rw [String.toList_append, hleft]
  unfold List.rdropWhile at hright ⊢
  rw [hright, String.ofList_append, String.ofList_toList]

/-- `s[:n]`. -/
def clip (n : Nat) (s : String) : String := String.ofList (s.toList.take n)

/-- The words of a text, with the word being read. -/
def wordsFrom : List Char → List Char → List (List Char)
  | word, [] => if word.isEmpty then [] else [word.reverse]
  | word, c :: cs =>
      if isSpace c then
        if word.isEmpty then wordsFrom [] cs else word.reverse :: wordsFrom [] cs
      else wordsFrom (c :: word) cs

/-- `" ".join(s.split())`. -/
def collapse (s : String) : String :=
  " ".intercalate ((wordsFrom [] s.toList).map String.ofList)

/-- `s.startswith(start)`. -/
def startsWith (s start : String) : Bool := start.toList.isPrefixOf s.toList

section Edges

/-- Characters without the leading and the trailing ones of a kind. -/
def dropEdges (p : Char → Bool) (cs : List Char) : List Char :=
  ((cs.dropWhile p).reverse.dropWhile p).reverse

/-- The first and the last character are not of the kind. -/
def HasEdges (p : Char → Bool) (cs : List Char) : Prop :=
  (∀ c ∈ cs.head?, p c = false) ∧ ∀ c ∈ cs.getLast?, p c = false

variable {p q : Char → Bool} {cs : List Char}

theorem dropWhile_eq_self_of_head (h : ∀ c ∈ cs.head?, p c = false) : cs.dropWhile p = cs := by
  cases cs with
  | nil => rfl
  | cons c cs =>
      apply List.dropWhile_cons_of_neg
      simp [h c rfl]

theorem dropEdges_eq_self (h : HasEdges p cs) : dropEdges p cs = cs := by
  have hlast : cs.reverse.dropWhile p = cs.reverse := by
    apply dropWhile_eq_self_of_head
    rw [List.head?_reverse]
    exact h.2
  rw [dropEdges, dropWhile_eq_self_of_head h.1, hlast, List.reverse_reverse]

theorem head_dropWhile_not (p : Char → Bool) (cs : List Char) :
    ∀ c ∈ (cs.dropWhile p).head?, p c = false := by
  intro c hc
  have hhead := List.head?_dropWhile_not p cs
  rw [Option.mem_def] at hc
  simpa [hc] using hhead

theorem hasEdges_dropEdges (p : Char → Bool) (cs : List Char) : HasEdges p (dropEdges p cs) := by
  constructor
  · intro c hc
    -- what is left is an initial part of what was left behind the leading characters
    have hprefix : dropEdges p cs <+: cs.dropWhile p := List.rdropWhile_prefix p _
    obtain ⟨rest, hrest⟩ := hprefix
    apply head_dropWhile_not p cs
    rw [← hrest, List.head?_append, hc]
    rfl
  · intro c hc
    rw [dropEdges, List.getLast?_reverse] at hc
    exact head_dropWhile_not p _ c hc

/-- Characters of the kind around a text do not matter. -/
theorem dropEdges_append {before after : List Char} (hbefore : ∀ c ∈ before, p c = true)
    (hafter : ∀ c ∈ after, p c = true) : dropEdges p (before ++ cs ++ after) = dropEdges p cs := by
  unfold dropEdges
  rw [List.append_assoc, List.dropWhile_append_of_pos hbefore, List.dropWhile_append]
  cases hcs : cs.dropWhile p with
  | nil =>
      have hempty : after.dropWhile p = [] := List.dropWhile_eq_nil_iff.mpr hafter
      simp [hempty]
  | cons c rest =>
      rw [if_neg (by simp), List.reverse_append, List.dropWhile_append_of_pos]
      intro c hc
      exact hafter c (List.mem_reverse.mp hc)

/-- A text is what `dropEdges` leaves, between characters of the kind. -/
theorem exists_eq_append (p : Char → Bool) (cs : List Char) : ∃ before after,
    cs = before ++ dropEdges p cs ++ after ∧ (∀ c ∈ before, p c = true) ∧
      ∀ c ∈ after, p c = true := by
  refine ⟨cs.takeWhile p, ((cs.dropWhile p).reverse.takeWhile p).reverse, ?_, ?_, ?_⟩
  · rw [dropEdges, List.append_assoc, ← List.reverse_append, List.takeWhile_append_dropWhile,
      List.reverse_reverse, List.takeWhile_append_dropWhile]
  · exact fun c hc => List.mem_takeWhile_imp hc
  · exact fun c hc => List.mem_takeWhile_imp (List.mem_reverse.mp hc)

/-- Dropping a smaller kind first does not matter. -/
theorem dropEdges_dropEdges (h : ∀ c, p c = true → q c = true) :
    dropEdges q (dropEdges p cs) = dropEdges q cs := by
  obtain ⟨before, after, hcs, hbefore, hafter⟩ := exists_eq_append p cs
  conv_rhs => rw [hcs]
  exact (dropEdges_append (fun c hc => h c (hbefore c hc)) fun c hc => h c (hafter c hc)).symm

/-- A smaller kind leaves what a larger one leaves exactly when it leaves no character of the
larger one at the edges. -/
theorem dropEdges_eq_iff (h : ∀ c, p c = true → q c = true) :
    dropEdges p cs = dropEdges q cs ↔ HasEdges q (dropEdges p cs) := by
  constructor
  · intro heq
    rw [heq]
    exact hasEdges_dropEdges q cs
  · intro hedges
    rw [← dropEdges_dropEdges h, dropEdges_eq_self hedges]

/-- Stripping a stripped text leaves it as it is. -/
theorem strip_strip (s : String) : strip (strip s) = strip s := by
  have hedges : stripChars (stripChars s.toList) = stripChars s.toList :=
    dropEdges_eq_self (hasEdges_dropEdges isSpace s.toList)
  simp only [strip, String.toList_ofList, hedges]

end Edges

end Encoding
