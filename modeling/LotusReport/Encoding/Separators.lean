import LotusReport.Encoding.Date
import LotusReport.Encoding.Text
import LotusReport.Encoding.Written

/-!
# Texts joined with colons

Keys are built by joining texts with colons. A joined text can be taken apart
again at its first colon when the first part has none, and at its last colon
when the last part has none; the part before its first colon is that of its
first part.
-/

namespace Encoding

/-- The text has no colon. -/
def ColonFree (text : String) : Prop := ':' ∉ text.toList

instance (text : String) : Decidable (ColonFree text) :=
  inferInstanceAs (Decidable (':' ∉ text.toList))

/-- Two texts joined with a colon. -/
def joined (a b : String) : String := a ++ ":" ++ b

/-- The part of a text before its first colon. -/
def kindOf (text : String) : String := String.ofList (text.toList.takeWhile (· ≠ ':'))

variable {a a' b b' c : String}

theorem toList_joined (a b : String) : (joined a b).toList = a.toList ++ ':' :: b.toList := by
  simp [joined]

theorem joined_assoc (a b c : String) : joined (joined a b) c = joined a (joined b c) := by
  apply String.ext
  simp [toList_joined]

section Parts

/-- A list is cut at the first of its separators in one way. -/
theorem append_separator_inj {s : Char} {x x' y y' : List Char} (hx : s ∉ x) (hx' : s ∉ x')
    (h : x ++ s :: y = x' ++ s :: y') : x = x' ∧ y = y' := by
  induction x generalizing x' with
  | nil =>
      cases x' with
      | nil => exact ⟨rfl, (List.cons.inj h).2⟩
      | cons d x' => exact absurd ((List.cons.inj h).1 ▸ List.mem_cons_self) hx'
  | cons d x ih =>
      cases x' with
      | nil => exact absurd ((List.cons.inj h).1 ▸ List.mem_cons_self) hx
      | cons d' x' =>
          obtain ⟨rfl, htail⟩ := List.cons.inj h
          obtain ⟨rfl, hy⟩ := ih (fun hs => hx (List.mem_cons_of_mem d hs))
            (fun hs => hx' (List.mem_cons_of_mem d hs)) htail
          exact ⟨rfl, hy⟩

/-- A joined text determines a first part without a colon, and the rest. -/
theorem joined_inj_first (ha : ColonFree a) (ha' : ColonFree a') (h : joined a b = joined a' b') :
    a = a' ∧ b = b' := by
  have hchars := congrArg String.toList h
  rw [toList_joined, toList_joined] at hchars
  obtain ⟨hfirst, hrest⟩ := append_separator_inj ha ha' hchars
  exact ⟨String.ext hfirst, String.ext hrest⟩

/-- A joined text determines a last part without a colon, and what precedes it. -/
theorem joined_inj_last (hb : ColonFree b) (hb' : ColonFree b') (h : joined a b = joined a' b') :
    a = a' ∧ b = b' := by
  have hchars := congrArg (List.reverse ∘ String.toList) h
  simp only [Function.comp_apply, toList_joined, List.reverse_append, List.reverse_cons,
    List.append_assoc, List.singleton_append] at hchars
  obtain ⟨hlast, hrest⟩ := append_separator_inj (fun h => hb (List.mem_reverse.mp h))
    (fun h => hb' (List.mem_reverse.mp h)) hchars
  exact ⟨String.ext (List.reverse_injective hrest), String.ext (List.reverse_injective hlast)⟩

/-- A joined text is of the kind of its first part. -/
theorem kindOf_joined (a b : String) : kindOf (joined a b) = kindOf a := by
  unfold kindOf
  rw [toList_joined, List.takeWhile_append]
  split
  · rename_i hall
    have ha : a.toList.takeWhile (· ≠ ':') = a.toList :=
      (List.takeWhile_prefix _).eq_of_length hall
    rw [List.takeWhile_cons_of_neg (by simp), List.append_nil, ha]
  · rfl

theorem kindOf_of_colonFree (h : ColonFree a) : kindOf a = a := by
  unfold kindOf
  rw [List.takeWhile_eq_self_iff.mpr]
  · exact String.ofList_toList
  · intro d hd
    rw [decide_eq_true_eq]
    rintro rfl
    exact h hd

end Parts

section Fields

theorem ColonFree.append (ha : ColonFree a) (hb : ColonFree b) : ColonFree (a ++ b) := by
  unfold ColonFree
  rw [String.toList_append, List.mem_append]
  exact fun h => h.elim ha hb

theorem ColonFree.rstrip (ha : ColonFree a) : ColonFree (rstrip a) := by
  intro h
  apply ha
  exact (List.rdropWhile_prefix isSpace a.toList).subset (by simpa [Encoding.rstrip] using h)

theorem colonFree_toString (n : Nat) : ColonFree (toString n) := by
  intro h
  have hdigit : Char.isDigit ':' = true := Json.digit_of_mem (n := n) (by simpa using h)
  cases hdigit

theorem colonFree_padded (width n : Nat) : ColonFree (padded width n) := by
  refine ColonFree.append ?_ (colonFree_toString n)
  intro h
  rw [String.toList_ofList] at h
  have hzero := List.eq_of_mem_replicate h
  cases hzero

theorem colonFree_isoformat (date : CalendarDate) : ColonFree date.isoformat := by
  have hdash : ColonFree "-" := by decide
  unfold CalendarDate.isoformat
  exact ((((colonFree_padded _ _).append hdash).append (colonFree_padded _ _)).append hdash).append
    (colonFree_padded _ _)

end Fields

section Stripping

/-- The text is without white space at its edges. -/
def Stripped (text : String) : Prop := strip text = text

theorem Stripped.edges (h : Stripped a) : HasEdges isSpace a.toList := by
  have hchars : dropEdges isSpace a.toList = a.toList := by
    have hstripped := congrArg String.toList h
    simpa [strip, stripChars, dropEdges] using hstripped
  rw [← hchars]
  exact hasEdges_dropEdges isSpace a.toList

theorem stripped_strip (a : String) : Stripped (strip a) := by
  have hedges : stripChars (stripChars a.toList) = stripChars a.toList :=
    dropEdges_eq_self (hasEdges_dropEdges isSpace a.toList)
  simp only [Stripped, strip, String.toList_ofList, hedges]

/-- Trailing white space of a joined text is that of its last part. -/
theorem rstrip_joined (a b : String) : rstrip (joined a b) = joined a (rstrip b) := by
  apply String.ext
  simp only [rstrip, toList_joined, String.toList_ofList, List.rdropWhile, List.reverse_append,
    List.reverse_cons, List.append_assoc, List.singleton_append, List.dropWhile_append]
  split
  · rename_i hblank
    rw [List.isEmpty_iff.mp hblank, List.dropWhile_cons_of_neg (by decide)]
    simp
  · simp

/-- Behind a first part that is stripped and not empty, only trailing white space is lost. -/
theorem strip_joined (ha : Stripped a) (hne : a ≠ "") (b : String) :
    strip (joined a b) = joined a (rstrip b) := by
  have hstart : (a ++ ":").toList.dropWhile isSpace = (a ++ ":").toList := by
    apply dropWhile_eq_self_of_head
    intro d hd
    apply ha.edges.1
    cases hchars : a.toList with
    | nil => exact absurd (String.ext (by simpa using hchars)) hne
    | cons e rest => simpa [hchars] using hd
  have hend : (a ++ ":").toList.rdropWhile isSpace = (a ++ ":").toList := by
    rw [String.toList_append]
    exact List.rdropWhile_concat_neg _ _ _ (by decide)
  exact strip_append (by simp) hstart hend

/-- A stripped text has no trailing white space. -/
theorem Stripped.rstrip_eq (h : Stripped a) : rstrip a = a := by
  have hlast : a.toList.reverse.dropWhile isSpace = a.toList.reverse := by
    apply dropWhile_eq_self_of_head
    rw [List.head?_reverse]
    exact h.edges.2
  unfold rstrip List.rdropWhile
  rw [hlast, List.reverse_reverse, String.ofList_toList]

end Stripping

end Encoding
