import LotusReport.Encoding.Written

/-!
# The leaves of a JSON document

A leaf of a document is a value without parts: a scalar or an empty container.
It stands at a position, the keys and indices that lead to it. The text of a
leaf is read back to the leaf.
-/

namespace Encoding.Json

section Positions

/-- A value without parts. -/
def isLeaf : Json → Bool
  | arr items => items.isEmpty
  | obj fields => fields.isEmpty
  | _ => true

/-- A step from a container to one of its parts. -/
inductive Step where
  | key (name : String)
  | index (n : Nat)
deriving DecidableEq, Repr

/-- A document has a leaf at a position. -/
inductive LeafAt : Json → List Step → Json → Prop where
  | here {leaf : Json} (h : isLeaf leaf = true) : LeafAt leaf [] leaf
  | field {fields : Fields} {name : String} {child leaf : Json} {path : List Step}
      (hmem : (name, child) ∈ fields) (h : LeafAt child path leaf) :
      LeafAt (obj fields) (.key name :: path) leaf
  | item {items : List Json} {n : Nat} {child leaf : Json} {path : List Step}
      (hmem : items[n]? = some child) (h : LeafAt child path leaf) :
      LeafAt (arr items) (.index n :: path) leaf

variable {v leaf : Json} {path : List Step}

theorem LeafAt.isLeaf (h : LeafAt v path leaf) : Json.isLeaf leaf = true := by
  induction h with
  | here h => exact h
  | field _ _ ih => exact ih
  | item _ _ ih => exact ih

theorem LeafAt.wellFormed (h : LeafAt v path leaf) (hv : Json.wellFormed v = true) :
    Json.wellFormed leaf = true := by
  induction h with
  | here => exact hv
  | field hmem _ ih => exact ih ((wellFormed_obj.mp hv).2 _ hmem)
  | item hmem _ ih => exact ih (wellFormed_arr.mp hv _ (List.mem_of_getElem? hmem))

theorem LeafAt.finite (h : LeafAt v path leaf) (hv : Json.finite v = true) :
    Json.finite leaf = true := by
  induction h with
  | here => exact hv
  | field hmem _ ih => exact ih (finite_obj.mp hv _ hmem)
  | item hmem _ ih => exact ih (finite_arr.mp hv _ (List.mem_of_getElem? hmem))

end Positions

section Reading

/-- The characters of a string up to the quote that ends the text; each step reads a character. -/
def readString : Nat → List Char → Option (List Char)
  | 0, _ => none
  | n + 1, cs =>
      if cs = ['"'] then some []
      else if cs.head? = some '"' then none
      else (readChar cs).bind fun (c, rest) => (readString n rest).map (c :: ·)

/-- The integer that digits write, with a sign or without. -/
def readInt (cs : List Char) : Option Int :=
  match cs with
  | '-' :: digits =>
      if digits ≠ [] ∧ digits.all Char.isDigit then some (-(Nat.ofDigitChars 10 digits 0 : Int))
      else none
  | digits =>
      if digits ≠ [] ∧ digits.all Char.isDigit then some (Nat.ofDigitChars 10 digits 0 : Int)
      else none

/-- The leaf that a text writes; a number without a point or an exponent is an integer. -/
def readLeaf (text : String) : Option Json :=
  if text = "null" then some null
  else if text = "true" then some (bool true)
  else if text = "false" then some (bool false)
  else if text = "[]" then some (arr [])
  else if text = "\x7b\x7d" then some (obj [])
  else
    match text.toList with
    | '"' :: cs => (readString cs.length cs).map fun chars => str (String.ofList chars)
    | cs =>
        match readInt cs with
        | some n => some (int n)
        | none => if isFloatText text then some (float text) else none

theorem readString_escaped (e : Bool) (cs : List Char) :
    ∀ n, cs.length < n → readString n (cs.flatMap (escapeChar e) ++ ['"']) = some cs := by
  induction cs with
  | nil =>
      intro n hn
      obtain ⟨n, rfl⟩ := Nat.exists_eq_succ_of_ne_zero (Nat.pos_iff_ne_zero.mp hn)
      simp [readString]
  | cons c cs ih =>
      intro n hn
      obtain ⟨n, rfl⟩ := Nat.exists_eq_succ_of_ne_zero (by omega : n ≠ 0)
      rw [List.flatMap_cons, List.append_assoc]
      have hquote : (escapeChar e c ++ (cs.flatMap (escapeChar e) ++ ['"'])).head? ≠ some '"' := by
        intro hhead
        obtain ⟨y, hy⟩ := List.head?_eq_some_iff.mp hhead
        exact escapeChar_ne_quote hy
      have hmore : escapeChar e c ++ (cs.flatMap (escapeChar e) ++ ['"']) ≠ ['"'] :=
        fun heq => hquote (by rw [heq]; rfl)
      rw [readString, if_neg hmore, if_neg hquote, readChar_escapeChar]
      simp [ih n (by simpa using hn)]

theorem length_escapeChar_pos (e : Bool) (c : Char) : 0 < (escapeChar e c).length := by
  rw [List.length_pos_iff]
  intro hnil
  have hread := readChar_escapeChar e c []
  rw [hnil] at hread
  cases hread

theorem length_le_escaped (e : Bool) (cs : List Char) :
    cs.length ≤ (cs.flatMap (escapeChar e)).length := by
  induction cs with
  | nil => exact Nat.le_refl 0
  | cons c cs ih =>
      have hc := length_escapeChar_pos e c
      rw [List.flatMap_cons, List.length_append, List.length_cons]
      omega

theorem readInt_repr (n : Int) : readInt n.repr.toList = some n := by
  have hall : ∀ m : Nat, (Nat.toDigits 10 m).all Char.isDigit = true := by
    intro m
    rw [List.all_eq_true]
    exact fun c hc => digit_of_mem hc
  rw [toList_repr_int]
  split
  · rename_i hn
    have hsign : ∀ digits, Nat.toDigits 10 n.toNat ≠ '-' :: digits := by
      intro digits heq
      have hdigit := digit_of_mem (n := n.toNat) (c := '-') (heq ▸ List.mem_cons_self)
      cases hdigit
    unfold readInt
    split
    · rename_i digits heq
      exact absurd heq (hsign digits)
    · rw [if_pos ⟨Nat.toDigits_ne_nil, hall _⟩, Nat.ofDigitChars_ten_toDigits]
      congr 1
      omega
  · rename_i hn
    rw [readInt, if_pos ⟨Nat.toDigits_ne_nil, hall _⟩, Nat.ofDigitChars_ten_toDigits]
    congr 1
    omega

theorem readInt_float {text : String} (h : isFloatText text = true) : readInt text.toList = none := by
  obtain ⟨c, hc, hsign, hdigit⟩ := (float_chars h).2.2.1
  have hnot : ∀ digits : List Char, c ∈ digits → ¬ (digits ≠ [] ∧ digits.all Char.isDigit = true) := by
    rintro digits hmem ⟨-, hall⟩
    have hc := List.all_eq_true.mp hall c hmem
    rw [hdigit] at hc
    cases hc
  unfold readInt
  split
  · rename_i digits heq
    rw [heq] at hc
    exact if_neg (hnot digits ((List.mem_cons.mp hc).resolve_left hsign))
  · exact if_neg (hnot _ hc)

/-- The text of a number is read by its digits. -/
theorem readLeaf_token {text : String} (hquote : ∀ cs, text.toList ≠ '"' :: cs)
    (hwords : text ≠ "null" ∧ text ≠ "true" ∧ text ≠ "false" ∧ text ≠ "[]" ∧ text ≠ "\x7b\x7d") :
    readLeaf text = match readInt text.toList with
      | some n => some (int n)
      | none => if isFloatText text then some (float text) else none := by
  obtain ⟨hnull, htrue, hfalse, harr, hobj⟩ := hwords
  rw [readLeaf, if_neg hnull, if_neg htrue, if_neg hfalse, if_neg harr, if_neg hobj]
  split
  · rename_i cs heq
    exact absurd heq (hquote cs)
  · rfl

/-- A leaf is read back from its text. -/
theorem readLeaf_dumps {e : Bool} {leaf : Json} (hleaf : isLeaf leaf = true)
    (hwf : wellFormed leaf = true) : readLeaf (dumps e leaf) = some leaf := by
  cases leaf with
  | null => simp [readLeaf, dumps]
  | bool b => cases b <;> simp [readLeaf, dumps]
  | int n =>
      have hchars : ∀ c ∈ (toString n).toList, c = '-' ∨ c.isDigit = true := fun c hc => char_of_int hc
      have hother : ∀ {text : String} {c : Char}, c ∈ text.toList → c ≠ '-' → c.isDigit = false →
          toString n ≠ text := by
        rintro text c hc hsign hdigit rfl
        rcases hchars c hc with heq | hyes
        · exact hsign heq
        · rw [hdigit] at hyes
          cases hyes
      rw [dumps, readLeaf_token]
      · rw [show (toString n).toList = n.repr.toList from rfl, readInt_repr]
      · intro cs heq
        rcases hchars '"' (heq ▸ List.mem_cons_self) with h | h <;> cases h
      · exact ⟨hother (c := 'n') (by decide) (by decide) (by decide),
          hother (c := 't') (by decide) (by decide) (by decide),
          hother (c := 'f') (by decide) (by decide) (by decide),
          hother (c := '[') (by decide) (by decide) (by decide),
          hother (c := '\x7b') (by decide) (by decide) (by decide)⟩
  | float text =>
      have hchars := float_chars hwf
      have hmark : ∀ {other : String} {c : Char}, c ∈ other.toList → isMark c = true →
          text ≠ other := by
        rintro other c hc hmark rfl
        rw [hchars.2.1 c hc] at hmark
        cases hmark
      rw [dumps, readLeaf_token]
      · have hfloat : isFloatText text = true := hwf
        rw [readInt_float hfloat]
        simp [hfloat]
      · intro cs heq
        have hfalse := hchars.2.1 '"' (heq ▸ List.mem_cons_self)
        cases hfalse
      · exact ⟨hchars.2.2.2.1, hchars.2.2.2.2.1, hchars.2.2.2.2.2,
          hmark (c := '[') (by decide) (by decide), hmark (c := '\x7b') (by decide) (by decide)⟩
  | str s =>
      have hfirst : ∀ {text : String}, text.toList.head? ≠ some '"' → quote e s ≠ text := by
        rintro text hhead rfl
        rw [toList_quote] at hhead
        exact hhead rfl
      rw [dumps, readLeaf, if_neg (hfirst (by decide)), if_neg (hfirst (by decide)),
        if_neg (hfirst (by decide)), if_neg (hfirst (by decide)), if_neg (hfirst (by decide)),
        toList_quote]
      have hlength := length_le_escaped e s.toList
      have hroom : s.toList.length < (s.toList.flatMap (escapeChar e) ++ ['"']).length := by
        rw [List.length_append, List.length_singleton]
        omega
      simp only [readString_escaped e s.toList _ hroom, Option.map_some, String.ofList_toList]
  | arr items =>
      have hnil : items = [] := by simpa [isLeaf] using hleaf
      subst hnil
      simp [readLeaf, dumps, dumpsItems]
  | obj fields =>
      have hnil : fields = [] := by simpa [isLeaf] using hleaf
      subst hnil
      simp [readLeaf, dumps, dumpsFields]

end Reading

end Encoding.Json
