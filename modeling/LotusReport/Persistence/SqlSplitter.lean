import LotusReport.Persistence.SqlTokens

/-!
# The splitter of migration texts

The runner sends a migration file statement by statement. Its scanner knows
literals, dollar-quoted bodies and comments, but not quoted names, and it reads
some of the spans that it knows otherwise than the database does.
-/

namespace LotusReport.Persistence

open Encoding

section Scanners

variable (isAlnum : Char → Bool)

/-- `str.isalnum`. -/
def isalnum (cs : List Char) : Bool := !cs.isEmpty && cs.all isAlnum

/-- `_is_escape_string` at a quote, with the characters before it, the nearest first. -/
def isEscapeString : List Char → Bool
  | [] => false
  | c :: before => (c = 'E' || c = 'e') &&
      match before with
      | [] => true
      | preceding :: _ => !(isAlnum preceding || preceding = '_')

/-- The loop of `_scan_single_quoted`: how far the cursor goes behind the opening quote. -/
def literalLength (backslashEscapes : Bool) : List Char → Nat
  | [] => 0
  | [_] => 1
  | c :: d :: cs =>
      if backslashEscapes && c = '\\' then 2 + literalLength backslashEscapes cs
      else if c ≠ apostrophe then 1 + literalLength backslashEscapes (d :: cs)
      else if d = apostrophe then 2 + literalLength backslashEscapes cs
      else 1

/-- `_scan_single_quoted` at a character: how far the span reaches behind it. -/
def scanSingleQuoted (before : List Char) (c : Char) (cs : List Char) : Option Nat :=
  if c ≠ apostrophe then none else some (literalLength (isEscapeString isAlnum before) cs)

/-- `_scan_dollar_quoted`. -/
def scanDollarQuoted (c : Char) (cs : List Char) : Option Nat :=
  if c ≠ '$' then none
  else
    match find ['$'] cs with
    | none => none
    | some tagEnd =>
        let tagBody := cs.take tagEnd
        if !tagBody.isEmpty && !isalnum isAlnum (tagBody.filter (· ≠ '_')) then none
        else (find ('$' :: tagBody ++ ['$']) (cs.drop (tagEnd + 1))).map
          fun close => tagEnd + 1 + close + (tagBody.length + 2)

/-- `_scan_comment`. -/
def scanComment (c : Char) (cs : List Char) : Option Nat :=
  if c = '-' ∧ cs.head? = some '-' then some ((find ['\n'] cs).getD cs.length)
  else if c = '/' ∧ cs.head? = some '*' then
    match find ['*', '/'] cs.tail with
    | some close => some (1 + close + 2)
    | none => some cs.length
  else none

/-- The first of `_SPAN_SCANNERS` that claims a span. -/
def scanSpan (before : List Char) (c : Char) (cs : List Char) : Option Nat :=
  ((scanSingleQuoted isAlnum before c cs).or (scanDollarQuoted isAlnum c cs)).or (scanComment c cs)

/-- The loop of `split_sql_statements`, with the characters that are left of a claimed span, the
characters before, and what was read of a statement. -/
def fragmentsFrom : Nat → List Char → List Char → List Char → List (List Char)
  | _, _, current, [] => [current]
  | left + 1, before, current, c :: cs => fragmentsFrom left (c :: before) (current ++ [c]) cs
  | 0, before, current, c :: cs =>
      match scanSpan isAlnum before c cs with
      | some left => fragmentsFrom left (c :: before) (current ++ [c]) cs
      | none =>
          if c = ';' then current :: fragmentsFrom 0 (c :: before) [] cs
          else fragmentsFrom 0 (c :: before) (current ++ [c]) cs

/-- The fragments of a text. -/
def fragments (schema : List Char) : List (List Char) := fragmentsFrom isAlnum 0 [] [] schema

/-- `_is_executable`. -/
def isExecutable (statement : List Char) : Bool :=
  let stripped := stripChars statement
  if stripped.isEmpty then false
  else (splitLines stripped).any fun line =>
    let text := stripChars line
    !text.isEmpty && !(['-', '-'].isPrefixOf text)

/-- `split_sql_statements`. -/
def splitSqlStatements (schema : String) : List String :=
  ((fragments isAlnum schema.toList).filter isExecutable).map String.ofList

end Scanners

section Executable

/-- The lines of the line comments of a text are marked, and it has no block comment. -/
def MarksComments (text : List Char) : Prop :=
  ∀ token ∈ tokens text, token.kind ≠ .blockComment ∧
    (token.kind = .lineComment → (splitLines token.text).all isDashed = true)

instance (text : List Char) : Decidable (MarksComments text) :=
  inferInstanceAs (Decidable (∀ token ∈ tokens text, _ ∧ (_ → _)))

/-- A fragment is kept when one of its lines is neither blank nor marked. -/
theorem isExecutable_eq (statement : List Char) :
    isExecutable statement = !isQuiet false statement := by
  unfold isExecutable
  dsimp only
  split
  · rename_i hempty
    rw [← isQuiet_stripChars, List.isEmpty_iff.mp hempty]
    rfl
  · rw [← isQuiet_stripChars, ← all_isDashed_splitLines, List.not_all_eq_any_not]
    congr 1
    funext line
    rw [isDashed, Bool.not_or]

/-- A token of a text all of whose lines are blank or marked. -/
def isQuietToken (token : Token) : Bool :=
  if token.kind = .lineComment then isQuiet false token.text
  else token.kind ≠ .blockComment && token.text.all isSpace

theorem isQuiet_visible {c : Char} {cs : List Char} (hspace : isSpace c = false)
    (hdash : ¬(c = '-' ∧ cs.head? = some '-')) : isQuiet false (c :: cs) = false := by
  rw [isQuiet, hspace, if_neg (by decide), if_neg hdash]

theorem isQuietToken_visible {kind : TokenKind} {c : Char} {cs : List Char}
    (hspace : isSpace c = false) (hkind : kind ≠ .lineComment) :
    isQuietToken ⟨kind, c :: cs⟩ = false := by
  rw [isQuietToken, if_neg hkind, List.all_cons, hspace, Bool.false_and, Bool.and_false]

theorem isQuiet_word_append {word : List Char} (h : ∀ c ∈ word, c ≠ '-') (rest : List Char) :
    isQuiet false (word ++ rest) = (word.all isSpace && isQuiet false rest) := by
  induction word with
  | nil => rfl
  | cons c word ih =>
      rw [List.forall_mem_cons] at h
      rw [List.cons_append, List.all_cons]
      cases hspace : isSpace c with
      | true => rw [isQuiet, if_pos hspace, ih h.2, Bool.true_and]
      | false => rw [isQuiet_visible hspace fun hdash => h.1 hdash.1, Bool.false_and, Bool.false_and]

/-- A text is quiet at a token when the token is quiet and the text behind it. -/
theorem isQuiet_token {mode : Mode} {c : Char} {cs : List Char} {kind : TokenKind} {n : Nat}
    (h : tokenAt mode c cs = (kind, n)) : isQuiet false (c :: cs) =
      (isQuietToken ⟨kind, c :: cs.take n⟩ && isQuiet false (cs.drop n)) := by
  have hvisible : isSpace c = false → ¬(c = '-' ∧ cs.head? = some '-') → kind ≠ .lineComment →
      isQuiet false (c :: cs) = (isQuietToken ⟨kind, c :: cs.take n⟩ && isQuiet false (cs.drop n)) := by
    intro hspace hdash hkind
    rw [isQuiet_visible hspace hdash, isQuietToken_visible hspace hkind, Bool.false_and]
  unfold tokenAt at h
  split_ifs at h with hquote hname hline hblock hdollar hword hsemicolon
  · cases h
    subst hquote
    exact hvisible (by decide) (fun hdash => absurd hdash.1 (by decide)) (by rintro ⟨⟩)
  · cases h
    subst hname
    exact hvisible (by decide) (fun hdash => absurd hdash.1 (by decide)) (by rintro ⟨⟩)
  · cases h
    obtain ⟨rfl, -⟩ := hline
    have hends : EndsLine (cs.dropWhile isInline) := by
      intro d hd
      have hnot := List.head?_dropWhile_not isInline cs
      rw [Option.mem_def.mp hd] at hnot
      simp only [isInline, Bool.and_eq_false_iff, decide_eq_false_iff_not, not_not] at hnot
      rcases hnot with rfl | rfl
      · decide
      · decide
    have hquiet : isQuiet false ('-' :: cs.takeWhile isInline ++ cs.dropWhile isInline) = _ :=
      isQuiet_append hends false
    rw [List.cons_append, List.takeWhile_append_dropWhile] at hquiet
    rw [take_length_takeWhile, drop_length_takeWhile, hquiet]
    rfl
  · cases h
    obtain ⟨rfl, -⟩ := hblock
    exact hvisible (by decide) (fun hdash => absurd hdash.1 (by decide)) (by rintro ⟨⟩)
  · subst hdollar
    split at h
    · cases h
      exact hvisible (by decide) (fun hdash => absurd hdash.1 (by decide)) (by rintro ⟨⟩)
    · cases h
      exact hvisible (by decide) (fun hdash => absurd hdash.1 (by decide)) (by rintro ⟨⟩)
  · cases h
    have hdash : ∀ d ∈ c :: cs.takeWhile isWordPart, d ≠ '-' := by
      rintro d hd rfl
      rcases List.mem_cons.mp hd with rfl | hd
      · revert hword
        decide
      · have hpart := List.mem_takeWhile_imp hd
        revert hpart
        decide
    have hquiet := isQuiet_word_append hdash (cs.dropWhile isWordPart)
    rw [List.cons_append, List.takeWhile_append_dropWhile] at hquiet
    rw [take_length_takeWhile, drop_length_takeWhile, hquiet]
    rfl
  · cases h
    subst hsemicolon
    exact hvisible (by decide) (fun hdash => absurd hdash.1 (by decide)) (by rintro ⟨⟩)
  · cases h
    cases hspace : isSpace c with
    | true =>
        rw [isQuiet, if_pos hspace, isQuietToken, if_neg (by rintro ⟨⟩)]
        simp [hspace]
    | false => exact hvisible hspace hline (by rintro ⟨⟩)

theorem isQuiet_tokensFrom {fuel : Nat} (mode : Mode) {cs : List Char} (h : cs.length ≤ fuel) :
    isQuiet false cs = (tokensFrom fuel mode cs).all isQuietToken := by
  induction fuel generalizing mode cs with
  | zero =>
      rw [Nat.le_zero, List.length_eq_zero_iff] at h
      rw [h]
      rfl
  | succ fuel ih =>
      cases cs with
      | nil => rfl
      | cons c cs =>
          rw [List.length_cons] at h
          have hlength : (cs.drop (tokenAt mode c cs).2).length ≤ fuel := by
            rw [List.length_drop]
            omega
          rw [isQuiet_token (Prod.eta (tokenAt mode c cs)).symm, ih _ hlength, tokensFrom,
            List.all_cons]

/-- A fragment is dropped exactly when it is blank and its comments are marked. -/
theorem isExecutable_eq_false (fragment : List Char) :
    isExecutable fragment = false ↔ isBlank fragment = true ∧ MarksComments fragment := by
  have hquiet : isQuiet false fragment = (tokens fragment).all isQuietToken :=
    isQuiet_tokensFrom .ground (Nat.le_refl _)
  rw [isExecutable_eq, Bool.not_eq_false', hquiet, isBlank, MarksComments, List.all_eq_true,
    List.all_eq_true, ← forall₂_and]
  apply forall₂_congr
  rintro ⟨kind, text⟩ -
  simp only [isQuietToken, all_isDashed_splitLines]
  cases kind <;> simp

end Executable

section Scans

variable {isAlnum : Char → Bool}

theorem literalLength_eq (escapes : Bool) (cs : List Char) :
    literalLength escapes cs = quotedLength apostrophe escapes cs := by
  induction cs using literalLength.induct escapes with
  | case1 => rfl
  | case2 c => rfl
  | case3 c d cs h ih => rw [literalLength, quotedLength, if_pos h, if_pos h, ih]
  | case4 c d cs h hc ih =>
      rw [literalLength, quotedLength, if_neg h, if_neg h, if_pos hc, if_pos hc, ih]
  | case5 c cs h hc ih =>
      rw [literalLength, quotedLength, if_neg h, if_neg h, if_neg hc, if_neg hc, if_pos rfl,
        if_pos rfl, ih]
  | case6 c d cs h hc hd =>
      rw [literalLength, quotedLength, if_neg h, if_neg h, if_neg hc, if_neg hc, if_neg hd,
        if_neg hd]

/-- A literal without a backslash is read alike as an escape string and as a plain one. -/
theorem quotedLength_eq_of_plain {quote : Char} {escapes other : Bool} {cs : List Char}
    (h : '\\' ∉ cs.take (quotedLength quote escapes cs)) :
    quotedLength quote other cs = quotedLength quote escapes cs := by
  induction cs using quotedLength.induct quote escapes with
  | case1 => rfl
  | case2 c => rfl
  | case3 c d cs hescape ih =>
      rw [quotedLength, if_pos hescape, Nat.add_comm, List.take_succ_cons] at h
      have hc : c = '\\' := of_decide_eq_true (Bool.and_eq_true_iff.mp hescape).2
      exact absurd (hc ▸ List.mem_cons_self) h
  | case4 c d cs hescape hc ih =>
      rw [quotedLength, if_neg hescape, if_pos hc, Nat.add_comm, List.take_succ_cons, List.mem_cons,
        not_or] at h
      rw [quotedLength, quotedLength, if_neg hescape, if_pos hc, if_neg (by simp [Ne.symm h.1]),
        if_pos hc, ih h.2]
  | case5 c cs hescape hc ih =>
      rw [quotedLength, if_neg hescape, if_neg hc, if_pos rfl, Nat.add_comm, List.take_succ_cons,
        List.take_succ_cons, List.mem_cons, List.mem_cons, not_or, not_or] at h
      rw [quotedLength, quotedLength, if_neg hescape, if_neg hc, if_pos rfl,
        if_neg (by simp [Ne.symm h.1]), if_neg hc, if_pos rfl, ih h.2.2]
  | case6 c d cs hescape hc hd =>
      rw [quotedLength, if_neg hescape, if_neg hc, if_neg hd, List.take_succ_cons, List.mem_cons,
        not_or] at h
      rw [quotedLength, quotedLength, if_neg hescape, if_neg hc, if_neg hd,
        if_neg (by simp [Ne.symm h.1]), if_neg hc, if_neg hd]

/-- A comment in which no other opens ends at the first end of a comment. -/
theorem commentLength_eq_of_flat {cs : List Char}
    (h : ¬['/', '*'] <:+: cs.take (commentLength 0 cs)) :
    commentLength 0 cs = (find ['*', '/'] cs).elim cs.length (· + 2) := by
  induction cs with
  | nil => rfl
  | cons c cs ih =>
      cases cs with
      | nil =>
          simp [commentLength, find, List.isPrefixOf]
      | cons d cs =>
          rw [commentLength] at h ⊢
          by_cases hopen : c = '/' ∧ d = '*'
          · rw [if_pos hopen, Nat.add_comm, List.take_succ_cons, List.take_succ_cons, hopen.1,
              hopen.2] at h
            exact absurd ⟨[], _, rfl⟩ h
          · rw [if_neg hopen] at h ⊢
            by_cases hclose : c = '*' ∧ d = '/'
            · rw [if_pos hclose, if_pos rfl, find, hclose.1, hclose.2]
              rfl
            · have hnot : ['*', '/'].isPrefixOf (c :: d :: cs) = false := by
                rw [Bool.eq_false_iff]
                intro hstart
                simp only [List.isPrefixOf, Bool.and_true, Bool.and_eq_true, beq_iff_eq] at hstart
                exact hclose ⟨hstart.1.symm, hstart.2.symm⟩
              rw [if_neg hclose] at h ⊢
              rw [Nat.add_comm, List.take_succ_cons] at h
              have hfind : find ['*', '/'] (c :: d :: cs) =
                  (find ['*', '/'] (d :: cs)).map (· + 1) := by
                rw [find, hnot, if_neg (by decide)]
              rw [ih fun hwithin => h (hwithin.trans (List.suffix_cons c _).isInfix), hfind]
              cases find ['*', '/'] (d :: cs) with
              | none => simp [Nat.add_comm]
              | some close => simp [Nat.add_comm, Nat.add_left_comm]

end Scans

section Alike

variable (isAlnum : Char → Bool)

/-- No scanner claims a span in a token, and it has no semicolon. -/
def isUnclaimed : List Char → List Char → List Char → Bool
  | _, [], _ => true
  | before, c :: token, rest =>
      (scanSpan isAlnum before c (token ++ rest)).isNone && c ≠ ';' &&
        isUnclaimed (c :: before) token rest

/-- The scanners read a token as it is meant, with the characters before it and the rest of the
text behind it. -/
def ReadsAlike (before : List Char) (token : Token) (rest : List Char) : Prop :=
  match token.kind with
  | .literal escapes => '\\' ∈ token.text → isEscapeString isAlnum before = escapes
  | .dollarQuoted =>
      let tag := token.text.tail.takeWhile (· ≠ '$')
      tag = [] ∨ isalnum isAlnum (tag.filter (· ≠ '_')) = true
  | .lineComment => ∀ c ∈ rest.takeWhile (· ≠ '\n'), c = '\r'
  | .blockComment => ¬['/', '*'] <:+: token.text.drop 2
  | .semicolon => True
  | .quotedName | .word | .other => isUnclaimed isAlnum before token.text rest = true

instance (before : List Char) (token : Token) (rest : List Char) :
    Decidable (ReadsAlike isAlnum before token rest) :=
  match token with
  | ⟨.literal escapes, text⟩ =>
      inferInstanceAs (Decidable ('\\' ∈ text → isEscapeString isAlnum before = escapes))
  | ⟨.dollarQuoted, text⟩ =>
      inferInstanceAs (Decidable (text.tail.takeWhile (· ≠ '$') = [] ∨
        isalnum isAlnum ((text.tail.takeWhile (· ≠ '$')).filter (· ≠ '_')) = true))
  | ⟨.lineComment, _⟩ =>
      List.decidableBAll (fun c => c = '\r') (rest.takeWhile (· ≠ '\n'))
  | ⟨.blockComment, text⟩ => inferInstanceAs (Decidable (¬['/', '*'] <:+: text.drop 2))
  | ⟨.semicolon, _⟩ => inferInstanceAs (Decidable True)
  | ⟨.quotedName, text⟩ | ⟨.word, text⟩ | ⟨.other, text⟩ =>
      inferInstanceAs (Decidable (isUnclaimed isAlnum before text rest = true))

/-- The scanners read every token as it is meant. -/
def ReadAlike : List Char → List Token → Prop
  | _, [] => True
  | before, token :: tokens => ReadsAlike isAlnum before token (textOf tokens) ∧
      ReadAlike (token.text.reverse ++ before) tokens

instance : (before : List Char) → (tokens : List Token) → Decidable (ReadAlike isAlnum before tokens)
  | _, [] => inferInstanceAs (Decidable True)
  | before, token :: tokens =>
      have := instDecidableReadAlike (token.text.reverse ++ before) tokens
      inferInstanceAs (Decidable (ReadsAlike isAlnum before token (textOf tokens) ∧ _))

variable {isAlnum} {before current cs token rest : List Char} {c : Char} {n : Nat}

attribute [local simp] fragmentsFrom in
theorem fragmentsFrom_left (htoken : token.length = n) :
    fragmentsFrom isAlnum n before current (token ++ rest) =
      fragmentsFrom isAlnum 0 (token.reverse ++ before) (current ++ token) rest := by
  subst htoken
  induction token generalizing before current with
  | nil =>
      rw [List.append_nil]
      rfl
  | cons c token ih =>
      rw [List.length_cons, List.cons_append, fragmentsFrom, ih, List.reverse_cons,
        List.append_assoc, List.append_assoc]
      rfl

theorem fragmentsFrom_claimed (hclaim : scanSpan isAlnum before c cs = some n) (hn : n ≤ cs.length) :
    fragmentsFrom isAlnum 0 before current (c :: cs) =
      fragmentsFrom isAlnum 0 ((c :: cs.take n).reverse ++ before) (current ++ c :: cs.take n)
        (cs.drop n) := by
  have hleft : fragmentsFrom isAlnum n (c :: before) (current ++ [c]) (cs.take n ++ cs.drop n) = _ :=
    fragmentsFrom_left (List.length_take_of_le hn)
  rw [List.take_append_drop] at hleft
  rw [fragmentsFrom, hclaim]
  dsimp only
  rw [hleft, List.reverse_cons, List.append_assoc, List.append_assoc]
  rfl

/-- What no scanner claims is read character by character. -/
theorem fragmentsFrom_unclaimed (h : isUnclaimed isAlnum before token rest = true) :
    fragmentsFrom isAlnum 0 before current (token ++ rest) =
      fragmentsFrom isAlnum 0 (token.reverse ++ before) (current ++ token) rest := by
  induction token generalizing before current with
  | nil =>
      rw [List.append_nil]
      rfl
  | cons c token ih =>
      simp only [isUnclaimed, Bool.and_eq_true, Option.isNone_iff_eq_none, decide_eq_true_eq] at h
      obtain ⟨⟨hclaim, hsemicolon⟩, htoken⟩ := h
      rw [List.cons_append, fragmentsFrom, hclaim]
      dsimp only
      rw [if_neg hsemicolon, ih htoken, List.reverse_cons, List.append_assoc, List.append_assoc]
      rfl

end Alike

section Tokens

variable {isAlnum : Char → Bool} {before current cs : List Char} {c : Char} {mode : Mode}

theorem scanSpan_apostrophe (before cs : List Char) : scanSpan isAlnum before apostrophe cs =
    some (quotedLength apostrophe (isEscapeString isAlnum before) cs) := by
  rw [scanSpan, scanSingleQuoted, if_neg (by simp), literalLength_eq]
  rfl

theorem scanSpan_dashes (h : cs.head? = some '-') : scanSpan isAlnum before '-' cs =
    some (cs.takeWhile (· ≠ '\n')).length := by
  rw [scanSpan, scanSingleQuoted, scanDollarQuoted, scanComment, if_pos (by decide),
    if_pos (by decide), if_pos ⟨rfl, h⟩, getD_find_singleton]
  rfl

theorem scanSpan_slash (h : cs.head? = some '*') : scanSpan isAlnum before '/' cs =
    some (1 + (find ['*', '/'] cs.tail).elim cs.tail.length (· + 2)) := by
  obtain ⟨rest, rfl⟩ := List.head?_eq_some_iff.mp h
  rw [scanSpan, scanSingleQuoted, scanDollarQuoted, scanComment, if_pos (by decide),
    if_pos (by decide), if_neg (by simp), if_pos ⟨rfl, h⟩]
  rw [List.tail_cons]
  cases find ['*', '/'] rest with
  | none => simp [Nat.add_comm]
  | some close => simp [Nat.add_assoc]

/-- A body has a tag, which has no dollar sign, and a dollar sign behind it. -/
theorem bodyLength_eq_some {n : Nat} (h : bodyLength cs = some n) : ∃ tag rest close,
    cs = tag ++ '$' :: rest ∧ '$' ∉ tag ∧ find ('$' :: tag ++ ['$']) rest = some close ∧
    n = tag.length + 1 + close + (tag.length + 2) := by
  unfold bodyLength at h
  dsimp only at h
  split at h
  · rename_i htag
    obtain ⟨close, hclose, rfl⟩ := Option.map_eq_some_iff.mp h
    rw [drop_length_takeWhile] at htag
    obtain ⟨rest, hrest⟩ := List.head?_eq_some_iff.mp htag.2
    have hsplit : cs = cs.takeWhile isTagPart ++ '$' :: rest := by
      rw [← hrest, List.takeWhile_append_dropWhile]
    have hdrop : cs.drop ((cs.takeWhile isTagPart).length + 1) = rest := by
      rw [← List.drop_drop, drop_length_takeWhile, hrest]
      rfl
    refine ⟨cs.takeWhile isTagPart, rest, close, hsplit, ?_, by rw [← hdrop]; exact hclose, rfl⟩
    intro hdollar
    have hpart := List.mem_takeWhile_imp hdollar
    revert hpart
    decide
  · cases h

theorem takeWhile_tag {tag : List Char} (h : '$' ∉ tag) (rest : List Char) :
    (tag ++ '$' :: rest).takeWhile (· ≠ '$') = tag := by
  rw [List.takeWhile_append_of_pos]
  · simp
  · intro c hc
    exact decide_eq_true (by rintro rfl; exact h hc)

/-- A body whose tag the scanner takes is claimed as a whole. -/
theorem scanSpan_dollar {n : Nat} (h : bodyLength cs = some n)
    (htag : cs.takeWhile (· ≠ '$') = [] ∨
      isalnum isAlnum ((cs.takeWhile (· ≠ '$')).filter (· ≠ '_')) = true) :
    scanSpan isAlnum before '$' cs = some n := by
  obtain ⟨tag, rest, close, rfl, hdollar, hclose, rfl⟩ := bodyLength_eq_some h
  rw [takeWhile_tag hdollar] at htag
  have hdrop : (tag ++ '$' :: rest).drop (tag.length + 1) = rest := by
    rw [← List.drop_drop, List.drop_left]
    rfl
  have htaken : (!tag.isEmpty && !isalnum isAlnum (tag.filter (· ≠ '_'))) = false := by
    rcases htag with rfl | htag
    · rfl
    · rw [htag, Bool.not_true, Bool.and_false]
  have hscan : scanDollarQuoted isAlnum '$' (tag ++ '$' :: rest) =
      some (tag.length + 1 + close + (tag.length + 2)) := by
    rw [scanDollarQuoted, if_neg (by decide), find_append_cons hdollar]
    dsimp only
    rw [List.take_left, htaken, if_neg (by decide), hdrop, hclose]
    rfl
  rw [scanSpan, scanSingleQuoted, if_pos (by decide), hscan]
  rfl

theorem isUnclaimed_of_returns {token rest : List Char} (h : ∀ c ∈ token, c = '\r') :
    isUnclaimed isAlnum before token rest = true := by
  induction token generalizing before with
  | nil => rfl
  | cons c token ih =>
      rw [List.forall_mem_cons] at h
      obtain ⟨rfl, htoken⟩ := h
      rw [isUnclaimed, ih htoken, scanSpan, scanSingleQuoted, scanDollarQuoted, scanComment,
        if_pos (by decide), if_pos (by decide), if_neg (by simp), if_neg (by simp)]
      rfl

/-- A line comment that carriage returns may follow before its line feed is read alike. -/
theorem fragmentsFrom_lineComment {text rest : List Char} (hdash : text.head? = some '-')
    (htext : ∀ c ∈ text, c ≠ '\n') (hrest : ∀ c ∈ rest.takeWhile (· ≠ '\n'), c = '\r') :
    fragmentsFrom isAlnum 0 before current ('-' :: (text ++ rest)) =
      fragmentsFrom isAlnum 0 (('-' :: text).reverse ++ before) (current ++ '-' :: text) rest := by
  have hsplit : rest.takeWhile (· ≠ '\n') ++ rest.dropWhile (· ≠ '\n') = rest :=
    List.takeWhile_append_dropWhile
  have hline : (text ++ rest).takeWhile (· ≠ '\n') = text ++ rest.takeWhile (· ≠ '\n') :=
    List.takeWhile_append_of_pos fun c hc => decide_eq_true (htext c hc)
  have hhead : (text ++ rest).head? = some '-' := by
    obtain ⟨tail, rfl⟩ := List.head?_eq_some_iff.mp hdash
    rfl
  have hclaim : scanSpan isAlnum before '-' (text ++ rest) = _ := scanSpan_dashes hhead
  have hreturns : isUnclaimed isAlnum (('-' :: text).reverse ++ before) (rest.takeWhile (· ≠ '\n'))
      (rest.dropWhile (· ≠ '\n')) = true := isUnclaimed_of_returns hrest
  have hread : fragmentsFrom isAlnum 0 _ (current ++ '-' :: text) _ = _ :=
    fragmentsFrom_unclaimed hreturns
  rw [hsplit] at hread
  rw [hread, fragmentsFrom_claimed hclaim (List.takeWhile_prefix _).length_le,
    take_length_takeWhile, drop_length_takeWhile, hline, List.dropWhile_append_of_pos
      fun c hc => decide_eq_true (htext c hc)]
  simp only [List.reverse_cons, List.reverse_append, List.append_assoc, List.cons_append]

/-- What the scanners make of a token that is read alike. -/
theorem fragmentsFrom_token {kind : TokenKind} {n : Nat} (htoken : tokenAt mode c cs = (kind, n))
    (halike : ReadsAlike isAlnum before ⟨kind, c :: cs.take n⟩ (cs.drop n))
    (hkind : kind ≠ .semicolon) : fragmentsFrom isAlnum 0 before current (c :: cs) =
      fragmentsFrom isAlnum 0 ((c :: cs.take n).reverse ++ before) (current ++ c :: cs.take n)
        (cs.drop n) := by
  have hle := tokenAt_le mode c cs
  rw [htoken] at hle
  have hplain : isUnclaimed isAlnum before (c :: cs.take n) (cs.drop n) = true →
      fragmentsFrom isAlnum 0 before current (c :: cs) = fragmentsFrom isAlnum 0
        ((c :: cs.take n).reverse ++ before) (current ++ c :: cs.take n) (cs.drop n) := by
    intro hunclaimed
    have hread : fragmentsFrom isAlnum 0 before current (c :: cs.take n ++ cs.drop n) = _ :=
      fragmentsFrom_unclaimed hunclaimed
    rw [List.cons_append, List.take_append_drop] at hread
    exact hread
  unfold tokenAt at htoken
  split_ifs at htoken with hquote hname hline hblock hdollar hword hsemicolon
  · cases htoken
    subst hquote
    apply fragmentsFrom_claimed _ hle
    rw [scanSpan_apostrophe]
    by_cases hmark : '\\' ∈ cs.take (quotedLength apostrophe mode.escapes cs)
    · rw [halike (List.mem_cons_of_mem _ hmark)]
    · rw [quotedLength_eq_of_plain hmark]
  · cases htoken
    exact hplain halike
  · cases htoken
    obtain ⟨rfl, hdash⟩ := hline
    rw [drop_length_takeWhile] at halike ⊢
    rw [take_length_takeWhile]
    have hhead : (cs.takeWhile isInline).head? = some '-' := by
      obtain ⟨rest, rfl⟩ := List.head?_eq_some_iff.mp hdash
      rfl
    have hfeed : ∀ d ∈ cs.takeWhile isInline, d ≠ '\n' := by
      intro d hd
      have hinline := List.mem_takeWhile_imp hd
      rintro rfl
      cases hinline
    have hread : fragmentsFrom isAlnum 0 before current
        ('-' :: (cs.takeWhile isInline ++ cs.dropWhile isInline)) = _ :=
      fragmentsFrom_lineComment hhead hfeed halike
    rw [List.takeWhile_append_dropWhile] at hread
    exact hread
  · cases htoken
    obtain ⟨rfl, hstar⟩ := hblock
    apply fragmentsFrom_claimed _ hle
    obtain ⟨rest, rfl⟩ := List.head?_eq_some_iff.mp hstar
    have hflat : ¬['/', '*'] <:+: rest.take (commentLength 0 rest) := by
      rw [List.tail_cons, Nat.add_comm, List.take_succ_cons] at halike
      exact halike
    rw [scanSpan_slash hstar, List.tail_cons, ← commentLength_eq_of_flat hflat]
  · cases hbody : bodyLength cs with
    | none =>
        rw [hbody] at htoken
        cases htoken
        exact hplain halike
    | some n =>
        rw [hbody] at htoken
        cases htoken
        subst hdollar
        apply fragmentsFrom_claimed _ hle
        apply scanSpan_dollar hbody
        obtain ⟨tag, rest, close, rfl, hdollar, -, rfl⟩ := bodyLength_eq_some hbody
        have htaken : (tag ++ '$' :: rest).take (tag.length + 1 + close + (tag.length + 2)) =
            tag ++ '$' :: rest.take (close + (tag.length + 2)) := by
          have hbehind : tag.length + 1 + close + (tag.length + 2) - tag.length =
              close + (tag.length + 2) + 1 := by omega
          rw [List.take_append, List.take_of_length_le (by omega), hbehind, List.take_succ_cons]
        unfold ReadsAlike at halike
        simp only [List.tail_cons, htaken, takeWhile_tag hdollar] at halike ⊢
        exact halike
  · cases htoken
    exact hplain halike
  · cases htoken
    exact absurd rfl hkind
  · cases htoken
    exact hplain halike

end Tokens

section Splitting

variable {isAlnum : Char → Bool}

theorem scanSpan_semicolon (before cs : List Char) : scanSpan isAlnum before ';' cs = none := by
  rw [scanSpan, scanSingleQuoted, scanDollarQuoted, scanComment, if_pos (by decide),
    if_pos (by decide), if_neg (by simp), if_neg (by simp)]
  rfl

theorem tokenAt_semicolon {mode : Mode} {c : Char} {cs : List Char} {n : Nat}
    (h : tokenAt mode c cs = (.semicolon, n)) : c = ';' ∧ n = 0 := by
  unfold tokenAt at h
  split_ifs at h with hquote hname hline hblock hdollar hword hsemicolon
  · cases h
  · cases h
  · cases h
  · cases h
  · split at h <;> cases h
  · cases h
  · cases h
    exact ⟨hsemicolon, rfl⟩
  · cases h

theorem fragmentsFrom_eq {fuel : Nat} (mode : Mode) {before current cs : List Char}
    (hfuel : cs.length ≤ fuel) (h : ReadAlike isAlnum before (tokensFrom fuel mode cs)) :
    fragmentsFrom isAlnum 0 before current cs = statementsFrom current (tokensFrom fuel mode cs) := by
  induction fuel generalizing mode before current cs with
  | zero =>
      rw [Nat.le_zero, List.length_eq_zero_iff] at hfuel
      rw [hfuel]
      rfl
  | succ fuel ih =>
      cases cs with
      | nil => rfl
      | cons c cs =>
          rw [List.length_cons] at hfuel
          cases htoken : tokenAt mode c cs with
          | mk kind n =>
              rw [tokensFrom, htoken] at h ⊢
              dsimp only at h ⊢
              obtain ⟨halike, hrest⟩ := h
              have hlength : (cs.drop n).length ≤ fuel := by
                rw [List.length_drop]
                omega
              rw [textOf_tokensFrom _ hlength] at halike
              rw [statementsFrom]
              by_cases hkind : kind = .semicolon
              · subst hkind
                obtain ⟨rfl, rfl⟩ := tokenAt_semicolon htoken
                rw [if_pos rfl, fragmentsFrom, scanSpan_semicolon]
                dsimp only
                rw [if_pos rfl, ← ih _ hlength hrest]
                rfl
              · rw [if_neg hkind, fragmentsFrom_token htoken halike hkind, ih _ hlength hrest]

theorem fragmentsFrom_ne_nil (left : Nat) (before current cs : List Char) :
    fragmentsFrom isAlnum left before current cs ≠ [] := by
  induction cs generalizing left before current with
  | nil => simp [fragmentsFrom]
  | cons c cs ih =>
      cases left with
      | zero =>
          rw [fragmentsFrom]
          split
          · exact ih _ _ _
          · split
            · exact List.cons_ne_nil _ _
            · exact ih _ _ _
      | succ left => exact ih _ _ _

/-- The fragments, put together with semicolons, are the text. -/
theorem intercalate_fragmentsFrom (left : Nat) (before current cs : List Char) :
    [';'].intercalate (fragmentsFrom isAlnum left before current cs) = current ++ cs := by
  induction cs generalizing left before current with
  | nil => simp [fragmentsFrom, List.intercalate]
  | cons c cs ih =>
      have hread : ∀ left, [';'].intercalate (fragmentsFrom isAlnum left (c :: before)
          (current ++ [c]) cs) = current ++ c :: cs := by
        intro left
        rw [ih, List.append_assoc]
        rfl
      cases left with
      | zero =>
          rw [fragmentsFrom]
          split
          · exact hread _
          · split
            · rename_i hsemicolon
              have hne : fragmentsFrom isAlnum 0 (c :: before) [] cs ≠ [] :=
                fragmentsFrom_ne_nil _ _ _ _
              rw [List.intercalate_cons_of_ne_nil hne, ih, hsemicolon]
              simp
            · exact hread 0
      | succ left => exact hread left

variable (isAlnum) in
/-- The splitter is exact on a text: its fragments are the text, it cuts at the semicolons that are
tokens, it drops the fragments that are blank, and it returns the others. -/
structure SplitsExactly (schema : String) : Prop where
  joined : [';'].intercalate (fragments isAlnum schema.toList) = schema.toList
  cuts : fragments isAlnum schema.toList = statements schema.toList
  drops : ∀ fragment ∈ fragments isAlnum schema.toList,
    (isExecutable fragment = false ↔ isBlank fragment = true)
  returned : splitSqlStatements isAlnum schema =
    ((statements schema.toList).filter fun s => !isBlank s).map String.ofList

/-- Where the cuts and the drops are right, the statements that are not blank are returned. -/
theorem splitSqlStatements_eq {schema : String}
    (hcuts : fragments isAlnum schema.toList = statements schema.toList)
    (hdrops : ∀ fragment ∈ statements schema.toList,
      (isExecutable fragment = false ↔ isBlank fragment = true)) :
    splitSqlStatements isAlnum schema =
      ((statements schema.toList).filter fun s => !isBlank s).map String.ofList := by
  rw [splitSqlStatements, hcuts]
  congr 1
  apply List.filter_congr
  intro fragment hfragment
  have hdrops := hdrops fragment hfragment
  cases hblank : isBlank fragment with
  | true => exact hdrops.mpr hblank
  | false => exact eq_true_of_ne_false fun hdropped => by simp [hdrops.mp hdropped] at hblank

/-- A text whose tokens the scanners read alike is split exactly if and only if the comments of its
blank statements are marked. -/
theorem splitsExactly_iff {schema : String} (h : ReadAlike isAlnum [] (tokens schema.toList)) :
    SplitsExactly isAlnum schema ↔ ∀ statement ∈ statements schema.toList,
      isBlank statement = true → MarksComments statement := by
  have hcuts : fragments isAlnum schema.toList = statements schema.toList :=
    fragmentsFrom_eq .ground (Nat.le_refl _) h
  constructor
  · intro hexact statement hstatement hblank
    rw [← hcuts] at hstatement
    exact ((isExecutable_eq_false statement).mp
      ((hexact.drops statement hstatement).mpr hblank)).2
  · intro hmarks
    have hdrops : ∀ fragment ∈ statements schema.toList,
        (isExecutable fragment = false ↔ isBlank fragment = true) := by
      intro fragment hfragment
      rw [isExecutable_eq_false]
      constructor
      · exact And.left
      · intro hblank
        exact ⟨hblank, hmarks fragment hfragment hblank⟩
    exact ⟨intercalate_fragmentsFrom 0 [] [] schema.toList, hcuts, hcuts ▸ hdrops,
      splitSqlStatements_eq hcuts hdrops⟩

/-- A migration with semicolons in a literal, a dollar-quoted body and a comment. -/
def sampleMigration : String :=
  "ALTER TABLE t ADD c text DEFAULT 'a;b';\nDO $$ BEGIN PERFORM 1; END $$;\n-- end; of file\n"

theorem splitsExactly_sampleMigration : SplitsExactly Char.isAlphanum sampleMigration :=
  (splitsExactly_iff (by decide +kernel)).mpr (by decide +kernel)

/-- A semicolon in a quoted name is taken for the end of a statement, and a statement that has
nothing but a block comment is sent. -/
theorem not_splitsExactly : ¬SplitsExactly Char.isAlphanum "COMMENT ON TABLE \"a;b\" IS NULL" ∧
    ¬SplitsExactly Char.isAlphanum "SELECT 1; /* done */" := by
  constructor
  · intro h
    have hcuts := h.cuts
    revert hcuts
    decide +kernel
  · intro h
    have hdrops := h.drops " /* done */".toList (by decide +kernel)
    revert hdrops
    decide +kernel

end Splitting

end LotusReport.Persistence
