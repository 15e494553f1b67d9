import LotusReport.Encoding.Lines

/-!
# The tokens of a migration text

The lexical structure of PostgreSQL, as far as it decides where a statement
ends: literals, quoted names, dollar-quoted bodies and comments are single
tokens, and a semicolon that is a token of its own ends a statement.
-/

namespace LotusReport.Persistence

open Encoding

section Tokens

/-- The quote of a literal. -/
def apostrophe : Char := Char.ofNat 39

/-- What a token is. A literal is an escape string or not. -/
inductive TokenKind where
  | literal (escapes : Bool)
  | quotedName
  | dollarQuoted
  | lineComment
  | blockComment
  | word
  | semicolon
  | other
deriving DecidableEq, Repr

structure Token where
  kind : TokenKind
  text : List Char
deriving DecidableEq, Repr

/-- What the tokens before decide about a quote: behind the letter of an escape string it opens
one, and behind an escape string it continues that one, if there is a line end between them. -/
inductive Mode where
  | ground
  | escaped (ready : Bool)
deriving DecidableEq, Repr

/-- A quote opens or continues an escape string here. -/
def Mode.escapes : Mode → Bool
  | .escaped true => true
  | _ => false

/-- How far a quoted text reaches behind its opening quote. A doubled quote does not close it. -/
def quotedLength (quote : Char) (escapes : Bool) : List Char → Nat
  | [] => 0
  | [_] => 1
  | c :: d :: cs =>
      if escapes && c = '\\' then 2 + quotedLength quote escapes cs
      else if c ≠ quote then 1 + quotedLength quote escapes (d :: cs)
      else if d = quote then 2 + quotedLength quote escapes cs
      else 1

/-- How far a block comment reaches behind its opening, with the comments open around it. -/
def commentLength : Nat → List Char → Nat
  | _, [] => 0
  | _, [_] => 1
  | depth, c :: d :: cs =>
      if c = '/' ∧ d = '*' then 2 + commentLength (depth + 1) cs
      else if c = '*' ∧ d = '/' then
        if depth = 0 then 2 else 2 + commentLength (depth - 1) cs
      else 1 + commentLength depth (d :: cs)

/-- A letter, an underscore or a character beyond ASCII starts a word. -/
def isWordStart (c : Char) : Bool := c.isAlpha || c = '_' || 128 ≤ c.toNat

/-- A character of the tag of a dollar-quoted body. -/
def isTagPart (c : Char) : Bool := isWordStart c || c.isDigit

/-- A character of a word: also a dollar sign. -/
def isWordPart (c : Char) : Bool := isTagPart c || c = '$'

/-- How far a dollar-quoted body reaches behind its first dollar sign. An opening delimiter that
is never repeated opens nothing. -/
def bodyLength (cs : List Char) : Option Nat :=
  let tag := cs.takeWhile isTagPart
  if tag.head?.all isWordStart ∧ (cs.drop tag.length).head? = some '$' then
    (find ('$' :: tag ++ ['$']) (cs.drop (tag.length + 1))).map
      fun close => tag.length + 1 + close + (tag.length + 2)
  else none

/-- A character that a line comment does not end at. -/
def isInline (c : Char) : Bool := c ≠ '\n' && c ≠ '\r'

/-- The token at a character, and how far it reaches behind it. -/
def tokenAt (mode : Mode) (c : Char) (cs : List Char) : TokenKind × Nat :=
  if c = apostrophe then (.literal mode.escapes, quotedLength c mode.escapes cs)
  else if c = '"' then (.quotedName, quotedLength c false cs)
  else if c = '-' ∧ cs.head? = some '-' then
    (.lineComment, (cs.takeWhile isInline).length)
  else if c = '/' ∧ cs.head? = some '*' then (.blockComment, 1 + commentLength 0 cs.tail)
  else if c = '$' then
    match bodyLength cs with
    | some n => (.dollarQuoted, n)
    | none => (.other, 0)
  else if isWordStart c then (.word, (cs.takeWhile isWordPart).length)
  else if c = ';' then (.semicolon, 0)
  else (.other, 0)

/-- The characters between two parts of one literal. -/
def isGap (c : Char) : Bool := c = ' ' || (9 ≤ c.toNat && c.toNat ≤ 13)

/-- What a token decides about a quote behind it. -/
def nextMode (mode : Mode) (token : Token) (rest : List Char) : Mode :=
  match token.kind, mode with
  | .literal true, _ => .escaped false
  | .word, _ =>
      if (token.text = ['E'] ∨ token.text = ['e']) ∧ rest.head? = some apostrophe then .escaped true
      else .ground
  | .lineComment, mode => mode
  | .other, .escaped ready =>
      if token.text.all isGap then
        .escaped (ready || token.text.any fun c => c = '\n' ∨ c = '\r')
      else .ground
  | _, _ => .ground

/-- The tokens of a text, at most as many as it has characters. -/
def tokensFrom : Nat → Mode → List Char → List Token
  | 0, _, _ | _, _, [] => []
  | fuel + 1, mode, c :: cs =>
      let (kind, n) := tokenAt mode c cs
      let token : Token := ⟨kind, c :: cs.take n⟩
      token :: tokensFrom fuel (nextMode mode token (cs.drop n)) (cs.drop n)

/-- The tokens of a text. -/
def tokens (text : List Char) : List Token := tokensFrom text.length .ground text

/-- The text of tokens. -/
def textOf (tokens : List Token) : List Char := tokens.flatMap (·.text)

/-- The statements of a text, with what was read of the first of them. -/
def statementsFrom (current : List Char) : List Token → List (List Char)
  | [] => [current]
  | token :: tokens =>
      if token.kind = .semicolon then current :: statementsFrom [] tokens
      else statementsFrom (current ++ token.text) tokens

/-- The statements of a text: it is cut at the semicolons that are tokens. -/
def statements (text : List Char) : List (List Char) := statementsFrom [] (tokens text)

/-- A text has nothing but white space and comments. -/
def isBlank (text : List Char) : Bool :=
  (tokens text).all fun token =>
    token.kind = .lineComment || token.kind = .blockComment || token.text.all isSpace

end Tokens

section Lengths

theorem quotedLength_le (quote : Char) (escapes : Bool) (cs : List Char) :
    quotedLength quote escapes cs ≤ cs.length := by
  induction cs using quotedLength.induct quote escapes with
  | case1 => exact Nat.le_refl 0
  | case2 c => exact Nat.le_refl 1
  | case3 c d cs h ih =>
      rw [quotedLength, if_pos h, List.length_cons, List.length_cons]
      omega
  | case4 c d cs h hc ih =>
      rw [quotedLength, if_neg h, if_pos hc, List.length_cons]
      omega
  | case5 c cs h hc ih =>
      rw [quotedLength, if_neg h, if_neg hc, if_pos rfl, List.length_cons, List.length_cons]
      omega
  | case6 c d cs h hc hd =>
      rw [quotedLength, if_neg h, if_neg hc, if_neg hd, List.length_cons]
      omega

theorem commentLength_le (depth : Nat) (cs : List Char) : commentLength depth cs ≤ cs.length := by
  induction depth, cs using commentLength.induct with
  | case1 depth => exact Nat.le_refl 0
  | case2 depth c => exact Nat.le_refl 1
  | case3 depth c d cs h ih =>
      rw [commentLength, if_pos h, List.length_cons, List.length_cons]
      omega
  | case4 c d cs h hclose =>
      rw [commentLength, if_neg h, if_pos hclose, if_pos rfl, List.length_cons, List.length_cons]
      omega
  | case5 depth c d cs h hclose hdepth ih =>
      rw [commentLength, if_neg h, if_pos hclose, if_neg hdepth, List.length_cons, List.length_cons]
      omega
  | case6 depth c d cs h hclose ih =>
      rw [commentLength, if_neg h, if_neg hclose, List.length_cons]
      omega

theorem length_takeWhile_le (p : Char → Bool) (cs : List Char) :
    (cs.takeWhile p).length ≤ cs.length :=
  (List.takeWhile_prefix p).length_le

theorem bodyLength_le {cs : List Char} {n : Nat} (h : bodyLength cs = some n) : n ≤ cs.length := by
  unfold bodyLength at h
  dsimp only at h
  split at h
  · obtain ⟨close, hclose, rfl⟩ := Option.map_eq_some_iff.mp h
    have hle := find_le hclose
    simp only [List.length_append, List.length_cons, List.length_nil, List.length_drop] at hle
    have htag := length_takeWhile_le isTagPart cs
    omega
  · cases h

/-- A token does not reach behind the text. -/
theorem tokenAt_le (mode : Mode) (c : Char) (cs : List Char) : (tokenAt mode c cs).2 ≤ cs.length := by
  unfold tokenAt
  split_ifs with hquote hname hline hblock hdollar hword hsemicolon
  · exact quotedLength_le _ _ cs
  · exact quotedLength_le _ _ cs
  · exact length_takeWhile_le _ cs
  · obtain ⟨rest, rfl⟩ := List.head?_eq_some_iff.mp hblock.2
    have hle := commentLength_le 0 rest
    rw [List.tail_cons, List.length_cons]
    omega
  · split
    · rename_i n hbody
      exact bodyLength_le hbody
    · exact Nat.zero_le _
  · exact length_takeWhile_le _ cs
  · exact Nat.zero_le _
  · exact Nat.zero_le _

theorem textOf_tokensFrom {fuel : Nat} (mode : Mode) {cs : List Char} (h : cs.length ≤ fuel) :
    textOf (tokensFrom fuel mode cs) = cs := by
  induction fuel generalizing mode cs with
  | zero =>
      rw [Nat.le_zero, List.length_eq_zero_iff] at h
      rw [h]
      rfl
  | succ fuel ih =>
      cases cs with
      | nil => rfl
      | cons c cs =>
          rw [List.length_cons] at h
          have hrest : (cs.drop (tokenAt mode c cs).2).length ≤ fuel := by
            rw [List.length_drop]
            omega
          rw [tokensFrom, textOf, List.flatMap_cons, List.cons_append]
          have htail := ih (nextMode mode ⟨(tokenAt mode c cs).1,
            c :: cs.take (tokenAt mode c cs).2⟩ (cs.drop (tokenAt mode c cs).2)) hrest
          rw [textOf] at htail
          rw [htail, List.take_append_drop]

end Lengths

end LotusReport.Persistence
