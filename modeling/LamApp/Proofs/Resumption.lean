import LamApp.Proofs.TokenText

/-!
# Reading on behind a boundary

A malformed token need not be the last one that is read. Behind it the reading
can go on, up to the end of the text, and what it finds are the items of the
text.

Main statement: at every boundary character the reading starts anew. The items
of a text are those in front of the boundary, the closing parenthesis if the
boundary is one, and those behind it. Whatever stands in front, even a token
that the boundary cuts short, has no influence on what stands behind.
-/

namespace LamApp

namespace Token

/-- The tokens of a text in front of its end. A malformed one does not stop the
reading. -/
def items (cs : List Char) : List Token :=
  let lexeme := Lexeme.first cs
  if h : lexeme.token = .endOfInput then
    []
  else
    have : lexeme.rest.length < cs.length := Lexeme.first_rest_length_lt h
    lexeme.token :: items lexeme.rest
termination_by cs.length

theorem items_of_eq_endOfInput
    {cs : List Char} (h : (Lexeme.first cs).token = .endOfInput) :
    items cs = [] := by
  rw [items]
  simp [h]

theorem items_of_ne_endOfInput
    {cs : List Char} (h : (Lexeme.first cs).token ≠ .endOfInput) :
    items cs = (Lexeme.first cs).token :: items (Lexeme.first cs).rest := by
  rw [items]
  simp [h]

/-- Induction along the lexemes of a text, up to its end. -/
@[elab_as_elim]
theorem items_induction
    {motive : List Char → Prop}
    (done : ∀ cs, (Lexeme.first cs).token = .endOfInput → motive cs)
    (step : ∀ cs, (Lexeme.first cs).token ≠ .endOfInput →
      motive (Lexeme.first cs).rest → motive cs)
    (cs : List Char) :
    motive cs :=
  items.induct motive done (fun cs hend _ ih => step cs hend ih) cs

/-- The items of a text depend only on its first lexeme. -/
theorem items_congr
    {cs cs' : List Char} (h : Lexeme.first cs = Lexeme.first cs') :
    items cs = items cs' := by
  by_cases hend : (Lexeme.first cs).token = .endOfInput
  · rw [items_of_eq_endOfInput hend, items_of_eq_endOfInput (h ▸ hend)]
  · have hend' := hend
    rw [h] at hend'
    rw [items_of_ne_endOfInput hend, items_of_ne_endOfInput hend', h]

/-- Blanks in front of a text are no items. -/
theorem items_append_of_blank
    {blanks : List Char} (hblank : ∀ c ∈ blanks, isBlank c = true)
    (cs : List Char) :
    items (blanks ++ cs) = items cs :=
  items_congr (Lexeme.first_append_of_blank hblank cs)

/-- A boundary at the head of a text is an item only if it is a parenthesis. -/
theorem items_cons_of_isBoundary
    {b : Char} (hb : isBoundary b = true) (cs : List Char) :
    items (b :: cs) = (if b = ')' then [.rightParen] else []) ++ items cs := by
  by_cases hclose : b = ')'
  · subst hclose
    have hplain : Token.rightParen.IsPlain := trivial
    have hfirst : Lexeme.first (')' :: cs) = ⟨.rightParen, [')'], cs⟩ :=
      Lexeme.first_text_append hplain (.inl rfl)
    rw [items_of_ne_endOfInput (by simp [hfirst]), hfirst, if_pos rfl]
    rfl
  · have hblank : ∀ c ∈ [b], isBlank c = true := by
      simpa [isBoundary, hclose] using hb
    rw [if_neg hclose, List.nil_append]
    exact items_append_of_blank hblank cs

/-- In front of a boundary a text is read as if it ended there, and the reading
goes on at the boundary. -/
theorem items_append_cons
    {b : Char} (hb : isBoundary b = true) (cs more : List Char) :
    items (cs ++ b :: more) = items cs ++ items (b :: more) := by
  induction cs using items_induction with
  | done cs hend =>
      have hblank := (Lexeme.first_token_eq_endOfInput_iff cs).mp hend
      rw [items_append_of_blank hblank, items_of_eq_endOfInput hend,
        List.nil_append]
  | step cs hend ih =>
      have hfirst := Lexeme.first_append_cons hb hend more
      rw [items_of_ne_endOfInput (by rw [hfirst]; exact hend), hfirst,
        items_of_ne_endOfInput hend, List.cons_append, ← ih]
      rfl

/-- At a boundary character the reading of a text starts anew. -/
theorem items_resume_at_boundary
    {b : Char} (hb : isBoundary b = true) (front back : List Char) :
    items (front ++ b :: back) =
      items front ++ (if b = ')' then [.rightParen] else []) ++ items back := by
  rw [items_append_cons hb, items_cons_of_isBoundary hb, List.append_assoc]

/-- The boundary ends a malformed number, and the reading goes on behind a
character that starts no token. -/
theorem items_resume_in_malformed_text :
    items "lam x] -3x".toList =
      [.identifier "lam", .error (.badIdentifier "x]"),
        .error (.badNumber "-3x")] ∧
    items "(-7 λ1".toList =
      [.leftParen, .number "-7", .error (.illegalCharacter 'λ'),
        .number "1"] ∧
    items "lam x] -3x)(-7 λ1".toList =
      [.identifier "lam", .error (.badIdentifier "x]"),
        .error (.badNumber "-3x"), .rightParen, .leftParen, .number "-7",
        .error (.illegalCharacter 'λ'), .number "1"] := by
  have hfront :
      items "lam x] -3x".toList =
        [.identifier "lam", .error (.badIdentifier "x]"),
          .error (.badNumber "-3x")] := by
    decide +kernel
  have hback :
      items "(-7 λ1".toList =
        [.leftParen, .number "-7", .error (.illegalCharacter 'λ'),
          .number "1"] := by
    decide +kernel
  refine ⟨hfront, hback, ?_⟩
  have hall := items_resume_at_boundary (b := ')') (by decide)
    "lam x] -3x".toList "(-7 λ1".toList
  rw [hfront, hback] at hall
  exact hall

end Token
end LamApp
