import LamApp.Proofs.Grammar

/-!
# Parentheses

Parentheses around a text add two tokens to it, one in front and one behind,
and leave the tokens between them as they are. This needs no blanks: a closing
parenthesis is a boundary, and an opening one needs none behind it.

Main statement: a text in parentheses parses to the same trees as the text
itself. So parentheses repair nothing. In `1) (2` they would pair with those in
the text, and still neither text is a program.
-/

namespace LamApp

namespace Token

/-- The closing parenthesis is read unless a malformed token ends the reading
before. -/
theorem ofChars_paren
    {cs : List Char} {tokens : List Token} {last : Token}
    (htokens : ofChars cs = tokens ++ [last]) :
    ofChars ('(' :: (cs ++ [')'])) =
      if last = .endOfInput then
        .leftParen :: (tokens ++ [.rightParen]) ++ [.endOfInput]
      else
        .leftParen :: tokens ++ [last] := by
  have hleft : leftParen.IsPlain := trivial
  have hright : rightParen.IsPlain := trivial
  have hopen : ofChars ('(' :: (cs ++ [')'])) =
      .leftParen :: ofChars (cs ++ [')']) :=
    ofChars_text_append hleft (.inl rfl)
  have hclose : ofChars [')'] = [.rightParen, .endOfInput] :=
    ofChars_text hright
  rw [hopen, ofChars_append_cons (by decide) htokens, hclose]
  split <;> simp

/-- A text in parentheses is read to its end exactly if the text is. -/
theorem ofChars_paren_eq_concat_endOfInput_iff
    (cs : List Char) (all : List Token) :
    ofChars ('(' :: (cs ++ [')'])) = all ++ [.endOfInput] ↔
      ∃ tokens,
        ofChars cs = tokens ++ [.endOfInput] ∧
        all = .leftParen :: (tokens ++ [.rightParen]) := by
  obtain ⟨tokens, last, htokens, -, -⟩ := ofChars_eq_append cs
  rw [ofChars_paren htokens, htokens]
  by_cases hend : last = .endOfInput
  · rw [if_pos hend, List.append_left_inj]
    constructor
    · rintro rfl
      exact ⟨tokens, by rw [hend], rfl⟩
    · rintro ⟨tokens', heq, rfl⟩
      rw [(List.append_singleton_inj.mp heq).1]
  · rw [if_neg hend]
    constructor
    · intro heq
      exact absurd (List.append_singleton_inj.mp heq).2 hend
    · rintro ⟨tokens', heq, -⟩
      exact absurd (List.append_singleton_inj.mp heq).2 hend

end Token

/-- Between a pair of parentheses stands exactly what derives the same tree. -/
theorem derives_paren_iff
    (tokens : List Token) (e : Expr) :
    Derives (.leftParen :: (tokens ++ [.rightParen])) e ↔
      Derives tokens e := by
  constructor
  · intro hparen
    generalize hall : Token.leftParen :: (tokens ++ [.rightParen]) = all
      at hparen
    cases hparen with
    | paren hinner =>
        rw [List.cons_inj_right, List.append_left_inj] at hall
        rwa [hall]
    | _ =>
        cases hall
  · exact .paren

namespace Expr

/-- A text in parentheses is a program exactly if the text is, and then the
same. -/
theorem parse?_paren_eq_ok_iff
    (source : String) (e : Expr) :
    parse? ("(" ++ source ++ ")") = .ok e ↔ parse? source = .ok e := by
  have hchars : ("(" ++ source ++ ")").toList =
      '(' :: (source.toList ++ [')']) := by
    simp [String.toList_append]
  rw [parse?_eq_ok_iff, parse?_eq_ok_iff, Token.ofString, hchars]
  simp only [Token.ofChars_paren_eq_concat_endOfInput_iff]
  constructor
  · rintro ⟨_, ⟨tokens, htokens, rfl⟩, hderives⟩
    exact ⟨tokens, htokens, (derives_paren_iff tokens e).mp hderives⟩
  · rintro ⟨tokens, htokens, hderives⟩
    exact ⟨_, ⟨tokens, htokens, rfl⟩, .paren hderives⟩

/-- Parentheses around a text leave its tree as it is, and no text becomes a
program by them. -/
theorem parse_paren_eq_iff :
    (∀ (source : String) (e : Expr), e.isError = false →
      (parse ("(" ++ source ++ ")") = e ↔ parse source = e)) ∧
    (∀ source : String,
      (parse ("(" ++ source ++ ")")).isError = (parse source).isError) := by
  have htree : ∀ (source : String) (e : Expr), e.isError = false →
      (parse ("(" ++ source ++ ")") = e ↔ parse source = e) := by
    intro source e he
    rw [parse_eq_iff_of_isError he, parse_eq_iff_of_isError he,
      parse?_paren_eq_ok_iff]
  refine ⟨htree, fun source => ?_⟩
  cases hsource : (parse source).isError with
  | false =>
      rw [(htree source (parse source) hsource).mpr rfl, hsource]
  | true =>
      cases hparen : (parse ("(" ++ source ++ ")")).isError with
      | true =>
          rfl
      | false =>
          -- The tree in parentheses would be the tree of the text.
          rw [← (htree source _ hparen).mp rfl, hsource] at hparen
          cases hparen

/-- Parentheses around a program in parentheses, and around a text with which
they would pair. -/
theorem parse_paren_of_paired_parentheses :
    (Expr.lam "f" (.app (.var "f") (.number (-1)))).isError = false ∧
    parse ("(" ++ "(lam f (app f -1))" ++ ")") =
      .lam "f" (.app (.var "f") (.number (-1))) ∧
    (parse ("(" ++ "1) (2" ++ ")")).isError = true := by
  obtain ⟨htree, herror⟩ := parse_paren_eq_iff
  have hprogram : parse "(lam f (app f -1))" =
      .lam "f" (.app (.var "f") (.number (-1))) := by
    decide +kernel
  have hpaired : (parse "1) (2").isError = true := by
    decide +kernel
  exact ⟨rfl, (htree _ _ rfl).mpr hprogram, (herror _).trans hpaired⟩

end Expr
end LamApp
