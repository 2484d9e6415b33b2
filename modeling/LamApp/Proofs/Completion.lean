import LamApp.Proofs.Grammar

/-!
# Texts that can still become programs

A text that ended too early can always be completed: every draft can be led to
a whole program by tokens that close its open forms, innermost first. Every
other verdict on a text stands, whatever follows behind a blank: an error stays
the same error, and a whole program admits nothing but blanks.
-/

namespace LamApp
namespace Token

/-- Tokens written one after the other, each with a blank behind it. -/
def spaced : List Token → List Char
  | [] => []
  | token :: tokens => token.text.toList ++ ' ' :: spaced tokens

/-- Plain tokens are read back from their spaced texts. -/
theorem ofChars_spaced
    {tokens : List Token} (hplain : ∀ token ∈ tokens, token.IsPlain) :
    ofChars (spaced tokens) = tokens ++ [.endOfInput] := by
  induction tokens with
  | nil =>
      exact ofChars_of_blank (by simp [spaced])
  | cons token tokens ih =>
      have htoken : token.IsPlain := hplain token (by simp)
      have hbound : token.isParen = true ∨
          atBoundary (' ' :: spaced tokens) = true := Or.inr rfl
      rw [spaced, ofChars_text_append htoken hbound, ofChars_cons_of_blank rfl,
        ih (fun t ht => hplain t (List.mem_cons_of_mem _ ht)),
        List.cons_append]

/-- The tokens of a text with a blank and more text behind it. -/
theorem ofString_append_blank
    {blank : Char} (hblank : isBlank blank = true)
    {source : String} {tokens : List Token} {last : Token}
    (htokens : ofString source = tokens ++ [last])
    (more : String) :
    ofString (source ++ blank.toString ++ more) =
      tokens ++ if last = .endOfInput then ofString more else [last] := by
  have hbound : isBoundary blank = true := by
    simp [isBoundary, hblank]
  have htext : (source ++ blank.toString ++ more).toList =
      source.toList ++ blank :: more.toList := by
    simp [Char.toString]
  rw [ofString, htext, ofChars_append_cons hbound htokens,
    ofChars_cons_of_blank hblank]
  rfl

end Token

namespace Draft

/-! ## Every draft can be completed -/

theorem isPlain_zero :
    (Token.number "0").IsPlain := by
  have hnumeral : Decimal.isNumeral "0".toList = true := by decide
  exact hnumeral

theorem derives_zero :
    Derives [.number "0"] (.number 0) :=
  .number (by decide)

theorem exists_fills
    (forms : List OpenForm) (e : Expr) :
    ∃ tokens program,
      (∀ token ∈ tokens, token.IsPlain) ∧
      Fills forms e tokens program := by
  induction forms generalizing e with
  | nil =>
      exact ⟨[], e, by simp, rfl, rfl⟩
  | cons form forms ih =>
      cases form with
      | body name =>
          exact ih (.lam name e)
      | function =>
          obtain ⟨tokens, program, hplain, hfills⟩ := ih (.app e (.number 0))
          refine ⟨.number "0" :: tokens, program, ?_, [.number "0"], tokens,
            .number 0, rfl, derives_zero, hfills⟩
          rw [List.forall_mem_cons]
          exact ⟨isPlain_zero, hplain⟩
      | argument function =>
          exact ih (.app function e)
      | paren =>
          obtain ⟨tokens, program, hplain, hfills⟩ := ih e
          refine ⟨.rightParen :: tokens, program, ?_, tokens, rfl, hfills⟩
          rw [List.forall_mem_cons]
          exact ⟨trivial, hplain⟩

/-- Every draft is completed by some tokens that a text can hold. -/
theorem exists_completes
    (draft : Draft) :
    ∃ tokens program,
      (∀ token ∈ tokens, token.IsPlain) ∧
      draft.Completes tokens program := by
  cases draft with
  | expression forms =>
      obtain ⟨tokens, program, hplain, hfills⟩ :=
        exists_fills forms (.number 0)
      refine ⟨.number "0" :: tokens, program, ?_, [.number "0"], tokens,
        .number 0, rfl, derives_zero, hfills⟩
      rw [List.forall_mem_cons]
      exact ⟨isPlain_zero, hplain⟩
  | parameter forms =>
      obtain ⟨tokens, program, hplain, hfills⟩ :=
        exists_fills forms (.lam "x" (.number 0))
      have hname : (Token.identifier "x").IsPlain :=
        ⟨by decide, by decide, by decide⟩
      refine ⟨.identifier "x" :: .number "0" :: tokens, program, ?_, "x",
        [.number "0"], tokens, .number 0, rfl, derives_zero, hfills⟩
      rw [List.forall_mem_cons, List.forall_mem_cons]
      exact ⟨hname, isPlain_zero, hplain⟩
  | closing inner forms =>
      exact exists_fills (.paren :: forms) inner
  | whole e =>
      exact exists_fills [] e

/-! ## Errors at the end of a text and elsewhere -/

theorem isIncomplete_iff_of_feed_eq_reject
    {draft : Draft} {token : Token} {cause : SyntaxError}
    (hfeed : draft.feed token = .reject cause) :
    cause.isIncomplete = true ↔ token = .endOfInput := by
  rcases feed_eq_reject hfeed with
    rfl | ⟨fault, rfl, rfl⟩ | ⟨numeral, rfl, -, rfl⟩
  · cases token <;> simp [SyntaxError.isIncomplete, Token.kind]
  · simp [SyntaxError.isIncomplete]
  · simp [SyntaxError.isIncomplete]

theorem isIncomplete_of_follow_eq_reject
    {tokens : List Token} (hplain : ∀ token ∈ tokens, token.IsPlain)
    {draft : Draft} {cause : SyntaxError}
    (hfollow : draft.follow tokens = .reject cause) :
    cause.isIncomplete = false := by
  obtain ⟨draft', token, htoken, hfeed⟩ :=
    exists_feed_of_follow_eq_reject hfollow
  rw [← Bool.not_eq_true, isIncomplete_iff_of_feed_eq_reject hfeed]
  exact (hplain token htoken).ne_endOfInput

end Draft

namespace Expr

/-- A text is refused before its last token, or its last token decides. -/
theorem parse?_cases
    (source : String) :
    ∃ tokens last,
      Token.ofString source = tokens ++ [last] ∧
      (∀ token ∈ tokens, token.IsPlain) ∧
      ((∃ cause,
          Draft.empty.follow tokens = .reject cause ∧
          parse? source = .error cause) ∨
        (∃ draft,
          Draft.empty.follow tokens = .next draft ∧
          draft.feed last = .ofResult (parse? source))) := by
  obtain ⟨tokens, last, htokens, -, hplain⟩ :=
    Token.ofChars_eq_append source.toList
  have hsource : Token.ofString source = tokens ++ [last] := htokens
  have hfollow := follow_ofString source
  rw [hsource] at hfollow
  refine ⟨tokens, last, hsource, hplain, ?_⟩
  cases hread : Draft.empty.follow tokens with
  | next draft =>
      rw [Draft.follow_append_of_next hread, Draft.follow_singleton] at hfollow
      exact .inr ⟨draft, rfl, hfollow⟩
  | accept e =>
      exact absurd hread (Draft.follow_ne_accept hplain _ e)
  | reject cause =>
      left
      refine ⟨cause, rfl, ?_⟩
      rw [Draft.follow_append_of_reject hread] at hfollow
      cases hparse : parse? source with
      | ok e =>
          rw [hparse] at hfollow
          cases hfollow
      | error cause' =>
          rw [hparse] at hfollow
          cases hfollow
          rfl

section Continued

variable {blank : Char} (hblank : isBlank blank = true)
include hblank

/-- What ended too early can be completed. -/
theorem exists_completion
    {source : String} {cause : SyntaxError}
    (hparse : parse? source = .error cause)
    (hcause : cause.isIncomplete = true) :
    ∃ completion program,
      parse? (source ++ blank.toString ++ completion) = .ok program := by
  obtain ⟨tokens, last, hsource, hplain, hcases⟩ := parse?_cases source
  rw [hparse] at hcases
  rcases hcases with ⟨cause', hread, heq⟩ | ⟨draft, hread, hfeed⟩
  · cases heq
    rw [Draft.isIncomplete_of_follow_eq_reject hplain hread] at hcause
    cases hcause
  · have hend : last = .endOfInput :=
      (Draft.isIncomplete_iff_of_feed_eq_reject hfeed).mp hcause
    obtain ⟨more, program, hmore, hcompletes⟩ := draft.exists_completes
    have hwhole := (Draft.follow_eq_whole_iff _ _ _).mpr hcompletes
    refine ⟨String.ofList (Token.spaced more), program, ?_⟩
    rw [parse?_eq_ok_iff, Token.ofString_append_blank hblank hsource,
      if_pos hend]
    refine ⟨tokens ++ more, ?_, ?_⟩
    · rw [Token.ofString, String.toList_ofList, Token.ofChars_spaced hmore,
        List.append_assoc]
    · rw [← Draft.follow_empty_eq_whole_iff,
        Draft.follow_append_of_next hread, hwhole]

/-- Any other error stands. -/
theorem parse?_append_of_error
    {source : String} {cause : SyntaxError}
    (hparse : parse? source = .error cause)
    (hcause : cause.isIncomplete = false)
    (more : String) :
    parse? (source ++ blank.toString ++ more) = .error cause := by
  obtain ⟨tokens, last, hsource, hplain, hcases⟩ := parse?_cases source
  have hlong := Token.ofString_append_blank hblank hsource more
  rw [hparse] at hcases
  rcases hcases with ⟨cause', hread, heq⟩ | ⟨draft, hread, hfeed⟩
  · cases heq
    rw [parse?_eq_iff, hlong]
    exact Draft.follow_append_of_reject hread _
  · have hend : last ≠ .endOfInput := by
      intro hend
      rw [(Draft.isIncomplete_iff_of_feed_eq_reject hfeed).mpr hend] at hcause
      cases hcause
    rw [if_neg hend, ← hsource] at hlong
    rw [parse?_eq_iff, hlong, ← parse?_eq_iff]
    exact hparse

/-- Behind a whole program there must be nothing but blanks. -/
theorem parse?_append_of_ok
    {source : String} {program : Expr}
    (hparse : parse? source = .ok program)
    (more : String) :
    parse? (source ++ blank.toString ++ more) =
      if (Lexeme.first more.toList).token = .endOfInput then
        .ok program
      else
        .error (.unexpected .endOfInput
          (Lexeme.first more.toList).token.kind) := by
  obtain ⟨tokens, hsource, hderives⟩ := (parse?_eq_ok_iff _ _).mp hparse
  obtain ⟨rest, hrest⟩ := Token.exists_ofChars_eq_cons more.toList
  have hmore : Token.ofString more =
      (Lexeme.first more.toList).token :: rest := hrest
  rw [← Draft.follow_empty_eq_whole_iff] at hderives
  rw [parse?_eq_iff, Token.ofString_append_blank hblank hsource, if_pos rfl,
    Draft.follow_append_of_next hderives, hmore]
  cases (Lexeme.first more.toList).token <;> rfl

end Continued

/-! ## Verdicts on the tree of a text -/

theorem parse_of_ok
    {source : String} {program : Expr} (hparse : parse? source = .ok program) :
    parse source = program := by
  rw [parse, hparse]

theorem parse_of_error
    {source : String} {cause : SyntaxError}
    (hparse : parse? source = .error cause) :
    parse source = .error cause := by
  rw [parse, hparse]

theorem isError_of_isIncomplete
    {e : Expr} (he : e.isIncomplete = true) :
    e.isError = true := by
  cases e <;> first
    | rfl
    | cases he

/-- A text is incomplete exactly if it can be completed behind a blank; every
other verdict is final. -/
theorem parse_append_blank
    (source more : String) {blank : Char} (hblank : isBlank blank = true) :
    ((parse source).isIncomplete = true →
      ∃ completion : String,
        (parse (source ++ blank.toString ++ completion)).isError = false) ∧
    ((parse source).isError = true →
      (parse source).isIncomplete = false →
      parse (source ++ blank.toString ++ more) = parse source) ∧
    ((parse source).isError = false →
      Token.ofString more = [.endOfInput] →
      parse (source ++ blank.toString ++ more) = parse source) ∧
    ((parse source).isError = false →
      Token.ofString more ≠ [.endOfInput] →
      ∃ token tokens,
        Token.ofString more = token :: tokens ∧
        parse (source ++ blank.toString ++ more) =
          .error (.unexpected .endOfInput token.kind)) ∧
    ((parse source).isError = true →
      ((parse source).isIncomplete = true ↔
        ∃ completion : String,
          (parse (source ++ blank.toString ++ completion)).isError =
            false)) := by
  cases hparse : parse? source with
  | ok program =>
      have herror : (parse source).isError = false := by
        rw [parse_of_ok hparse]
        exact isError_of_parse?_eq_ok hparse
      have hmore := parse?_append_of_ok hblank hparse more
      obtain ⟨rest, hrest⟩ := Token.exists_ofChars_eq_cons more.toList
      refine ⟨?_, ?_, ?_, ?_, ?_⟩
      · intro hincomplete
        rw [isError_of_isIncomplete hincomplete] at herror
        cases herror
      · intro h
        rw [h] at herror
        cases herror
      · intro _ hend
        have hfirst : (Lexeme.first more.toList).token = .endOfInput :=
          (List.cons.inj (hrest.symm.trans hend)).1
        rw [if_pos hfirst] at hmore
        rw [parse_of_ok hmore, parse_of_ok hparse]
      · intro _ hend
        have hfirst : (Lexeme.first more.toList).token ≠ .endOfInput := by
          intro hfirst
          apply hend
          rw [Token.ofString,
            Token.ofChars_of_isLast (by rw [hfirst]; rfl), hfirst]
        rw [if_neg hfirst] at hmore
        exact ⟨_, rest, hrest, parse_of_error hmore⟩
      · intro h
        rw [h] at herror
        cases herror
  | error cause =>
      have herror : (parse source).isError = true := by
        rw [parse_of_error hparse]
        rfl
      have hincomplete : (parse source).isIncomplete = cause.isIncomplete := by
        rw [parse_of_error hparse]
        rfl
      have hcompletion : cause.isIncomplete = true →
          ∃ completion : String,
            (parse (source ++ blank.toString ++ completion)).isError =
              false := by
        intro hcause
        obtain ⟨completion, program, hok⟩ :=
          exists_completion hblank hparse hcause
        refine ⟨completion, ?_⟩
        rw [parse_of_ok hok]
        exact isError_of_parse?_eq_ok hok
      have hfinal : cause.isIncomplete = false → ∀ more : String,
          parse (source ++ blank.toString ++ more) = parse source := by
        intro hcause more
        rw [parse_of_error (parse?_append_of_error hblank hparse hcause more),
          parse_of_error hparse]
      rw [hincomplete, herror]
      refine ⟨hcompletion, fun _ hcause => hfinal hcause more, by simp,
        by simp, fun _ => ⟨hcompletion, ?_⟩⟩
      rintro ⟨completion, hok⟩
      cases hcause : cause.isIncomplete with
      | true =>
          rfl
      | false =>
          rw [hfinal hcause completion, herror] at hok
          cases hok

/-- Two forms and a parenthesis are open. -/
theorem exists_completion_of_open_forms :
    isBlank '\n' = true ∧
      (parse "app f (lam x").isIncomplete = true ∧
      ∃ completion : String,
        (parse ("app f (lam x" ++ '\n'.toString ++ completion)).isError =
          false := by
  have hincomplete : (parse "app f (lam x").isIncomplete = true := by
    decide +kernel
  exact ⟨rfl, hincomplete,
    (parse_append_blank "app f (lam x" "" rfl).1 hincomplete⟩

end Expr
end LamApp
