import LamApp.Draft
import LamApp.Proofs.TokenText

/-!
# The grammar of programs

The grammar is given as a relation between token lists and trees. A draft reads
a token list in the sense of this relation: the lists that make a draft a whole
program are those that the grammar puts behind what was read already.

Main statements: a text parses to a tree exactly if its tokens derive the tree
and then end; a token list derives one tree at most; and no list that derives a
tree goes on to a longer one.
-/

namespace LamApp

/-- The token lists of expressions, each with its tree. -/
inductive Derives : List Token → Expr → Prop
  | number {numeral : String} {value : Int} :
      Decimal.value? numeral.toList = some value →
      Derives [.number numeral] (.number value)
  | bool (value : Bool) :
      Derives [.bool value] (.bool value)
  | var {name : String} :
      name ≠ "lam" →
      name ≠ "app" →
      Derives [.identifier name] (.var name)
  | paren {tokens : List Token} {e : Expr} :
      Derives tokens e →
      Derives (.leftParen :: (tokens ++ [.rightParen])) e
  | lam (parameter : String) {tokens : List Token} {body : Expr} :
      Derives tokens body →
      Derives (.identifier "lam" :: .identifier parameter :: tokens)
        (.lam parameter body)
  | app {tokens tokens' : List Token} {function argument : Expr} :
      Derives tokens function →
      Derives tokens' argument →
      Derives (.identifier "app" :: (tokens ++ tokens'))
        (.app function argument)

namespace Expr

/-- The tree is a single error. -/
def isError : Expr → Bool
  | error _ => true
  | _ => false

end Expr

/-- No error is in the grammar. -/
theorem Derives.isError
    {tokens : List Token} {e : Expr} (h : Derives tokens e) :
    e.isError = false := by
  induction h with
  | paren _ ih =>
      exact ih
  | _ =>
      rfl

namespace Verdict

/-- The verdict that ends a reading. -/
def ofResult : Except SyntaxError Expr → Verdict
  | .ok program => accept program
  | .error cause => reject cause

end Verdict

namespace Draft

/-! ## Reading a list of tokens -/

/-- Reads tokens up to the end of the program or to the first error. -/
def follow : Draft → List Token → Verdict
  | draft, [] => .next draft
  | draft, token :: tokens =>
      match draft.feed token with
      | .next draft' => draft'.follow tokens
      | verdict => verdict

@[simp] theorem follow_nil
    (draft : Draft) :
    draft.follow [] = .next draft := by
  rfl

theorem follow_cons_of_next
    {draft draft' : Draft} {token : Token}
    (hfeed : draft.feed token = .next draft') (tokens : List Token) :
    draft.follow (token :: tokens) = draft'.follow tokens := by
  rw [follow, hfeed]

theorem follow_singleton
    (draft : Draft) (token : Token) :
    draft.follow [token] = draft.feed token := by
  rw [follow]
  cases draft.feed token <;> rfl

/-- A list is read in two parts, unless the first part ends the reading. -/
theorem follow_append
    (draft : Draft) (tokens more : List Token) :
    draft.follow (tokens ++ more) =
      match draft.follow tokens with
      | .next draft' => draft'.follow more
      | verdict => verdict := by
  induction tokens generalizing draft with
  | nil =>
      rfl
  | cons token tokens ih =>
      rw [List.cons_append, follow, follow]
      cases draft.feed token with
      | next draft' =>
          exact ih draft'
      | accept program =>
          rfl
      | reject cause =>
          rfl

theorem follow_append_of_next
    {draft draft' : Draft} {tokens : List Token}
    (hfollow : draft.follow tokens = .next draft') (more : List Token) :
    draft.follow (tokens ++ more) = draft'.follow more := by
  rw [follow_append, hfollow]

/-- What follows an error is not read. -/
theorem follow_append_of_reject
    {draft : Draft} {tokens : List Token} {cause : SyntaxError}
    (hfollow : draft.follow tokens = .reject cause) (more : List Token) :
    draft.follow (tokens ++ more) = .reject cause := by
  rw [follow_append, hfollow]

/-- The beginning of a list that leads to a draft leads to one as well. -/
theorem exists_follow_of_append
    {draft draft' : Draft} {tokens more : List Token}
    (hfollow : draft.follow (tokens ++ more) = .next draft') :
    ∃ middle,
      draft.follow tokens = .next middle ∧
      middle.follow more = .next draft' := by
  rw [follow_append] at hfollow
  cases htokens : draft.follow tokens with
  | next middle =>
      rw [htokens] at hfollow
      exact ⟨middle, rfl, hfollow⟩
  | accept program =>
      rw [htokens] at hfollow
      cases hfollow
  | reject cause =>
      rw [htokens] at hfollow
      cases hfollow

theorem begin_ne_accept
    (forms : List OpenForm) (token : Token) (program : Expr) :
    begin forms token ≠ .accept program := by
  unfold begin
  split
  all_goals try split
  all_goals try split
  all_goals simp

/-- An error that ends a reading shows at the first token that does not lead
on. -/
theorem exists_append_of_follow_eq_reject
    {draft : Draft} {tokens : List Token} {cause : SyntaxError}
    (hfollow : draft.follow tokens = .reject cause) :
    ∃ front token back draft',
      tokens = front ++ token :: back ∧
      draft.follow front = .next draft' ∧
      draft'.feed token = .reject cause := by
  induction tokens generalizing draft with
  | nil =>
      cases hfollow
  | cons token tokens ih =>
      rw [follow] at hfollow
      cases hfeed : draft.feed token with
      | next next =>
          rw [hfeed] at hfollow
          obtain ⟨front, token', back, draft', rfl, hfront, hreject⟩ :=
            ih hfollow
          refine ⟨token :: front, token', back, draft', rfl, ?_, hreject⟩
          rw [follow_cons_of_next hfeed, hfront]
      | accept program =>
          rw [hfeed] at hfollow
          cases hfollow
      | reject cause' =>
          rw [hfeed] at hfollow
          cases hfollow
          exact ⟨[], token, tokens, draft, rfl, rfl, hfeed⟩

theorem exists_feed_of_follow_eq_reject
    {draft : Draft} {tokens : List Token} {cause : SyntaxError}
    (hfollow : draft.follow tokens = .reject cause) :
    ∃ draft' : Draft, ∃ token ∈ tokens, draft'.feed token = .reject cause := by
  obtain ⟨front, token, back, draft', rfl, -, hreject⟩ :=
    exists_append_of_follow_eq_reject hfollow
  exact ⟨draft', token, by simp, hreject⟩

/-- Only the end of the text completes a program. -/
theorem feed_eq_accept_iff
    {draft : Draft} {token : Token} {program : Expr} :
    draft.feed token = .accept program ↔
      draft = whole program ∧ token = .endOfInput := by
  constructor
  · intro hfeed
    unfold feed at hfeed
    split at hfeed
    · exact absurd hfeed (begin_ne_accept _ _ _)
    · cases hfeed
    · cases hfeed
    · cases hfeed
      exact ⟨rfl, rfl⟩
    · cases hfeed
  · rintro ⟨rfl, rfl⟩
    rfl

theorem begin_eq_reject
    {forms : List OpenForm} {token : Token} {cause : SyntaxError}
    (hbegin : begin forms token = .reject cause) :
    cause = .unexpected .expression token.kind ∨
      (∃ fault, token = .error fault ∧ cause = .lexical fault.message) ∨
      (∃ numeral, token = .number numeral ∧
        Decimal.value? numeral.toList = none ∧ cause = .badNumber numeral) := by
  cases token with
  | leftParen =>
      cases hbegin
  | identifier name =>
      by_cases hlam : name = "lam"
      · simp [begin, hlam] at hbegin
      by_cases happ : name = "app"
      · simp [begin, happ] at hbegin
      · simp [begin, hlam, happ] at hbegin
  | number numeral =>
      cases hvalue : Decimal.value? numeral.toList with
      | none =>
          simp only [begin, hvalue, Verdict.reject.injEq] at hbegin
          exact Or.inr (Or.inr ⟨numeral, rfl, hvalue, hbegin.symm⟩)
      | some value =>
          simp [begin, hvalue] at hbegin
  | bool value =>
      cases hbegin
  | error fault =>
      cases hbegin
      exact Or.inr (Or.inl ⟨fault, rfl, rfl⟩)
  | endOfInput =>
      cases hbegin
      exact Or.inl rfl
  | rightParen =>
      cases hbegin
      exact Or.inl rfl

/-- Why a token is refused: it is of the wrong class, or else it is malformed
or a number without a value in the place of an expression. -/
theorem feed_eq_reject
    {draft : Draft} {token : Token} {cause : SyntaxError}
    (hfeed : draft.feed token = .reject cause) :
    cause = .unexpected draft.expected token.kind ∨
      (∃ fault, token = .error fault ∧ cause = .lexical fault.message) ∨
      (∃ numeral, token = .number numeral ∧
        Decimal.value? numeral.toList = none ∧ cause = .badNumber numeral) := by
  unfold feed at hfeed
  split at hfeed
  case h_1 =>
      exact begin_eq_reject hfeed
  case h_5 =>
      cases hfeed
      exact Or.inl rfl
  all_goals cases hfeed

theorem isLast_of_feed_eq_next
    {draft draft' : Draft} {token : Token}
    (hfeed : draft.feed token = .next draft') :
    token.isLast = false := by
  cases token <;> first
    | rfl
    | (cases draft <;> simp [feed, begin] at hfeed)

/-- A text is read by following its tokens. -/
theorem follow_ofChars
    (draft : Draft) (cs : List Char) (count : Nat) :
    draft.follow (Token.ofChars cs) =
      .ofResult (draft.read cs count).result := by
  fun_induction Draft.read draft cs count with
  | case1 draft cs count lexeme draft' hfeed hlt ih =>
      rw [Token.ofChars_of_not_isLast (isLast_of_feed_eq_next hfeed),
        follow_cons_of_next hfeed, ih]
  | case2 draft cs count lexeme program hfeed =>
      obtain ⟨tokens, htokens⟩ := Token.exists_ofChars_eq_cons cs
      rw [htokens, follow, hfeed]
      rfl
  | case3 draft cs count lexeme cause hfeed =>
      obtain ⟨tokens, htokens⟩ := Token.exists_ofChars_eq_cons cs
      rw [htokens, follow, hfeed]
      rfl

/-! ## What a draft still calls for -/

/-- The expression in the innermost form and the given tokens behind it make
the program. -/
def Fills : List OpenForm → Expr → List Token → Expr → Prop
  | [], e, tokens, program =>
      tokens = [] ∧ program = e
  | .body name :: forms, e, tokens, program =>
      Fills forms (.lam name e) tokens program
  | .function :: forms, e, tokens, program =>
      ∃ front back argument,
        tokens = front ++ back ∧
        Derives front argument ∧
        Fills forms (.app e argument) back program
  | .argument function :: forms, e, tokens, program =>
      Fills forms (.app function e) tokens program
  | .paren :: forms, e, tokens, program =>
      ∃ back, tokens = .rightParen :: back ∧ Fills forms e back program

/-- The given tokens make the program out of what was read. -/
def Completes : Draft → List Token → Expr → Prop
  | expression forms, tokens, program =>
      ∃ front back e,
        tokens = front ++ back ∧
        Derives front e ∧
        Fills forms e back program
  | parameter forms, tokens, program =>
      ∃ name front back body,
        tokens = .identifier name :: (front ++ back) ∧
        Derives front body ∧
        Fills forms (.lam name body) back program
  | closing inner forms, tokens, program =>
      Fills (.paren :: forms) inner tokens program
  | whole e, tokens, program =>
      Fills [] e tokens program

theorem fill_completes_iff
    (forms : List OpenForm) (e : Expr)
    (tokens : List Token) (program : Expr) :
    (fill e forms).Completes tokens program ↔
      Fills forms e tokens program := by
  induction forms generalizing e with
  | nil =>
      rfl
  | cons form forms ih =>
      cases form with
      | body parameter =>
          exact ih _
      | function =>
          rfl
      | argument function =>
          exact ih _
      | paren =>
          rfl

theorem begin_completes
    {forms : List OpenForm} {token : Token} {draft : Draft}
    (hbegin : begin forms token = .next draft)
    {tokens : List Token} {program : Expr}
    (hcompletes : draft.Completes tokens program) :
    (expression forms).Completes (token :: tokens) program := by
  cases token with
  | leftParen =>
      cases hbegin
      obtain ⟨front, back, e, rfl, hderives, rest, rfl, hfills⟩ := hcompletes
      exact ⟨_, rest, e, by simp, .paren hderives, hfills⟩
  | identifier name =>
      by_cases hlam : name = "lam"
      · subst hlam
        cases hbegin
        obtain ⟨parameter, front, back, body, rfl, hderives, hfills⟩ :=
          hcompletes
        exact ⟨_, back, _, rfl, .lam parameter hderives, hfills⟩
      by_cases happ : name = "app"
      · subst happ
        cases hbegin
        obtain ⟨front, back, function, rfl, hfunction, front', back',
          argument, rfl, hargument, hfills⟩ := hcompletes
        exact ⟨_, back', _, by simp, .app hfunction hargument, hfills⟩
      · simp only [begin, if_neg hlam, if_neg happ, Verdict.next.injEq]
          at hbegin
        subst hbegin
        exact ⟨_, tokens, _, rfl, .var hlam happ,
          (fill_completes_iff _ _ _ _).mp hcompletes⟩
  | number numeral =>
      cases hvalue : Decimal.value? numeral.toList with
      | none =>
          simp [begin, hvalue] at hbegin
      | some value =>
          simp only [begin, hvalue, Verdict.next.injEq] at hbegin
          subst hbegin
          exact ⟨_, tokens, _, rfl, .number hvalue,
            (fill_completes_iff _ _ _ _).mp hcompletes⟩
  | bool value =>
      cases hbegin
      exact ⟨_, tokens, _, rfl, .bool value,
        (fill_completes_iff _ _ _ _).mp hcompletes⟩
  | rightParen =>
      cases hbegin
  | endOfInput =>
      cases hbegin
  | error cause =>
      cases hbegin

/-- One token is a step towards the program. -/
theorem feed_completes
    {draft draft' : Draft} {token : Token}
    (hfeed : draft.feed token = .next draft')
    {tokens : List Token} {program : Expr}
    (hcompletes : draft'.Completes tokens program) :
    draft.Completes (token :: tokens) program := by
  unfold feed at hfeed
  split at hfeed
  case h_1 =>
      exact begin_completes hfeed hcompletes
  case h_2 forms name =>
      cases hfeed
      obtain ⟨front, back, body, rfl, hderives, hfills⟩ := hcompletes
      exact ⟨name, front, back, body, rfl, hderives, hfills⟩
  case h_3 inner forms =>
      cases hfeed
      exact ⟨tokens, rfl, (fill_completes_iff _ _ _ _).mp hcompletes⟩
  case h_4 =>
      cases hfeed
  case h_5 =>
      cases hfeed

/-- An expression is read into the innermost form. -/
theorem follow_append_of_derives
    {tokens : List Token} {e : Expr} (hderives : Derives tokens e)
    (forms : List OpenForm) (more : List Token) :
    (expression forms).follow (tokens ++ more) =
      (fill e forms).follow more := by
  induction hderives generalizing forms more with
  | number hvalue =>
      apply follow_cons_of_next
      simp [feed, begin, hvalue]
  | bool value =>
      rfl
  | var hlam happ =>
      apply follow_cons_of_next
      simp [feed, begin, hlam, happ]
  | paren _ ih =>
      rw [List.cons_append, List.append_assoc]
      exact ih (.paren :: forms) _
  | lam parameter _ ih =>
      exact ih (.body parameter :: forms) more
  | app _ _ ihf iha =>
      rw [List.cons_append, List.append_assoc]
      exact (ihf (.function :: forms) _).trans (iha (.argument _ :: forms) more)

theorem follow_of_fills
    {forms : List OpenForm} {e : Expr}
    {tokens : List Token} {program : Expr}
    (hfills : Fills forms e tokens program) :
    (fill e forms).follow tokens = .next (whole program) := by
  induction forms generalizing e tokens with
  | nil =>
      obtain ⟨rfl, rfl⟩ := hfills
      rfl
  | cons form forms ih =>
      cases form with
      | body name =>
          exact ih hfills
      | function =>
          obtain ⟨front, back, argument, rfl, hderives, hfills⟩ := hfills
          rw [fill, follow_append_of_derives hderives]
          exact ih hfills
      | argument function =>
          exact ih hfills
      | paren =>
          obtain ⟨back, rfl, hfills⟩ := hfills
          exact ih hfills

/-- A draft is led to a whole program by the tokens that complete it. -/
theorem follow_eq_whole_iff
    (draft : Draft) (tokens : List Token) (program : Expr) :
    draft.follow tokens = .next (whole program) ↔
      draft.Completes tokens program := by
  constructor
  · intro hfollow
    induction tokens generalizing draft with
    | nil =>
        cases hfollow
        exact ⟨rfl, rfl⟩
    | cons token tokens ih =>
        rw [follow] at hfollow
        cases hfeed : draft.feed token with
        | next draft' =>
            rw [hfeed] at hfollow
            exact feed_completes hfeed (ih draft' hfollow)
        | accept e =>
            rw [hfeed] at hfollow
            cases hfollow
        | reject cause =>
            rw [hfeed] at hfollow
            cases hfollow
  · intro hcompletes
    cases draft with
    | expression forms =>
        obtain ⟨front, back, e, rfl, hderives, hfills⟩ := hcompletes
        rw [follow_append_of_derives hderives]
        exact follow_of_fills hfills
    | parameter forms =>
        obtain ⟨name, front, back, body, rfl, hderives, hfills⟩ := hcompletes
        rw [follow_cons_of_next rfl, follow_append_of_derives hderives]
        exact follow_of_fills hfills
    | closing inner forms =>
        obtain ⟨back, rfl, hfills⟩ := hcompletes
        exact follow_of_fills hfills
    | whole e =>
        obtain ⟨rfl, rfl⟩ := hcompletes
        rfl

/-- Exactly the derived lists make a program out of nothing. -/
theorem follow_empty_eq_whole_iff
    (tokens : List Token) (program : Expr) :
    empty.follow tokens = .next (whole program) ↔ Derives tokens program := by
  rw [empty, follow_eq_whole_iff]
  constructor
  · rintro ⟨front, back, e, rfl, hderives, rfl, rfl⟩
    rwa [List.append_nil]
  · intro hderives
    exact ⟨tokens, [], program, by simp, hderives, rfl, rfl⟩

/-! ## Reading a text to its end -/

theorem follow_ne_accept
    {tokens : List Token} (hplain : ∀ token ∈ tokens, token.IsPlain)
    (draft : Draft) (program : Expr) :
    draft.follow tokens ≠ .accept program := by
  induction tokens generalizing draft with
  | nil =>
      simp
  | cons token tokens ih =>
      intro hfollow
      rw [follow] at hfollow
      cases hfeed : draft.feed token with
      | next draft' =>
          rw [hfeed] at hfollow
          exact ih (fun t ht => hplain t (List.mem_cons_of_mem _ ht))
            draft' hfollow
      | accept e =>
          have hend := (feed_eq_accept_iff.mp hfeed).2
          exact (hplain token (by simp)).ne_endOfInput hend
      | reject cause =>
          rw [hfeed] at hfollow
          cases hfollow

/-- A text is a program if its tokens make one and the end comes next. -/
theorem follow_append_singleton_eq_accept_iff
    {tokens : List Token} (hplain : ∀ token ∈ tokens, token.IsPlain)
    (draft : Draft) (last : Token) (program : Expr) :
    draft.follow (tokens ++ [last]) = .accept program ↔
      draft.follow tokens = .next (whole program) ∧
        last = .endOfInput := by
  cases htokens : draft.follow tokens with
  | next draft' =>
      rw [follow_append_of_next htokens, follow_singleton, feed_eq_accept_iff,
        Verdict.next.injEq]
  | accept e =>
      exact absurd htokens (follow_ne_accept hplain draft e)
  | reject cause =>
      rw [follow_append_of_reject htokens]
      simp

/-- Behind a whole program no token leads on. -/
theorem eq_nil_of_follow_whole
    {e : Expr} {tokens : List Token} {draft : Draft}
    (hfollow : (whole e).follow tokens = .next draft) :
    tokens = [] := by
  cases tokens with
  | nil =>
      rfl
  | cons token tokens =>
      cases token <;> cases hfollow

end Draft

/-! ## The grammar is unambiguous -/

theorem Derives.unique
    {tokens : List Token} {e e' : Expr}
    (h : Derives tokens e) (h' : Derives tokens e') :
    e = e' := by
  rw [← Draft.follow_empty_eq_whole_iff] at h h'
  rw [h] at h'
  cases h'
  rfl

/-- A list that derives a tree goes on to no longer one. -/
theorem Derives.eq_of_isPrefix
    {tokens tokens' : List Token} {e e' : Expr}
    (h : Derives tokens e) (h' : Derives tokens' e')
    (hle : tokens <+: tokens') :
    tokens = tokens' := by
  obtain ⟨more, rfl⟩ := hle
  rw [← Draft.follow_empty_eq_whole_iff] at h h'
  rw [Draft.follow_append_of_next h] at h'
  rw [Draft.eq_nil_of_follow_whole h', List.append_nil]

namespace Expr

/-! ## Parsing is reading by the grammar -/

theorem follow_ofString
    (source : String) :
    Draft.empty.follow (Token.ofString source) =
      .ofResult (parse? source) :=
  Draft.follow_ofChars Draft.empty source.toList 0

theorem parse?_eq_iff
    (source : String) (result : Except SyntaxError Expr) :
    parse? source = result ↔
      Draft.empty.follow (Token.ofString source) = .ofResult result := by
  rw [follow_ofString]
  cases parse? source <;> cases result <;> simp [Verdict.ofResult]

/-- Texts with the same tokens are parsed alike. -/
theorem parse?_congr
    {source source' : String}
    (h : Token.ofString source = Token.ofString source') :
    parse? source = parse? source' := by
  rw [parse?_eq_iff, h, ← parse?_eq_iff]

theorem parse?_eq_ok_iff
    (source : String) (e : Expr) :
    parse? source = .ok e ↔
      ∃ tokens,
        Token.ofString source = tokens ++ [.endOfInput] ∧
        Derives tokens e := by
  obtain ⟨tokens, last, htokens, -, hplain⟩ :=
    Token.ofChars_eq_append source.toList
  have hsource : Token.ofString source = tokens ++ [last] := htokens
  rw [parse?_eq_iff, hsource, Verdict.ofResult,
    Draft.follow_append_singleton_eq_accept_iff hplain,
    Draft.follow_empty_eq_whole_iff]
  constructor
  · rintro ⟨hderives, rfl⟩
    exact ⟨tokens, rfl, hderives⟩
  · rintro ⟨tokens', heq, hderives⟩
    obtain ⟨rfl, rfl⟩ := List.append_singleton_inj.mp heq
    exact ⟨hderives, rfl⟩

/-- A parsed program is no error. -/
theorem isError_of_parse?_eq_ok
    {source : String} {e : Expr} (hparse : parse? source = .ok e) :
    e.isError = false := by
  obtain ⟨tokens, -, hderives⟩ := (parse?_eq_ok_iff source e).mp hparse
  exact hderives.isError

theorem parse_eq_iff_of_isError
    {e : Expr} (he : e.isError = false) (source : String) :
    parse source = e ↔ parse? source = .ok e := by
  unfold parse
  cases parse? source with
  | ok program =>
      simp
  | error cause =>
      simp only [reduceCtorEq, iff_false]
      rintro rfl
      cases he

/-- A text parses to a tree exactly if its tokens derive the tree and then
end. The grammar gives a token list one tree at most, and no derived list goes
on to a longer one. -/
theorem parse_eq_iff_derives :
    (∀ (source : String) (e : Expr), e.isError = false →
      (parse source = e ↔
        ∃ tokens,
          Token.ofString source = tokens ++ [.endOfInput] ∧
          Derives tokens e)) ∧
    (∀ (tokens : List Token) (e e' : Expr),
      Derives tokens e → Derives tokens e' → e = e') ∧
    (∀ (tokens tokens' : List Token) (e e' : Expr),
      Derives tokens e → Derives tokens' e' →
      tokens <+: tokens' → tokens = tokens') := by
  refine ⟨?_, ?_, ?_⟩
  · intro source e he
    rw [parse_eq_iff_of_isError he, parse?_eq_ok_iff]
  · intro tokens e e' h h'
    exact h.unique h'
  · intro tokens tokens' e e' h h' hle
    exact h.eq_of_isPrefix h' hle

/-- Behind `lam` the keyword is a name. -/
theorem parse_lam_lam :
    parse "lam lam 1" = .lam "lam" (.number 1) := by
  have hderives :
      Derives [.identifier "lam", .identifier "lam", .number "1"]
        (.lam "lam" (.number 1)) :=
    .lam "lam" (.number (by decide))
  exact (parse_eq_iff_derives.1 _ _ rfl).mpr
    ⟨_, by decide +kernel, hderives⟩

end Expr
end LamApp
