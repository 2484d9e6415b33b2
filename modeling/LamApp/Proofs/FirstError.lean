import LamApp.Proofs.RoundTrip

/-!
# The first hopeless token of a text

A text that is no program begins like one for a while. The error that is
reported for it belongs to the first token with which it no longer does, and
what the error calls for is what could have stood there instead.

Main statement: there is exactly one such token in a text that is refused. The
draft in front of it decides the error, and each kind of draft is told from the
others by the tokens that lead on from it.
-/

namespace LamApp

/-- Some program begins with these tokens. -/
def Opens (tokens : List Token) : Prop :=
  ∃ program e, Derives program e ∧ tokens <+: program

/-- Some program, together with the end of the text, begins with these
tokens. -/
def Viable (tokens : List Token) : Prop :=
  ∃ program e, Derives program e ∧ tokens <+: program ++ [.endOfInput]

/-- The tokens in front of this place can still become a program, but not with
the token that stands there. -/
def Hopeless (tokens : List Token) (k : Nat) : Prop :=
  k < tokens.length ∧ Opens (tokens.take k) ∧ ¬ Viable (tokens.take (k + 1))

/-- A token that a text can hold. -/
def Token.IsReadable (token : Token) : Prop :=
  token.IsPlain ∨ token.isLast = true

namespace Category

/-- The classes of the tokens with which something of the category begins. -/
def kinds : Category → List TokenKind
  | expression => [.leftParen, .number, .bool, .identifier]
  | rightParen => [.rightParen]
  | number => [.number]
  | bool => [.bool]
  | identifier => [.identifier]
  | endOfInput => [.endOfInput]

/-- Behind these tokens something of the category must come: exactly the
tokens with which it begins may follow. The end is due behind a whole
program. -/
def Due (tokens : List Token) : Category → Prop
  | endOfInput => ∃ e, Derives tokens e
  | category =>
      ∀ token : Token, token.IsReadable →
        (Viable (tokens ++ [token]) ↔ token.kind ∈ category.kinds)

theorem eq_of_forall_mem_kinds_iff
    {category category' : Category}
    (h : ∀ kind, kind ∈ category.kinds ↔ kind ∈ category'.kinds) :
    category = category' := by
  have hleft := h .leftParen
  have hright := h .rightParen
  have hnumber := h .number
  have hbool := h .bool
  have hidentifier := h .identifier
  clear h
  cases category <;> cases category' <;> simp_all [kinds]

end Category

namespace TokenKind

/-- Every class has a token that a text can hold. -/
theorem exists_isReadable
    (kind : TokenKind) :
    ∃ token : Token, token.IsReadable ∧ token.kind = kind := by
  cases kind with
  | error =>
      exact ⟨.error (.badNumber "-"), .inr rfl, rfl⟩
  | endOfInput =>
      exact ⟨.endOfInput, .inr rfl, rfl⟩
  | number =>
      exact ⟨.number "0", .inl Draft.isPlain_zero, rfl⟩
  | bool =>
      exact ⟨.bool true, .inl trivial, rfl⟩
  | identifier =>
      have hname : (Token.identifier "x").IsPlain :=
        ⟨by decide, by decide, by decide⟩
      exact ⟨.identifier "x", .inl hname, rfl⟩
  | leftParen =>
      exact ⟨.leftParen, .inl trivial, rfl⟩
  | rightParen =>
      exact ⟨.rightParen, .inl trivial, rfl⟩

end TokenKind

theorem Token.isReadable_of_mem_ofString
    {source : String} {token : Token} (h : token ∈ Token.ofString source) :
    token.IsReadable := by
  obtain ⟨tokens, last, htokens, hlast, hplain⟩ :=
    Token.ofChars_eq_append source.toList
  rw [Token.ofString, htokens, List.mem_append, List.mem_singleton] at h
  rcases h with hmem | rfl
  · exact .inl (hplain token hmem)
  · exact .inr hlast

theorem Opens.viable
    {tokens : List Token} (h : Opens tokens) :
    Viable tokens := by
  obtain ⟨program, e, hderives, hle⟩ := h
  exact ⟨program, e, hderives, hle.trans (List.prefix_append _ _)⟩

theorem Opens.of_isPrefix
    {tokens tokens' : List Token} (h : Opens tokens')
    (hle : tokens <+: tokens') :
    Opens tokens := by
  obtain ⟨program, e, hderives, hle'⟩ := h
  exact ⟨program, e, hderives, hle.trans hle'⟩

namespace Draft

/-! ## What may follow a draft -/

/-- Exactly the beginnings of programs lead to a draft. -/
theorem opens_iff_follow
    (tokens : List Token) :
    Opens tokens ↔ ∃ draft, empty.follow tokens = .next draft := by
  constructor
  · rintro ⟨_, e, hderives, more, rfl⟩
    rw [← follow_empty_eq_whole_iff] at hderives
    obtain ⟨draft, hfollow, -⟩ := exists_follow_of_append hderives
    exact ⟨draft, hfollow⟩
  · rintro ⟨draft, hfollow⟩
    obtain ⟨more, e, -, hcompletes⟩ := draft.exists_completes
    rw [← follow_eq_whole_iff] at hcompletes
    refine ⟨tokens ++ more, e, ?_, List.prefix_append _ _⟩
    rw [← follow_empty_eq_whole_iff, follow_append_of_next hfollow,
      hcompletes]

theorem follow_append_endOfInput
    {tokens : List Token} {e : Expr} (hderives : Derives tokens e) :
    empty.follow (tokens ++ [.endOfInput]) = .accept e := by
  rw [← follow_empty_eq_whole_iff] at hderives
  rw [follow_append_of_next hderives]
  rfl

section Front

variable {tokens : List Token} {draft : Draft}
  (hfollow : empty.follow tokens = .next draft)
include hfollow

/-- Behind a draft exactly the tokens may follow that it does not refuse. -/
theorem viable_append_singleton_iff
    (token : Token) :
    Viable (tokens ++ [token]) ↔
      ∀ cause, draft.feed token ≠ .reject cause := by
  constructor
  · rintro ⟨program, e, hderives, more, hmore⟩ cause hfeed
    have haccept := follow_append_endOfInput hderives
    rw [← hmore, List.append_assoc, follow_append_of_next hfollow,
      List.singleton_append, follow, hfeed] at haccept
    cases haccept
  · intro hfeed
    cases hnext : draft.feed token with
    | next draft' =>
        apply Opens.viable
        rw [opens_iff_follow]
        refine ⟨draft', ?_⟩
        rw [follow_append_of_next hfollow, follow_singleton, hnext]
    | accept e =>
        obtain ⟨rfl, rfl⟩ := feed_eq_accept_iff.mp hnext
        exact ⟨tokens, e, (follow_empty_eq_whole_iff tokens e).mp hfollow,
          List.prefix_rfl⟩
    | reject cause =>
        exact absurd hnext (hfeed cause)

omit hfollow in
/-- A draft refuses exactly the tokens of other classes. -/
theorem forall_feed_ne_reject_iff
    {token : Token} (htoken : token.IsReadable) :
    (∀ cause, draft.feed token ≠ .reject cause) ↔
      token.kind ∈ draft.expected.kinds := by
  cases token with
  | number numeral =>
      have hnumeral : Decimal.isNumeral numeral.toList = true :=
        htoken.resolve_right Bool.false_ne_true
      rw [← Decimal.isSome_value?, Option.isSome_iff_exists] at hnumeral
      obtain ⟨value, hvalue⟩ := hnumeral
      cases draft <;>
        simp [feed, begin, hvalue, expected, Category.kinds, Token.kind]
  | identifier name =>
      by_cases hlam : name = "lam"
      · cases draft <;>
          simp [feed, begin, hlam, expected, Category.kinds, Token.kind]
      by_cases happ : name = "app"
      · cases draft <;>
          simp [feed, begin, happ, expected, Category.kinds, Token.kind]
      · cases draft <;>
          simp [feed, begin, hlam, happ, expected, Category.kinds, Token.kind]
  | _ =>
      cases draft <;>
        simp [feed, begin, expected, Category.kinds, Token.kind]

theorem viable_iff_mem_kinds
    {token : Token} (htoken : token.IsReadable) :
    Viable (tokens ++ [token]) ↔ token.kind ∈ draft.expected.kinds := by
  rw [viable_append_singleton_iff hfollow, forall_feed_ne_reject_iff htoken]

/-- What a draft calls for is due behind its tokens. -/
theorem due_expected :
    draft.expected.Due tokens := by
  cases draft with
  | whole e =>
      exact ⟨e, (follow_empty_eq_whole_iff tokens e).mp hfollow⟩
  | _ =>
      exact fun token htoken => viable_iff_mem_kinds hfollow htoken

/-- Nothing else is due there. -/
theorem due_iff_eq_expected
    (category : Category) :
    category.Due tokens ↔ draft.expected = category := by
  constructor
  · intro hdue
    apply Category.eq_of_forall_mem_kinds_iff
    intro kind
    obtain ⟨token, htoken, rfl⟩ := kind.exists_isReadable
    rw [← viable_iff_mem_kinds hfollow htoken]
    cases category with
    | endOfInput =>
        -- The draft in front of the end is a whole program.
        obtain ⟨e, hderives⟩ := hdue
        rw [← follow_empty_eq_whole_iff] at hderives
        exact viable_iff_mem_kinds hderives htoken
    | _ =>
        exact hdue token htoken
  · rintro rfl
    exact due_expected hfollow

end Front

/-- The error for a token that a text can hold: a malformed one is reported as
such where an expression is due. -/
theorem feed_eq_reject_of_isReadable
    {draft : Draft} {token : Token} (htoken : token.IsReadable)
    {cause : SyntaxError} (hfeed : draft.feed token = .reject cause) :
    (token.kind = .error ∧ draft.expected = .expression →
      cause = .lexical token.text) ∧
    (¬ (token.kind = .error ∧ draft.expected = .expression) →
      cause = .unexpected draft.expected token.kind) := by
  constructor
  · rintro ⟨hkind, hexpected⟩
    cases draft <;> cases hexpected
    cases token <;> cases hkind
    cases hfeed
    rfl
  · intro hnot
    rcases feed_eq_reject hfeed with
      rfl | ⟨fault, rfl, -⟩ | ⟨numeral, rfl, hvalue, -⟩
    · rfl
    · cases draft with
      | expression forms =>
          exact absurd ⟨rfl, rfl⟩ hnot
      | _ =>
          cases hfeed
          rfl
    · have hnumeral : Decimal.isNumeral numeral.toList = true :=
        htoken.resolve_right Bool.false_ne_true
      rw [← Decimal.isSome_value?, hvalue] at hnumeral
      cases hnumeral

end Draft

/-! ## The place of the error -/

theorem Hopeless.le
    {tokens : List Token} {j k : Nat}
    (hj : Hopeless tokens j) (hk : Hopeless tokens k) :
    k ≤ j := by
  by_contra hlt
  have hle : tokens.take (j + 1) <+: tokens.take k :=
    List.take_prefix_take_left (by omega)
  exact hj.2.2 (hk.2.1.of_isPrefix hle).viable

/-- No two tokens of a text are the first hopeless one. -/
theorem Hopeless.unique
    {tokens : List Token} {j k : Nat}
    (hj : Hopeless tokens j) (hk : Hopeless tokens k) :
    j = k := by
  have hle := hj.le hk
  have hge := hk.le hj
  omega

/-- A token that is refused is the first hopeless one. -/
theorem Draft.hopeless_of_feed_eq_reject
    {front back : List Token} {token : Token} {draft : Draft}
    {cause : SyntaxError}
    (hfollow : empty.follow front = .next draft)
    (hfeed : draft.feed token = .reject cause) :
    Hopeless (front ++ token :: back) front.length := by
  refine ⟨by simp, ?_, ?_⟩
  · rw [List.take_left]
    exact (opens_iff_follow front).mpr ⟨draft, hfollow⟩
  · have htake : (front ++ token :: back).take (front.length + 1) =
        front ++ [token] :=
      List.take_length_add_append 1
    rw [htake, viable_append_singleton_iff hfollow]
    exact fun hnot => hnot cause hfeed

namespace Expr

/-- A text that is refused has exactly one first hopeless token. It is the one
that the error is about, and the error calls for what is due in its place. -/
theorem parse_error_at_first_hopeless_token
    (source : String) (cause : SyntaxError)
    (hparse : parse source = .error cause) :
    (∃! k, Hopeless (Token.ofString source) k) ∧
    ∀ k token,
      Hopeless (Token.ofString source) k →
      (Token.ofString source)[k]? = some token →
      (token.kind = .error ∧
          Category.expression.Due ((Token.ofString source).take k) →
        cause = .lexical token.text) ∧
      (¬ (token.kind = .error ∧
          Category.expression.Due ((Token.ofString source).take k)) →
        ∃ expected,
          cause = .unexpected expected token.kind ∧
          ∀ category : Category,
            expected = category ↔
              category.Due ((Token.ofString source).take k)) := by
  rw [parse_eq_error_iff, parse?_eq_iff] at hparse
  obtain ⟨front, token, back, draft, hsource, hfollow, hfeed⟩ :=
    Draft.exists_append_of_follow_eq_reject hparse
  have hmem : token ∈ Token.ofString source := by
    simp [hsource]
  have htoken := Token.isReadable_of_mem_ofString hmem
  rw [hsource]
  have hhopeless : Hopeless (front ++ token :: back) front.length :=
    Draft.hopeless_of_feed_eq_reject hfollow hfeed
  refine ⟨⟨front.length, hhopeless, fun j hj => hj.unique hhopeless⟩, ?_⟩
  intro k token' hk hget
  obtain rfl := hk.unique hhopeless
  obtain rfl : token = token' := by simpa using hget
  rw [List.take_left, Draft.due_iff_eq_expected hfollow]
  obtain ⟨hlexical, hunexpected⟩ :=
    Draft.feed_eq_reject_of_isReadable htoken hfeed
  refine ⟨hlexical, fun hnot => ⟨draft.expected, hunexpected hnot, ?_⟩⟩
  intro category
  exact (Draft.due_iff_eq_expected hfollow category).symm

/-- An argument is due where the parenthesis is closed. -/
theorem parse_error_at_missing_argument :
    parse "(app f )" = .error (.unexpected .expression .rightParen) ∧
      Hopeless (Token.ofString "(app f )") 3 ∧
      Category.expression.Due
        [.leftParen, .identifier "app", .identifier "f"] := by
  have hparse :
      parse "(app f )" = .error (.unexpected .expression .rightParen) := by
    decide +kernel
  have hsource : Token.ofString "(app f )" =
      [.leftParen, .identifier "app", .identifier "f"] ++
        .rightParen :: [.endOfInput] := by
    decide +kernel
  have hhopeless : Hopeless (Token.ofString "(app f )") 3 := by
    rw [hsource]
    exact Draft.hopeless_of_feed_eq_reject rfl rfl
  have htoken : (Token.ofString "(app f )")[3]? = some .rightParen := by
    rw [hsource]
    rfl
  have herror :=
    (parse_error_at_first_hopeless_token _ _ hparse).2 3 _ hhopeless htoken
  obtain ⟨expected, hcause, hdue⟩ :=
    herror.2 fun h => TokenKind.noConfusion h.1
  cases hcause
  refine ⟨hparse, hhopeless, ?_⟩
  rw [hsource] at hdue
  exact (hdue .expression).mp rfl

end Expr
end LamApp
