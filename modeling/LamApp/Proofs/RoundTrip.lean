import LamApp.Expr.Render
import LamApp.Proofs.Completion

/-!
# Writing a tree and reading it back

A tree is well-formed if it holds no error and its names are names that can
stand where they stand. Exactly the well-formed trees come from texts, and
exactly they come back from their one-line form. There is one exception: the
message of a single error happens to be refused with this same error.
-/

namespace LamApp
namespace Expr

/-- A tree that some text is read as. -/
def WellFormed : Expr → Prop
  | error _ => False
  | var name =>
      isName name.toList = true ∧
        name ∉ ["lam", "app", "true", "false"]
  | number _ => True
  | bool _ => True
  | lam parameter body =>
      isName parameter.toList = true ∧
        parameter ∉ ["true", "false"] ∧
        body.WellFormed
  | app function argument =>
      function.WellFormed ∧ argument.WellFormed

/-! ## Trees of texts -/

theorem wellFormed_of_derives
    {tokens : List Token} {e : Expr} (hderives : Derives tokens e)
    (hplain : ∀ token ∈ tokens, token.IsPlain) :
    e.WellFormed := by
  induction hderives with
  | number _ =>
      trivial
  | bool value =>
      trivial
  | @var name hlam happ =>
      obtain ⟨hname, htrue, hfalse⟩ : (Token.identifier name).IsPlain :=
        hplain _ (by simp)
      exact ⟨hname, by simp [hlam, happ, htrue, hfalse]⟩
  | paren _ ih =>
      exact ih (fun token htoken => hplain token (by simp [htoken]))
  | lam parameter _ ih =>
      obtain ⟨hname, htrue, hfalse⟩ : (Token.identifier parameter).IsPlain :=
        hplain _ (by simp)
      exact ⟨hname, by simp [htrue, hfalse],
        ih (fun token htoken => hplain token (by simp [htoken]))⟩
  | app _ _ ihf iha =>
      exact ⟨ihf (fun token htoken => hplain token (by simp [htoken])),
        iha (fun token htoken => hplain token (by simp [htoken]))⟩

/-- Every parsed program is well-formed. -/
theorem wellFormed_of_parse?_eq_ok
    {source : String} {e : Expr} (hparse : parse? source = .ok e) :
    e.WellFormed := by
  obtain ⟨tokens, hsource, hderives⟩ := (parse?_eq_ok_iff source e).mp hparse
  obtain ⟨tokens', last, htokens, -, hplain⟩ :=
    Token.ofChars_eq_append source.toList
  obtain ⟨rfl, -⟩ := List.append_singleton_inj.mp
    (hsource.symm.trans htokens)
  exact wellFormed_of_derives hderives hplain

end Expr

namespace Decimal

/-- Without a sign the value of a numeral is that of its digits. -/
theorem value?_of_isUnsigned
    {cs : List Char} (h : isUnsigned cs = true) :
    value? cs = some (Nat.ofDigitChars 10 cs 0 : Int) := by
  unfold value?
  split
  case h_1 cs =>
      -- A minus sign is no digit.
      simp [isUnsigned] at h
  case h_2 =>
      rw [magnitude?, if_pos h]
      rfl

theorem isUnsigned_toDigits
    (n : Nat) :
    isUnsigned (Nat.toDigits 10 n) = true := by
  rw [← isSome_magnitude?, magnitude?_toDigits]
  rfl

theorem value?_toDigits
    (n : Nat) :
    value? (Nat.toDigits 10 n) = some (n : Int) := by
  rw [value?_of_isUnsigned (isUnsigned_toDigits n),
    Nat.ofDigitChars_ten_toDigits]

theorem toList_text_ofNat
    (m : Nat) :
    (text (Int.ofNat m)).toList = Nat.toDigits 10 m :=
  Nat.toList_repr

theorem toList_text_negSucc
    (m : Nat) :
    (text (Int.negSucc m)).toList = '-' :: Nat.toDigits 10 (m + 1) := by
  have hrepr : text (Int.negSucc m) = "-" ++ Nat.repr (m + 1) := rfl
  rw [hrepr, String.toList_append, Nat.toList_repr]
  rfl

/-- The canonical numeral of an integer has its value. -/
theorem value?_text
    (n : Int) :
    value? (text n).toList = some n := by
  cases n with
  | ofNat m =>
      rw [toList_text_ofNat, value?_toDigits]
      rfl
  | negSucc m =>
      rw [toList_text_negSucc, value?, magnitude?_toDigits]
      rfl

theorem isNumeral_text
    (n : Int) :
    isNumeral (text n).toList = true := by
  rw [← isSome_value?, value?_text]
  rfl

end Decimal

namespace Token

/-- A name in front of a blank is the first token. -/
theorem ofChars_name_blank
    {name : String} (hname : (identifier name).IsPlain)
    {blank : Char} (hblank : isBlank blank = true) (rest : List Char) :
    ofChars (name.toList ++ blank :: rest) =
      identifier name :: ofChars rest := by
  have hbound : atBoundary (blank :: rest) = true := by
    simp [atBoundary, isBoundary, hblank]
  have htokens := ofChars_text_append hname (.inr hbound)
  rw [ofChars_cons_of_blank hblank] at htokens
  exact htokens

theorem ofChars_lam
    (rest : List Char) :
    ofChars ("lam ".toList ++ rest) = identifier "lam" :: ofChars rest := by
  have hname : (identifier "lam").IsPlain :=
    ⟨by decide, by decide, by decide⟩
  exact ofChars_name_blank hname rfl rest

end Token

namespace Expr

/-! ## Written trees -/

/-- In front of a boundary the piece is read as the tree. -/
def Writes (piece : List Char → List Char) (e : Expr) : Prop :=
  ∀ rest, atBoundary rest = true →
    ∃ tokens,
      Derives tokens e ∧
      Token.ofChars (piece rest) = tokens ++ Token.ofChars rest

theorem writes_of_isPlain
    {token : Token} (hplain : token.IsPlain)
    {e : Expr} (hderives : Derives [token] e) :
    Writes (fun rest => token.text.toList ++ rest) e := by
  intro rest hrest
  exact ⟨[token], hderives, Token.ofChars_text_append hplain (Or.inr hrest)⟩

/-- Parentheses around a written tree leave it the same tree. -/
theorem Writes.bracket
    {piece : List Char → List Char} {e : Expr} (hpiece : Writes piece e)
    (needed : Bool) :
    Writes (bracket needed piece) e := by
  cases needed with
  | false =>
      exact hpiece
  | true =>
      intro rest hrest
      obtain ⟨tokens, hderives, htokens⟩ := hpiece (')' :: rest) rfl
      have hleft : Token.leftParen.IsPlain := trivial
      have hright : Token.rightParen.IsPlain := trivial
      have hopen : Token.ofChars ('(' :: piece (')' :: rest)) =
          .leftParen :: Token.ofChars (piece (')' :: rest)) :=
        Token.ofChars_text_append hleft (Or.inl rfl)
      have hclose : Token.ofChars (')' :: rest) =
          .rightParen :: Token.ofChars rest :=
        Token.ofChars_text_append hright (Or.inl rfl)
      refine ⟨_, .paren hderives, ?_⟩
      rw [Expr.bracket, if_pos rfl, hopen, htokens, hclose]
      simp

/-- The body of a function may be written behind any blank. -/
theorem Writes.lam
    {parameter : String} (hparameter : (Token.identifier parameter).IsPlain)
    {blank : Char} (hblank : isBlank blank = true)
    {piece : List Char → List Char} {body : Expr}
    (hpiece : Writes piece body) :
    Writes
      (fun rest => "lam ".toList ++ (parameter.toList ++ blank :: piece rest))
      (.lam parameter body) := by
  intro rest hrest
  obtain ⟨tokens, hderives, htokens⟩ := hpiece rest hrest
  refine ⟨_, .lam parameter hderives, ?_⟩
  rw [Token.ofChars_lam, Token.ofChars_name_blank hparameter hblank, htokens]
  rfl

/-- Function and argument may be written behind any blanks. -/
theorem Writes.app
    {blank : Char} (hblank : isBlank blank = true)
    {piece piece' : List Char → List Char} {function argument : Expr}
    (hfunction : Writes piece function) (hargument : Writes piece' argument) :
    Writes
      (fun rest => "app".toList ++ blank :: piece (blank :: piece' rest))
      (.app function argument) := by
  intro rest hrest
  have hname : (Token.identifier "app").IsPlain :=
    ⟨by decide, by decide, by decide⟩
  have hbound : atBoundary (blank :: piece' rest) = true := by
    simp [atBoundary, isBoundary, hblank]
  obtain ⟨tokens', hderives', htokens'⟩ := hargument rest hrest
  obtain ⟨tokens, hderives, htokens⟩ := hfunction _ hbound
  refine ⟨_, .app hderives hderives', ?_⟩
  rw [Token.ofChars_name_blank hname hblank, htokens,
    Token.ofChars_cons_of_blank hblank, htokens', List.cons_append,
    List.append_assoc]

/-- The one-line form of a well-formed tree is read as the tree. -/
theorem writes_inline
    {e : Expr} (he : e.WellFormed) :
    Writes (inline e) e := by
  induction e with
  | error cause =>
      exact he.elim
  | var name =>
      obtain ⟨hname, hkeyword⟩ := he
      simp only [List.mem_cons, List.not_mem_nil, or_false, not_or]
        at hkeyword
      obtain ⟨hlam, happ, htrue, hfalse⟩ := hkeyword
      have hplain : (Token.identifier name).IsPlain := ⟨hname, htrue, hfalse⟩
      exact writes_of_isPlain hplain (.var hlam happ)
  | number value =>
      have hplain : (Token.number (Decimal.text value)).IsPlain :=
        Decimal.isNumeral_text value
      exact writes_of_isPlain hplain (.number (Decimal.value?_text value))
  | bool value =>
      have hplain : (Token.bool value).IsPlain := trivial
      have hwrites := writes_of_isPlain hplain (.bool value)
      cases value <;> exact hwrites
  | lam parameter body ih =>
      obtain ⟨hname, hkeyword, hbody⟩ := he
      have hplain : (Token.identifier parameter).IsPlain :=
        ⟨hname, by simpa using hkeyword⟩
      exact .lam hplain rfl (ih hbody)
  | app function argument ihf iha =>
      exact .app rfl ((ihf he.1).bracket function.isLam)
        ((iha he.2).bracket (!argument.isLeaf))

/-- A written tree is parsed back. -/
theorem parse?_of_writes
    {piece : List Char → List Char} {e : Expr} (hpiece : Writes piece e) :
    parse? (String.ofList (piece [])) = .ok e := by
  obtain ⟨tokens, hderives, htokens⟩ := hpiece [] rfl
  refine (parse?_eq_ok_iff _ _).mpr ⟨tokens, ?_, hderives⟩
  rw [Token.ofString, String.toList_ofList, htokens,
    Token.ofChars_of_blank (by simp)]

/-! ## Messages of errors -/

/-- The errors of texts: a token of the wrong class, or a malformed one. -/
theorem parse?_eq_error
    {source : String} {cause : SyntaxError}
    (hparse : parse? source = .error cause) :
    (∃ (draft : Draft) (found : TokenKind),
        cause = .unexpected draft.expected found) ∨
      ∃ fault : LexicalError, cause = .lexical fault.message := by
  rw [parse?_eq_iff] at hparse
  obtain ⟨draft, token, htoken, hfeed⟩ :=
    Draft.exists_feed_of_follow_eq_reject hparse
  rcases Draft.feed_eq_reject hfeed with
    rfl | ⟨fault, -, rfl⟩ | ⟨numeral, rfl, hvalue, -⟩
  · exact Or.inl ⟨_, _, rfl⟩
  · exact Or.inr ⟨fault, rfl⟩
  · obtain ⟨tokens, last, htokens, hlast, hplain⟩ :=
      Token.ofChars_eq_append source.toList
    have hsource : Token.ofString source = tokens ++ [last] := htokens
    rw [hsource, List.mem_append, List.mem_singleton] at htoken
    rcases htoken with hmem | rfl
    · have hnumeral : Decimal.isNumeral numeral.toList = true :=
        hplain _ hmem
      rw [← Decimal.isSome_value?, hvalue] at hnumeral
      cases hnumeral
    · cases hlast

/-- A text of two words or more goes on behind its first word. -/
theorem parse?_name_append
    {name : String} (hname : (var name).WellFormed) (more : String) :
    parse? (name ++ ' '.toString ++ more) =
      if (Lexeme.first more.toList).token = .endOfInput then
        .ok (var name)
      else
        .error (.unexpected .endOfInput
          (Lexeme.first more.toList).token.kind) := by
  have hparse := parse?_of_writes (writes_inline hname)
  have htext : String.ofList (inline (var name) []) = name := by
    simp [inline]
  rw [htext] at hparse
  exact parse?_append_of_ok rfl hparse more

/-- No message of a malformed token is refused for that token. -/
theorem parse?_message_ne
    (fault : LexicalError) (message : String) :
    parse? fault.message ≠ .error (.lexical message) := by
  have hbad : (var "bad").WellFormed := ⟨by decide, by decide⟩
  have hillegal : (var "illegal").WellFormed := ⟨by decide, by decide⟩
  have hwords : ∃ name more,
      (var name).WellFormed ∧
      fault.message = name ++ ' '.toString ++ more := by
    cases fault with
    | badNumber run =>
        have hmessage : (LexicalError.badNumber run).message =
            "bad" ++ ' '.toString ++ "number syntax: '" ++ run ++ "'" := rfl
        rw [String.append_assoc, String.append_assoc] at hmessage
        exact ⟨_, _, hbad, hmessage⟩
    | badIdentifier run =>
        have hmessage : (LexicalError.badIdentifier run).message =
            "bad" ++ ' '.toString ++ "identifier syntax: '" ++ run ++ "'" :=
          rfl
        rw [String.append_assoc, String.append_assoc] at hmessage
        exact ⟨_, _, hbad, hmessage⟩
    | illegalCharacter c =>
        have hmessage : (LexicalError.illegalCharacter c).message =
            "illegal" ++ ' '.toString ++ "character: '" ++ c.toString ++ "'" :=
          rfl
        rw [String.append_assoc, String.append_assoc] at hmessage
        exact ⟨_, _, hillegal, hmessage⟩
  obtain ⟨name, more, hname, hmessage⟩ := hwords
  rw [hmessage, parse?_name_append hname]
  split <;> simp

theorem kind_first_category
    (expected : Category) (rest : List Char) :
    (Lexeme.first (expected.text.toList ++ ';' :: rest)).token.kind =
      .error := by
  cases expected <;> rfl

/-- Every message about a token of the wrong class is refused alike. -/
theorem parse?_message_unexpected
    (expected : Category) (found : TokenKind) :
    parse? (SyntaxError.unexpected expected found).message =
      .error (.unexpected .endOfInput .error) := by
  have hname : (var "expecting").WellFormed := ⟨by decide, by decide⟩
  have hmessage : (SyntaxError.unexpected expected found).message =
      "expecting" ++ ' '.toString ++
        (expected.text ++ "; got " ++ found.text) := by
    have htext : (SyntaxError.unexpected expected found).message =
        "expecting" ++ ' '.toString ++ expected.text ++ "; got " ++
          found.text := rfl
    rw [htext]
    simp only [String.append_assoc]
  have hkind : (Lexeme.first
      (expected.text ++ "; got " ++ found.text).toList).token.kind =
        .error := by
    rw [String.toList_append, String.toList_append, List.append_assoc]
    exact kind_first_category expected _
  have hend : (Lexeme.first
      (expected.text ++ "; got " ++ found.text).toList).token ≠
        .endOfInput := by
    intro hend
    rw [hend] at hkind
    cases hkind
  rw [hmessage, parse?_name_append hname, if_neg hend, hkind]

/-- Only one error is refused with itself. -/
theorem parse?_message_eq_iff
    (cause : SyntaxError) :
    parse? cause.message = .error cause ↔
      cause = .unexpected .endOfInput .error := by
  constructor
  · intro hparse
    cases cause with
    | unexpected expected found =>
        rw [parse?_message_unexpected] at hparse
        cases hparse
        rfl
    | lexical message =>
        rcases parse?_eq_error hparse with
          ⟨draft, found, heq⟩ | ⟨fault, heq⟩
        · cases heq
        · cases heq
          exact absurd hparse (parse?_message_ne fault _)
    | badNumber numeral =>
        rcases parse?_eq_error hparse with
          ⟨draft, found, heq⟩ | ⟨fault, heq⟩
        · cases heq
        · cases heq
  · rintro rfl
    exact parse?_message_unexpected .endOfInput .error

/-! ## Exactly the well-formed trees come back -/

theorem parse_eq_error_or_wellFormed
    (source : String) :
    (∃ cause, parse source = .error cause) ∨ (parse source).WellFormed := by
  cases hparse : parse? source with
  | ok program =>
      right
      rw [parse_of_ok hparse]
      exact wellFormed_of_parse?_eq_ok hparse
  | error cause =>
      exact Or.inl ⟨cause, parse_of_error hparse⟩

theorem parse_eq_error_iff
    (source : String) (cause : SyntaxError) :
    parse source = .error cause ↔ parse? source = .error cause := by
  cases hparse : parse? source with
  | ok program =>
      rw [parse_of_ok hparse]
      have hprogram := wellFormed_of_parse?_eq_ok hparse
      simp only [reduceCtorEq, iff_false]
      rintro rfl
      exact hprogram
  | error cause' =>
      rw [parse_of_error hparse]
      simp

theorem parse_render_of_wellFormed
    {e : Expr} (he : e.WellFormed) :
    parse e.render = e :=
  parse_of_ok (parse?_of_writes (writes_inline he))

/-- A text is a single error or a well-formed tree. A tree comes back from its
one-line form exactly if it is well-formed or the one error whose message is
refused with this error. -/
theorem parse_render_eq_iff :
    (∀ source : String,
      (∃ cause, parse source = .error cause) ∨ (parse source).WellFormed) ∧
    (∀ e : Expr,
      parse e.render = e ↔
        e.WellFormed ∨ e = .error (.unexpected .endOfInput .error)) := by
  refine ⟨parse_eq_error_or_wellFormed, ?_⟩
  intro e
  constructor
  · intro hparse
    rcases parse_eq_error_or_wellFormed e.render with ⟨cause, hcause⟩ | he
    · right
      obtain rfl : e = .error cause := hparse.symm.trans hcause
      have hrender : (error cause).render = cause.message := by
        simp [render, inline]
      rw [hrender, parse_eq_error_iff, parse?_message_eq_iff] at hcause
      rw [hcause]
    · left
      rwa [hparse] at he
  · rintro (he | rfl)
    · exact parse_render_of_wellFormed he
    · exact (parse_eq_error_iff _ _).mpr
        ((parse?_message_eq_iff _).mpr rfl)

end Expr
end LamApp
