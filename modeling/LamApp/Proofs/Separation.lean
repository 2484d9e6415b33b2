import LamApp.Proofs.Runs
import Mathlib.Data.List.Chain

/-!
# Writing tokens out

Tokens are written one behind the other, with blanks in front of each and
behind the last. Numbers, truth values and identifiers have to end at a
boundary, so not every token may stand right behind them: only a closing
parenthesis is a boundary itself.

Main statement: the tokens that were written are read back exactly if there is
a blank wherever one is needed. If one is missing, two tokens have run together
and something else is read, whatever stands around them.
-/

namespace LamApp

/-- Characters that only separate. -/
abbrev Blanks := {cs : List Char // ∀ c ∈ cs, isBlank c = true}

/-- A plain token with the blanks in front of it. -/
structure SpacedToken where
  blanks : Blanks
  token : Token
  isPlain : token.IsPlain

/-- Writes tokens with the blanks in front of them, and blanks at the end. -/
def spell : List SpacedToken → Blanks → List Char
  | [], last => last
  | piece :: pieces, last =>
    piece.blanks.val ++ (piece.token.text.toList ++ spell pieces last)

/-- Without a blank between them the two tokens would run together. -/
def Token.NeedsBlank (left right : Token) : Prop :=
  left.kind ∈ [.number, .bool, .identifier] ∧
  right.kind ∈ [.number, .bool, .identifier, .leftParen]

/-! ## What stands behind a word -/

namespace Lexeme

/-- A boundary stands behind every plain token but the parentheses. -/
theorem isParen_or_atBoundary_rest
    {cs : List Char} (hlast : (head cs).token.isLast = false) :
    (head cs).token.isParen = true ∨ atBoundary (head cs).rest = true := by
  rw [head_eq_headRun] at *
  revert hlast
  unfold headRun
  split
  · rintro ⟨⟩
  · exact fun _ => .inl rfl
  · exact fun _ => .inl rfl
  next c cs _ _ =>
    split
    · exact fun _ => .inr (atBoundary_behindRun (c :: cs))
    · rintro ⟨⟩

/-- The text of a plain token starts no lexeme but its own, and only if the
lexeme can end there. -/
theorem first_token_text_append_iff
    {token : Token} (hplain : token.IsPlain) (rest : List Char) :
    (first (token.text.toList ++ rest)).token = token ↔
      token.isParen = true ∨ atBoundary rest = true := by
  constructor
  · intro htoken
    rw [first_text_append_eq_head hplain] at htoken
    have hlast : (head (token.text.toList ++ rest)).token.isLast = false := by
      rw [htoken]
      exact hplain.isLast
    -- The lexeme is made of the text of its token, so the rest is what stands
    -- behind it.
    have happend := head_append (token.text.toList ++ rest)
    rw [head_span hlast, htoken, List.append_cancel_left_eq] at happend
    have hbehind := isParen_or_atBoundary_rest hlast
    rwa [htoken, happend] at hbehind
  · intro hrest
    rw [first_text_append hplain hrest]

end Lexeme

namespace Token

/-- A plain token is read back from its text, and what stands behind it is read
on its own, exactly if the token can end there. -/
theorem ofChars_text_append_eq_cons_iff
    {token : Token} (hplain : token.IsPlain)
    (rest : List Char) (tokens : List Token) :
    ofChars (token.text.toList ++ rest) = token :: tokens ↔
      (token.isParen = true ∨ atBoundary rest = true) ∧
        ofChars rest = tokens := by
  constructor
  · intro hread
    have hrest : token.isParen = true ∨ atBoundary rest = true := by
      rw [← Lexeme.first_token_text_append_iff hplain]
      obtain ⟨more, hmore⟩ :=
        exists_ofChars_eq_cons (token.text.toList ++ rest)
      exact (List.cons.inj (hmore.symm.trans hread)).1
    rw [ofChars_text_append hplain hrest] at hread
    exact ⟨hrest, (List.cons.inj hread).2⟩
  · rintro ⟨hrest, rfl⟩
    exact ofChars_text_append hplain hrest

/-! ## Where blanks are needed -/

/-- Only a closing parenthesis is a boundary for what stands in front of it. -/
theorem atBoundary_text_append_iff
    {token : Token} (hplain : token.IsPlain) (rest : List Char) :
    atBoundary (token.text.toList ++ rest) = true ↔
      token = .rightParen := by
  constructor
  · intro hbound
    by_contra hne
    obtain ⟨c, cs, htext, hc⟩ :=
      Lexeme.exists_cons_text_of_ne_rightParen hplain hne
    rw [htext, List.cons_append] at hbound
    simp [atBoundary, hc] at hbound
  · rintro rfl
    rfl

theorem needsBlank_iff
    {left right : Token} (hleft : left.IsPlain) (hright : right.IsPlain) :
    left.NeedsBlank right ↔ left.isParen = false ∧ right ≠ .rightParen := by
  have hword : left.kind ∈ [.number, .bool, .identifier] ↔
      left.isParen = false := by
    cases left <;> simp_all [kind, isParen, IsPlain]
  have hnext : right.kind ∈ [.number, .bool, .identifier, .leftParen] ↔
      right ≠ .rightParen := by
    cases right <;> simp_all [kind, IsPlain]
  rw [NeedsBlank, hword, hnext]

end Token

theorem atBoundary_of_blank
    {blanks : List Char} (hblank : ∀ c ∈ blanks, isBlank c = true) :
    atBoundary blanks = true := by
  cases blanks with
  | nil =>
      rfl
  | cons c cs =>
      simp [atBoundary, isBoundary, hblank c]

/-- A boundary starts what is written if blanks or a closing parenthesis come
first. -/
theorem atBoundary_spell_iff
    (pieces : List SpacedToken) (last : Blanks) :
    atBoundary (spell pieces last) = true ↔
      ∀ piece ∈ pieces.head?,
        piece.blanks.val ≠ [] ∨ piece.token = .rightParen := by
  cases pieces with
  | nil =>
      simpa [spell] using atBoundary_of_blank last.property
  | cons piece pieces =>
      rw [spell]
      cases hblanks : piece.blanks.val with
      | nil =>
          simpa [hblanks] using
            Token.atBoundary_text_append_iff piece.isPlain _
      | cons c cs =>
          have hc : isBlank c = true :=
            piece.blanks.property c (by simp [hblanks])
          simp [hblanks, atBoundary, isBoundary, hc]

/-- A token can end in front of what is written, unless a blank is needed and
missing. -/
theorem isParen_or_atBoundary_spell_iff
    (piece : SpacedToken) (pieces : List SpacedToken) (last : Blanks) :
    (piece.token.isParen = true ∨
        atBoundary (spell pieces last) = true) ↔
      ∀ next ∈ pieces.head?,
        piece.token.NeedsBlank next.token → next.blanks.val ≠ [] := by
  rw [atBoundary_spell_iff]
  cases pieces with
  | nil =>
      simp
  | cons next pieces =>
      have hneeds := Token.needsBlank_iff piece.isPlain next.isPlain
      cases hparen : piece.token.isParen with
      | true =>
          simp [hneeds, hparen]
      | false =>
          simp only [hneeds, hparen, List.head?_cons, Option.mem_some_iff,
            forall_eq', Bool.false_eq_true, false_or, true_and]
          exact or_iff_not_imp_right

/-- Tokens that were written out are read back exactly if a blank stands
wherever two neighbours need one. -/
theorem ofChars_spell_eq_iff
    (pieces : List SpacedToken) (last : Blanks) :
    Token.ofChars (spell pieces last) =
        pieces.map SpacedToken.token ++ [.endOfInput] ↔
      pieces.IsChain fun left right =>
        left.token.NeedsBlank right.token → right.blanks.val ≠ [] := by
  induction pieces with
  | nil =>
      simpa [spell] using Token.ofChars_of_blank last.property
  | cons piece pieces ih =>
      rw [spell, Token.ofChars_append_of_blank piece.blanks.property,
        List.map_cons, List.cons_append,
        Token.ofChars_text_append_eq_cons_iff piece.isPlain,
        isParen_or_atBoundary_spell_iff, ih, List.isChain_cons]

/-- An identifier runs together with an opening parenthesis. -/
example :
    Token.ofChars "add(1)".toList =
      [.error (.badIdentifier "add(1")] := by
  decide +kernel

end LamApp
