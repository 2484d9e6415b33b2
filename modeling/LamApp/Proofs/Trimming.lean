import LamApp.Text.WhiteSpace
import LamApp.Proofs.TokenText
import Mathlib.Data.List.DropRight

/-!
# Trimmed lines

Trimming takes white space away at both ends of a line, and there is more white
space than the four blanks that separate tokens. In a text without malformed
tokens it comes to the same: tokens are made of visible characters, so white
space between them must be blank.

Main statement: a line that is readable to its end gives its tokens, trimmed or
not, and leaves what stands behind it as it is.
-/

namespace LamApp
namespace Text

/-- What trimming takes away at the beginning. -/
def leading (cs : List Char) : List Char :=
  cs.takeWhile isWhiteSpace

/-- What trimming takes away at the end. -/
def trailing (cs : List Char) : List Char :=
  (cs.dropWhile isWhiteSpace).rtakeWhile isWhiteSpace

theorem leading_append_trimChars_append_trailing
    (cs : List Char) :
    leading cs ++ (trimChars cs ++ trailing cs) = cs := by
  have htrim : trimChars cs =
      (cs.dropWhile isWhiteSpace).rdropWhile isWhiteSpace := rfl
  rw [htrim, trailing, List.rdropWhile_append_rtakeWhile, leading,
    List.takeWhile_append_dropWhile]

theorem isWhiteSpace_of_mem_leading
    {cs : List Char} {c : Char} (hc : c ∈ leading cs) :
    isWhiteSpace c = true :=
  List.mem_takeWhile_imp hc

theorem isWhiteSpace_of_mem_trailing
    {cs : List Char} {c : Char} (hc : c ∈ trailing cs) :
    isWhiteSpace c = true :=
  List.mem_rtakeWhile_imp hc

theorem mem_of_mem_leading
    {cs : List Char} {c : Char} (hc : c ∈ leading cs) :
    c ∈ cs := by
  rw [← leading_append_trimChars_append_trailing cs]
  exact List.mem_append_left _ hc

theorem mem_of_mem_trailing
    {cs : List Char} {c : Char} (hc : c ∈ trailing cs) :
    c ∈ cs := by
  rw [← leading_append_trimChars_append_trailing cs]
  exact List.mem_append_right _ (List.mem_append_right _ hc)

theorem isWhiteSpace_of_isBlank
    {c : Char} (hc : isBlank c = true) :
    isWhiteSpace c = true := by
  have hcases : c = ' ' ∨ c = '\t' ∨ c = '\r' ∨ c = '\n' := by
    simpa [isBlank, or_assoc] using hc
  rcases hcases with rfl | rfl | rfl | rfl <;> rfl

/-- Nothing is left of white space. -/
theorem trimChars_of_isWhiteSpace
    {cs : List Char} (hcs : ∀ c ∈ cs, isWhiteSpace c = true) :
    trimChars cs = [] := by
  rw [trimChars, List.dropWhile_eq_nil_iff.mpr hcs]
  rfl

/-- The visible characters of the basic range are no white space. -/
theorem isWhiteSpace_of_visible
    {c : Char} (hlow : 0x21 ≤ c.toNat) (hhigh : c.toNat ≤ 0x7e) :
    isWhiteSpace c = false := by
  simp only [isWhiteSpace, CodeTable.holds, whiteSpace, List.any_cons,
    List.any_nil, Bool.or_false, Bool.or_eq_false_iff, Bool.and_eq_false_iff,
    decide_eq_false_iff_not]
  omega

theorem isWhiteSpace_of_isAlphanum
    {c : Char} (hc : c.isAlphanum = true) :
    isWhiteSpace c = false := by
  rw [Char.isAlphanum, Bool.or_eq_true, Lexeme.isAlpha_iff_toNat,
    Char.isDigit_iff_toNat] at hc
  simp only [Char.reduceToNat] at hc
  apply isWhiteSpace_of_visible <;> omega

end Text

namespace Token

theorem isAlphanum_of_mem_name
    {cs : List Char} (hname : isName cs = true) {c : Char} (hc : c ∈ cs) :
    c.isAlphanum = true := by
  cases cs with
  | nil =>
      cases hc
  | cons d cs =>
      rw [isName, Bool.and_eq_true] at hname
      rcases List.mem_cons.mp hc with rfl | htail
      · simp [Char.isAlphanum, hname.1]
      · exact List.all_eq_true.mp hname.2 c htail

theorem eq_minus_or_isDigit_of_mem_numeral
    {cs : List Char} (hnumeral : Decimal.isNumeral cs = true)
    {c : Char} (hc : c ∈ cs) :
    c = '-' ∨ c.isDigit = true := by
  unfold Decimal.isNumeral at hnumeral
  split at hnumeral
  case h_1 cs =>
    rw [Decimal.isUnsigned, Bool.and_eq_true, List.all_eq_true] at hnumeral
    rcases List.mem_cons.mp hc with rfl | htail
    · exact .inl rfl
    · exact .inr (hnumeral.2 c htail)
  case h_2 =>
    rw [Decimal.isUnsigned, Bool.and_eq_true, List.all_eq_true] at hnumeral
    exact .inr (hnumeral.2 c hc)

/-- The text of a plain token is free of white space. -/
theorem isWhiteSpace_of_mem_text
    {token : Token} (hplain : token.IsPlain)
    {c : Char} (hc : c ∈ token.text.toList) :
    Text.isWhiteSpace c = false := by
  cases token with
  | error cause =>
      exact hplain.elim
  | endOfInput =>
      exact hplain.elim
  | leftParen =>
      obtain rfl : c = '(' := by simpa [text] using hc
      rfl
  | rightParen =>
      obtain rfl : c = ')' := by simpa [text] using hc
      rfl
  | bool value =>
      have hname : isName (bool value).text.toList = true := by
        cases value <;> decide
      exact Text.isWhiteSpace_of_isAlphanum (isAlphanum_of_mem_name hname hc)
  | number numeral =>
      rcases eq_minus_or_isDigit_of_mem_numeral hplain hc with rfl | hdigit
      · rfl
      · apply Text.isWhiteSpace_of_isAlphanum
        simp [Char.isAlphanum, hdigit]
  | identifier name =>
      exact Text.isWhiteSpace_of_isAlphanum
        (isAlphanum_of_mem_name hplain.1 hc)

/-- In a text without malformed tokens all white space is blank. -/
theorem isBlank_of_isWhiteSpace
    {cs : List Char} (hend : .endOfInput ∈ ofChars cs)
    {c : Char} (hc : c ∈ cs) (hspace : Text.isWhiteSpace c = true) :
    isBlank c = true := by
  induction cs using ofChars_induction with
  | last cs hlast =>
      rw [ofChars_of_isLast hlast, List.mem_singleton] at hend
      exact (Lexeme.first_token_eq_endOfInput_iff cs).mp hend.symm c hc
  | step cs hlast ih =>
      have hplain := Lexeme.isPlain_first hlast
      rw [ofChars_of_not_isLast hlast, List.mem_cons] at hend
      have hrest := hend.resolve_left hplain.ne_endOfInput.symm
      rw [← List.takeWhile_append_dropWhile (p := isBlank) (l := cs),
        ← Lexeme.head_append (cs.dropWhile isBlank), List.mem_append,
        List.mem_append] at hc
      rcases hc with hblank | hspan | htail
      · exact List.mem_takeWhile_imp hblank
      · rw [Lexeme.head_span hlast] at hspan
        rw [isWhiteSpace_of_mem_text hplain hspan] at hspace
        cases hspace
      · exact ih hrest htail

/-- A line end cuts a text in two that are read one after the other, if the
first has no malformed token. -/
theorem ofChars_append_newline
    {cs : List Char} {tokens : List Token}
    (htokens : ofChars cs = tokens ++ [.endOfInput]) (more : List Char) :
    ofChars (cs ++ '\n' :: more) = tokens ++ ofChars more := by
  rw [ofChars_append_cons rfl htokens, if_pos rfl, ofChars_cons_of_blank rfl]

/-- Blanks in front of a line end make no difference. -/
theorem ofChars_append_blanks_newline
    {blanks : List Char} (hblanks : ∀ c ∈ blanks, isBlank c = true)
    (cs more : List Char) :
    ofChars (cs ++ (blanks ++ '\n' :: more)) =
      ofChars (cs ++ '\n' :: more) := by
  cases blanks with
  | nil =>
      rfl
  | cons b blanks =>
      obtain ⟨hb, hrest⟩ := List.forall_mem_cons.mp hblanks
      have hbound : isBoundary b = true := by
        simp [isBoundary, hb]
      obtain ⟨tokens, last, htokens, -, -⟩ := ofChars_eq_append cs
      rw [List.cons_append, ofChars_append_cons hbound htokens,
        ofChars_append_cons rfl htokens, ofChars_cons_of_blank hb,
        ofChars_append_of_blank hrest]

/-- A line from which only blanks are trimmed is read as it was. -/
theorem ofChars_trimChars_append
    {cs : List Char}
    (hleading : ∀ c ∈ Text.leading cs, isBlank c = true)
    (htrailing : ∀ c ∈ Text.trailing cs, isBlank c = true)
    (more : List Char) :
    ofChars (Text.trimChars cs ++ '\n' :: more) =
      ofChars (cs ++ '\n' :: more) := by
  conv => rhs; rw [← Text.leading_append_trimChars_append_trailing cs]
  rw [List.append_assoc, List.append_assoc, ofChars_append_of_blank hleading,
    ofChars_append_blanks_newline htrailing]

/-- Trimmed or not, a line without malformed tokens is read as its tokens. -/
theorem ofChars_trimChars_append_of_readable
    {cs : List Char} {tokens : List Token}
    (htokens : ofChars cs = tokens ++ [.endOfInput]) (more : List Char) :
    ofChars (Text.trimChars cs ++ '\n' :: more) = tokens ++ ofChars more := by
  have hend : .endOfInput ∈ ofChars cs := by
    simp [htokens]
  rw [ofChars_trimChars_append, ofChars_append_newline htokens]
  · intro c hc
    exact isBlank_of_isWhiteSpace hend (Text.mem_of_mem_leading hc)
      (Text.isWhiteSpace_of_mem_leading hc)
  · intro c hc
    exact isBlank_of_isWhiteSpace hend (Text.mem_of_mem_trailing hc)
      (Text.isWhiteSpace_of_mem_trailing hc)

/-- A line that trimming leaves nothing of holds no token. -/
theorem eq_nil_of_trimChars_eq_nil
    {cs : List Char} {tokens : List Token}
    (htokens : ofChars cs = tokens ++ [.endOfInput])
    (htrim : Text.trimChars cs = []) :
    tokens = [] := by
  have hline := ofChars_trimChars_append_of_readable htokens []
  rw [htrim, List.nil_append, ofChars_cons_of_blank rfl] at hline
  exact List.self_eq_append_left.mp hline

end Token
end LamApp
