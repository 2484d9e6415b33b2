import LamApp.Lexeme
import Mathlib.Data.List.TakeWhile

/-!
# Texts and their tokens

What the tokens of a text are like, and how they depend on what follows.

A token that is neither the end nor malformed is plain: a number is a numeral,
an identifier is a name and no truth value. The tokens of a text are plain ones
and one last token. In the other direction a plain token is read back from its
own text, if a boundary follows.

A boundary character cuts a text in two. What stands in front of it is read as
if the text ended there: the same tokens come out, and behind them the tokens
of the rest, unless a malformed token has ended the reading before.
-/

namespace LamApp

/-- A name: a letter, and letters and digits behind it. -/
def isName : List Char → Bool
  | [] => false
  | c :: cs => c.isAlpha && cs.all Char.isAlphanum

namespace Token

/-- A token that a text can hold in front of its end. -/
def IsPlain : Token → Prop
  | number numeral => Decimal.isNumeral numeral.toList = true
  | identifier name =>
    isName name.toList = true ∧ name ≠ "true" ∧ name ≠ "false"
  | bool _ => True
  | leftParen => True
  | rightParen => True
  | error _ => False
  | endOfInput => False

/-- A parenthesis ends by itself; every other token needs a boundary. -/
def isParen : Token → Bool
  | leftParen => true
  | rightParen => true
  | _ => false

theorem IsPlain.isLast
    {token : Token} (hplain : token.IsPlain) :
    token.isLast = false := by
  cases token <;> first | rfl | exact hplain.elim

theorem IsPlain.ne_endOfInput
    {token : Token} (hplain : token.IsPlain) :
    token ≠ .endOfInput := by
  rintro rfl
  exact hplain

/-- A name is a word of the language. -/
theorem isPlain_ofWord
    {word : String} (hname : isName word.toList = true) :
    (ofWord word).IsPlain := by
  unfold ofWord
  split
  · trivial
  · split
    · trivial
    · exact ⟨hname, by assumption, by assumption⟩

theorem ofWord_of_isPlain
    {name : String} (hplain : (identifier name).IsPlain) :
    ofWord name = identifier name := by
  obtain ⟨-, htrue, hfalse⟩ := hplain
  rw [ofWord, if_neg htrue, if_neg hfalse]

end Token

namespace Lexeme

/-! ## Characters in front of a boundary -/

theorem takeWhile_append_cons
    {p : Char → Bool} {b : Char} (hb : p b = false) (cs more : List Char) :
    (cs ++ b :: more).takeWhile p = cs.takeWhile p := by
  induction cs with
  | nil =>
      simp [hb]
  | cons c cs ih =>
      cases hc : p c <;> simp [hc, ih]

theorem dropWhile_append_cons
    {p : Char → Bool} {b : Char} (hb : p b = false) (cs more : List Char) :
    (cs ++ b :: more).dropWhile p = cs.dropWhile p ++ b :: more := by
  induction cs with
  | nil =>
      simp [hb]
  | cons c cs ih =>
      cases hc : p c <;> simp [hc, ih]

theorem isDigit_of_isBoundary
    {b : Char} (hb : isBoundary b = true) :
    b.isDigit = false := by
  cases hdigit : b.isDigit with
  | false =>
      rfl
  | true =>
      have := isBoundary_of_sign_or_isDigit (c := b) (by simp [hdigit])
      simp [hb] at this

theorem isAlphanum_of_isBoundary
    {b : Char} (hb : isBoundary b = true) :
    b.isAlphanum = false := by
  cases halpha : b.isAlpha with
  | false =>
      simp [Char.isAlphanum, halpha, isDigit_of_isBoundary hb]
  | true =>
      have := isBoundary_of_isAlpha halpha
      simp [hb] at this

theorem atBoundary_append_cons
    {b : Char} (hb : isBoundary b = true) (cs more : List Char) :
    atBoundary (cs ++ b :: more) = atBoundary cs := by
  cases cs with
  | nil =>
      simp [atBoundary, hb]
  | cons c cs =>
      rfl

/-- A text that starts with no minus sign is split behind its digits. -/
theorem split_of_ne_minus
    {c : Char} (hc : c ≠ '-') (cs : List Char) :
    Decimal.split (c :: cs) =
      ((c :: cs).takeWhile Char.isDigit,
        (c :: cs).dropWhile Char.isDigit) := by
  unfold Decimal.split
  split
  · simp_all
  · rfl

theorem split_append_cons
    {b : Char} (hb : isBoundary b = true) (cs more : List Char) :
    Decimal.split (cs ++ b :: more) =
      ((Decimal.split cs).1, (Decimal.split cs).2 ++ b :: more) := by
  have hdigit := isDigit_of_isBoundary hb
  cases cs with
  | nil =>
      have hminus : b ≠ '-' := by
        rintro rfl
        simp [isBoundary, isBlank] at hb
      rw [List.nil_append, split_of_ne_minus hminus]
      simp [Decimal.split, hdigit]
  | cons c cs =>
      by_cases hc : c = '-'
      · subst hc
        simp [Decimal.split, takeWhile_append_cons hdigit,
          dropWhile_append_cons hdigit]
      · rw [List.cons_append, split_of_ne_minus hc, split_of_ne_minus hc,
          ← List.cons_append, takeWhile_append_cons hdigit,
          dropWhile_append_cons hdigit]

/-! ## Lexemes in front of a boundary -/

/-- The same lexeme in a longer text. -/
def followedBy (lexeme : Lexeme) (more : List Char) : Lexeme :=
  { lexeme with rest := lexeme.rest ++ more }

theorem malformed_append_cons
    {b : Char} (hb : isBoundary b = true)
    (cause : String → LexicalError) (cs more : List Char) :
    malformed cause (cs ++ b :: more) =
      (malformed cause cs).followedBy (b :: more) := by
  have hstop : (!isBoundary b) = false := by simp [hb]
  simp [malformed, followedBy,
    takeWhile_append_cons (p := (!isBoundary ·)) hstop,
    dropWhile_append_cons (p := (!isBoundary ·)) hstop]

theorem number_append_cons
    {b : Char} (hb : isBoundary b = true) (cs more : List Char) :
    number (cs ++ b :: more) = (number cs).followedBy (b :: more) := by
  unfold number
  simp only [split_append_cons hb, atBoundary_append_cons hb]
  split
  · rfl
  · exact malformed_append_cons hb _ cs more

theorem word_append_cons
    {b : Char} (hb : isBoundary b = true) (cs more : List Char) :
    word (cs ++ b :: more) = (word cs).followedBy (b :: more) := by
  have hstop := isAlphanum_of_isBoundary hb
  unfold word
  simp only [takeWhile_append_cons hstop, dropWhile_append_cons hstop,
    atBoundary_append_cons hb]
  split
  · rfl
  · exact malformed_append_cons hb _ cs more

/-- What a text starts with is cut off alike in front of a boundary. -/
theorem head_append_cons
    {b : Char} (hb : isBoundary b = true)
    {cs : List Char} (hcs : cs ≠ []) (more : List Char) :
    head (cs ++ b :: more) = (head cs).followedBy (b :: more) := by
  obtain ⟨c, cs, rfl⟩ := List.exists_cons_of_ne_nil hcs
  rw [List.cons_append]
  unfold head
  dsimp only
  split
  · rfl
  split
  · rfl
  split
  · exact number_append_cons hb (c :: cs) more
  split
  · exact word_append_cons hb (c :: cs) more
  · rfl

/-- A lexeme that is not the end is plain or malformed. -/
theorem head_token
    (c : Char) (cs : List Char) :
    (head (c :: cs)).token.IsPlain ∨
      ∃ cause, (head (c :: cs)).token = .error cause := by
  unfold head
  dsimp only
  split
  · exact Or.inl trivial
  split
  · exact Or.inl trivial
  split
  case isTrue =>
    unfold number
    dsimp only
    split
    case isTrue hnumeral =>
      left
      rw [Bool.and_eq_true] at hnumeral
      simpa [Token.IsPlain] using hnumeral.1
    case isFalse =>
      exact Or.inr ⟨_, rfl⟩
  split
  case isTrue halpha =>
    unfold word
    dsimp only
    split
    case isTrue =>
      left
      apply Token.isPlain_ofWord
      have hletter : c.isAlphanum = true := by simp [Char.isAlphanum, halpha]
      simp [isName, hletter, halpha]
    case isFalse =>
      exact Or.inr ⟨_, rfl⟩
  · exact Or.inr ⟨_, rfl⟩

theorem number_span
    {cs : List Char} (hlast : (number cs).token.isLast = false) :
    (number cs).span = (number cs).token.text.toList := by
  unfold number at *
  dsimp only at *
  split at hlast
  case isTrue h =>
    rw [if_pos h]
    simp [Token.text]
  case isFalse =>
    cases hlast

theorem word_span
    {cs : List Char} (hlast : (word cs).token.isLast = false) :
    (word cs).span = (word cs).token.text.toList := by
  unfold word at *
  dsimp only at *
  split at hlast
  case isTrue h =>
    rw [if_pos h]
    simp
  case isFalse =>
    cases hlast

/-- The characters that a plain token was read from are its text. -/
theorem head_span
    {cs : List Char} (hlast : (head cs).token.isLast = false) :
    (head cs).span = (head cs).token.text.toList := by
  cases cs with
  | nil =>
      cases hlast
  | cons c cs =>
      by_cases hopen : c = '('
      · simp [head, hopen, Token.text]
      by_cases hclose : c = ')'
      · simp [head, hclose, Token.text]
      rw [head, if_neg hopen, if_neg hclose] at *
      split at hlast
      case isTrue hsign =>
        rw [if_pos hsign]
        exact number_span hlast
      case isFalse hsign =>
        rw [if_neg hsign]
        split at hlast
        case isTrue halpha =>
          rw [if_pos halpha]
          exact word_span hlast
        case isFalse =>
          cases hlast

@[simp] theorem head_token_eq_endOfInput_iff
    (cs : List Char) :
    (head cs).token = .endOfInput ↔ cs = [] := by
  constructor
  · intro hend
    cases cs with
    | nil =>
        rfl
    | cons c cs =>
        rcases head_token c cs with hplain | ⟨cause, hcause⟩
        · exact absurd hend hplain.ne_endOfInput
        · rw [hcause] at hend
          cases hend
  · rintro rfl
    rfl

/-- Only blanks stand in front of the end. -/
theorem first_token_eq_endOfInput_iff
    (cs : List Char) :
    (first cs).token = .endOfInput ↔ ∀ c ∈ cs, isBlank c = true := by
  rw [first, head_token_eq_endOfInput_iff, List.dropWhile_eq_nil_iff]

theorem first_rest_length_lt_of_isLast
    {cs : List Char} (hlast : (first cs).token.isLast = false) :
    (first cs).rest.length < cs.length := by
  apply first_rest_length_lt
  intro hend
  rw [hend] at hlast
  cases hlast

/-- Blanks in front of a text are skipped. -/
theorem first_append_of_blank
    {blanks : List Char} (hblank : ∀ c ∈ blanks, isBlank c = true)
    (cs : List Char) :
    first (blanks ++ cs) = first cs := by
  rw [first, first, List.dropWhile_append_of_pos hblank]

/-- The first lexeme of a text is the same in front of a boundary. -/
theorem first_append_cons
    {b : Char} (hb : isBoundary b = true)
    {cs : List Char} (hcs : (first cs).token ≠ .endOfInput)
    (more : List Char) :
    first (cs ++ b :: more) = (first cs).followedBy (b :: more) := by
  have hskipped : cs.dropWhile isBlank ≠ [] := by
    simpa [first] using hcs
  have hlong : (cs ++ b :: more).dropWhile isBlank =
      cs.dropWhile isBlank ++ b :: more := by
    rw [List.dropWhile_append, if_neg (by simpa using hskipped)]
  rw [first, hlong, head_append_cons hb hskipped, first]

/-- The first token of a text, if it is neither the end nor malformed. -/
theorem isPlain_first
    {cs : List Char} (hlast : (first cs).token.isLast = false) :
    (first cs).token.IsPlain := by
  unfold first at *
  cases hskipped : cs.dropWhile isBlank with
  | nil =>
      rw [hskipped] at hlast
      cases hlast
  | cons c rest =>
      rw [hskipped] at hlast
      rcases head_token c rest with hplain | ⟨cause, hcause⟩
      · exact hplain
      · rw [hcause] at hlast
        cases hlast

/-! ## Plain tokens in front of a boundary -/

/-- A run of characters that no boundary belongs to ends at a boundary. -/
theorem takeWhile_append_of_atBoundary
    {p : Char → Bool} (hp : ∀ b, isBoundary b = true → p b = false)
    {cs rest : List Char} (hcs : ∀ c ∈ cs, p c = true)
    (hrest : atBoundary rest = true) :
    (cs ++ rest).takeWhile p = cs ∧ (cs ++ rest).dropWhile p = rest := by
  rw [List.takeWhile_append_of_pos hcs, List.dropWhile_append_of_pos hcs]
  cases rest with
  | nil =>
      simp
  | cons c rest =>
      have hc : p c = false := hp c (by simpa [atBoundary] using hrest)
      simp [hc]

theorem isNumeral_of_ne_minus
    {c : Char} (hc : c ≠ '-') (cs : List Char) :
    Decimal.isNumeral (c :: cs) = Decimal.isUnsigned (c :: cs) := by
  unfold Decimal.isNumeral
  split
  · simp_all
  · rfl

/-- A numeral in front of a boundary is split off whole. -/
theorem split_append_of_isNumeral
    {cs rest : List Char} (hcs : Decimal.isNumeral cs = true)
    (hrest : atBoundary rest = true) :
    Decimal.split (cs ++ rest) = (cs, rest) := by
  cases cs with
  | nil =>
      cases hcs
  | cons c cs =>
      by_cases hc : c = '-'
      · subst hc
        have hdigits : ∀ d ∈ cs, d.isDigit = true := by
          simp [Decimal.isNumeral, Decimal.isUnsigned] at hcs
          exact hcs.2
        obtain ⟨htake, hdrop⟩ := takeWhile_append_of_atBoundary
          (fun _ => isDigit_of_isBoundary) hdigits hrest
        rw [List.cons_append, Decimal.split, htake, hdrop]
      · have hdigits : ∀ d ∈ c :: cs, d.isDigit = true := by
          rw [isNumeral_of_ne_minus hc, Decimal.isUnsigned,
            Bool.and_eq_true] at hcs
          simpa using hcs.2
        obtain ⟨htake, hdrop⟩ := takeWhile_append_of_atBoundary
          (fun _ => isDigit_of_isBoundary) hdigits hrest
        rw [List.cons_append, split_of_ne_minus hc, ← List.cons_append,
          htake, hdrop]

/-- A numeral starts with a minus sign or a digit. -/
theorem sign_or_isDigit_of_isNumeral
    {c : Char} {cs : List Char} (h : Decimal.isNumeral (c :: cs) = true) :
    (c = '-' || c.isDigit) = true := by
  by_cases hc : c = '-'
  · simp [hc]
  · rw [isNumeral_of_ne_minus hc, Decimal.isUnsigned] at h
    simp at h
    simp [h.1]

/-- A numeral in front of a boundary is a number. -/
theorem head_append_of_isNumeral
    {cs rest : List Char} (hcs : Decimal.isNumeral cs = true)
    (hrest : atBoundary rest = true) :
    head (cs ++ rest) = ⟨.number (String.ofList cs), cs, rest⟩ := by
  have hnumber : number (cs ++ rest) =
      ⟨.number (String.ofList cs), cs, rest⟩ := by
    simp [number, split_append_of_isNumeral hcs hrest, hcs, hrest]
  cases cs with
  | nil =>
      cases hcs
  | cons c cs =>
      have hc := sign_or_isDigit_of_isNumeral hcs
      have hopen : c ≠ '(' := by
        rintro rfl
        cases hc
      have hclose : c ≠ ')' := by
        rintro rfl
        cases hc
      rw [List.cons_append] at hnumber ⊢
      rw [head, if_neg hopen, if_neg hclose, if_pos hc, hnumber]

/-- The letters are two ranges of code points. -/
theorem isAlpha_iff_toNat
    (c : Char) :
    c.isAlpha = true ↔
      (65 ≤ c.toNat ∧ c.toNat ≤ 90) ∨ (97 ≤ c.toNat ∧ c.toNat ≤ 122) := by
  have hranges : c.isAlpha =
      (decide (65 ≤ c.val ∧ c.val ≤ 90) ||
        (decide (97 ≤ c.val) && decide (c.val ≤ 122))) := rfl
  simp [hranges, UInt32.le_iff_toNat_le]

theorem isDigit_of_isAlpha
    {c : Char} (hc : c.isAlpha = true) :
    c.isDigit = false := by
  rw [isAlpha_iff_toNat] at hc
  rw [Bool.eq_false_iff, ne_eq, Char.isDigit_iff_toNat]
  simp
  omega

/-- A name in front of a boundary is a word. -/
theorem head_append_of_isName
    {cs rest : List Char} (hcs : isName cs = true)
    (hrest : atBoundary rest = true) :
    head (cs ++ rest) = ⟨.ofWord (String.ofList cs), cs, rest⟩ := by
  cases cs with
  | nil =>
      cases hcs
  | cons c cs =>
      rw [isName, Bool.and_eq_true] at hcs
      obtain ⟨halpha, hall⟩ := hcs
      have hletters : ∀ d ∈ c :: cs, d.isAlphanum = true := by
        have hc : c.isAlphanum = true := by simp [Char.isAlphanum, halpha]
        simpa [hc] using hall
      obtain ⟨htake, hdrop⟩ := takeWhile_append_of_atBoundary
        (fun _ => isAlphanum_of_isBoundary) hletters hrest
      have hword : word (c :: cs ++ rest) =
          ⟨.ofWord (String.ofList (c :: cs)), c :: cs, rest⟩ := by
        simp only [word, htake, hdrop, hrest, if_true]
      have hopen : c ≠ '(' := by
        rintro rfl
        cases halpha
      have hclose : c ≠ ')' := by
        rintro rfl
        cases halpha
      have hsign : ¬ (c = '-' || c.isDigit) = true := by
        have hminus : c ≠ '-' := by
          rintro rfl
          cases halpha
        simp [hminus, isDigit_of_isAlpha halpha]
      rw [List.cons_append] at hword ⊢
      rw [head, if_neg hopen, if_neg hclose, if_neg hsign, if_pos halpha,
        hword]

/-- A plain token in front of a boundary is read back from its text. -/
theorem head_text_append
    {token : Token} (hplain : token.IsPlain)
    {rest : List Char} (hrest : token.isParen = true ∨ atBoundary rest = true) :
    head (token.text.toList ++ rest) = ⟨token, token.text.toList, rest⟩ := by
  cases token with
  | error cause =>
      exact hplain.elim
  | endOfInput =>
      exact hplain.elim
  | leftParen =>
      rfl
  | rightParen =>
      rfl
  | number numeral =>
      have hbound : atBoundary rest = true := by
        simpa [Token.isParen] using hrest
      have hhead := head_append_of_isNumeral hplain hbound
      simpa [Token.text] using hhead
  | bool value =>
      have hbound : atBoundary rest = true := by
        simpa [Token.isParen] using hrest
      cases value with
      | true =>
          have hname : isName "true".toList = true := by decide
          exact head_append_of_isName hname hbound
      | false =>
          have hname : isName "false".toList = true := by decide
          exact head_append_of_isName hname hbound
  | identifier name =>
      have hbound : atBoundary rest = true := by
        simpa [Token.isParen] using hrest
      have hhead := head_append_of_isName hplain.1 hbound
      rw [String.ofList_toList, Token.ofWord_of_isPlain hplain] at hhead
      exact hhead

theorem isBlank_of_isBoundary_eq_false
    {c : Char} (hc : isBoundary c = false) :
    isBlank c = false := by
  rw [isBoundary, Bool.or_eq_false_iff] at hc
  exact hc.1

/-- Only a closing parenthesis starts with a boundary. -/
theorem exists_cons_text_of_ne_rightParen
    {token : Token} (hplain : token.IsPlain) (hne : token ≠ .rightParen) :
    ∃ c cs, token.text.toList = c :: cs ∧ isBoundary c = false := by
  cases token with
  | error cause =>
      exact hplain.elim
  | endOfInput =>
      exact hplain.elim
  | leftParen =>
      exact ⟨'(', [], rfl, rfl⟩
  | rightParen =>
      exact absurd rfl hne
  | bool value =>
      cases value with
      | true =>
          exact ⟨'t', "rue".toList, rfl, rfl⟩
      | false =>
          exact ⟨'f', "alse".toList, rfl, rfl⟩
  | number numeral =>
      have hnumeral : Decimal.isNumeral numeral.toList = true := hplain
      cases htext : numeral.toList with
      | nil =>
          rw [htext] at hnumeral
          cases hnumeral
      | cons c cs =>
          rw [htext] at hnumeral
          have hc := sign_or_isDigit_of_isNumeral hnumeral
          exact ⟨c, cs, htext, isBoundary_of_sign_or_isDigit hc⟩
  | identifier name =>
      have hname : isName name.toList = true := hplain.1
      cases htext : name.toList with
      | nil =>
          rw [htext] at hname
          cases hname
      | cons c cs =>
          rw [htext, isName, Bool.and_eq_true] at hname
          exact ⟨c, cs, htext, isBoundary_of_isAlpha hname.1⟩

/-- No plain token starts with a blank. -/
theorem exists_cons_text
    {token : Token} (hplain : token.IsPlain) :
    ∃ c cs, token.text.toList = c :: cs ∧ isBlank c = false := by
  by_cases hclose : token = .rightParen
  · subst hclose
    exact ⟨')', [], rfl, rfl⟩
  · obtain ⟨c, cs, htext, hc⟩ :=
      exists_cons_text_of_ne_rightParen hplain hclose
    exact ⟨c, cs, htext, isBlank_of_isBoundary_eq_false hc⟩

/-- No blank is skipped in front of a plain token. -/
theorem first_text_append_eq_head
    {token : Token} (hplain : token.IsPlain) (rest : List Char) :
    first (token.text.toList ++ rest) = head (token.text.toList ++ rest) := by
  obtain ⟨c, cs, htext, hc⟩ := exists_cons_text hplain
  rw [first, htext, List.cons_append]
  simp [hc]

/-- A plain token at the head of a text is its first token. -/
theorem first_text_append
    {token : Token} (hplain : token.IsPlain)
    {rest : List Char} (hrest : token.isParen = true ∨ atBoundary rest = true) :
    first (token.text.toList ++ rest) =
      ⟨token, token.text.toList, rest⟩ := by
  rw [first_text_append_eq_head hplain, head_text_append hplain hrest]

end Lexeme

namespace Token

/-! ## The tokens of a text -/

theorem ofChars_of_isLast
    {cs : List Char} (h : (Lexeme.first cs).token.isLast = true) :
    ofChars cs = [(Lexeme.first cs).token] := by
  rw [ofChars]
  simp [h]

theorem ofChars_of_not_isLast
    {cs : List Char} (h : (Lexeme.first cs).token.isLast = false) :
    ofChars cs =
      (Lexeme.first cs).token :: ofChars (Lexeme.first cs).rest := by
  rw [ofChars]
  simp [h]

/-- Induction along the lexemes of a text, up to the last token. -/
@[elab_as_elim]
theorem ofChars_induction
    {motive : List Char → Prop}
    (last : ∀ cs, (Lexeme.first cs).token.isLast = true → motive cs)
    (step : ∀ cs, (Lexeme.first cs).token.isLast = false →
      motive (Lexeme.first cs).rest → motive cs)
    (cs : List Char) :
    motive cs :=
  ofChars.induct motive last
    (fun cs hlast _ ih => step cs (Bool.eq_false_iff.mpr hlast) ih) cs

/-- The tokens of a text depend only on its first lexeme. -/
theorem ofChars_congr
    {cs cs' : List Char} (h : Lexeme.first cs = Lexeme.first cs') :
    ofChars cs = ofChars cs' := by
  cases hlast : (Lexeme.first cs).token.isLast with
  | true =>
      rw [ofChars_of_isLast hlast, ofChars_of_isLast (h ▸ hlast), h]
  | false =>
      have hlast' := hlast
      rw [h] at hlast'
      rw [ofChars_of_not_isLast hlast, ofChars_of_not_isLast hlast', h]

/-- Blanks in front of a text add no token. -/
theorem ofChars_append_of_blank
    {blanks : List Char} (hblank : ∀ c ∈ blanks, isBlank c = true)
    (cs : List Char) :
    ofChars (blanks ++ cs) = ofChars cs :=
  ofChars_congr (Lexeme.first_append_of_blank hblank cs)

theorem ofChars_cons_of_blank
    {blank : Char} (hblank : isBlank blank = true) (cs : List Char) :
    ofChars (blank :: cs) = ofChars cs := by
  have hblanks : ∀ c ∈ [blank], isBlank c = true := by
    simpa using hblank
  exact ofChars_append_of_blank hblanks cs

/-- A text of blanks holds nothing but its end. -/
theorem ofChars_of_blank
    {cs : List Char} (hblank : ∀ c ∈ cs, isBlank c = true) :
    ofChars cs = [.endOfInput] := by
  have hend := (Lexeme.first_token_eq_endOfInput_iff cs).mpr hblank
  rw [ofChars_of_isLast (by rw [hend]; rfl), hend]

/-- A plain token at the head of a text comes first. -/
theorem ofChars_text_append
    {token : Token} (hplain : token.IsPlain)
    {rest : List Char}
    (hrest : token.isParen = true ∨ atBoundary rest = true) :
    ofChars (token.text.toList ++ rest) = token :: ofChars rest := by
  have hfirst := Lexeme.first_text_append hplain hrest
  rw [ofChars_of_not_isLast (by rw [hfirst]; exact hplain.isLast), hfirst]

/-- The text of a plain token holds nothing else. -/
theorem ofChars_text
    {token : Token} (hplain : token.IsPlain) :
    ofChars token.text.toList = [token, .endOfInput] := by
  have hend : ofChars [] = [.endOfInput] :=
    ofChars_of_blank (by simp)
  have htokens : ofChars (token.text.toList ++ []) = token :: ofChars [] :=
    ofChars_text_append hplain (.inr rfl)
  rwa [List.append_nil, hend] at htokens

theorem exists_ofChars_eq_cons
    (cs : List Char) :
    ∃ tokens, ofChars cs = (Lexeme.first cs).token :: tokens := by
  cases hlast : (Lexeme.first cs).token.isLast with
  | true =>
      exact ⟨[], ofChars_of_isLast hlast⟩
  | false =>
      exact ⟨_, ofChars_of_not_isLast hlast⟩

theorem ofChars_eq_endOfInput_iff
    (cs : List Char) :
    ofChars cs = [.endOfInput] ↔ ∀ c ∈ cs, isBlank c = true := by
  constructor
  · intro hend
    obtain ⟨tokens, htokens⟩ := exists_ofChars_eq_cons cs
    rw [← Lexeme.first_token_eq_endOfInput_iff]
    exact (List.cons.inj (htokens.symm.trans hend)).1
  · exact ofChars_of_blank

/-- The tokens of a text: plain ones, and a last one. -/
theorem ofChars_eq_append
    (cs : List Char) :
    ∃ tokens last,
      ofChars cs = tokens ++ [last] ∧
      last.isLast = true ∧
      ∀ token ∈ tokens, token.IsPlain := by
  induction cs using ofChars_induction with
  | last cs hlast =>
      exact ⟨[], (Lexeme.first cs).token, ofChars_of_isLast hlast, hlast,
        by simp⟩
  | step cs hlast ih =>
      obtain ⟨tokens, last, htokens, hisLast, hplain⟩ := ih
      refine ⟨(Lexeme.first cs).token :: tokens, last, ?_, hisLast, ?_⟩
      · rw [ofChars_of_not_isLast hlast, htokens, List.cons_append]
      · intro token htoken
        rcases List.mem_cons.mp htoken with rfl | htail
        · exact Lexeme.isPlain_first hlast
        · exact hplain token htail

/-- In front of a boundary a text is read as if it ended there. Behind its
tokens come those of what follows, unless a malformed token is the last. -/
theorem ofChars_append_cons
    {b : Char} (hb : isBoundary b = true)
    {cs : List Char} {tokens : List Token} {last : Token}
    (htokens : ofChars cs = tokens ++ [last])
    (more : List Char) :
    ofChars (cs ++ b :: more) =
      tokens ++
        if last = .endOfInput then ofChars (b :: more) else [last] := by
  induction cs using ofChars_induction generalizing tokens with
  | last cs hlast =>
      rw [ofChars_of_isLast hlast] at htokens
      obtain ⟨rfl, rfl⟩ : [] = tokens ∧ (Lexeme.first cs).token = last :=
        List.append_singleton_inj.mp (by simpa using htokens)
      by_cases hend : (Lexeme.first cs).token = .endOfInput
      · have hblank := (Lexeme.first_token_eq_endOfInput_iff cs).mp hend
        rw [if_pos hend, ofChars_append_of_blank hblank, List.nil_append]
      · have hfirst := Lexeme.first_append_cons hb hend more
        rw [if_neg hend, ofChars_of_isLast (by rw [hfirst]; exact hlast),
          hfirst]
        rfl
  | step cs hlast ih =>
      have hend : (Lexeme.first cs).token ≠ .endOfInput := by
        intro hend
        rw [hend] at hlast
        cases hlast
      have hfirst := Lexeme.first_append_cons hb hend more
      rw [ofChars_of_not_isLast (by rw [hfirst]; exact hlast), hfirst]
      rw [ofChars_of_not_isLast hlast] at htokens
      rcases List.cons_eq_append_iff.mp htokens with
        ⟨-, hnil⟩ | ⟨tokens', rfl, htail⟩
      · obtain ⟨tokens, htokens⟩ :=
          exists_ofChars_eq_cons (Lexeme.first cs).rest
        simp [htokens] at hnil
      · rw [List.cons_append, ← ih htail]
        rfl

end Token
end LamApp
