import LamApp.Decimal
import LamApp.Token

/-!
# Lexemes

Cutting a text into tokens. Blanks in front of a token are skipped. Then the
longest numeral or word at the head is the token, provided that a boundary
follows it: a blank, a closing parenthesis or the end. Otherwise the whole run
up to the next boundary is one malformed token. An opening parenthesis is not
a boundary.

A lexeme and the text behind it make up the text it was cut from, and every
lexeme but the end takes at least one character.
-/

namespace LamApp

/-- The blanks that separate tokens. -/
def isBlank (c : Char) : Bool :=
  c = ' ' || c = '\t' || c = '\r' || c = '\n'

/-- The characters that end a number or an identifier. -/
def isBoundary (c : Char) : Bool :=
  isBlank c || c = ')'

/-- True at the end of the text and in front of a boundary character. -/
def atBoundary (cs : List Char) : Bool :=
  cs.head?.all isBoundary

/-- A token, the characters it was read from, and the text behind them. -/
structure Lexeme where
  token : Token
  span : List Char
  rest : List Char
deriving DecidableEq

namespace Lexeme

/-- The run up to the next boundary, as one malformed token. -/
def malformed
    (cause : String → LexicalError) (cs : List Char) :
    Lexeme where
  token := .error (cause (String.ofList (cs.takeWhile (!isBoundary ·))))
  span := cs.takeWhile (!isBoundary ·)
  rest := cs.dropWhile (!isBoundary ·)

/-- A numeral in front of a boundary. -/
def number (cs : List Char) : Lexeme :=
  let numeral := (Decimal.split cs).1
  let rest := (Decimal.split cs).2
  if Decimal.isNumeral numeral && atBoundary rest then
    ⟨.number (String.ofList numeral), numeral, rest⟩
  else
    malformed .badNumber cs

/-- Letters and digits in front of a boundary. -/
def word (cs : List Char) : Lexeme :=
  let letters := cs.takeWhile Char.isAlphanum
  let rest := cs.dropWhile Char.isAlphanum
  if atBoundary rest then
    ⟨.ofWord (String.ofList letters), letters, rest⟩
  else
    malformed .badIdentifier cs

/-- The lexeme at the head of a text that starts with no blank. -/
def head : List Char → Lexeme
  | [] => ⟨.endOfInput, [], []⟩
  | c :: cs =>
    if c = '(' then
      ⟨.leftParen, [c], cs⟩
    else if c = ')' then
      ⟨.rightParen, [c], cs⟩
    else if c = '-' || c.isDigit then
      number (c :: cs)
    else if c.isAlpha then
      word (c :: cs)
    else
      ⟨.error (.illegalCharacter c), [c], cs⟩

/-- The first lexeme of a text, behind its leading blanks. -/
def first (cs : List Char) : Lexeme :=
  head (cs.dropWhile isBlank)

/-- The first lexemes of a text, as many as asked for: malformed ones are
passed over, and behind the end stands the end again. -/
def take : Nat → List Char → List Lexeme
  | 0, _ => []
  | count + 1, cs => first cs :: take count (first cs).rest

/-- A boundary is a blank or a closing parenthesis. -/
theorem eq_of_isBoundary
    {c : Char} (h : isBoundary c = true) :
    c = ' ' ∨ c = '\t' ∨ c = '\r' ∨ c = '\n' ∨ c = ')' := by
  simpa [isBoundary, isBlank, or_assoc] using h

/-- No boundary starts a number. -/
theorem isBoundary_of_sign_or_isDigit
    {c : Char} (h : (c = '-' || c.isDigit) = true) :
    isBoundary c = false := by
  cases hc : isBoundary c with
  | false => rfl
  | true =>
    rcases eq_of_isBoundary hc with
      rfl | rfl | rfl | rfl | rfl <;> simp at h

/-- No boundary is a letter. -/
theorem isBoundary_of_isAlpha
    {c : Char} (h : c.isAlpha = true) :
    isBoundary c = false := by
  cases hc : isBoundary c with
  | false => rfl
  | true =>
    rcases eq_of_isBoundary hc with
      rfl | rfl | rfl | rfl | rfl <;> simp at h

@[simp] theorem malformed_append
    (cause : String → LexicalError) (cs : List Char) :
    (malformed cause cs).span ++ (malformed cause cs).rest = cs := by
  simp [malformed]

theorem malformed_span_ne_nil
    {c : Char} (hc : isBoundary c = false)
    (cause : String → LexicalError) (cs : List Char) :
    (malformed cause (c :: cs)).span ≠ [] := by
  simp [malformed, hc]

@[simp] theorem number_append
    (cs : List Char) :
    (number cs).span ++ (number cs).rest = cs := by
  unfold number
  dsimp only
  split <;> simp

theorem number_span_ne_nil
    {c : Char} (hc : (c = '-' || c.isDigit) = true) (cs : List Char) :
    (number (c :: cs)).span ≠ [] := by
  unfold number
  dsimp only
  split
  case isTrue h =>
    intro hnil
    simp only [] at hnil
    simp [hnil, Decimal.isNumeral, Decimal.isUnsigned] at h
  case isFalse =>
    exact malformed_span_ne_nil (isBoundary_of_sign_or_isDigit hc) _ _

@[simp] theorem word_append
    (cs : List Char) :
    (word cs).span ++ (word cs).rest = cs := by
  unfold word
  dsimp only
  split <;> simp

theorem word_span_ne_nil
    {c : Char} (hc : c.isAlpha = true) (cs : List Char) :
    (word (c :: cs)).span ≠ [] := by
  unfold word
  dsimp only
  split
  · simp [Char.isAlphanum, hc]
  · exact malformed_span_ne_nil (isBoundary_of_isAlpha hc) _ _

/-- A lexeme and the text behind it are the text that it was cut from. -/
@[simp] theorem head_append
    (cs : List Char) :
    (head cs).span ++ (head cs).rest = cs := by
  cases cs with
  | nil => rfl
  | cons c cs =>
    unfold head
    dsimp only
    repeat' split
    all_goals simp

/-- Every lexeme but the end takes a character. -/
theorem head_span_ne_nil
    {cs : List Char} (h : (head cs).token ≠ .endOfInput) :
    (head cs).span ≠ [] := by
  cases cs with
  | nil => exact absurd rfl h
  | cons c cs =>
    unfold head
    dsimp only
    split
    · simp
    split
    · simp
    split
    case isTrue hc => exact number_span_ne_nil hc cs
    split
    case isTrue hc => exact word_span_ne_nil hc cs
    simp

/-- What is left behind a lexeme is shorter than the text it was cut from. -/
theorem first_rest_length_lt
    {cs : List Char} (h : (first cs).token ≠ .endOfInput) :
    (first cs).rest.length < cs.length := by
  have hspan : 0 < (first cs).span.length :=
    List.length_pos_iff.mpr (head_span_ne_nil h)
  have hlength := congrArg List.length (head_append (cs.dropWhile isBlank))
  have hblank := (List.dropWhile_suffix (l := cs) isBlank).length_le
  simp only [List.length_append] at hlength
  unfold first at *
  omega

end Lexeme

namespace Token

/-- The tokens of a text up to its end or to the first malformed one, which is
included. -/
def ofChars (cs : List Char) : List Token :=
  let lexeme := Lexeme.first cs
  if h : lexeme.token.isLast then
    [lexeme.token]
  else
    have : lexeme.rest.length < cs.length :=
      Lexeme.first_rest_length_lt fun hend => h (by rw [hend]; rfl)
    lexeme.token :: ofChars lexeme.rest
termination_by cs.length

/-- The tokens of the first lexemes of a text, as many as asked for. -/
def take (count : Nat) (cs : List Char) : List Token :=
  (Lexeme.take count cs).map Lexeme.token

/-- The tokens of a source text. -/
def ofString (source : String) : List Token :=
  ofChars source.toList

end Token
end LamApp
