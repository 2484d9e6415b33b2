import LamApp.Program
import LamApp.Proofs.RoundTrip
import Mathlib.Data.Nat.Digits.Lemmas

/-!
# Arithmetic on literals

A literal is a sign and a list of decimal digits. Its text and the integer that
it denotes are told here from these, whatever the program text is read by.
Leading zeros and `-0` are allowed, so an integer has many literals. One of
them is canonical: its text is the one that programs write.

Main statement: numbers, sums and comparisons of literals are exact from text
to text, for numbers of any size. Literals are the same value exactly if they
denote the same integer.
-/

namespace LamApp

/-- A decimal numeral: one or more digits, most significant first, behind an
optional minus sign. -/
structure Literal where
  negative : Bool
  digits : List Nat
  digits_ne_nil : digits ≠ []
  lt_ten : ∀ digit ∈ digits, digit < 10

namespace Literal

/-- The characters of the digits. -/
def digitChars (literal : Literal) : List Char :=
  literal.digits.map Nat.digitChar

/-- The written form. -/
def text (literal : Literal) : String :=
  String.ofList
    (if literal.negative then '-' :: literal.digitChars else literal.digitChars)

/-- The number that the digits denote. -/
def magnitude (literal : Literal) : Nat :=
  Nat.ofDigits 10 literal.digits.reverse

/-- The integer that the literal denotes. -/
def value (literal : Literal) : Int :=
  if literal.negative then -literal.magnitude else literal.magnitude

/-- Zero is only written as `0`, and no other literal begins with a zero. -/
def IsCanonical (literal : Literal) : Prop :=
  literal.digits.head? = some 0 →
    literal.digits = [0] ∧ literal.negative = false

/-- A digit behind the others is worth itself, and the others ten times what
they were. -/
theorem ofDigits_reverse_concat
    (digits : List Nat) (digit : Nat) :
    Nat.ofDigits 10 (digits ++ [digit]).reverse =
      10 * Nat.ofDigits 10 digits.reverse + digit := by
  rw [List.reverse_append, List.reverse_singleton, List.singleton_append,
    Nat.ofDigits_cons, Nat.add_comm]

/-! ## Reading -/

theorem isUnsigned_digitChars
    (literal : Literal) :
    Decimal.isUnsigned literal.digitChars = true := by
  have hdigit : ∀ digit ∈ literal.digits, digit.digitChar.isDigit = true := by
    intro digit hmem
    rw [Nat.isDigit_digitChar]
    exact decide_eq_true (literal.lt_ten digit hmem)
  simpa [Decimal.isUnsigned, digitChars, literal.digits_ne_nil] using hdigit

theorem ofDigitChars_map_digitChar
    {digits : List Nat} (hlt : ∀ digit ∈ digits, digit < 10) :
    Nat.ofDigitChars 10 (digits.map Nat.digitChar) 0 =
      Nat.ofDigits 10 digits.reverse := by
  induction digits using List.reverseRecOn with
  | nil =>
      rfl
  | append_singleton digits digit ih =>
      have hdigit : digit < 10 := hlt digit (by simp)
      have hdigits := ih fun other hmem => hlt other (by simp [hmem])
      rw [List.map_append, List.map_singleton, Nat.ofDigitChars_append,
        Nat.ofDigitChars_cons_digitChar_of_lt_ten hdigit,
        Nat.ofDigitChars_nil, hdigits, ofDigits_reverse_concat]

/-- A literal is read as the integer that it denotes. -/
theorem value?_text
    (literal : Literal) :
    Decimal.value? literal.text.toList = some literal.value := by
  have hmagnitude :
      Nat.ofDigitChars 10 literal.digitChars 0 = literal.magnitude :=
    ofDigitChars_map_digitChar literal.lt_ten
  rw [text, String.toList_ofList, value]
  cases literal.negative with
  | true =>
      rw [if_pos rfl, if_pos rfl, Decimal.value?, Decimal.magnitude?,
        if_pos literal.isUnsigned_digitChars, hmagnitude]
      rfl
  | false =>
      rw [if_neg Bool.false_ne_true, if_neg Bool.false_ne_true,
        Decimal.value?_of_isUnsigned literal.isUnsigned_digitChars, hmagnitude]

/-! ## Canonical literals -/

/-- Digits that do not begin with a zero are those of a positive number. -/
theorem toDigits_ofDigits_reverse
    {digits : List Nat} (hne : digits ≠ [])
    (hlt : ∀ digit ∈ digits, digit < 10) (hhead : digits.head? ≠ some 0) :
    0 < Nat.ofDigits 10 digits.reverse ∧
      Nat.toDigits 10 (Nat.ofDigits 10 digits.reverse) =
        digits.map Nat.digitChar := by
  induction digits using List.reverseRecOn with
  | nil =>
      exact absurd rfl hne
  | append_singleton digits digit ih =>
      have hdigit : digit < 10 := hlt digit (by simp)
      rw [ofDigits_reverse_concat, List.map_append, List.map_singleton]
      by_cases hnil : digits = []
      · subst hnil
        have hpos : digit ≠ 0 := by simpa using hhead
        exact ⟨by omega, by simp [Nat.toDigits_of_lt_base hdigit]⟩
      · -- The digits in front begin with the same digit.
        rw [List.head?_append_of_ne_nil _ hnil] at hhead
        obtain ⟨hpos, hdigits⟩ :=
          ih hnil (fun other hmem => hlt other (by simp [hmem])) hhead
        rw [← Nat.toDigits_append_toDigits (by omega) hpos hdigit, hdigits,
          Nat.toDigits_of_lt_base hdigit]
        exact ⟨by omega, rfl⟩

/-- The canonical literals are written as programs write their integers. -/
theorem text_of_isCanonical
    {literal : Literal} (h : literal.IsCanonical) :
    literal.text = Decimal.text literal.value := by
  by_cases hhead : literal.digits.head? = some 0
  · obtain ⟨hdigits, hsign⟩ := h hhead
    rw [text, value, magnitude, digitChars, hsign, hdigits]
    rfl
  · obtain ⟨hpos, hdigits⟩ := toDigits_ofDigits_reverse
      literal.digits_ne_nil literal.lt_ten hhead
    obtain ⟨m, hm⟩ := Nat.exists_eq_succ_of_ne_zero hpos.ne'
    rw [← String.toList_inj, text, value, magnitude, digitChars, ← hdigits, hm,
      String.toList_ofList]
    cases literal.negative with
    | true =>
        exact (Decimal.toList_text_negSucc m).symm
    | false =>
        exact (Decimal.toList_text_ofNat (m + 1)).symm

/-- The digits of a number, most significant first; zero has one. -/
def digitsOf (m : Nat) : List Nat :=
  if m = 0 then [0] else (Nat.digits 10 m).reverse

theorem digitsOf_ne_nil
    (m : Nat) :
    digitsOf m ≠ [] := by
  unfold digitsOf
  split
  · simp
  · simpa [Nat.digits_ne_nil_iff_ne_zero]

theorem digitsOf_lt_ten
    (m : Nat) :
    ∀ digit ∈ digitsOf m, digit < 10 := by
  unfold digitsOf
  split
  · simp
  · intro digit hmem
    exact Nat.digits_lt_base (by decide) (List.mem_reverse.mp hmem)

theorem ofDigits_digitsOf
    (m : Nat) :
    Nat.ofDigits 10 (digitsOf m).reverse = m := by
  unfold digitsOf
  split
  case isTrue hm =>
      rw [hm]
      rfl
  case isFalse =>
      rw [List.reverse_reverse, Nat.ofDigits_digits]

/-- Only the digits of zero begin with a zero. -/
theorem eq_zero_of_head?_digitsOf
    {m : Nat} (h : (digitsOf m).head? = some 0) :
    m = 0 := by
  by_contra hm
  have hne : Nat.digits 10 m ≠ [] := Nat.digits_ne_nil_iff_ne_zero.mpr hm
  rw [digitsOf, if_neg hm, List.head?_reverse,
    List.getLast?_eq_some_getLast hne, Option.some.injEq] at h
  exact Nat.getLast_digit_ne_zero 10 hm h

/-- The canonical literal of an integer. -/
def canonical (n : Int) : Literal where
  negative := decide (n < 0)
  digits := digitsOf n.natAbs
  digits_ne_nil := digitsOf_ne_nil n.natAbs
  lt_ten := digitsOf_lt_ten n.natAbs

theorem isCanonical_canonical
    (n : Int) :
    (canonical n).IsCanonical := by
  intro hhead
  have hn : n = 0 := Int.natAbs_eq_zero.mp (eq_zero_of_head?_digitsOf hhead)
  rw [hn]
  exact ⟨rfl, rfl⟩

theorem value_canonical
    (n : Int) :
    (canonical n).value = n := by
  have hmagnitude : (canonical n).magnitude = n.natAbs :=
    ofDigits_digitsOf n.natAbs
  rw [value, hmagnitude, canonical]
  by_cases hneg : n < 0
  · rw [if_pos (decide_eq_true hneg)]
    omega
  · rw [if_neg (by simpa using hneg)]
    omega

theorem text_canonical
    (n : Int) :
    (canonical n).text = Decimal.text n := by
  rw [text_of_isCanonical (isCanonical_canonical n), value_canonical]

/-! ## Programs -/

theorem isPlain_number_text
    (literal : Literal) :
    (Token.number literal.text).IsPlain := by
  rw [Token.IsPlain, ← Decimal.isSome_value?, literal.value?_text]
  rfl

/-- A literal is a single token. -/
theorem ofString_text
    (literal : Literal) :
    Token.ofString literal.text = [.number literal.text, .endOfInput] :=
  Token.ofChars_text literal.isPlain_number_text

theorem writes_text
    (literal : Literal) :
    Expr.Writes (fun rest => literal.text.toList ++ rest)
      (.number literal.value) :=
  Expr.writes_of_isPlain literal.isPlain_number_text
    (.number literal.value?_text)

theorem parse?_text
    (literal : Literal) :
    Expr.parse? literal.text = .ok (.number literal.value) := by
  have hparse := Expr.parse?_of_writes literal.writes_text
  rwa [List.append_nil, String.ofList_toList] at hparse

/-- A function of two arguments is applied to two literals. -/
theorem parse?_call
    {function : String} (hfunction : (Expr.var function).WellFormed)
    (A B : Literal) :
    Expr.parse?
        ("app app " ++ function ++ " " ++ A.text ++ " " ++ B.text) =
      .ok (.app (.app (.var function) (.number A.value))
        (.number B.value)) := by
  have hblank : isBlank ' ' = true := rfl
  have hpartly := Expr.Writes.app hblank (Expr.writes_inline hfunction)
    A.writes_text
  have hparse :=
    Expr.parse?_of_writes (Expr.Writes.app hblank hpartly B.writes_text)
  have hsource :
      "app app " ++ function ++ " " ++ A.text ++ " " ++ B.text =
        String.ofList ("app".toList ++ ' ' :: ("app".toList ++
          ' ' :: Expr.inline (.var function)
            (' ' :: (A.text.toList ++ ' ' :: (B.text.toList ++ []))))) := by
    simp [← String.toList_inj, Expr.inline]
  rw [hsource]
  exact hparse

end Literal

namespace Program

theorem run_of_evaluate
    {source : String} {e : Expr} (hparse : Expr.parse? source = .ok e)
    {limit : Nat} {value : Value}
    (hevaluate : e.evaluate limit = some value) :
    run limit false source = some (.evaluated e value) := by
  rw [run, hparse]
  simp [hevaluate]

end Program

namespace Expr

theorem evaluate_number
    (n : Int) :
    (number n).evaluate 2 = some (.number n) :=
  rfl

theorem evaluate_add
    (a b : Int) :
    (app (app (var "add") (number a)) (number b)).evaluate 12 =
      some (.number (a + b)) :=
  rfl

theorem evaluate_gt
    (a b : Int) :
    (app (app (var "gt") (number a)) (number b)).evaluate 12 =
      some (.bool (a > b)) :=
  rfl

end Expr

namespace Literal

theorem run_text
    (A : Literal) :
    (Program.run 2 false A.text).map Run.result =
      some (.ok (Decimal.text A.value)) := by
  rw [Program.run_of_evaluate A.parse?_text (Expr.evaluate_number A.value)]
  rfl

theorem run_add
    (A B : Literal) :
    (Program.run 12 false
      ("app app add " ++ A.text ++ " " ++ B.text)).map Run.result =
        some (.ok (Decimal.text (A.value + B.value))) := by
  have hname : (Expr.var "add").WellFormed := ⟨by decide, by decide⟩
  have hsource : "app app add " = "app app " ++ "add" ++ " " := rfl
  rw [hsource, Program.run_of_evaluate (parse?_call hname A B)
    (Expr.evaluate_add A.value B.value)]
  rfl

theorem run_gt
    (A B : Literal) :
    (Program.run 12 false
      ("app app gt " ++ A.text ++ " " ++ B.text)).map Run.result =
        some (.ok (if A.value > B.value then "true" else "false")) := by
  have hname : (Expr.var "gt").WellFormed := ⟨by decide, by decide⟩
  have hsource : "app app gt " = "app app " ++ "gt" ++ " " := rfl
  rw [hsource, Program.run_of_evaluate (parse?_call hname A B)
    (Expr.evaluate_gt A.value B.value)]
  simp [Run.result, Value.render, Expr.boolText]

theorem evaluate_parse_text
    (A : Literal) :
    (Expr.parse A.text).evaluate 2 = some (.number A.value) := by
  rw [Expr.parse, A.parse?_text]
  rfl

/-- What programs write for an integer is its canonical literal, and this is
read as the same integer. -/
theorem text_reads_back
    (n : Int) :
    (∃ A : Literal,
      A.IsCanonical ∧ A.value = n ∧ A.text = Decimal.text n) ∧
    Token.ofString (Decimal.text n) =
      [.number (Decimal.text n), .endOfInput] ∧
    ∃ limit,
      (Expr.parse (Decimal.text n)).evaluate limit = some (.number n) := by
  rw [← text_canonical]
  refine ⟨⟨canonical n, isCanonical_canonical n, value_canonical n, rfl⟩,
    (canonical n).ofString_text, 2, ?_⟩
  rw [evaluate_parse_text, value_canonical]

/-- Literals show the integers that they denote, and sums and comparisons of
them are those of these integers. What is shown is a canonical literal, which is
read as the same integer. Literals are the same value exactly if they denote the
same integer. -/
theorem arithmetic_exact :
    (∀ A : Literal, ∃ limit,
      (Program.run limit false A.text).map Run.result =
        some (.ok (Decimal.text A.value))) ∧
    (∀ A B : Literal, ∃ limit,
      (Program.run limit false
        ("app app add " ++ A.text ++ " " ++ B.text)).map Run.result =
          some (.ok (Decimal.text (A.value + B.value)))) ∧
    (∀ A B : Literal, ∃ limit,
      (Program.run limit false
        ("app app gt " ++ A.text ++ " " ++ B.text)).map Run.result =
          some (.ok (if A.value > B.value then "true" else "false"))) ∧
    (∀ n : Int,
      (∃ A : Literal,
        A.IsCanonical ∧ A.value = n ∧ A.text = Decimal.text n) ∧
      Token.ofString (Decimal.text n) =
        [.number (Decimal.text n), .endOfInput] ∧
      ∃ limit,
        (Expr.parse (Decimal.text n)).evaluate limit = some (.number n)) ∧
    (∀ A B : Literal, ∃ limit a b,
      (Expr.parse A.text).evaluate limit = some a ∧
      (Expr.parse B.text).evaluate limit = some b ∧
      (a.same b = true ↔ A.value = B.value)) := by
  refine ⟨fun A => ⟨2, A.run_text⟩, fun A B => ⟨12, run_add A B⟩,
    fun A B => ⟨12, run_gt A B⟩, text_reads_back, fun A B => ?_⟩
  refine ⟨2, _, _, A.evaluate_parse_text, B.evaluate_parse_text, ?_⟩
  simp [Value.same]

example :
    (Program.run 12 false "app app add -007 -0").map Run.result =
      some (.ok "-7") := by
  decide +kernel

end Literal
end LamApp
