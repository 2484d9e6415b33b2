/-!
# Decimal numerals

The written form of an integer: an optional minus sign and one or more decimal
digits. A numeral may carry leading zeros and may be `-0`; the canonical one
does neither. Reading the canonical numeral of an integer gives it back.
-/

namespace LamApp
namespace Decimal

/-- The canonical numeral of an integer. -/
def text (n : Int) : String :=
  n.repr

/-- One or more decimal digits. -/
def isUnsigned (cs : List Char) : Bool :=
  !cs.isEmpty && cs.all Char.isDigit

/-- One or more decimal digits behind an optional minus sign. -/
def isNumeral : List Char → Bool
  | '-' :: cs => isUnsigned cs
  | cs => isUnsigned cs

/-- The number written by an unsigned numeral. -/
def magnitude? (cs : List Char) : Option Nat :=
  if isUnsigned cs then
    some (Nat.ofDigitChars 10 cs 0)
  else
    none

/-- The integer written by a numeral. -/
def value? : List Char → Option Int
  | '-' :: cs => (magnitude? cs).map fun n : Nat => -(n : Int)
  | cs => (magnitude? cs).map fun n : Nat => (n : Int)

/-- The longest stretch of digits at the head, with a minus sign in front if
there is one, and the text behind it. -/
def split : List Char → List Char × List Char
  | '-' :: cs => ('-' :: cs.takeWhile Char.isDigit, cs.dropWhile Char.isDigit)
  | cs => (cs.takeWhile Char.isDigit, cs.dropWhile Char.isDigit)

@[simp] theorem isSome_magnitude?
    (cs : List Char) :
    (magnitude? cs).isSome = isUnsigned cs := by
  unfold magnitude?
  split <;> simp_all

/-- Exactly the numerals have a value. -/
@[simp] theorem isSome_value?
    (cs : List Char) :
    (value? cs).isSome = isNumeral cs := by
  unfold value? isNumeral
  split <;> simp

@[simp] theorem magnitude?_toDigits
    (n : Nat) :
    magnitude? (Nat.toDigits 10 n) = some n := by
  have hdigits : isUnsigned (Nat.toDigits 10 n) = true := by
    simpa [isUnsigned, Nat.toDigits_ne_nil] using
      fun c hc => Nat.isDigit_of_mem_toDigits (b := 10) (n := n) (c := c)
        (by decide) (by decide) hc
  simp [magnitude?, hdigits, Nat.ofDigitChars_ten_toDigits]

/-- Splitting a text loses none of it. -/
@[simp] theorem split_append
    (cs : List Char) :
    (split cs).1 ++ (split cs).2 = cs := by
  unfold split
  split <;> simp

end Decimal
end LamApp
