import Mathlib.Data.List.TakeWhile
import Mathlib.Data.UInt

/-!
# Text as the C and C++ libraries read it

Lines, the parts of a text before and after a character, and numbers. `strtoull` takes the longest
numeral at the front of a text, and wraps a negative one; `integerOf` is the integer that a whole text is
the numeral of. Where that is an unsigned 64-bit integer the two agree.
-/

namespace Lib

/-- The white space of the C locale. -/
def isSpace (c : Char) : Bool := c == ' ' || (decide (9 ≤ c.toNat) && decide (c.toNat ≤ 13))

/-- The lines that `std::getline` gives. -/
def getLines : List Char → List (List Char)
  | [] => []
  | c :: text =>
      if c = '\n' then [] :: getLines text
      else
        match getLines text with
        | [] => [[c]]
        | line :: lines => (c :: line) :: lines

/-! ## Parts -/

section Parts

variable (c : Char) (text : List Char)

/-- What stands before the first such character. -/
def beforeFirst : List Char := text.takeWhile (· != c)

/-- What stands after the first such character. -/
def afterFirst : List Char := (text.dropWhile (· != c)).drop 1

/-- What stands before the last such character. -/
def beforeLast : List Char := (afterFirst c text.reverse).reverse

/-- What stands after the last such character. -/
def afterLast : List Char := (beforeFirst c text.reverse).reverse

end Parts

/-! ## Numbers -/

def digitsValue (digits : List Char) : Nat :=
  digits.foldl (fun value c => 10 * value + (c.toNat - '0'.toNat)) 0

/-- A decimal numeral up to 255 that begins with no idle zero. -/
def isOctet (text : List Char) : Bool :=
  text ≠ [] && text.all Char.isDigit && (text.length == 1 || text.head? != some '0') &&
    decide (digitsValue text ≤ 255)

/-- Whether `inet_pton` takes the text for an IPv4 address: four such numerals with dots between them. -/
def inetPton (text : List Char) : Bool :=
  let octets := text.splitOn '.'
  octets.length == 4 && octets.all isOctet

/-- Whether a minus sign stands in front, and what follows the sign. -/
def splitSign : List Char → Bool × List Char
  | '-' :: text => (true, text)
  | '+' :: text => (false, text)
  | text => (false, text)

def signed (negative : Bool) (magnitude : Nat) : Int := if negative then -magnitude else magnitude

/-- The integer that the text is the decimal numeral of. -/
def integerOf (text : List Char) : Option Int :=
  let (negative, digits) := splitSign text
  if digits ≠ [] ∧ digits.all Char.isDigit then some (signed negative (digitsValue digits)) else none

inductive StrToUll
  | noConversion
  | outOfRange
  | value (n : UInt64)
deriving DecidableEq, Repr

def strtoull (text : List Char) : StrToUll :=
  let (negative, rest) := splitSign (text.dropWhile isSpace)
  let digits := rest.takeWhile Char.isDigit
  if digits = [] then .noConversion
  else if 2 ^ 64 ≤ digitsValue digits then .outOfRange
  else .value (if negative then 0 - UInt64.ofNat (digitsValue digits) else .ofNat (digitsValue digits))

theorem isSpace_of_isDigit {c : Char} (h : c.isDigit = true) : isSpace c = false := by
  simp only [Char.isDigit, Bool.and_eq_true, decide_eq_true_eq, ge_iff_le, UInt32.le_iff_toNat_le] at h
  have hlow : 48 ≤ c.toNat := h.1
  have hblank : c ≠ ' ' := by
    rintro rfl
    exact absurd hlow (by decide)
  simp only [isSpace, Bool.or_eq_false_iff, beq_eq_false_iff_ne, Bool.and_eq_false_iff,
    decide_eq_false_iff_not]
  exact ⟨hblank, .inr (by omega)⟩

theorem integerOf_eq_some {text : List Char} {z : Int} :
    integerOf text = some z ↔
      (splitSign text).2 ≠ [] ∧ (∀ c ∈ (splitSign text).2, c.isDigit = true) ∧
        z = signed (splitSign text).1 (digitsValue (splitSign text).2) := by
  simp only [integerOf, List.all_eq_true, Option.ite_none_right_eq_some, Option.some.injEq,
    and_assoc, @eq_comm _ z]

/-- A numeral does not begin with white space. -/
theorem dropWhile_of_integerOf {text : List Char} {z : Int} (h : integerOf text = some z) :
    text.dropWhile isSpace = text := by
  obtain ⟨hsome, hdigits, -⟩ := integerOf_eq_some.mp h
  cases text with
  | nil => rfl
  | cons c text =>
      have hspace : isSpace c = false := by
        unfold splitSign at hdigits
        split at hdigits
        · rename_i heq
          cases heq
          rfl
        · rename_i heq
          cases heq
          rfl
        · exact isSpace_of_isDigit (hdigits c List.mem_cons_self)
      rw [List.dropWhile_cons, hspace]
      rfl

/-- The numeral of an unsigned 64-bit integer is read as that integer. -/
theorem strtoull_of_integerOf {text : List Char} {n : Nat} (h : integerOf text = some (n : Int))
    (hn : n < 2 ^ 64) : strtoull text = .value (UInt64.ofNat n) := by
  obtain ⟨hsome, hdigits, hvalue⟩ := integerOf_eq_some.mp h
  have htake : (splitSign text).2.takeWhile Char.isDigit = (splitSign text).2 :=
    List.takeWhile_eq_self_iff.mpr hdigits
  simp only [strtoull, dropWhile_of_integerOf h, htake, if_neg hsome]
  cases hsign : (splitSign text).1 with
  | false =>
      rw [hsign] at hvalue
      have hsame : digitsValue (splitSign text).2 = n := by
        simp only [signed, Bool.false_eq_true, if_false] at hvalue
        omega
      rw [hsame, if_neg (by omega)]
      rfl
  | true =>
      rw [hsign] at hvalue
      have hzero : digitsValue (splitSign text).2 = 0 ∧ n = 0 := by
        simp only [signed, if_true] at hvalue
        omega
      rw [hzero.1, hzero.2]
      rfl

end Lib
