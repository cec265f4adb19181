import Mathlib.Data.List.TakeWhile
import Mathlib.Tactic.IntervalCases

namespace std

/-- The ways in which a call does not return: the exceptions which the program
    and its libraries throw, a fault on an unmapped address, and a call which
    breaks a precondition. -/
inductive Failure where
  | runtime_error (what : String)
  | invalid_argument
  | out_of_range
  | bad_alloc
  | segmentation_fault
  | undefined_behavior
  deriving DecidableEq, Repr

/-- The characters which a reader of `text.c_str()` sees: those before the
    first null character. A `Char` stands for one byte of a `std::string`. -/
def c_str (text : String) : String := String.ofList (text.toList.takeWhile (· ≠ '\x00'))

/-- A text starts with another one. -/
def starts_with (text start : String) : Bool := start.toList.isPrefixOf text.toList

/-- A number in decimal digits. -/
def to_string (value : Nat) : String := toString value

/-- `stream << ptr` for a `const void*`: lower-case hexadecimal digits after
    `0x`, and a single `0` for the null pointer. -/
def ostream_pointer (ptr : UInt64) : String :=
  if ptr = 0 then "0" else "0x" ++ String.ofList (Nat.toDigits 16 ptr.toNat)

/-- The value of a hexadecimal digit of either case. -/
def hex_value (c : Char) : Option Nat :=
  if '0' ≤ c ∧ c ≤ '9' then some (c.toNat - '0'.toNat)
  else if 'a' ≤ c ∧ c ≤ 'f' then some (c.toNat - 'a'.toNat + 10)
  else if 'A' ≤ c ∧ c ≤ 'F' then some (c.toNat - 'A'.toNat + 10)
  else none

/-- A digit of a hexadecimal number, of either case. -/
def isxdigit (c : Char) : Bool := (hex_value c).isSome

/-- The white space of the C locale. -/
def isspace (c : Char) : Bool := c = ' ' ∨ '\t' ≤ c ∧ c ≤ '\r'

/-- The sign of a number and the text after it. -/
def split_sign : List Char → Bool × List Char
  | '-' :: rest => (true, rest)
  | '+' :: rest => (false, rest)
  | text => (false, text)

/-- A `0x` in front of a hexadecimal digit is no part of the digits. -/
def skip_0x : List Char → List Char
  | '0' :: x :: digit :: rest =>
    if (x = 'x' ∨ x = 'X') ∧ isxdigit digit then digit :: rest else '0' :: x :: digit :: rest
  | text => text

/-- The value of hexadecimal digits, the most significant one first. -/
def hex_number (digits : List Char) : Nat :=
  digits.foldl (fun value digit => 16 * value + (hex_value digit).getD 0) 0

/-- `stoull(text, nullptr, 16)`. -/
def stoull_hex (text : String) : Except Failure Nat :=
  let (negative, text) := split_sign (text.toList.dropWhile isspace)
  let digits := (skip_0x text).takeWhile isxdigit
  let value := hex_number digits
  if digits.isEmpty then throw .invalid_argument
  else if 2 ^ 64 ≤ value then throw .out_of_range
  else if negative then pure ((2 ^ 64 - value) % 2 ^ 64)
  else pure value

private theorem hex_value_digitChar {digit : Nat} (hdigit : digit < 16) :
    hex_value (Nat.digitChar digit) = some digit := by
  interval_cases digit <;> rfl

/-- Numbers are written in hexadecimal digits. -/
theorem isxdigit_toDigits (value : Nat) : ∀ c ∈ Nat.toDigits 16 value, isxdigit c = true := by
  induction value using Nat.base_induction 16 (by omega) with
  | single digit hdigit =>
    rw [Nat.toDigits_of_lt_base hdigit]
    simp [isxdigit, hex_value_digitChar hdigit]
  | digit digit rest hdigit hrest ih =>
    rw [← Nat.toDigits_append_toDigits (by omega) hrest hdigit, Nat.toDigits_of_lt_base hdigit]
    intro c hc
    rcases List.mem_append.mp hc with hc | hc
    · exact ih c hc
    · obtain rfl := List.mem_singleton.mp hc
      simp [isxdigit, hex_value_digitChar hdigit]

/-- The digits of a number have its value. -/
theorem hex_number_toDigits (value : Nat) : hex_number (Nat.toDigits 16 value) = value := by
  induction value using Nat.base_induction 16 (by omega) with
  | single digit hdigit =>
    rw [Nat.toDigits_of_lt_base hdigit]
    simp [hex_number, hex_value_digitChar hdigit]
  | digit digit rest hdigit hrest ih =>
    rw [← Nat.toDigits_append_toDigits (by omega) hrest hdigit, Nat.toDigits_of_lt_base hdigit]
    unfold hex_number at ih ⊢
    rw [List.foldl_append, ih]
    simp [hex_value_digitChar hdigit]

/-- The printed form of a pointer reads back as its value. -/
theorem stoull_hex_ostream_pointer (ptr : UInt64) :
    stoull_hex (ostream_pointer ptr) = .ok ptr.toNat := by
  unfold ostream_pointer
  split
  · next hnull =>
    subst hnull
    rfl
  · have hskip : skip_0x ('0' :: 'x' :: Nat.toDigits 16 ptr.toNat) =
        Nat.toDigits 16 ptr.toNat := by
      have hdigits := isxdigit_toDigits ptr.toNat
      cases hcases : Nat.toDigits 16 ptr.toNat with
      | nil => exact absurd hcases Nat.toDigits_ne_nil
      | cons digit rest =>
        rw [hcases] at hdigits
        simp [skip_0x, hdigits digit (by simp)]
    have htake : (Nat.toDigits 16 ptr.toNat).takeWhile isxdigit = Nat.toDigits 16 ptr.toNat :=
      List.takeWhile_eq_self_iff.mpr (isxdigit_toDigits ptr.toNat)
    have hspace : isspace '0' = false := by decide
    have hbound : ptr.toNat < 2 ^ 64 := ptr.toNat_lt
    simp [stoull_hex, split_sign, hspace, hskip, htake, hex_number_toDigits]
    rw [if_neg (by omega)]
    rfl

/-- Different numbers have different decimal digits. -/
theorem to_string_injective : Function.Injective to_string := by
  intro left right heq
  have hdigits : Nat.toDigits 10 left = Nat.toDigits 10 right := by
    simpa [to_string, Nat.toString_eq_ofList_toDigits] using congrArg String.toList heq
  have hvalue := congrArg (fun digits => Nat.ofDigitChars 10 digits 0) hdigits
  simpa using hvalue

end std
