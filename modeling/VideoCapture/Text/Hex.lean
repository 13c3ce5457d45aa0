/-!
# Hexadecimal text of numbers and words

Addresses and status words are printed in lower-case hexadecimal, either as short as possible or
padded to the eight digits of a 32-bit word.

## Main definitions

* `VideoCapture.Text.hex` — the shortest form, behind `0x`.
* `VideoCapture.Text.word` — the eight digits of a 32-bit word.
* `VideoCapture.Text.address` — a 32-bit bus address: `0x` and eight digits.
-/

set_option autoImplicit false

namespace VideoCapture.Text

/-- The number `n` in lower-case hexadecimal behind `0x`, without leading zeros. -/
def hex (n : Nat) : String :=
  "0x" ++ String.ofList (Nat.toDigits 16 n)

/-- The eight hexadecimal digits of a 32-bit word. -/
def word (w : UInt32) : String :=
  String.ofList ((Nat.toDigits 16 w.toNat).leftpad 8 '0')

/-- A bus address as listings show it: `0x` and all eight digits. -/
def address (w : UInt32) : String :=
  "0x" ++ word w

end VideoCapture.Text
