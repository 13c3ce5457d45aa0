/-!
# Reading decimal numerals

Settings are written as unsigned decimal numerals: an optional plus sign and at least one digit,
with a value below a bound. Nothing else is accepted, in particular no blanks, no minus sign and no
separators.

## Main definitions

* `VideoCapture.Text.digitValue?` — the value of one decimal digit.
* `VideoCapture.Text.digits?` — the value of a run of digits.
* `VideoCapture.Text.numeral?` — the value of a numeral, if it is one and lies below the bound.
-/

set_option autoImplicit false

namespace VideoCapture.Text

/-- The value of an ASCII decimal digit. -/
def digitValue? (c : Char) : Option Nat :=
  if '0' ≤ c ∧ c ≤ '9' then some (c.toNat - '0'.toNat) else none

/-- The value of a run of decimal digits read after a run worth `value`. -/
def digits? (value : Nat) : List Char → Option Nat
  | [] => some value
  | c :: rest => do digits? (10 * value + (← digitValue? c)) rest

/-- The characters of a numeral behind its optional plus sign. -/
def unsign : List Char → List Char
  | '+' :: rest => rest
  | cs => cs

/-- The value of the numeral `text`, if it is one and its value is less than `bound`. -/
def numeral? (bound : Nat) (text : String) : Option Nat := do
  let cs := unsign text.toList
  if cs.isEmpty then none
  else
    let value ← digits? 0 cs
    if value < bound then some value else none

end VideoCapture.Text
