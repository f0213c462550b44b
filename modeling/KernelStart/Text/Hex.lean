/-!
# Hexadecimal text

Numbers in log lines and traces are written in lower-case hexadecimal: without
leading zeros behind a `0x`, or filled with zeros up to a least width.
-/

set_option autoImplicit false

namespace KernelStart.Text

/-- Lower-case hexadecimal digits without leading zeros; zero is a single `0`. -/
def hexDigits (value : Nat) : String :=
  String.ofList (Nat.toDigits 16 value)

/-- Hexadecimal digits behind the marker `0x`. -/
def hex (value : Nat) : String :=
  "0x" ++ hexDigits value

/-- Hexadecimal digits filled with zeros on the left up to `width` places. -/
def hexFilled (width value : Nat) : String :=
  let digits := hexDigits value
  "".pushn '0' (width - digits.length) ++ digits

end KernelStart.Text
