import IdScan.Framework.Text

/-! # The parts of Python the programs use

  A `str` is the list of its characters. Only texts without surrogate code
  points are covered, which is all that the two decoders in use can produce.
  `None` and texts together are `PyVal`.
-/

namespace IdScan

/-- A Python `str`. -/
abbrev Str := List Char

/-- A value that is a text or `None`. -/
abbrev PyVal := Option Str

/-- `str.isspace` of one character, which is also `\s` in a pattern. -/
def isspace (c : Char) : Bool :=
  let n := c.toNat
  (0x09 ≤ n && n ≤ 0x0D) || (0x1C ≤ n && n ≤ 0x20) || n == 0x85 || n == 0xA0 || n == 0x1680
    || (0x2000 ≤ n && n ≤ 0x200A) || n == 0x2028 || n == 0x2029 || n == 0x202F || n == 0x205F
    || n == 0x3000

/-- Where the runs of ten decimal digits of Unicode begin. The mathematical
    digits are five such runs in a row. -/
def decimalZeros : List Nat :=
  [0x30, 0x660, 0x6F0, 0x7C0, 0x966, 0x9E6, 0xA66, 0xAE6, 0xB66, 0xBE6, 0xC66, 0xCE6, 0xD66,
    0xDE6, 0xE50, 0xED0, 0xF20, 0x1040, 0x1090, 0x17E0, 0x1810, 0x1946, 0x19D0, 0x1A80, 0x1A90,
    0x1B50, 0x1BB0, 0x1C40, 0x1C50, 0xA620, 0xA8D0, 0xA900, 0xA9D0, 0xA9F0, 0xAA50, 0xABF0,
    0xFF10, 0x104A0, 0x10D30, 0x11066, 0x110F0, 0x11136, 0x111D0, 0x112F0, 0x11450, 0x114D0,
    0x11650, 0x116C0, 0x11730, 0x118E0, 0x11950, 0x11C50, 0x11D50, 0x11DA0, 0x16A60, 0x16AC0,
    0x16B50, 0x1D7CE, 0x1D7D8, 0x1D7E2, 0x1D7EC, 0x1D7F6, 0x1E140, 0x1E2F0, 0x1E950, 0x1FBF0]

/-- `\d` in a pattern. -/
def isdecimal (c : Char) : Bool :=
  decimalZeros.any fun first => first ≤ c.toNat && c.toNat ≤ first + 9

/-- `str.strip()`. -/
def strip (s : Str) : Str := Text.trim isspace s

@[simp] theorem strip_strip (s : Str) : strip (strip s) = strip s := Text.trim_trim isspace s

/-- `s.replace('#', ' ')`. -/
def hashToSpace (s : Str) : Str := Text.replace ['#'] [' '] s

/-- `' '.join` of the parts that are neither `None` nor empty. -/
def joinParts (parts : List PyVal) : Str :=
  Text.joinNonEmpty [' '] (parts.map (·.getD []))

/-- `str(n)`. -/
def decimal (n : Nat) : Str := Nat.toDigits 10 n

end IdScan
