/-!
# Blank characters

The characters with the Unicode property White_Space.
-/

namespace FontCompiler.Text

/-- The blank characters as intervals of code points, in ascending order. -/
def blankIntervals : List (Nat × Nat) :=
  [(0x9, 0xD), (0x20, 0x20), (0x85, 0x85), (0xA0, 0xA0), (0x1680, 0x1680), (0x2000, 0x200A),
    (0x2028, 0x2029), (0x202F, 0x202F), (0x205F, 0x205F), (0x3000, 0x3000)]

/-- Whether a character is blank. -/
def isBlank (char : Char) : Bool :=
  blankIntervals.any fun (first, last) => first ≤ char.toNat && char.toNat ≤ last

/-- The text from the first character on that is not blank. -/
def trimStart (chars : List Char) : List Char :=
  chars.dropWhile isBlank

/-- The text up to the last character that is not blank. -/
def trimEnd (chars : List Char) : List Char :=
  (trimStart chars.reverse).reverse

end FontCompiler.Text
