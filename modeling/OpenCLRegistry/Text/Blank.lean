/-!
# Blank characters

The Unicode property `White_Space`, and the text left when blanks are removed at
both ends. Zero-width characters are not blank, and neither are the information
separators U+001C to U+001F.
-/
namespace OpenCLRegistry.Text

def isBlank (c : Char) : Bool :=
  let n := c.toNat
  (0x9 ≤ n && n ≤ 0xd) || n == 0x20 || n == 0x85 || n == 0xa0 || n == 0x1680 ||
    (0x2000 ≤ n && n ≤ 0x200a) || n == 0x2028 || n == 0x2029 || n == 0x202f ||
    n == 0x205f || n == 0x3000

def dropBlanksEnd (s : List Char) : List Char := (s.reverse.dropWhile isBlank).reverse

/-- Removes the blanks at both ends and keeps those inside. -/
def trim (s : List Char) : List Char := dropBlanksEnd (s.dropWhile isBlank)

end OpenCLRegistry.Text
