/-!
# Blank text

The white space of Unicode, 25 characters in ten ranges. `trim` takes it off both ends, and a text
is blank when nothing else is in it.
-/

namespace PidOne.Text

def isBlank (c : Char) : Bool :=
  let n := c.toNat
  (9 ≤ n && n ≤ 13) || n == 0x20 || n == 0x85 || n == 0xa0 || n == 0x1680 ||
    (0x2000 ≤ n && n ≤ 0x200a) || n == 0x2028 || n == 0x2029 || n == 0x202f || n == 0x205f ||
    n == 0x3000

/-- The characters between the first and the last that are not blank. -/
def trim (text : List Char) : List Char :=
  ((text.dropWhile isBlank).reverse.dropWhile isBlank).reverse

/-- Whether the text holds no character but blanks. -/
def allBlank (text : String) : Bool := text.toList.all isBlank

end PidOne.Text
