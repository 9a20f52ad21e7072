/-!
# Blank text

The white space of the Unicode bidirectional classes WS, B and S and of category Zs: the blanks of
core, and besides them the information separators, the next-line control and the spaces beyond
ASCII.
-/

namespace ProseTrace.Text

def isBlank (c : Char) : Bool :=
  let n := c.toNat
  (0x09 ≤ n && n ≤ 0x0D) || (0x1C ≤ n && n ≤ 0x20) || n == 0x85 || n == 0xA0 || n == 0x1680 ||
    (0x2000 ≤ n && n ≤ 0x200A) || n == 0x2028 || n == 0x2029 || n == 0x202F || n == 0x205F ||
    n == 0x3000

def isBlankText (text : String) : Bool := text.toList.all isBlank

end ProseTrace.Text
