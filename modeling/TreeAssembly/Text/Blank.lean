/-!
# Blank characters

The characters with the Unicode property White_Space: the ASCII tab, line feed, line
tabulation, form feed, carriage return and space, the next-line control U+0085, the
no-break space U+00A0, the Ogham space mark U+1680, the spaces U+2000 to U+200A, the line
and paragraph separators U+2028 and U+2029, the narrow no-break space U+202F, the medium
mathematical space U+205F and the ideographic space U+3000.  Trimming removes them from
both ends of a text.
-/

namespace TreeAssembly
namespace Text

/-- Whether a character has the Unicode property White_Space. -/
def isBlank (c : Char) : Bool :=
  let n := c.toNat
  (0x09 ≤ n && n ≤ 0x0D) || n == 0x20 || n == 0x85 || n == 0xA0 || n == 0x1680 ||
  (0x2000 ≤ n && n ≤ 0x200A) || n == 0x2028 || n == 0x2029 || n == 0x202F ||
  n == 0x205F || n == 0x3000

/-- The characters without the blanks at either end. -/
def trimBlanks (cs : List Char) : List Char :=
  ((cs.dropWhile isBlank).reverse.dropWhile isBlank).reverse

/-- A text without the blanks at either end. -/
def trim (s : String) : String := String.ofList (trimBlanks s.toList)

end Text
end TreeAssembly
