/-!
# Blank characters

The characters that count as white space in text read by the watcher: the Unicode property
`White_Space`. Trimming and the lenient readers use this class; formats with their own, smaller
notion of a blank define it beside their grammar.

- `isBlank`: membership in the class.
- `trimStart`, `trim`: the text without the blanks at its start, or at both ends.
-/

namespace ClusterWatch.Text

/-- The code points with the property `White_Space`, as closed ranges. -/
def blankRanges : List (Nat × Nat) :=
  [(0x9, 0xd), (0x20, 0x20), (0x85, 0x85), (0xa0, 0xa0), (0x1680, 0x1680), (0x2000, 0x200a),
    (0x2028, 0x2029), (0x202f, 0x202f), (0x205f, 0x205f), (0x3000, 0x3000)]

/-- Whether a character is white space. -/
def isBlank (c : Char) : Bool :=
  blankRanges.any fun r => r.1 ≤ c.toNat && c.toNat ≤ r.2

/-- Drops the blanks at the start. -/
def trimStart (cs : List Char) : List Char :=
  cs.dropWhile isBlank

/-- Drops the blanks at both ends. -/
def trim (cs : List Char) : List Char :=
  (trimStart (trimStart cs).reverse).reverse

end ClusterWatch.Text
