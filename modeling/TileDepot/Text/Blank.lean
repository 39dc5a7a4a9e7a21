/-!
# White space

The white space of Unicode, and texts cut off at it. `trim_of_no_edges` says that a text without
blanks at its ends is left alone.
-/

namespace TileDepot.Text

/-- A character of Unicode's `White_Space` property. -/
def isBlank (c : Char) : Bool :=
  let n := c.toNat
  (9 ≤ n && n ≤ 13) || n == 0x20 || n == 0x85 || n == 0xA0 || n == 0x1680 ||
    (0x2000 ≤ n && n ≤ 0x200A) || n == 0x2028 || n == 0x2029 || n == 0x202F || n == 0x205F ||
    n == 0x3000

/-- The characters from the first non-blank on. -/
def dropBlanks (cs : List Char) : List Char :=
  cs.dropWhile isBlank

/-- The characters up to the last non-blank. -/
def dropBlanksEnd (cs : List Char) : List Char :=
  (cs.reverse.dropWhile isBlank).reverse

/-- The characters between the blanks at both ends. -/
def trimChars (cs : List Char) : List Char :=
  dropBlanksEnd (dropBlanks cs)

/-- A text less the blanks at both ends. -/
def trim (s : String) : String :=
  String.ofList (trimChars s.toList)

/-- A text of blanks only, the empty text among them. -/
def isBlankText (s : String) : Bool :=
  s.toList.all isBlank

theorem dropBlanks_eq_self {cs : List Char} (h : ∀ c ∈ cs.head?, isBlank c = false) :
    dropBlanks cs = cs := by
  cases cs with
  | nil => rfl
  | cons c r => simp [dropBlanks, h c (by simp)]

theorem dropBlanksEnd_eq_self {cs : List Char} (h : ∀ c ∈ cs.getLast?, isBlank c = false) :
    dropBlanksEnd cs = cs := by
  have h' : dropBlanks cs.reverse = cs.reverse := dropBlanks_eq_self (by simpa using h)
  rw [dropBlanksEnd, ← dropBlanks, h', List.reverse_reverse]

/-- A text without blanks at its ends is left alone. -/
theorem trim_of_no_edges {cs : List Char} (first : ∀ c ∈ cs.head?, isBlank c = false)
    (last : ∀ c ∈ cs.getLast?, isBlank c = false) : trimChars cs = cs := by
  rw [trimChars, dropBlanks_eq_self first, dropBlanksEnd_eq_self last]

end TileDepot.Text
