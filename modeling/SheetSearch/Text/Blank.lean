/-!
White space in the sense of Unicode's White_Space property, and trimming by it.
-/

namespace SheetSearch.Text

/-- The ranges of the White_Space property. -/
def blankRanges : List (Nat × Nat) :=
  [(0x09, 0x0D), (0x20, 0x20), (0x85, 0x85), (0xA0, 0xA0), (0x1680, 0x1680), (0x2000, 0x200A),
    (0x2028, 0x2029), (0x202F, 0x202F), (0x205F, 0x205F), (0x3000, 0x3000)]

def isBlank (c : Char) : Bool :=
  blankRanges.any fun r => decide (r.1 ≤ c.toNat) && decide (c.toNat ≤ r.2)

def trimChars (cs : List Char) : List Char :=
  ((cs.dropWhile isBlank).reverse.dropWhile isBlank).reverse

def trim (s : String) : String :=
  String.ofList (trimChars s.toList)

/-- A text of white space only; the empty text is one. -/
def isBlankText (s : String) : Bool :=
  s.toList.all isBlank

theorem toList_trim (s : String) : (trim s).toList = trimChars s.toList := by
  simp [trim]

theorem trimChars_of_edges {cs : List Char} (first : ∀ c ∈ cs.head?, isBlank c = false)
    (last : ∀ c ∈ cs.getLast?, isBlank c = false) : trimChars cs = cs := by
  have drop : ∀ xs : List Char, (∀ c ∈ xs.head?, isBlank c = false) → xs.dropWhile isBlank = xs := by
    intro xs h
    cases xs with
    | nil => rfl
    | cons c r => simp [h c (by simp)]
  have back : ∀ c ∈ cs.reverse.head?, isBlank c = false := by
    simpa [List.head?_reverse] using last
  rw [trimChars, drop cs first, drop cs.reverse back, List.reverse_reverse]

end SheetSearch.Text
