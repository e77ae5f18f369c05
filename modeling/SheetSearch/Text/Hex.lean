/-!
Hexadecimal digits. Both cases are read, capitals are written.
-/

namespace SheetSearch.Text

def hexDigit (n : Nat) : Char :=
  if n < 10 then Char.ofNat (0x30 + n) else Char.ofNat (0x37 + n)

def hexValue? (c : Char) : Option Nat :=
  if c.isDigit then some (c.toNat - 0x30)
  else if 'A' ≤ c ∧ c ≤ 'F' then some (c.toNat - 0x37)
  else if 'a' ≤ c ∧ c ≤ 'f' then some (c.toNat - 0x57)
  else none

theorem hexValue?_hexDigit {n : Nat} (h : n < 16) : hexValue? (hexDigit n) = some n := by
  have each : ∀ m < 16, hexValue? (hexDigit m) = some m := by decide
  exact each n h

def isHexDigit (c : Char) : Bool :=
  (hexValue? c).isSome

/-- The number that digits write; other characters count as zero. -/
def ofHexDigits (cs : List Char) : Nat :=
  cs.foldl (fun n c => 16 * n + (hexValue? c).getD 0) 0

end SheetSearch.Text
