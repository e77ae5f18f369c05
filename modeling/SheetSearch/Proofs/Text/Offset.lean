import SheetSearch.Proofs.Text.Runs
import SheetSearch.Proofs.Text.Utf8

namespace SheetSearch.Text

def firstAt? (p : Char → Bool) : List Char → Option Nat
  | [] => none
  | c :: cs => if p c then some 0 else (firstAt? p cs).map ((String.utf8EncodeChar c).length + ·)

-- The two sides of a cut at an octet. A cut past the end or inside a character leaves no texts.
def cutAt? (s : String) (n : Nat) : Option (String × String) :=
  if n ≤ (octets s).length then
    (ofOctets? ((octets s).take n)).bind fun front =>
      (ofOctets? ((octets s).drop n)).map fun back => (front, back)
  else none

variable {p : Char → Bool} {front : List Char}

theorem firstAt?_eq_none (free : ∀ c ∈ front, p c = false) : firstAt? p front = none := by
  induction front with
  | nil => rfl
  | cons c front ih =>
    obtain ⟨first, free⟩ := List.forall_mem_cons.mp free
    rw [firstAt?, first, ih free]
    rfl

theorem firstAt?_append {c : Char} (free : ∀ d ∈ front, p d = false) (hit : p c = true)
    (back : List Char) : firstAt? p (front ++ c :: back) = some (encodeUtf8 front).length := by
  induction front with
  | nil => rw [List.nil_append, firstAt?, if_pos hit]; rfl
  | cons d front ih =>
    obtain ⟨first, free⟩ := List.forall_mem_cons.mp free
    have grown : (encodeUtf8 (d :: front)).length =
        (String.utf8EncodeChar d).length + (encodeUtf8 front).length := List.length_append
    rw [List.cons_append, firstAt?, first, ih free, grown]
    rfl

theorem ofOctets?_encodeUtf8 (cs : List Char) :
    ofOctets? (encodeUtf8 cs) = some (String.ofList cs) := by
  rw [ofOctets?, decodeUtf8_encodeUtf8]
  rfl

theorem cutAt?_append (front back : List Char) :
    cutAt? (String.ofList (front ++ back)) (encodeUtf8 front).length =
      some (String.ofList front, String.ofList back) := by
  have whole : octets (String.ofList (front ++ back)) = encodeUtf8 front ++ encodeUtf8 back := by
    rw [octets, String.toList_ofList, encodeUtf8_append]
  rw [cutAt?, whole, if_pos (by simp), List.take_left, List.drop_left, ofOctets?_encodeUtf8,
    ofOctets?_encodeUtf8]
  rfl

example : cutAt? "é=" 1 = none ∧ cutAt? "é=" 2 = some ("é", "=") := by
  decide +kernel

end SheetSearch.Text
