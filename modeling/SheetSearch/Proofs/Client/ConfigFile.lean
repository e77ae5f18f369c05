import SheetSearch.Client.ConfigFile
import SheetSearch.Proofs.Response.Printed
import SheetSearch.Proofs.Text.Utf8

namespace SheetSearch

open Json (Numeric Value)

namespace ClientConfig

variable (c : ClientConfig)

theorem fits_toCarrier :
    (Shaped.shape ClientConfig).Fits Json.depthLimit (Shaped.toCarrier c) := by
  refine ⟨_, rfl, fun _ _ => trivial, fun _ _ _ _ => trivial, fun _ _ _ _ => trivial,
    fun _ _ _ _ => trivial, ?_, fun _ _ => trivial, trivial⟩
  rintro _ ⟨⟩
  exact ⟨_, rfl, fun _ _ => trivial⟩

theorem numerics_encode : (Shaped.encode c).numerics = [.int c.timeout.toNat] := by
  obtain ⟨baseUrl, language, gameVersion, schema, localizations, timeout⟩ := c
  have codes : Value.numericsOfItems (localizations.map fun l => .text l.code) = [] := by
    induction localizations with
    | nil => rfl
    | cons l ls ih => exact ih
  have written : (Shaped.encode (⟨baseUrl, language, gameVersion, schema, localizations, timeout⟩ :
      ClientConfig)).numerics =
        Value.numericsOfItems (localizations.map fun l => .text l.code) ++ [.int timeout.toNat] := by
    cases language <;> cases gameVersion <;> cases schema <;> rfl
  rw [written, codes]
  rfl

theorem decode_toContent : Shaped.decode ClientConfig c.toContent = .ok c := by
  have numbers : ∀ n ∈ (Shaped.encode c).numerics, n.ReadsBack := by
    have readable := (Shaped.shape ClientConfig).readable_write c.fits_toCarrier
    intro n hn
    obtain rfl : n = .int c.timeout.toNat := by
      rwa [numerics_encode, List.mem_singleton] at hn
    exact Json.readsBack_int (readable.range _ hn)
  have text : c.toContent = Text.encodeUtf8 ((Shaped.encode c).prettyChars 0) := by
    rw [toContent, Shaped.pretty, Value.pretty, Text.octets, String.toList_ofList]
  rw [text, Shaped.decode_of_document (Value.spells_pretty 0 _ numbers).document, Shaped.encode,
    (Shaped.shape ClientConfig).read_write (by decide) c.fits_toCarrier]
  rfl

theorem ofContent_toContent (path : String) : ofContent path c.toContent = .ok c := by
  have text : Text.ofOctets? c.toContent = some (Shaped.pretty c) := by
    rw [toContent, Text.octets, Text.ofOctets?, Text.decodeUtf8_encodeUtf8, Option.map_some,
      String.ofList_toList]
  rw [ofContent, text, decode_toContent]

end ClientConfig

end SheetSearch
