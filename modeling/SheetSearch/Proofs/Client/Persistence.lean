import SheetSearch.Proofs.CommandLine.Stored
import SheetSearch.Proofs.Json.Declared

namespace SheetSearch

open Http (Delivery Request)
open Storage (Disk)

namespace ClientConfig

open Json (Document Fields Node Shape Value)

inductive Member where
  | baseUrl | language | gameVersion | schema | localizations | timeout
deriving DecidableEq

namespace Member

def name : Member → String
  | baseUrl => "base_url"
  | language => "language"
  | gameVersion => "game_version"
  | schema => "schema"
  | localizations => "localizations"
  | timeout => "timeout_secs"

theorem name_inj {m m' : Member} (h : m.name = m'.name) : m = m' := by
  cases m <;> cases m' <;> first | rfl | simp [name] at h

theorem name_mem (m : Member) : m.name ∈
    ["base_url", "language", "game_version", "schema", "localizations", "timeout_secs"] := by
  cases m <;> decide

def orNull (v : Option Value) : Value :=
  v.getD .null

def value (c : ClientConfig) : Member → Value
  | baseUrl => .text c.baseUrl
  | language => orNull (c.language.map fun l => .text l.code)
  | gameVersion => orNull (c.gameVersion.map .text)
  | schema => orNull (c.schema.map .text)
  | localizations => .array (c.localizations.map fun l => .text l.code)
  | timeout => .number (.int c.timeout.toNat)

end Member

variable {c : ClientConfig} {m : Member} {ms : List Member} {text path : String} {d : Disk}

-- The settings that agree with others on some members and are the default ones elsewhere.
def keep (c : ClientConfig) (ms : List Member) : ClientConfig where
  baseUrl := if .baseUrl ∈ ms then c.baseUrl else default.baseUrl
  language := if .language ∈ ms then c.language else default.language
  gameVersion := if .gameVersion ∈ ms then c.gameVersion else default.gameVersion
  schema := if .schema ∈ ms then c.schema else default.schema
  localizations := if .localizations ∈ ms then c.localizations else default.localizations
  timeout := if .timeout ∈ ms then c.timeout else default.timeout

-- A text that writes an object of some members, in this order and in any spelling.
def IsObjectOf (c : ClientConfig) (ms : List Member) (text : String) : Prop :=
  ∃ ps, Document.ofOctets (Text.octets text) = ⟨.object (.ofPairs ps), false⟩ ∧
    List.Forall₂ (fun p (m : Member) => p.1 = m.name ∧
      p.2.toValue (Json.depthLimit - 1) = .ok (m.value c)) ps ms

theorem isSingle_value (other : m ≠ .localizations) : (m.value c).isSingle = true := by
  obtain ⟨_, language, gameVersion, schema, _, _⟩ := c
  cases m with
  | baseUrl | timeout => rfl
  | language => cases language <;> rfl
  | gameVersion => cases gameVersion <;> rfl
  | schema => cases schema <;> rfl
  | localizations => exact absurd rfl other

theorem eq_ofValue_of_member {n : Node} {depth : Nat} (faithful : n.Faithful)
    (h : n.toValue depth = .ok (m.value c)) : n = .ofValue (m.value c) := by
  by_cases list : m = .localizations
  · subst list
    refine Node.eq_ofValue_of_array faithful (fun v hv => ?_) h
    obtain ⟨l, -, rfl⟩ := List.mem_map.mp hv
    rfl
  · exact Node.eq_ofValue_of_single faithful (isSingle_value list) h

theorem document_of_isObjectOf (h : IsObjectOf c ms text) : Document.ofOctets (Text.octets text) =
    ⟨.object (.ofPairs (ms.map fun m => (m.name, .ofValue (m.value c)))), false⟩ := by
  obtain ⟨ps, document, held⟩ := h
  have faithful := Document.faithful_value (Text.octets text)
  rw [document] at faithful ⊢
  have each : ∀ p ∈ ps, p.2.Faithful := Json.Members.faithful_ofPairs.mp faithful
  have same : ps = ms.map fun m => (m.name, .ofValue (m.value c)) := by
    clear document faithful
    induction held with
    | nil => rfl
    | cons first _ ih =>
      obtain ⟨faithful, others⟩ := List.forall_mem_cons.mp each
      rw [List.map_cons, ← ih others, ← first.1, ← eq_ofValue_of_member faithful first.2]
  rw [same]

theorem source_of_members (distinct : ms.Nodup) {depth : Nat} {s : Shape} {v : s.Carrier}
    (reads : s.read depth (.ofValue (m.value c)) = .ok v) :
    Fields.Source depth m.name s (ms.map fun m => (m.name, .ofValue (m.value c)))
      (if m ∈ ms then some v else none) := by
  split
  · next member =>
    obtain ⟨before, after, rfl⟩ := List.append_of_mem member
    rw [List.map_append, List.map_cons]
    refine Fields.source_member.mpr ⟨?_, v, rfl, reads⟩
    rw [← List.map_append]
    intro p hp same
    obtain ⟨m', other, rfl⟩ := List.mem_map.mp hp
    obtain rfl := Member.name_inj same
    exact (List.nodup_middle.mp distinct).notMem other
  · next absent =>
    refine List.filter_eq_nil_iff.mpr fun p hp => ?_
    obtain ⟨m', member, rfl⟩ := List.mem_map.mp hp
    have other : m.name ≠ m'.name := fun same => absent (Member.name_inj same ▸ member)
    simpa using other

theorem getD_ite {α : Type} (p : Prop) [Decidable p] (a b : α) :
    (if p then some a else none).getD b = if p then a else b := by
  split <;> rfl

theorem join_ite {α : Type} (p : Prop) [Decidable p] (o : Option α) :
    (if p then some o else none).join = if p then o else none := by
  split <;> rfl

theorem decode_of_isObjectOf (distinct : ms.Nodup) (h : IsObjectOf c ms text) :
    Shaped.decode ClientConfig (Text.octets text) = .ok (c.keep ms) := by
  have field (m : Member) {s : Shape} (proper : s.proper = true) {v : s.Carrier}
      (fits : s.Fits (Json.depthLimit - 1) v) (same : s.write v = m.value c) :
      ∃ slot, Fields.Source (Json.depthLimit - 1) m.name s
        (ms.map fun m => (m.name, .ofValue (m.value c))) slot ∧
          Json.Presence.defaulted.Filled s slot (if m ∈ ms then some v else none) :=
    ⟨_, source_of_members distinct (same ▸ s.read_write proper fits), rfl⟩
  have language : (Shape.optional .language).write c.language = Member.language.value c := by
    rw [Member.value]
    cases c.language <;> rfl
  have text (m : Member) (o : Option String) (same : m.value c = Member.orNull (o.map .text)) :
      (Shape.optional .text).write o = m.value c := by
    rw [same]
    cases o <;> rfl
  have fits (o : Option String) : (Shape.optional .text).Fits (Json.depthLimit - 1) o :=
    fun _ _ => trivial
  have read : (Shaped.shape ClientConfig).read Json.depthLimit
      (.object (.ofPairs (ms.map fun m => (m.name, .ofValue (m.value c))))) = .ok
        (if Member.baseUrl ∈ ms then some c.baseUrl else none,
          if Member.language ∈ ms then some c.language else none,
          if Member.gameVersion ∈ ms then some c.gameVersion else none,
          if Member.schema ∈ ms then some c.schema else none,
          if Member.localizations ∈ ms then some c.localizations else none,
          if Member.timeout ∈ ms then some c.timeout else none, ()) := by
    refine (Shape.read_record_eq_ok_iff (by decide)).mpr ⟨Json.depthLimit - 1, rfl, ⟨
      field .baseUrl rfl trivial rfl,
      field .language rfl (fun _ _ => trivial) language,
      field .gameVersion rfl (fits _) (text _ _ rfl),
      field .schema rfl (fits _) (text _ _ rfl),
      field .localizations rfl ⟨_, rfl, fun _ _ => trivial⟩ rfl,
      field .timeout rfl trivial rfl, trivial⟩, ?_⟩
    intro p hp unknown
    obtain ⟨m, -, rfl⟩ := List.mem_map.mp hp
    exact absurd (Member.name_mem m) unknown
  rw [Shaped.decode_of_document (document_of_isObjectOf h), read]
  refine congrArg Except.ok (ClientConfig.mk.injEq .. ▸ ⟨?_, ?_, ?_, ?_, ?_, ?_⟩)
  · exact getD_ite ..
  · exact join_ite ..
  · exact join_ite ..
  · exact join_ite ..
  · exact getD_ite ..
  · exact getD_ite ..

theorem stable_value (c : ClientConfig) (m : Member) :
    (m.value c).Stable (Json.depthLimit - 1) := by
  have text {depth : Nat} (s : String) : (Value.text s).Stable depth := ⟨rfl, nofun⟩
  have null {depth : Nat} : Value.null.Stable depth := ⟨rfl, nofun⟩
  obtain ⟨_, language, gameVersion, schema, _, timeout⟩ := c
  cases m with
  | baseUrl => exact text _
  | language => cases language with
    | none => exact null
    | some l => exact text _
  | gameVersion => cases gameVersion with
    | none => exact null
    | some s => exact text _
  | schema => cases schema with
    | none => exact null
    | some s => exact text _
  | localizations =>
    refine Value.stable_array rfl fun v hv => ?_
    obtain ⟨l, -, rfl⟩ := List.mem_map.mp hv
    exact text _
  | timeout =>
    have number : (Value.number (.int timeout.toNat)).Readable Json.depthLimit :=
      Value.readable_nat timeout.toNat_lt
    exact ⟨rfl, number.range⟩

theorem eq_int_of_mem_numerics {n : Json.Numeric} (h : n ∈ (m.value c).numerics) :
    n = .int c.timeout.toNat := by
  obtain ⟨_, language, gameVersion, schema, _, _⟩ := c
  cases m with
  | baseUrl => cases h
  | language => cases language <;> cases h
  | gameVersion => cases gameVersion <;> cases h
  | schema => cases schema <;> cases h
  | localizations =>
    obtain ⟨v, hv, inside⟩ := Value.mem_numericsOfItems.mp h
    obtain ⟨l, -, rfl⟩ := List.mem_map.mp hv
    cases inside
  | timeout => exact List.mem_singleton.mp h

theorem isObjectOf_pretty (c : ClientConfig) (ms : List Member) :
    IsObjectOf c ms (Value.object (ms.map fun m => (m.name, m.value c))).pretty := by
  have numbers : ∀ n ∈ (Value.object (ms.map fun m => (m.name, m.value c))).numerics,
      n.ReadsBack := by
    intro n hn
    obtain ⟨p, hp, inside⟩ := Value.mem_numericsOfMembers.mp hn
    obtain ⟨m, -, rfl⟩ := List.mem_map.mp hp
    have range := (stable_value c m).range n inside
    obtain rfl := eq_int_of_mem_numerics inside
    exact Json.readsBack_int range
  have document := (Value.spells_pretty 0 _ numbers).document
  refine ⟨ms.map fun m => (m.name, .ofValue (m.value c)), ?_, ?_⟩
  · rw [Value.pretty, Text.octets, String.toList_ofList, document, Node.ofValue,
      Json.Members.ofMembers_eq, Json.nodesOf, List.map_map]
    rfl
  · rw [List.forall₂_map_left_iff, List.forall₂_same]
    exact fun m _ => ⟨rfl, (stable_value c m).reads⟩

theorem seen_of_saved {transport : Request → Delivery}
    (saved : ((c.saveTo path).run transport d).result = .ok ()) :
    ((c.saveTo path).run transport d).disk.seen path = some (.file c.toContent) := by
  have store {d : Disk} (saved : ((saveTo.store c path).run transport d).result = .ok ()) :
      ((saveTo.store c path).run transport d).disk.seen path = some (.file c.toContent) := by
    simp only [saveTo.store, Plan.run] at saved ⊢
    cases written : (d.write path c.toContent).1 with
    | error e =>
      rw [written] at saved
      cases saved
    | ok _ => exact Disk.seen_of_write (Prod.ext written rfl)
  rw [saveTo] at saved ⊢
  cases parent : Storage.Path.parent? path with
  | none =>
    rw [parent] at saved
    exact store saved
  | some directory =>
    rw [parent] at saved
    simp only [Plan.run] at saved ⊢
    cases made : (d.makeDirectories directory).1 with
    | error e =>
      rw [made] at saved
      cases saved
    | ok _ =>
      rw [made] at saved
      exact store saved

theorem ofContent_of_isObjectOf (distinct : ms.Nodup) (h : IsObjectOf c ms text) :
    ofContent path (Text.octets text) = .ok (c.keep ms) := by
  have read : Text.ofOctets? (Text.octets text) = some text := by
    rw [Text.octets, Text.ofOctets?, Text.decodeUtf8_encodeUtf8, Option.map_some,
      String.ofList_toList]
  rw [ofContent, read, decode_of_isObjectOf distinct h]

theorem settings_survive_storage (c : ClientConfig) (path : String) (d : Disk)
    (transport : Request → Delivery) :
    (((c.saveTo path).run transport d).result = .ok () →
      ((c.saveTo path).run transport d).disk.read path = .ok c.toContent ∧
      ((loadFrom path).run transport ((c.saveTo path).run transport d).disk).result = .ok c) ∧
    (∀ ms text, ms.Nodup → IsObjectOf c ms text → d.read path = .ok (Text.octets text) →
      ((loadFrom path).run transport d).result = .ok (c.keep ms)) ∧
    (d.isPresent path = false → ((loadFrom path).run transport d).result = .ok default) := by
  simp only [run_loadFrom, storedAt_eq_ok_iff]
  refine ⟨fun saved => ?_, fun ms text distinct object read => ?_, fun absent => ?_⟩
  · have seen := seen_of_saved saved
    exact ⟨Disk.read_eq_ok_iff.mpr seen, stores_of_content seen⟩
  · exact .inr ⟨_, read, ofContent_of_isObjectOf distinct object⟩
  · exact .inl ⟨absent, rfl⟩

-- Quotes, backslashes and control characters come back, and so does a part of the settings.
theorem unusual_settings_survive :
    let c : ClientConfig := ⟨"\"\\\n\u0001é", some .german, none, some "", [.french, .french],
      0xFFFFFFFFFFFFFFFF⟩
    let transport : Request → Delivery := fun _ => .error "no route"
    let saved := ((c.saveTo "a/b.json").run transport .empty).disk
    let part := Value.object ([Member.timeout, .baseUrl].map fun m => (m.name, m.value c))
    let written := (saved.write "part.json" (Text.octets part.pretty)).2
    ((loadFrom "a/b.json").run transport saved).result = .ok c ∧
      ((loadFrom "b.json").run transport saved).result = .ok default ∧
      ((loadFrom "part.json").run transport written).result =
        .ok { default with baseUrl := c.baseUrl, timeout := c.timeout } := by
  intro c transport saved part written
  obtain ⟨whole, -, -⟩ := settings_survive_storage c "a/b.json" .empty transport
  obtain ⟨-, -, absent⟩ := settings_survive_storage c "b.json" saved transport
  obtain ⟨-, filled, -⟩ := settings_survive_storage c "part.json" written transport
  refine ⟨(whole (by decide +kernel)).2, absent (by decide +kernel), ?_⟩
  exact filled [.timeout, .baseUrl] _ (by decide) (isObjectOf_pretty c _) (by decide +kernel)

end ClientConfig

end SheetSearch
