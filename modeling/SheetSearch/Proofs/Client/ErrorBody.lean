import Mathlib
import SheetSearch.Proofs.Client.Session
import SheetSearch.Proofs.Json.Parts
import SheetSearch.Proofs.Json.Printer

namespace SheetSearch

open Http (Request Response)
open Json (Document Fault Fields Items Members Node Presence Shape depthLimit)

namespace Json

-- What the members of one name say: nothing if there are none or the only one is null, and else
-- what the only one holds. More members of the name say nothing that counts.
inductive Says {α : Type} (name : String) (holds : Node → α → Prop) (ps : List (String × Node)) :
    Option α → Prop
  | absent : (∀ p ∈ ps, name ≠ p.1) → Says name holds ps none
  | null : ps.filter (fun p => name = p.1) = [(name, .null)] → Says name holds ps none
  | given {value : Node} {a : α} : ps.filter (fun p => name = p.1) = [(name, value)] →
      holds value a → Says name holds ps (some a)

def Node.IsNumber (n : Node) (k : UInt16) : Prop :=
  ∃ skip, n = .number (.ok (.int k.toNat)) skip

def Node.IsText (n : Node) (s : String) : Prop :=
  ∃ skip, n = .text (.ok s) skip

variable {depth : Nat}

theorem read_u16_eq_ok_iff {n : Node} {k : UInt16} :
    Shape.u16.read depth n = .ok k ↔ n.IsNumber k := by
  constructor
  · intro h
    obtain ⟨i, whole, same⟩ := exists_of_bind_eq_ok h
    cases same
    unfold readWhole at whole
    split at whole
    · next j skip =>
      split at whole
      · next range =>
        cases whole
        have small : j.toNat < UInt16.size := by omega
        refine ⟨skip, ?_⟩
        rw [UInt16.toNat_ofNat_of_lt' small, Int.toNat_of_nonneg range.1]
      · cases whole
    · cases whole
  · rintro ⟨skip, rfl⟩
    show (readWhole "u16" UInt16.size _ >>= _) = _
    rw [readWhole, if_pos ⟨Int.natCast_nonneg _, Int.ofNat_lt.mpr k.toNat_lt_size⟩]
    exact congrArg Except.ok k.ofNat_toNat

theorem read_text_eq_ok_iff {n : Node} {s : String} :
    Shape.text.read depth n = .ok s ↔ n.IsText s := by
  constructor
  · intro h
    change readText n = .ok s at h
    unfold readText at h
    split at h
    · next skip =>
      cases h
      exact ⟨skip, rfl⟩
    · cases h
  · rintro ⟨skip, rfl⟩
    rfl

theorem filled_optional_iff {name : String} {s : Shape} {holds : Node → s.Carrier → Prop}
    (reads : ∀ {n v}, s.read depth n = .ok v ↔ holds n v)
    (whole : ∀ {n v}, holds n v → n ≠ .null ∧ ∀ f, n ≠ .partWord true f)
    {ps : List (String × Node)} {v : Option s.Carrier} :
    (∃ slot, Fields.Source depth name (.optional s) ps slot ∧
      Presence.required.Filled (.optional s) slot v) ↔ Says name holds ps v := by
  constructor
  · rintro ⟨slot, source, rfl | ⟨rfl, missing⟩⟩
    · obtain ⟨value, only, read⟩ := source
      rcases read_of_read_optional read with ⟨rfl, rfl⟩ | ⟨w, rfl, inner⟩
      · exact .null only
      · exact .given only (reads.mp inner)
    · cases missing
      refine .absent fun p hp same => ?_
      have mine : p ∈ ps.filter (fun p => name = p.1) :=
        List.mem_filter.mpr ⟨hp, decide_eq_true same⟩
      rw [show ps.filter (fun p => name = p.1) = [] from source] at mine
      cases mine
  · rintro (other | only | ⟨only, holds⟩)
    · refine ⟨none, List.filter_eq_nil_iff.mpr fun p hp => ?_, .inr ⟨rfl, rfl⟩⟩
      simpa using other p hp
    · exact ⟨some none, ⟨.null, only, rfl⟩, .inl rfl⟩
    · obtain ⟨notNull, notCut⟩ := whole holds
      refine ⟨some (some _), ⟨_, only, ?_⟩, .inl rfl⟩
      rw [read_optional notNull notCut, reads.mpr holds]
      rfl

theorem parses_of_read_optional {s : Shape} {n : Node} {o : Option s.Carrier}
    (parses : ∀ {v}, s.read depth n = .ok v → n.Parses depth)
    (h : (Shape.optional s).read depth n = .ok o) : n.Parses depth := by
  rcases read_of_read_optional h with ⟨rfl, -⟩ | ⟨v, -, inner⟩
  · exact ⟨.null, rfl⟩
  · exact parses inner

end Json

namespace ClientError

-- An object of these members. The value of the last one may be broken where the text stops.
def IsObject (body : List UInt8) (ps : List (String × Node)) : Prop :=
  Document.ofOctets body = ⟨.object (.ofPairs ps), false⟩

def IsArray (body : List UInt8) (ns : List Node) : Prop :=
  Document.ofOctets body = ⟨.array (.ofList ns), false⟩ ∧ ∀ n ∈ ns, ∃ depth, n.Parses depth

def Code (ps : List (String × Node)) : Option UInt16 → Prop :=
  Json.Says "code" Node.IsNumber ps

def Message (ps : List (String × Node)) : Option String → Prop :=
  Json.Says "message" Node.IsText ps

-- Whatever else there is can be passed over.
def Passes (ps : List (String × Node)) : Prop :=
  ∀ p ∈ ps, p.1 ≠ "code" → p.1 ≠ "message" → p.2.skip = .ok ()

variable {body : List UInt8} {ps : List (String × Node)}

def bodyFields : Fields :=
  .field "code" .required (.optional .u16) <|
  .field "message" .required (.optional .text) .none

theorem decode_object_iff (object : IsObject body ps) {code : Option UInt16}
    {message : Option String} : bodyShape.decode body = .ok (code, message, ()) ↔
      Code ps code ∧ Message ps message ∧ Passes ps := by
  have distinct : bodyFields.names.Nodup := by decide
  have codes {depth : Nat} := @Json.filled_optional_iff depth "code" .u16 Node.IsNumber
    Json.read_u16_eq_ok_iff (by rintro _ _ ⟨skip, rfl⟩; exact ⟨nofun, nofun⟩) ps code
  have messages {depth : Nat} := @Json.filled_optional_iff depth "message" .text Node.IsText
    Json.read_text_eq_ok_iff (by rintro _ _ ⟨skip, rfl⟩; exact ⟨nofun, nofun⟩) ps message
  have others : (∀ p ∈ ps, p.1 ∉ bodyFields.names → p.2.skip = .ok ()) ↔ Passes ps := by
    refine forall₂_congr fun p _ => ?_
    simp [bodyFields, Fields.names]
  have members := @Shape.read_record_eq_ok_iff depthLimit "ErrorBody" bodyFields ps distinct
    (code, message, ())
  refine Json.decode_eq_ok_iff.trans ?_
  rw [object]
  refine (and_iff_right rfl).trans (members.trans ?_)
  constructor
  · rintro ⟨below, -, ⟨hCode, hMessage, -⟩, pass⟩
    exact ⟨codes.mp hCode, messages.mp hMessage, others.mp pass⟩
  · rintro ⟨hCode, hMessage, pass⟩
    exact ⟨127, rfl, ⟨codes.mpr hCode, messages.mpr hMessage, trivial⟩, others.mpr pass⟩

-- A list gives the fields by their places: a code, a message and nothing behind them.
theorem exists_ofList_of_readItems {depth size index : Nat} {record : String} {items : Items}
    {v : bodyFields.Carrier} (h : bodyFields.readItems depth record size index items = .ok v) :
    ∃ ns, items = .ofList ns ∧ ∀ n ∈ ns, n.Parses depth := by
  cases items with
  | item code items =>
    obtain ⟨_, readCode, h⟩ := exists_of_bind_eq_ok h
    obtain ⟨_, h, -⟩ := exists_of_bind_eq_ok h
    cases items with
    | item message items =>
      obtain ⟨_, readMessage, h⟩ := exists_of_bind_eq_ok h
      obtain ⟨_, finish, -⟩ := exists_of_bind_eq_ok h
      have numbers : code.Parses depth := by
        refine Json.parses_of_read_optional (fun read => ?_) readCode
        obtain ⟨skip, rfl⟩ := Json.read_u16_eq_ok_iff.mp read
        exact ⟨_, rfl⟩
      have texts : message.Parses depth := by
        refine Json.parses_of_read_optional (fun read => ?_) readMessage
        obtain ⟨skip, rfl⟩ := Json.read_text_eq_ok_iff.mp read
        exact ⟨_, rfl⟩
      cases items with
      | closed =>
        exact ⟨[code, message], rfl,
          List.forall_mem_cons.mpr ⟨numbers, List.forall_mem_singleton.mpr texts⟩⟩
      | _ => cases finish
    | _ => cases h
  | _ => cases h

theorem exists_of_decode {v : bodyShape.Carrier} (h : bodyShape.decode body = .ok v) :
    (∃ ps, IsObject body ps) ∨ ∃ ns, IsArray body ns := by
  obtain ⟨ends, h⟩ := Json.decode_eq_ok_iff.mp h
  rcases document : Document.ofOctets body with ⟨value, followed⟩
  rw [document] at ends h
  obtain rfl : followed = false := ends
  cases value with
  | object members =>
    obtain ⟨below, -, h⟩ := exists_of_bind_eq_ok h
    obtain ⟨slots, fold, -⟩ := exists_of_bind_eq_ok h
    obtain ⟨ps, rfl⟩ := Members.exists_ofPairs_of_foldM members fold
    exact .inl ⟨ps, document⟩
  | array items =>
    obtain ⟨below, -, h⟩ := exists_of_bind_eq_ok h
    obtain ⟨ns, rfl, parses⟩ := exists_ofList_of_readItems h
    exact .inr ⟨ns, document, fun n hn => ⟨below, parses n hn⟩⟩
  | _ => cases h

theorem readBody_of_decode {code : Option UInt16} {message : Option String}
    (h : bodyShape.decode body = .ok (code, message, ())) : readBody body = (code, message) := by
  rw [readBody]
  split
  · next c m read =>
    rw [read] at h
    cases h
    rfl
  · next read =>
    rw [read] at h
    cases h

theorem readBody_of_not_decode (h : ∀ v, bodyShape.decode body ≠ .ok v) :
    readBody body = (none, none) := by
  rw [readBody]
  split
  · next read => exact absurd read (h _)
  · rfl

theorem ofResponse_of_object {r : Response} (object : IsObject r.body ps)
    {code : Option UInt16} {message : Option String} (hCode : Code ps code)
    (hMessage : Message ps message) (pass : Passes ps) :
    ofResponse r = .api (code.getD r.status) (message.getD "Unknown error") := by
  rw [ofResponse, readBody_of_decode ((decode_object_iff object).mpr ⟨hCode, hMessage, pass⟩)]

theorem ofResponse_of_not_decode {r : Response} (h : ∀ v, bodyShape.decode r.body ≠ .ok v) :
    ofResponse r = .api r.status "Unknown error" := by
  rw [ofResponse, readBody_of_not_decode h]
  rfl

theorem ofResponse_of_broken {r : Response} (object : IsObject r.body ps)
    (broken : (∀ code, ¬ Code ps code) ∨ (∀ message, ¬ Message ps message) ∨ ¬ Passes ps) :
    ofResponse r = .api r.status "Unknown error" := by
  refine ofResponse_of_not_decode ?_
  rintro ⟨code, message, ⟨⟩⟩ read
  obtain ⟨hCode, hMessage, pass⟩ := (decode_object_iff object).mp read
  rcases broken with noCode | noMessage | stops
  · exact noCode code hCode
  · exact noMessage message hMessage
  · exact stops pass

theorem ofResponse_of_neither {r : Response} (object : ∀ ps, ¬ IsObject r.body ps)
    (array : ∀ ns, ¬ IsArray r.body ns) : ofResponse r = .api r.status "Unknown error" := by
  refine ofResponse_of_not_decode fun v read => ?_
  rcases exists_of_decode read with ⟨ps, hObject⟩ | ⟨ns, hArray⟩
  · exact object ps hObject
  · exact array ns hArray

theorem passes_of_parses (object : IsObject body ps) (h : ∀ p ∈ ps, p.1 ≠ "code" →
    p.1 ≠ "message" → (∃ depth, p.2.Parses depth) ∨ p.2.skip = .ok ()) : Passes ps := by
  have faithful := Document.faithful_value body
  rw [object] at faithful
  have members := Members.faithful_ofPairs.mp faithful
  intro p hp noCode noMessage
  rcases h p hp noCode noMessage with ⟨depth, v, value⟩ | pass
  · exact p.2.skip_of_toValue (members p hp) value
  · exact pass

end ClientError

namespace Call

open ClientError

theorem outcome_of_status_ne {c : ClientConfig} {call : Call} (sends : call.sent c ≠ [])
    {reply : Request → Reply} {r : Response} (answer : ∀ q ∈ call.sent c, reply q = .ok r)
    (failed : r.status ≠ 200) : call.outcome c reply = .error (ofResponse r) := by
  obtain ⟨q, alone, outcome⟩ := exists_judged sends reply
  have replied : reply q = .ok r := answer q (by rw [alone]; exact List.mem_singleton_self q)
  rw [outcome, replied, Exchange.judged, if_neg failed]

theorem other_status_is_api_error {c : ClientConfig} {call : Call} (sends : call.sent c ≠ [])
    {reply : Request → Reply} {r : Response} (answer : ∀ q ∈ call.sent c, reply q = .ok r)
    (failed : r.status ≠ 200) :
    ∃ status message, call.outcome c reply = .error (.api status message) ∧
      (ClientError.api status message).message =
        "API error (" ++ toString status.toNat ++ "): " ++ message ∧
      (∀ ps code text, IsObject r.body ps → Code ps code → Message ps text →
        (∀ p ∈ ps, p.1 ≠ "code" → p.1 ≠ "message" →
          (∃ depth, p.2.Parses depth) ∨ p.2.skip = .ok ()) →
        status = code.getD r.status ∧ message = text.getD "Unknown error") ∧
      (∀ ps, IsObject r.body ps →
        ((∀ code, ¬ Code ps code) ∨ (∀ text, ¬ Message ps text) ∨ ¬ Passes ps) →
        status = r.status ∧ message = "Unknown error") ∧
      ((∀ ps, ¬ IsObject r.body ps) → (∀ ns, ¬ IsArray r.body ns) →
        status = r.status ∧ message = "Unknown error") := by
  have outcome := outcome_of_status_ne sends answer failed
  obtain ⟨status, message, same⟩ : ∃ status message, ofResponse r = .api status message :=
    ⟨_, _, rfl⟩
  have parts {s : UInt16} {m : String} (h : ofResponse r = .api s m) : status = s ∧ message = m :=
    ClientError.api.inj (same.symm.trans h)
  refine ⟨status, message, outcome.trans (congrArg Except.error same), rfl, ?_, ?_, ?_⟩
  · intro ps code text object hCode hMessage others
    exact parts (ofResponse_of_object object hCode hMessage (passes_of_parses object others))
  · intro ps object broken
    exact parts (ofResponse_of_broken object broken)
  · intro object array
    exact parts (ofResponse_of_neither object array)

def gatewayValue : Json.Value :=
  .object [
    ("detail", .array [.null, .array [.truth true]]),
    ("message", .text "Déjà vu"),
    ("code", .number (.int 404))]

def gatewayMembers : List (String × Node) :=
  [("detail", .ofValue (.array [.null, .array [.truth true]])),
    ("message", .text (.ok "Déjà vu") none), ("code", .number (.ok (.int 404)) none)]

def gatewayAnswer : Response :=
  ⟨503, [("Server", "gateway")], Text.octets (gatewayValue.pretty ++ "\n")⟩

theorem gateway_reports_not_found :
    let c : ClientConfig := ⟨"http://[::1]/api/", none, none, none, [], 30⟩
    let call := Call.get .versions
    call.sent c ≠ [] ∧ gatewayAnswer.status ≠ 200 ∧
      call.outcome c (fun _ => .ok gatewayAnswer) = .error (.api 404 "Déjà vu") := by
  intro c call
  have sends : call.sent c ≠ [] := sent_ne_nil id isBase_loopback
  have failed : gatewayAnswer.status ≠ 200 := by decide
  have numbers : ∀ n ∈ gatewayValue.numerics, n.ReadsBack := by decide +kernel
  have object : IsObject gatewayAnswer.body gatewayMembers := Json.Value.document_pretty numbers
  obtain ⟨status, message, outcome, -, parts, -⟩ :=
    other_status_is_api_error sends (fun _ _ => rfl) failed
  have hCode : Code gatewayMembers (some 404) := .given rfl ⟨none, rfl⟩
  have hMessage : Message gatewayMembers (some "Déjà vu") := .given rfl ⟨none, rfl⟩
  have others : ∀ p ∈ gatewayMembers, p.1 ≠ "code" → p.1 ≠ "message" →
      (∃ depth, p.2.Parses depth) ∨ p.2.skip = .ok () := by
    simp only [gatewayMembers, List.forall_mem_cons]
    exact ⟨fun _ _ => .inl ⟨3, _, rfl⟩, fun _ other => absurd rfl other,
      fun other => absurd rfl other, List.forall_mem_nil _⟩
  obtain ⟨rfl, rfl⟩ := parts _ _ _ object hCode hMessage others
  exact ⟨sends, failed, outcome⟩

end Call

namespace ClientError

section Undeclared

open Text (octets)

-- A code, and a member that nobody asks for whose string is no text.
def strayOctets : List UInt8 :=
  octets "\x7b\"code\":404,\"icon\":\"" ++ [0xFF] ++ octets "\"\x7d"

def strayMembers : List (String × Node) :=
  [("code", .number (.ok (.int 404)) none), ("icon", .text (Json.readString [0xFF, 0x22]) none)]

def negativeZero : List UInt8 :=
  octets "\x7b\"code\":-0\x7d"

def negativeMembers : List (String × Node) :=
  [("code", .number (.ok (.float (.finite true 0 (-1074)))) none)]

theorem isObject_strayOctets : IsObject strayOctets strayMembers := by
  have code : Json.SpellsMember (Json.quoted "code", octets "404")
      ("code", .number (.ok (.int 404)) none) :=
    Json.spellsMember_quoted "code" (Json.spells_of_readNumber (by decide +kernel))
  have plain : Json.Plain [0xFF] := List.forall_mem_singleton.mpr (by decide)
  have icon : Json.SpellsMember (Json.quoted "icon", [0x22, 0xFF, 0x22])
      ("icon", .text (Json.readString [0xFF, 0x22]) none) :=
    Json.spellsMember_quoted "icon" (Json.spells_plain plain)
  exact (Json.spells_objectText (.cons code (.cons icon .nil))).document

theorem isObject_negativeZero : IsObject negativeZero negativeMembers := by
  have code : Json.SpellsMember (Json.quoted "code", octets "-0")
      ("code", .number (.ok (.float (.finite true 0 (-1074)))) none) :=
    Json.spellsMember_quoted "code" (Json.spells_of_readNumber (by decide +kernel))
  exact (Json.spells_objectText (.cons code .nil)).document

theorem ofOctets?_stray (cs : List Char) (rest : List UInt8) :
    Text.ofOctets? (Text.encodeUtf8 cs ++ 0xFF :: rest) = none := by
  have stray : Text.decodeUtf8 (0xFF :: rest) = none := by
    rw [Text.decodeUtf8]
    split
    · rfl
    · next read => cases read
  rw [Text.ofOctets?, Option.map_eq_none_iff]
  induction cs with
  | nil => exact stray
  | cons c cs ih =>
    rw [Text.encodeUtf8, List.flatMap_cons, List.append_assoc, Text.decodeUtf8_cons,
      ← Text.encodeUtf8, ih]
    rfl

theorem not_parses_strayOctets (depth : Nat) :
    ¬ (Document.ofOctets strayOctets).value.Parses depth := by
  have unread : ∀ s, Json.readString [0xFF, 0x22] ≠ .ok s := by
    intro s read
    have octets : Json.readOctets [0xFF, 0x22] = .ok ([0xFF], []) := by
      rw [Json.readOctets_plain (by decide) (by decide) (by decide), Json.readOctets, if_pos rfl]
      rfl
    rw [Json.readString, octets] at read
    have stray : Text.ofOctets? [0xFF] = none := ofOctets?_stray [] []
    simp only [Bind.bind, Except.bind, stray] at read
    cases read
  rw [isObject_strayOctets]
  intro parses
  obtain ⟨below, -, members⟩ := Json.parses_object.mp parses
  obtain ⟨v, value⟩ := members _ (List.mem_cons_of_mem _ (List.mem_singleton_self _))
  obtain ⟨s, read, -⟩ := Json.exists_of_map_eq_ok value
  exact unread s read

theorem octets_outside_parts_are_not_read :
    Text.ofOctets? strayOctets = none ∧
      (∀ depth, ¬ (Document.ofOctets strayOctets).value.Parses depth) ∧
      Exchange.received (.ok ⟨502, [], strayOctets⟩) = .error (.api 404 "Unknown error") ∧
      Exchange.received (.ok ⟨502, [], negativeZero⟩) = .error (.api 502 "Unknown error") := by
  have noText : Text.ofOctets? strayOctets = none := by
    rw [strayOctets, List.append_assoc]
    exact ofOctets?_stray _ _
  have stray : ofResponse ⟨502, [], strayOctets⟩ = .api 404 "Unknown error" := by
    have code : Code strayMembers (some 404) := .given rfl ⟨none, rfl⟩
    have message : Message strayMembers none := .absent (by simp [strayMembers])
    have pass : Passes strayMembers := by simp [Passes, strayMembers, Node.skip, Json.skipFault]
    exact ofResponse_of_object isObject_strayOctets code message pass
  have negative : ofResponse ⟨502, [], negativeZero⟩ = .api 502 "Unknown error" := by
    refine ofResponse_of_broken isObject_negativeZero (.inl ?_)
    rintro code (other | only | ⟨only, skip, rfl⟩)
    · exact other _ (List.mem_singleton_self _) rfl
    · cases only
    · cases only
  have failed {body : List UInt8} :
      Exchange.received (.ok ⟨502, [], body⟩) = .error (ofResponse ⟨502, [], body⟩) :=
    Exchange.received_of_status_ne (by decide : (502 : UInt16) ≠ 200)
  exact ⟨noText, not_parses_strayOctets, failed.trans (congrArg Except.error stray),
    failed.trans (congrArg Except.error negative)⟩

end Undeclared

end ClientError

end SheetSearch
