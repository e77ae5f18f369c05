import Mathlib
import SheetSearch.Proofs.Client.Session
import SheetSearch.Proofs.Json.Complete
import SheetSearch.Proofs.Response.Printed

namespace SheetSearch

open Http (Request Response)
open Json (Blank Fault)

namespace Shaped

variable {α : Type} [Shaped α] {body : List UInt8} {a : α}

theorem decode_eq_ok_iff : decode α body = .ok a ↔
    ∃ v, (shape α).decode body = .ok v ∧ ofCarrier v = a :=
  bind_eq_ok_iff.trans
    (exists_congr fun _ => and_congr_right fun _ => ⟨Except.ok.inj, congrArg Except.ok⟩)

theorem decode_of_error {f : Fault} (h : (shape α).decode body = .error f) :
    decode α body = .error f := by
  rw [decode, h]
  rfl

theorem decode_append (nested : (shape α).isNested = true) (h : decode α body = .ok a)
    (more : List UInt8) : (Blank more → decode α (body ++ more) = .ok a) ∧
      (¬ Blank more → decode α (body ++ more) = .error (.malformed .trailingCharacters)) := by
  obtain ⟨v, decodes, rfl⟩ := decode_eq_ok_iff.mp h
  have longer := Json.decode_append nested decodes more
  constructor
  · intro spaces
    exact decode_eq_ok_iff.mpr ⟨v, longer.trans (if_pos spaces), rfl⟩
  · intro solid
    exact decode_of_error (longer.trans (if_neg solid))

theorem decode_cut (nested : (shape α).isNested = true) {front cut : List UInt8}
    (h : decode α (front ++ cut) = .ok a) : (Blank cut → decode α front = .ok a) ∧
      (¬ Blank cut → ∃ f, decode α front = .error f) := by
  obtain ⟨v, decodes, rfl⟩ := decode_eq_ok_iff.mp h
  obtain ⟨kept, broken⟩ := Json.decode_cut nested decodes
  exact ⟨fun spaces => decode_eq_ok_iff.mpr ⟨v, kept spaces, rfl⟩,
    fun solid => (broken solid).imp fun _ => decode_of_error⟩

end Shaped

namespace Exchange

variable {α β : Type} [Shaped α] {f : α → β} {b : β} {status status' : UInt16}
  {headers headers' : Http.Headers} {body : List UInt8}

theorem decoded_eq_ok_iff : decoded f ⟨status, headers, body⟩ = .ok b ↔
    ∃ a, Shaped.decode α body = .ok a ∧ f a = b := by
  rw [decoded]
  cases Shaped.decode α body with
  | error e =>
    constructor
    · intro h
      cases h
    · rintro ⟨_, h, _⟩
      cases h
  | ok a =>
    refine ⟨fun h => ⟨a, rfl, Except.ok.inj h⟩, ?_⟩
    rintro ⟨_, ⟨⟩, rfl⟩
    rfl

theorem decoded_of_error {e : Fault} (h : Shaped.decode α body = .error e) :
    decoded f ⟨status, headers, body⟩ = .error (.decode e) := by
  rw [decoded, h]
  rfl

end Exchange

namespace Call

def ReadsJson : Call → Prop
  | get (.asset _ _ _) | get (.map _ _ _) | fetchAsset _ _ _ | fetchMap _ _ _ => False
  | _ => True

-- Whatever the call sends is answered with success and this body.
def Delivers (c : ClientConfig) (call : Call) (body : List UInt8) (reply : Request → Reply) :
    Prop :=
  ∀ q ∈ call.sent c, ∃ headers, reply q = .ok ⟨200, headers, body⟩

variable {c : ClientConfig} {call : Call} {reply : Request → Reply} {body : List UInt8}

theorem read_of_readsJson (json : call.ReadsJson) :
    ∃ (α : Type) (_ : Shaped α) (f : α → Answer), (Shaped.shape α).isNested = true ∧
      call.read = Exchange.decoded f := by
  cases call with
  | get b =>
    cases b with
    | versions | sheetIndex | rows | row | search => exact ⟨_, _, _, rfl, rfl⟩
    | asset | map => exact json.elim
  | fetchAsset | fetchMap => exact json.elim

theorem outcome_of_delivers (sends : call.sent c ≠ []) (delivers : call.Delivers c body reply) :
    ∃ headers, call.outcome c reply = call.read ⟨200, headers, body⟩ := by
  obtain ⟨q, alone, outcome⟩ := exists_judged sends reply
  obtain ⟨headers, replied⟩ := delivers q (by rw [alone]; exact List.mem_singleton_self q)
  exact ⟨headers, by rw [outcome, replied, Exchange.judged, if_pos rfl]⟩

theorem sent_ne_nil_of_ok {a : Answer} (h : call.outcome c reply = .ok a) :
    call.sent c ≠ [] := by
  obtain ⟨fault, ends⟩ := Call.ends c
  have ends := ends reply call
  generalize call.sent c = requests, call.outcome c reply = outcome at ends h ⊢
  cases ends with
  | incomplete | noBase => cases h
  | unanswered | otherStatus | success => exact List.cons_ne_nil _ _

theorem json_body_is_taken_whole (json : call.ReadsJson) (delivers : call.Delivers c body reply)
    {a : Answer} (h : call.outcome c reply = .ok a) :
    (∀ front cut, body = front ++ cut → ∀ reply', call.Delivers c front reply' →
      (Blank cut → call.outcome c reply' = .ok a) ∧
      (¬ Blank cut → ∃ f, call.outcome c reply' = .error (.decode f))) ∧
    ∀ more reply', call.Delivers c (body ++ more) reply' →
      (Blank more → call.outcome c reply' = .ok a) ∧
      (¬ Blank more →
        call.outcome c reply' = .error (.decode (.malformed .trailingCharacters))) := by
  have sends := sent_ne_nil_of_ok h
  obtain ⟨α, _, f, nested, read⟩ := read_of_readsJson json
  obtain ⟨headers, outcome⟩ := outcome_of_delivers sends delivers
  rw [outcome, read] at h
  obtain ⟨r, decodes, rfl⟩ := Exchange.decoded_eq_ok_iff.mp h
  constructor
  · rintro front cut rfl reply' delivers'
    obtain ⟨headers', outcome'⟩ := outcome_of_delivers sends delivers'
    obtain ⟨kept, broken⟩ := Shaped.decode_cut nested decodes
    rw [outcome', read]
    exact ⟨fun spaces => Exchange.decoded_eq_ok_iff.mpr ⟨r, kept spaces, rfl⟩,
      fun solid => (broken solid).imp fun _ => Exchange.decoded_of_error⟩
  · intro more reply' delivers'
    obtain ⟨headers', outcome'⟩ := outcome_of_delivers sends delivers'
    obtain ⟨kept, broken⟩ := Shaped.decode_append nested decodes more
    rw [outcome', read]
    exact ⟨fun spaces => Exchange.decoded_eq_ok_iff.mpr ⟨r, kept spaces, rfl⟩,
      fun solid => Exchange.decoded_of_error (broken solid)⟩

def twoRows : RowsResponse where
  rows := [⟨1, none, [("Name", .text "Gil")], none⟩, ⟨2, none, [("Name", .text "Fire Shard")], none⟩]
  schema := "exdschema@2:rev:1"
  version := "7.0"

theorem two_rows_are_taken_whole :
    let c : ClientConfig := ⟨"http://[::1]/api/", none, none, none, [], 30⟩
    let call := Call.get (.rows "Item" [])
    let body := Text.octets (Shaped.pretty twoRows ++ "\n")
    let reply (body : List UInt8) (_ : Request) : Reply := .ok ⟨200, [], body⟩
    call.ReadsJson ∧ call.Delivers c body (reply body) ∧
      call.outcome c (reply body) = .ok (.rows twoRows) ∧
      ¬ Blank (body.drop 60) ∧
      (∃ f, call.outcome c (reply (body.take 60)) = .error (.decode f)) ∧
      call.outcome c (reply (body ++ [0x20])) = .ok (.rows twoRows) ∧
      call.outcome c (reply (body ++ [0x5D])) =
        .error (.decode (.malformed .trailingCharacters)) := by
  intro c call body reply
  have sends : call.sent c ≠ [] := sent_ne_nil id isBase_loopback
  have delivers (body : List UInt8) : call.Delivers c body (reply body) := fun _ _ => ⟨[], rfl⟩
  have decodes : Shaped.decode RowsResponse body = .ok twoRows := by
    apply Shaped.decode_pretty
    · refine ⟨127, rfl, ⟨126, rfl, List.forall_mem_cons.mpr ⟨?_, List.forall_mem_singleton.mpr ?_⟩⟩,
        trivial, trivial, trivial⟩
      · exact ⟨125, rfl, trivial, fun _ _ _ _ => trivial, ⟨rfl, List.forall_mem_nil _⟩,
          by rintro _ ⟨⟩, trivial⟩
      · exact ⟨125, rfl, trivial, fun _ _ _ _ => trivial, ⟨rfl, List.forall_mem_nil _⟩,
          by rintro _ ⟨⟩, trivial⟩
    · intro x hx
      rw [show (Shaped.encode twoRows).numerics = [.int 1, .int 2] from rfl] at hx
      simp at hx
  have taken : call.outcome c (reply body) = .ok (.rows twoRows) := by
    obtain ⟨headers, outcome⟩ := outcome_of_delivers sends (delivers body)
    rw [outcome]
    exact Exchange.decoded_eq_ok_iff.mpr ⟨twoRows, decodes, rfl⟩
  have solid : ¬ Blank (body.drop 60) := by
    rw [show body = _ from Json.Value.octets_pretty (Shaped.encode twoRows)]
    decide +kernel
  have json : call.ReadsJson := trivial
  obtain ⟨cut, padded⟩ := json_body_is_taken_whole json (delivers body) taken
  exact ⟨json, delivers body, taken, solid,
    (cut _ _ (List.take_append_drop 60 body).symm _ (delivers _)).2 solid,
    (padded [0x20] _ (delivers _)).1 (List.forall_mem_singleton.mpr rfl),
    (padded [0x5D] _ (delivers _)).2 (by decide)⟩

end Call

end SheetSearch
