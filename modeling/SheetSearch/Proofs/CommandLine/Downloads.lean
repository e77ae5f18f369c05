import SheetSearch.Proofs.CommandLine.Requests
import SheetSearch.Proofs.CommandLine.Stored

namespace SheetSearch

open Http (Delivery Request Response)
open Storage (Disk FileError)

namespace CommandLine

def Command.download? : Command → Option (Builder × String)
  | asset path format output => some (.asset path format [], output)
  | map territory index output => some (.map territory index [], output)
  | _ => none

def InForce (e : Environment) (g : Globals) (d : Disk) (c : ClientConfig) : Prop :=
  ∃ path stored, e.configPath? = some path ∧ ClientConfig.storedAt d path = .ok stored ∧
    c = effective e (g.apply stored)

inductive Fetched (e : Environment) (g : Globals) (b : Builder) (transport : Request → Delivery)
    (d : Disk) : Except Stop (List UInt8) → List Request → Prop
  | homeless : e.configPath? = none →
      Fetched e g b transport d (.error (.failure (.ofConfig .nowhere))) []
  | undecodable {path : String} {error : ConfigError} : e.configPath? = some path →
      ClientConfig.storedAt d path = .error error →
      Fetched e g b transport d (.error (.failure (.ofConfig error))) []
  | noUrl {c : ClientConfig} {error : ClientError} : InForce e g d c → b.url c = .error error →
      Fetched e g b transport d (.error (.failure (.ofClient error))) []
  | endless {c : ClientConfig} {u : Url} : InForce e g d c → b.url c = .ok u →
      c.hasDeadline = false → Fetched e g b transport d (.error .endless) []
  | unanswered {c : ClientConfig} {u : Url} {message : String} : InForce e g d c →
      b.url c = .ok u → c.hasDeadline = true → transport ⟨u, []⟩ = .error message →
      Fetched e g b transport d (.error (.failure (.ofClient (.transport message)))) [⟨u, []⟩]
  | refused {c : ClientConfig} {u : Url} {r : Response} : InForce e g d c → b.url c = .ok u →
      c.hasDeadline = true → transport ⟨u, []⟩ = .ok r → r.status ≠ 200 →
      Fetched e g b transport d (.error (.failure (.ofClient (.ofResponse r)))) [⟨u, []⟩]
  | arrived {c : ClientConfig} {u : Url} {r : Response} : InForce e g d c → b.url c = .ok u →
      c.hasDeadline = true → transport ⟨u, []⟩ = .ok r → r.status = 200 →
      Fetched e g b transport d (.ok r.body) [⟨u, []⟩]

def saved (output : String) (content : List UInt8) (requests : List Request) (d : Disk) :
    Plan.Run Outcome :=
  match d.write output content with
  | (.ok _, d') =>
    ⟨.printed ("Wrote " ++ toString content.length ++ " bytes to " ++ output ++ "\n"), d', requests⟩
  | (.error error, d') => ⟨.failed (Failure.unwritten output error).report, d', requests⟩

theorem saved_of_write {output : String} {content : List UInt8} {requests : List Request}
    {d d' : Disk} (h : d.write output content = (.ok (), d')) : saved output content requests d =
      ⟨.printed ("Wrote " ++ toString content.length ++ " bytes to " ++ output ++ "\n"), d',
        requests⟩ := by
  rw [saved, h]

theorem saved_of_write_error {output : String} {content : List UInt8} {requests : List Request}
    {d : Disk} {error : FileError} (h : (d.write output content).1 = .error error) :
    saved output content requests d =
      ⟨.failed (Failure.unwritten output error).report, d, requests⟩ := by
  have same := Disk.write_error h
  rw [saved]
  split
  · next whole =>
    rw [whole] at h
    cases h
  · next _ d' whole =>
    rw [whole] at h same
    cases h
    obtain rfl : d' = d := same
    rfl

variable {e : Environment} {args : List String} {i : Invocation} {b : Builder} {output : String}
  {transport : Request → Delivery} {d : Disk}

theorem work_of_download {command : Command} (h : command.download? = some (b, output))
    (own : ClientConfig) (json : Bool) : command.work e own json =
      download (effective e own) (.onUrl (b.url (effective e own)) fun u =>
        .send ⟨u, []⟩ (Exchange.judged fun r => .ok r.body)) output := by
  cases command with
  | asset | map =>
    cases h
    exact congrArg (download _ · _) (Exchange.map_onUrl_raw _ _)
  | _ => cases h

theorem exists_fetched (e : Environment) (g : Globals) (b : Builder)
    (transport : Request → Delivery) (d : Disk) :
    ∃ fetched requests, Fetched e g b transport d fetched requests := by
  cases home : e.configPath? with
  | none => exact ⟨_, _, .homeless home⟩
  | some path =>
    cases loaded : ClientConfig.storedAt d path with
    | error error => exact ⟨_, _, .undecodable home loaded⟩
    | ok stored =>
      have inForce : InForce e g d (effective e (g.apply stored)) :=
        ⟨path, stored, home, loaded, rfl⟩
      generalize effective e (g.apply stored) = c at inForce
      cases built : b.url c with
      | error error => exact ⟨_, _, .noUrl inForce built⟩
      | ok u =>
        cases deadline : c.hasDeadline with
        | false => exact ⟨_, _, .endless inForce built deadline⟩
        | true =>
          cases answer : transport ⟨u, []⟩ with
          | error message => exact ⟨_, _, .unanswered inForce built deadline answer⟩
          | ok r =>
            by_cases success : r.status = 200
            · exact ⟨_, _, .arrived inForce built deadline answer success⟩
            · exact ⟨_, _, .refused inForce built deadline answer success⟩

theorem run_plan_of_homeless (read : Invocation.read args = .ok i) (home : e.configPath? = none) :
    (plan e args).run transport d =
      ⟨.failed (Failure.ofConfig .nowhere).report, d, []⟩ := by
  simp only [plan, read, Invocation.work, ClientConfig.loadStored, home]
  rfl

theorem run_plan_of_inForce (transport : Request → Delivery) {c : ClientConfig}
    (read : Invocation.read args = .ok i)
    (downloads : i.command.download? = some (b, output)) (inForce : InForce e i.globals d c) :
    (plan e args).run transport d =
      let work := (download c (.onUrl (b.url c) fun u =>
        .send ⟨u, []⟩ (Exchange.judged fun r => .ok r.body)) output).run transport d
      ⟨.ofResult work.result, work.disk, work.requests⟩ := by
  obtain ⟨path, stored, home, loaded, rfl⟩ := inForce
  rw [run_plan_of_stored transport read home loaded, work_of_download downloads]

theorem run_of_fetched (read : Invocation.read args = .ok i)
    (downloads : i.command.download? = some (b, output)) {fetched : Except Stop (List UInt8)}
    {requests : List Request} (h : Fetched e i.globals b transport d fetched requests) :
    (plan e args).run transport d = match fetched with
      | .error stop => ⟨.ofResult (.error stop), d, requests⟩
      | .ok content => saved output content requests d := by
  have onUrl {c : ClientConfig} (inForce : InForce e i.globals d c) :=
    run_plan_of_inForce transport read downloads inForce
  cases h with
  | homeless home => exact run_plan_of_homeless read home
  | undecodable home unloaded => exact run_plan_of_unstored transport read home unloaded
  | noUrl inForce built =>
    rw [onUrl inForce, built]
    rfl
  | endless inForce built deadline =>
    rw [onUrl inForce, built]
    simp only [download, exchange, Exchange.onUrl, deadline, Bool.false_eq_true, if_false, Plan.run]
  | unanswered inForce built deadline answer =>
    rw [onUrl inForce, built]
    simp only [download, exchange, Exchange.onUrl, deadline, if_true, Plan.run, answer]
    rfl
  | refused inForce built deadline answer failed =>
    rw [onUrl inForce, built]
    simp only [download, exchange, Exchange.onUrl, deadline, if_true, Plan.run, answer]
    simp only [Except.mapError, Exchange.judged, if_neg failed, Work.fail, Plan.run]
  | @arrived c u r inForce built deadline answer success =>
    rw [onUrl inForce, built]
    simp only [download, exchange, Exchange.onUrl, deadline, if_true, Plan.run, answer]
    simp only [Except.mapError, Exchange.judged, if_pos success, Plan.run, saved]
    rcases d.write output r.body with ⟨_ | _, d'⟩ <;> rfl

theorem downloads_write_all_or_nothing (transport : Request → Delivery) (d : Disk)
    (read : Invocation.read args = .ok i) (downloads : i.command.download? = some (b, output)) :
    (∃ fetched requests, Fetched e i.globals b transport d fetched requests) ∧
      (∀ stop requests, Fetched e i.globals b transport d (.error stop) requests →
        (plan e args).run transport d = ⟨.ofResult (.error stop), d, requests⟩ ∧
          ∀ text, Outcome.ofResult (.error stop) ≠ .printed text) ∧
      ∀ content requests, Fetched e i.globals b transport d (.ok content) requests →
        (∀ error, (d.write output content).1 = .error error → (plan e args).run transport d =
          ⟨.failed (Failure.unwritten output error).report, d, requests⟩) ∧
        ∀ d', d.write output content = (.ok (), d') →
          (plan e args).run transport d = ⟨.printed
            ("Wrote " ++ toString content.length ++ " bytes to " ++ output ++ "\n"), d', requests⟩ ∧
          d'.read output = .ok content ∧
          ∃ place, d.Leads output place ∧ d'.get? place = some (.file content) ∧
            ∀ other, other ≠ place → d'.get? other = d.get? other := by
  refine ⟨exists_fetched e i.globals b transport d, ?_, ?_⟩
  · intro stop requests fetched
    refine ⟨run_of_fetched read downloads fetched, fun text => ?_⟩
    cases stop <;> exact nofun
  · intro content requests fetched
    have run := run_of_fetched read downloads fetched
    refine ⟨fun error unwritten => run.trans (saved_of_write_error unwritten), ?_⟩
    intro d' written
    obtain ⟨place, filed, here, others⟩ := Disk.get?_of_write written
    exact ⟨run.trans (saved_of_write written),
      Disk.read_eq_ok_iff.mpr (Disk.seen_of_write written),
      place, Disk.leads_of_filePlace filed, here, others⟩

-- The same command with an answer that is no content, and with one that is no text.
theorem map_is_written_once_it_arrives :
    let e : Environment := ⟨some "/h", none, some "http://[::1]/api/"⟩
    let args := ["map", "s1d1", "00", "--output", "/m.jpg"]
    (∃ report requests, (plan e args).run (fun _ => .ok ⟨404, [], [0x7B]⟩) .empty =
      ⟨.failed report, .empty, requests⟩) ∧
    ((plan e args).run (fun _ => .ok ⟨200, [], [0xFF, 0x00]⟩) .empty).result =
      .printed "Wrote 2 bytes to /m.jpg\n" ∧
    ((plan e args).run (fun _ => .ok ⟨200, [], [0xFF, 0x00]⟩) .empty).disk.read "/m.jpg" =
      .ok [0xFF, 0x00] := by
  intro e args
  have read : Invocation.read args = .ok ⟨.none, .map "s1d1" "00" "/m.jpg"⟩ := by decide +kernel
  let c := effective e (Globals.none.apply .default)
  have inForce : InForce e .none .empty c :=
    ⟨"/h/.config/xivapi/config.json", .default, by decide, by decide +kernel, rfl⟩
  have baseUrl : c.baseUrl = "http://[::1]/api/" := by decide +kernel
  obtain ⟨u, built⟩ := Builder.exists_url_of_isBase (c := c) (baseUrl ▸ isBase_loopback)
    (.map "s1d1" "00" [])
  have written : Disk.write .empty "/m.jpg" [0xFF, 0x00] =
      (.ok (), (Disk.write .empty "/m.jpg" [0xFF, 0x00]).2) := by
    refine Prod.ext ?_ rfl
    decide +kernel
  obtain ⟨-, fails, -⟩ := downloads_write_all_or_nothing
    (fun _ => .ok ⟨404, [], [0x7B]⟩) .empty read rfl
  obtain ⟨-, -, arrives⟩ := downloads_write_all_or_nothing
    (fun _ => .ok ⟨200, [], [0xFF, 0x00]⟩) .empty read rfl
  have refused := (fails _ _ (.refused inForce built (by decide) rfl (by decide))).1
  obtain ⟨run, content, -⟩ :=
    (arrives _ _ (.arrived inForce built (by decide) rfl rfl)).2 _ written
  refine ⟨⟨_, _, refused⟩, ?_, ?_⟩
  · rw [run]
    rfl
  · rw [run]
    exact content

end CommandLine

end SheetSearch
