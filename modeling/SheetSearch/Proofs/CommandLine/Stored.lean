import SheetSearch.Proofs.Client.ConfigFile
import SheetSearch.Proofs.CommandLine.Run
import SheetSearch.Proofs.Storage.Disk

namespace SheetSearch

open Http (Delivery Request)
open Storage (Disk Entry)

namespace Plan

variable {α β : Type}

def isSmooth (transport : Request → Delivery) : Plan α → Disk → Bool
  | done _, _ => true
  | isPresent path next, d => isSmooth transport (next (d.isPresent path)) d
  | read path next, d => (d.read path).isOk && isSmooth transport (next (d.read path)) d
  | makeDirectories path next, d =>
    let made := d.makeDirectories path
    made.1.isOk && isSmooth transport (next made.1) made.2
  | write path content next, d =>
    let written := d.write path content
    written.1.isOk && isSmooth transport (next written.1) written.2
  | send request next, d => isSmooth transport (next (transport request)) d

variable {transport : Request → Delivery} {path : String} {d : Disk}
  {next : Except Storage.FileError Unit → Plan α}

theorem eq_ok_of_isOk {x : Except Storage.FileError Unit} (h : x.isOk = true) : x = .ok () := by
  cases x with
  | error e => cases h
  | ok _ => rfl

theorem isSmooth_write {content : List UInt8}
    (h : isSmooth transport (write path content next) d = true) :
    (d.write path content).1 = .ok () ∧
      isSmooth transport (next (.ok ())) (d.write path content).2 = true := by
  rw [isSmooth, Bool.and_eq_true] at h
  have written := eq_ok_of_isOk h.1
  exact ⟨written, written ▸ h.2⟩

theorem isSmooth_makeDirectories (h : isSmooth transport (makeDirectories path next) d = true) :
    (d.makeDirectories path).1 = .ok () ∧
      isSmooth transport (next (.ok ())) (d.makeDirectories path).2 = true := by
  rw [isSmooth, Bool.and_eq_true] at h
  have made := eq_ok_of_isOk h.1
  exact ⟨made, made ▸ h.2⟩

theorem isSmooth_bind (transport : Request → Delivery) (f : α → Plan β) (p : Plan α) (d : Disk) :
    isSmooth transport (p.bind f) d =
      (isSmooth transport p d &&
        isSmooth transport (f (p.run transport d).result) (p.run transport d).disk) := by
  induction p generalizing d with
  | done a => simp [bind, isSmooth, run]
  | isPresent path next ih => exact ih _ _
  | read path next ih => simp only [bind, isSmooth, run, ih, Bool.and_assoc]
  | makeDirectories path next ih => simp only [bind, isSmooth, run, ih, Bool.and_assoc]
  | write path content next ih => simp only [bind, isSmooth, run, ih, Bool.and_assoc]
  | send request next ih => exact ih _ _

end Plan

namespace ClientConfig

variable {d : Disk} {path : String} {c : ClientConfig}

-- The settings that a file holds, or the defaults while there is none.
def Stores (d : Disk) (path : String) (c : ClientConfig) : Prop :=
  (d.isPresent path = false ∧ c = default) ∨
    ∃ content, d.read path = .ok content ∧ ofContent path content = .ok c

theorem storedAt_eq_ok_iff : storedAt d path = .ok c ↔ Stores d path c := by
  rw [storedAt, Stores]
  cases present : d.isPresent path with
  | false =>
    have unread (content : List UInt8) : d.read path ≠ .ok content := by
      intro read
      rw [Disk.isPresent_eq, Disk.read_eq_ok_iff.mp read] at present
      cases present
    simp [unread, eq_comm]
  | true => cases d.read path <;> simp

theorem stores_of_seen {d' : Disk} (same : d'.seen path = d.seen path) :
    Stores d' path c ↔ Stores d path c := by
  simp only [Stores, Disk.isPresent_eq, Disk.read_eq_ok_iff, same]

theorem stores_of_content (h : d.seen path = some (.file c.toContent)) : Stores d path c :=
  .inr ⟨_, Disk.read_eq_ok_iff.mpr h, ofContent_toContent c path⟩

end ClientConfig

namespace CommandLine

open ClientConfig (Stores)

theorem Globals.apply_apply (g : Globals) (c : ClientConfig) :
    g.apply (g.apply c) = g.apply c := by
  obtain ⟨language, gameVersion, schema, json, verbose⟩ := g
  cases language <;> cases gameVersion <;> cases schema <;> rfl

def Command.output? : Command → Option String
  | .asset _ _ output | .map _ _ output => some output
  | _ => none

section Work

variable {transport : Request → Delivery} {e : Environment} {own : ClientConfig} {json : Bool}
  {d : Disk} {path : String}

theorem exchange_cases {α : Type} (c : ClientConfig) (x : Exchange α) (next : α → Work)
    (smooth : (exchange c x next).isSmooth transport d = true) :
    ((exchange c x next).run transport d).disk = d ∨
      ∃ a, (next a).isSmooth transport d = true ∧
        ((exchange c x next).run transport d).disk = ((next a).run transport d).disk := by
  cases x with
  | refused e => exact .inl rfl
  | send request result =>
    rw [exchange] at smooth ⊢
    split at smooth
    · next deadline =>
      rw [if_pos deadline]
      rw [Plan.isSmooth] at smooth
      rw [Plan.run]
      dsimp only at smooth ⊢
      cases answer : result ((transport request).mapError .transport) with
      | error e => exact .inl rfl
      | ok a =>
        rw [answer] at smooth
        exact .inr ⟨a, smooth, rfl⟩
    · next endless =>
      rw [if_neg endless]
      exact .inl rfl

theorem disk_fetch {α : Type} [Shaped α] (c : ClientConfig) (report : α → List Report.Piece)
    (x : Exchange α) (smooth : (fetch c json report x).isSmooth transport d = true) :
    ((fetch c json report x).run transport d).disk = d := by
  rcases exchange_cases c x _ smooth with same | ⟨a, -, same⟩
  · exact same
  · exact same

theorem seen_download {c : ClientConfig} {x : Exchange (List UInt8)} {output : String}
    (smooth : (download c x output).isSmooth transport d = true) (apart : d.Apart output path) :
    ((download c x output).run transport d).disk.seen path = d.seen path := by
  rcases exchange_cases c x _ smooth with same | ⟨content, smooth, same⟩
  · exact congrArg (Disk.seen · path) same
  · rw [download, same]
    exact Disk.seen_of_write_apart (Prod.ext (Plan.isSmooth_write smooth).1 rfl) apart

theorem seen_unsaved {command : Command} (unsaved : command ≠ .config true)
    (home : e.configPath? = some path) (smooth : (command.work e own json).isSmooth transport d = true)
    (apart : ∀ output, command.output? = some output → d.Apart output path) :
    ((command.work e own json).run transport d).disk.seen path = d.seen path := by
  cases command with
  | versions | sheets | rows | row => exact congrArg (Disk.seen · path) (disk_fetch _ _ _ smooth)
  | search terms =>
    rw [Command.work] at smooth ⊢
    cases settings : terms.settings with
    | error f => rfl
    | ok ss =>
      rw [settings] at smooth
      exact congrArg (Disk.seen · path) (disk_fetch _ _ _ smooth)
  | asset | map => exact seen_download smooth (apart _ rfl)
  | config save =>
    cases save with
    | true => exact absurd rfl unsaved
    | false =>
      simp only [Command.work, home]
      rfl

theorem seen_store (smooth : (ClientConfig.saveTo.store own path).isSmooth transport d = true) :
    ((ClientConfig.saveTo.store own path).run transport d).disk.seen path =
      some (.file own.toContent) :=
  Disk.seen_of_write (Prod.ext (Plan.isSmooth_write smooth).1 rfl)

theorem seen_saveTo (smooth : (own.saveTo path).isSmooth transport d = true) :
    ((own.saveTo path).run transport d).disk.seen path = some (.file own.toContent) := by
  rw [ClientConfig.saveTo] at smooth ⊢
  cases parent : Storage.Path.parent? path with
  | none =>
    rw [parent] at smooth
    exact seen_store smooth
  | some directory =>
    rw [parent] at smooth
    obtain ⟨made, smooth⟩ := Plan.isSmooth_makeDirectories smooth
    dsimp only [Plan.run]
    rw [made]
    exact seen_store smooth

theorem seen_saved (home : e.configPath? = some path)
    (smooth : ((Command.config true).work e own json).isSmooth transport d = true) :
    (((Command.config true).work e own json).run transport d).disk.seen path =
      some (.file own.toContent) := by
  simp only [Command.work, home, if_true, saveConfig, Plan.isSmooth_bind, Plan.run_bind,
    Bool.and_eq_true] at smooth ⊢
  exact seen_saveTo smooth.1

end Work

structure Round where
  environment : Environment
  args : List String
  transport : Request → Delivery

namespace Round

variable {path : String} {r : Round} {d : Disk}

def run (r : Round) (d : Disk) : Plan.Run Outcome :=
  (plan r.environment r.args).run r.transport d

-- The settings are kept under one path, no download goes there, and files can be used.
structure Allowed (path : String) (r : Round) (d : Disk) : Prop where
  home : r.environment.configPath? = some path
  smooth : (plan r.environment r.args).isSmooth r.transport d = true
  apart : ∀ i output, Invocation.read r.args = .ok i → i.command.output? = some output →
    d.Apart output path

def Saves (r : Round) (g : Globals) : Prop :=
  Invocation.read r.args = .ok ⟨g, .config true⟩

theorem run_of_misread {h : Halt} (read : Invocation.read r.args = .error h) :
    r.run d = ⟨.ofHalt h, d, []⟩ := by
  simp only [run, plan, read, Plan.run]

theorem exists_run_of_undecodable {i : Invocation} (home : r.environment.configPath? = some path)
    (read : Invocation.read r.args = .ok i) (undecodable : ∀ c, ¬ Stores d path c) :
    ∃ report, r.run d = ⟨.failed report, d, []⟩ := by
  cases loaded : ClientConfig.storedAt d path with
  | error e => exact ⟨_, run_plan_of_unstored r.transport read home loaded⟩
  | ok c => exact absurd (ClientConfig.storedAt_eq_ok_iff.mp loaded) (undecodable c)

theorem smooth_work {i : Invocation} {stored : ClientConfig} (allowed : r.Allowed path d)
    (read : Invocation.read r.args = .ok i) (stores : Stores d path stored) :
    (i.command.work r.environment (i.globals.apply stored) i.globals.json).isSmooth r.transport d =
      true := by
  have smooth := allowed.smooth
  simp only [plan, read, Plan.isSmooth_bind, Invocation.work, ClientConfig.run_loadStored r.transport
    allowed.home, ClientConfig.storedAt_eq_ok_iff.mpr stores, Bool.and_eq_true] at smooth
  exact smooth.1.2

theorem seen_of_saves {g : Globals} {stored : ClientConfig} (allowed : r.Allowed path d)
    (saves : r.Saves g) (stores : Stores d path stored) :
    (r.run d).disk.seen path = some (.file (g.apply stored).toContent) := by
  rw [run, run_plan_of_stored r.transport saves allowed.home
    (ClientConfig.storedAt_eq_ok_iff.mpr stores)]
  exact seen_saved allowed.home (smooth_work allowed saves stores)

theorem seen_of_not_saves (allowed : r.Allowed path d) (unsaved : ∀ g, ¬ r.Saves g) :
    (r.run d).disk.seen path = d.seen path := by
  cases read : Invocation.read r.args with
  | error h => rw [run_of_misread read]
  | ok i =>
    by_cases decodable : ∃ stored, Stores d path stored
    · obtain ⟨stored, stores⟩ := decodable
      have other : i.command ≠ .config true := by
        obtain ⟨g, command⟩ := i
        rintro rfl
        exact unsaved g read
      rw [run, run_plan_of_stored r.transport read allowed.home
        (ClientConfig.storedAt_eq_ok_iff.mpr stores)]
      exact seen_unsaved other allowed.home (smooth_work allowed read stores)
        fun output written => allowed.apart i output read written
    · obtain ⟨report, whole⟩ :=
        exists_run_of_undecodable allowed.home read (not_exists.mp decodable)
      rw [whole]

theorem stores_run {stored : ClientConfig} (allowed : r.Allowed path d)
    (stores : Stores d path stored) :
    ∃ c, Stores (r.run d).disk path c ∧ c.baseUrl = stored.baseUrl ∧
      c.localizations = stored.localizations ∧ c.timeout = stored.timeout := by
  by_cases saved : ∃ g, r.Saves g
  · obtain ⟨g, saves⟩ := saved
    exact ⟨g.apply stored, ClientConfig.stores_of_content (seen_of_saves allowed saves stores),
      rfl, rfl, rfl⟩
  · have same := seen_of_not_saves allowed (not_exists.mp saved)
    exact ⟨stored, (ClientConfig.stores_of_seen same).mpr stores, rfl, rfl, rfl⟩

end Round

inductive Rounds (path : String) : Disk → List Round → Disk → Prop
  | none (d : Disk) : Rounds path d [] d
  | more {d d' : Disk} {r : Round} {rs : List Round} : r.Allowed path d →
      Rounds path (r.run d).disk rs d' → Rounds path d (r :: rs) d'

theorem Rounds.stores {path : String} {d d' : Disk} {rs : List Round} (rounds : Rounds path d rs d')
    {stored : ClientConfig} (stores : Stores d path stored) :
    ∃ c, Stores d' path c ∧ c.baseUrl = stored.baseUrl ∧
      c.localizations = stored.localizations ∧ c.timeout = stored.timeout := by
  induction rounds generalizing stored with
  | none d => exact ⟨stored, stores, rfl, rfl, rfl⟩
  | more allowed _ ih =>
    obtain ⟨between, storesBetween, baseUrl, localizations, timeout⟩ :=
      Round.stores_run allowed stores
    obtain ⟨c, storesBehind, baseUrl', localizations', timeout'⟩ := ih storesBetween
    exact ⟨c, storesBehind, baseUrl'.trans baseUrl, localizations'.trans localizations,
      timeout'.trans timeout⟩

theorem runs_keep_stored_settings (path : String) :
    (∀ (r : Round) (d : Disk), r.Allowed path d →
      ((r.run d).disk.seen path ≠ d.seen path → ∃ g, r.Saves g) ∧
      (∀ g stored, r.Saves g → Stores d path stored →
        ∃ content, (r.run d).disk.read path = .ok content ∧
          ClientConfig.ofContent path content = .ok { stored with
            language := g.language <|> stored.language
            gameVersion := g.gameVersion <|> stored.gameVersion
            schema := g.schema <|> stored.schema } ∧
          ∀ r' : Round, r'.Allowed path (r.run d).disk → r'.Saves g →
            (r'.run (r.run d).disk).disk.read path = .ok content) ∧
      ((∀ c, ¬ Stores d path c) → ∀ i, Invocation.read r.args = .ok i →
        ∃ report, r.run d = ⟨.failed report, d, []⟩)) ∧
    ∀ (d d' : Disk) (rs : List Round), Rounds path d rs d' → ∀ stored, Stores d path stored →
      ∃ c, Stores d' path c ∧ c.baseUrl = stored.baseUrl ∧
        c.localizations = stored.localizations ∧ c.timeout = stored.timeout := by
  constructor
  · intro r d allowed
    refine ⟨?_, ?_, ?_⟩
    · intro changed
      by_contra unsaved
      exact changed (Round.seen_of_not_saves allowed (not_exists.mp unsaved))
    · intro g stored saves stores
      have seen := Round.seen_of_saves allowed saves stores
      refine ⟨_, Disk.read_eq_ok_iff.mpr seen, ClientConfig.ofContent_toContent _ path, ?_⟩
      intro r' allowed' again
      have seen' := Round.seen_of_saves allowed' again (ClientConfig.stores_of_content seen)
      rw [g.apply_apply] at seen'
      exact Disk.read_eq_ok_iff.mpr seen'
    · intro undecodable i read
      exact Round.exists_run_of_undecodable allowed.home read undecodable
  · intro d d' rs rounds stored stores
    exact rounds.stores stores

-- The base URL of the environment differs from the one in the settings, and it is not saved.
theorem save_keeps_environment_out :
    let path := "/h/.config/xivapi/config.json"
    let r : Round := ⟨⟨some "/h", none, some "http://[::1]/"⟩, ["config", "--save", "--language=ja"],
      fun _ => .error "no route"⟩
    (∃ content, (r.run .empty).disk.read path = .ok content ∧
      ClientConfig.ofContent path content =
        .ok { ClientConfig.default with language := some .japanese }) ∧
    ∃ c, Stores (r.run .empty).disk path c ∧ c.baseUrl = ClientConfig.defaultBaseUrl := by
  intro path r
  have saves : r.Saves { Globals.none with language := some .japanese } := by
    unfold Round.Saves
    decide +kernel
  have home : r.environment.configPath? = some path := by decide
  have stores : Stores .empty path .default := .inl ⟨by decide +kernel, rfl⟩
  have allowed : r.Allowed path .empty := by
    refine ⟨home, ?_, ?_⟩
    · decide +kernel
    · intro i output read written
      cases saves.symm.trans read
      cases written
  obtain ⟨step, run⟩ := runs_keep_stored_settings path
  obtain ⟨content, read, decoded, -⟩ := (step r .empty allowed).2.1 _ _ saves stores
  obtain ⟨c, kept, baseUrl, -, -⟩ := run .empty _ [r] (.more allowed (.none _)) _ stores
  exact ⟨⟨content, read, decoded⟩, c, kept, baseUrl⟩

end CommandLine

end SheetSearch
