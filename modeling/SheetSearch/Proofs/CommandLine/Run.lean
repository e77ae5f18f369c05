import SheetSearch.CommandLine.Execution

namespace SheetSearch

open Http (Delivery Request)
open Storage (Disk)

namespace ClientConfig

def storedAt (d : Disk) (path : String) : Except ConfigError ClientConfig :=
  if d.isPresent path then
    match d.read path with
    | .ok content => ofContent path content
    | .error e => .error (.unreadable path e)
  else .ok default

theorem run_loadFrom (transport : Request → Delivery) (path : String) (d : Disk) :
    (loadFrom path).run transport d = ⟨storedAt d path, d, []⟩ := by
  rw [loadFrom, Plan.run, storedAt]
  split <;> rfl

theorem run_loadStored (transport : Request → Delivery) {e : Environment} {path : String}
    (home : e.configPath? = some path) (d : Disk) :
    (loadStored e).run transport d = ⟨storedAt d path, d, []⟩ := by
  rw [loadStored, home]
  exact run_loadFrom transport path d

end ClientConfig

namespace CommandLine

variable {e : Environment} {args : List String} {i : Invocation} {path : String} {d : Disk}
  {stored : ClientConfig} (transport : Request → Delivery)

theorem run_plan_of_stored (read : Invocation.read args = .ok i)
    (home : e.configPath? = some path) (loaded : ClientConfig.storedAt d path = .ok stored) :
    (plan e args).run transport d =
      let work := (i.command.work e (i.globals.apply stored) i.globals.json).run transport d
      ⟨.ofResult work.result, work.disk, work.requests⟩ := by
  simp only [plan, read, Plan.run_bind, Invocation.work, ClientConfig.run_loadStored transport home,
    loaded, Plan.run, List.nil_append, List.append_nil]

theorem run_plan_of_unstored {error : ConfigError} (read : Invocation.read args = .ok i)
    (home : e.configPath? = some path) (unloaded : ClientConfig.storedAt d path = .error error) :
    (plan e args).run transport d = ⟨.failed (Failure.ofConfig error).report, d, []⟩ := by
  simp only [plan, read, Plan.run_bind, Invocation.work, ClientConfig.run_loadStored transport home,
    unloaded, Work.fail, Plan.run, List.append_nil]
  rfl

end CommandLine

end SheetSearch
