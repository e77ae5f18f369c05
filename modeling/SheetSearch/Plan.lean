import SheetSearch.Http.Message
import SheetSearch.Storage.Disk

/-!
What a run of the program does to the world, step by step, without the world: each step asks for one
thing, and what follows depends on the answer. A plan can be carried out on a disk of its own, which
shows the requests that it sends on the way.
-/

namespace SheetSearch

open Http (Delivery Request)
open Storage (Disk FileError)

inductive Plan (α : Type) where
  | done (a : α)
  | isPresent (path : String) (next : Bool → Plan α)
  | read (path : String) (next : Except FileError (List UInt8) → Plan α)
  | makeDirectories (path : String) (next : Except FileError Unit → Plan α)
  | write (path : String) (content : List UInt8) (next : Except FileError Unit → Plan α)
  | send (request : Request) (next : Delivery → Plan α)

namespace Plan

def bind {α β : Type} (f : α → Plan β) : Plan α → Plan β
  | done a => f a
  | isPresent path next => isPresent path fun r => bind f (next r)
  | read path next => read path fun r => bind f (next r)
  | makeDirectories path next => makeDirectories path fun r => bind f (next r)
  | write path content next => write path content fun r => bind f (next r)
  | send request next => send request fun r => bind f (next r)

instance : Monad Plan where
  pure := done
  bind p f := p.bind f

structure Run (α : Type) where
  result : α
  disk : Disk
  /-- In the order in which they were sent. -/
  requests : List Request

def run {α : Type} (transport : Request → Delivery) : Plan α → Disk → Run α
  | done a, d => ⟨a, d, []⟩
  | isPresent path next, d => run transport (next (d.isPresent path)) d
  | read path next, d => run transport (next (d.read path)) d
  | makeDirectories path next, d =>
    let made := d.makeDirectories path
    run transport (next made.1) made.2
  | write path content next, d =>
    let written := d.write path content
    run transport (next written.1) written.2
  | send request next, d =>
    let rest := run transport (next (transport request)) d
    { rest with requests := request :: rest.requests }

/-- What comes after a plan finds the disk as the plan leaves it. -/
theorem run_bind {α β : Type} (transport : Request → Delivery) (f : α → Plan β) (p : Plan α)
    (d : Disk) :
    run transport (p.bind f) d =
      let first := run transport p d
      let rest := run transport (f first.result) first.disk
      { rest with requests := first.requests ++ rest.requests } := by
  induction p generalizing d with
  | done a => rfl
  | isPresent path next ih => exact ih _ _
  | read path next ih => exact ih _ _
  | makeDirectories path next ih => exact ih _ _
  | write path content next ih => exact ih _ _
  | send request next ih => simp only [bind, run, ih, List.cons_append]

end Plan

end SheetSearch
