import InferenceBroker.Proofs.Dispatch.Queues

/-!
# A refused asynchronous request leaves no trace

An asynchronous request gets its future before its task is queued, so that an answer never
names an unknown future; when the engine then refuses the task, the future is given back. In
every reachable dispatcher, a refused request, whatever refused it (no request, no engine, an
engine of the other mode, a full future table, an engine not ready, a full queue), leaves the
futures as they were but for the allocation cursor, and every engine's queue and count of
accepted tasks as they were. So the futures pending, completed and dropped are always as many
as the asynchronous requests accepted (`Balanced.counted`).
-/

namespace InferenceBroker

namespace Dispatcher

variable {L : Type}

/-- What a refused asynchronous request leaves: the futures as they were but for the
allocation cursor, and every engine's queue and count of accepted tasks. -/
structure Untraced (d d' : Dispatcher L) : Prop where
  futures : d'.futures = { d.futures with nextSeq := d'.futures.nextSeq }
  queues : d'.engines.map (fun e => (e.id, e.queue, e.counters.submitted)) =
    d.engines.map (fun e => (e.id, e.queue, e.counters.submitted))

theorem Untraced.refl (d : Dispatcher L) : Untraced d d := ⟨rfl, rfl⟩

/-- Storing back a refusing engine keeps every queue and count of accepted tasks. -/
theorem queues_putEngine {d : Dispatcher L} (hd : d.Distinct) {e e' : Engine} (he : d.engine? e.id = some e)
    (id : e'.id = e.id) (queue : e'.queue = e.queue) (submitted : e'.counters.submitted = e.counters.submitted) :
    ((putEngine e').run d).2.engines.map (fun e => (e.id, e.queue, e.counters.submitted)) =
      d.engines.map (fun e => (e.id, e.queue, e.counters.submitted)) := by
  simp only [putEngine, run_modify, List.map_map]
  refine List.map_congr_left fun x hx => ?_
  simp only [Function.comp_apply]
  split
  next same =>
    rw [eq_of_engine? hd he hx (by simpa [id] using same), id, queue, submitted]
  next => rfl

theorem untraced_asyncRequest {d : Dispatcher L} (b : d.ledger.Balanced) (req : Request) :
    ∀ err, ((asyncRequest req).run d).1 = .error err → Untraced d ((asyncRequest req).run d).2 := by
  rw [asyncRequest, run_bind, engineFor_run]
  split
  next => exact fun _ _ => Untraced.refl d
  next e he =>
    have found := engine?_of_lookup (engineFor_lookup he)
    rw [run_bind, run_get]
    dsimp only
    split
    next => exact fun _ _ => Untraced.refl d
    next seq futures created =>
      have sized : d.futures.Sized := ⟨b.sized.1, b.sized.2⟩
      have released := FutureTable.release_created sized created
      rw [run_bind, run_set, run_bind]
      set task : Task := ⟨{ req with requestId := UInt64.ofNat seq }, none, d.now⟩
      rcases hs : e.submit task with ⟨r, e'⟩
      cases r with
      | error err =>
        obtain ⟨same, queue, submitted⟩ := Engine.submit_error hs
        have id : e'.id = e.id := congrArg Engine.Load.id same
        intro _ _
        dsimp only
        rw [run_bind, run_get]
        erw [released]
        -- the future is given back: only the cursor has moved
        refine ⟨rfl, ?_⟩
        exact queues_putEngine (d := { d with futures := futures }) (distinct_of_balanced b : d.Distinct) found id
          queue submitted
      | ok u =>
        intro err accepted
        simp only [run_bind, run_pure] at accepted
        cases accepted

/-- Counting a request changes neither the futures nor the engines. -/
theorem countRequest_keeps (mode : String) (err : Option Failure) (d : Dispatcher L) :
    ((countRequest mode err).run d).2.futures = d.futures ∧ ((countRequest mode err).run d).2.engines = d.engines := by
  simp only [countRequest, count, run_modify]
  split <;> exact ⟨rfl, rfl⟩

theorem untraced_asyncExecute {d : Dispatcher L} (b : d.ledger.Balanced) (req : Option Request) :
    ∀ err, ((asyncExecute req).run d).1 = .error err → Untraced d ((asyncExecute req).run d).2 := by
  intro err rejected
  unfold asyncExecute at rejected ⊢
  cases req with
  | none =>
    simp only [run_bind, run_pure] at rejected ⊢
    obtain ⟨futures, engines⟩ := countRequest_keeps _ _ d
    exact ⟨futures ▸ rfl, by rw [engines]⟩
  | some req =>
    simp only [run_bind, run_pure] at rejected ⊢
    have inner := untraced_asyncRequest b req err rejected
    obtain ⟨futures, engines⟩ := countRequest_keeps _ _ ((asyncRequest req).run d).2
    exact ⟨by rw [futures]; exact inner.futures, by rw [engines]; exact inner.queues⟩

/-- A refused asynchronous request leaves no trace in the futures, and no task in any queue:
the futures are as they were but for the allocation cursor, and every engine's queue and
count of accepted tasks as they were. And at every point the futures pending, completed and
dropped on closing are as many as the asynchronous requests the queues accepted. -/
theorem Reachable.refused_async_untraced {d : Dispatcher L} (h : d.Reachable) (req : Option Request) :
    (∀ err, ((asyncExecute req).run d).1 = .error err → Untraced d ((asyncExecute req).run d).2) ∧
      d.futures.pending.length + d.futures.completed + d.futures.dropped = d.ledger.acceptedAsync.length :=
  ⟨untraced_asyncExecute h.balanced req, h.balanced.counted⟩

theorem refused_async_untraced_echoServed :
    (∀ err, ((asyncExecute (some { transactionId := 7 })).run echoServed).1 = .error err →
        Untraced echoServed ((asyncExecute (some { transactionId := 7 })).run echoServed).2) ∧
      echoServed.futures.pending.length + echoServed.futures.completed + echoServed.futures.dropped =
        echoServed.ledger.acceptedAsync.length :=
  Reachable.refused_async_untraced echoServed_reachable _

end Dispatcher

end InferenceBroker
