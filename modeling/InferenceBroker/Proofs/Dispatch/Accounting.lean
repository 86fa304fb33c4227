import InferenceBroker.Proofs.Dispatch.Bookkeeping

/-!
# Engines made and taken down keep the ledger balanced

Making an engine adds it under the next serial number, ready and empty (`addEngine`), or uses
the number up when its worker cannot start. Taking an engine apart drains its queue, fails
each task left (a direct caller gets its answer, an asynchronous task's future its error), and
forgets the engine once empty; while the tasks left are failed, the ledger's loads, record,
next ticket and dropped futures stay as the drain left them (`Ledger.Aborting`), so each
failure meets the condition of its step. Plugin calls outside the worker leave an engine's load
alone.

With the workers and the requests of `Bookkeeping`, every call keeps the ledger balanced, and
`Reachable.balanced` follows by induction on the calls.
-/

namespace InferenceBroker

namespace Ledger

/-- A teardown failing the tasks left in a drained queue: the ledger stays balanced, and its
loads, its record, its next ticket and its dropped futures stay those of `l₁`, the ledger
when the queue was drained. -/
structure Aborting (l₁ l : Ledger) : Prop where
  balanced : l.Balanced
  loads : l.loads = l₁.loads
  events : l.events = l₁.events
  nextTicket : l.nextTicket = l₁.nextTicket
  dropped : l.dropped = l₁.dropped

variable {l₁ l : Ledger}

theorem Aborting.answer (a : Aborting l₁ l) {k : Nat} (lt : k < l₁.nextTicket) :
    Aborting l₁ { l with answered := k :: l.answered } :=
  { a with balanced := a.balanced.answer (a.nextTicket ▸ lt) }

theorem Aborting.respond (a : Aborting l₁ l) {seq : Nat}
    (free : l₁.dropped = 0 → ∀ u ∈ l₁.awaiting, u.future.seq ≠ seq) : Aborting l₁ (l.respond seq) := by
  have same : l.awaiting = l₁.awaiting := by rw [awaiting, awaiting, a.loads]
  refine ⟨a.balanced.respond fun undropped => ?_, ?_, ?_, ?_, ?_⟩
  · rw [same]
    exact free (a.dropped ▸ undropped)
  · rw [loads_respond, a.loads]
  · rw [events_respond, a.events]
  · rw [nextTicket_respond, a.nextTicket]
  · rw [dropped_respond, a.dropped]

end Ledger

/-- A plugin call outside the worker leaves the engine's load alone. -/
theorem Engine.load_call {α : Type} (e : Engine) (op : String) (f : Plugin → Call α × Plugin) :
    (e.call op f).2.load = e.load := by
  rcases Engine.call_engine e op f with h | h <;> rw [h]
  rfl

namespace Dispatcher

variable {L : Type} {α β : Type}

theorem balances_discard {x : Act L α} (h : Balances x) : Balances (discard x) := fun d b => by
  rw [run_discard]
  exact h d b

/-- An operation after which the ledger has a property, followed by one that balances every
ledger with it. -/
theorem balanced_bind {x : Act L α} {k : α → Act L β} {d : Dispatcher L} (P : Ledger → Prop)
    (hx : P (x.run d).2.ledger) (hk : ∀ a (d' : Dispatcher L), P d'.ledger → ((k a).run d').2.ledger.Balanced) :
    ((x >>= k).run d).2.ledger.Balanced := by
  rw [run_bind]
  exact hk _ _ hx

/-- Taking an engine apart keeps the ledger balanced: its queue is drained, each task left is
failed (a direct caller gets its answer, an asynchronous task's future its error), and the
engine, now empty, is forgotten. -/
theorem balances_dismantle (eid : Nat) : Balances (dismantle (L := L) eid) := by
  intro d b
  rw [dismantle, run_bind, run_get]
  dsimp only
  split
  next e he =>
    obtain ⟨mem, rfl⟩ := engine?_mem he
    have hx : e.load ∈ d.ledger.loads := List.mem_map_of_mem mem
    rw [run_bind, run_bind]
    -- the queue is drained: the ledger's step `drain`
    set l₁ := (d.ledger.setLoad { e.load with state := .draining, queued := [] }).record
      (.drained e.id e.load.queued)
    have drained : ((record (.drained e.id e.queue.items)).run
        ((putEngine { e with queue := e.queue.reset, state := .draining }).run d).2).2.ledger = l₁ := by
      rw [ledger_record, ledger_putEngine]
      rfl
    have b₁ : l₁.Balanced := b.drain hx
    -- each task left was accepted by the queue, and no waiting task owns an asynchronous one's
    -- future
    have accepted : ∀ t ∈ e.queue.items, .accepted e.id t ∈ l₁.events := fun t ht =>
      List.mem_cons_of_mem _ (b.accepted_of_queued (by
        rw [show e.id = e.load.id from rfl, Ledger.queued_of_mem b.distinct hx]
        exact ht))
    have free : l₁.dropped = 0 → ∀ t ∈ e.queue.items, t.async = true →
        ∀ u ∈ l₁.awaiting, u.future.seq ≠ t.future.seq := by
      intro undropped t ht async
      have split : e.load.awaiting.Perm (({ e.load with state := .draining, queued := [] } : Engine.Load).awaiting ++
          e.load.queued.filter Task.async) := by
        simp only [Engine.Load.awaiting, List.filter_nil, List.nil_append]
        exact List.perm_append_comm
      exact (b.awaited undropped).free_of_removed (y := { e.load with state := .draining, queued := [] }) b.distinct
        hx rfl split t (List.mem_filter.2 ⟨ht, async⟩)
    refine balanced_bind (Ledger.Aborting l₁)
      (ledger_forIn (Ledger.Aborting l₁) (fun t ht _ d₂ a => ?_) _ (by rw [drained]; exact ⟨b₁, rfl, rfl, rfl, rfl⟩))
      fun _ d₂ a => ?_
    · -- one task left fails
      split
      next ticket direct =>
        rw [run_bind, run_get, run_bind, run_pure, ledger_answer]
        exact a.answer (b₁.tickets e.id t (accepted t ht) ticket direct)
      next undirected =>
        rw [run_bind, run_get, run_bind, run_pure, ledger_deliver (distinct_of_balanced a.balanced)]
        split
        · exact a.respond fun undropped u hu => free undropped t ht (by simp [Task.async, undirected]) u hu
        · exact a
    · -- the queue goes back, the plugin is unloaded, and the engine, empty now, is forgotten
      have hd₂ := distinct_of_balanced a.balanced
      have empty : ∀ z ∈ d₂.ledger.loads, z.id = e.id → z.queued = [] := by
        rw [a.loads]
        intro z hz same
        rcases Ledger.mem_setLoad hz with rfl | ⟨-, other⟩
        · rfl
        · exact absurd same other
      have finish : ∀ d₃ : Dispatcher L, d₃.ledger = d₂.ledger →
          ((returnQueue e.key e.queueId >>= fun _ => unloadPlugin e.key e.loaded .error >>= fun _ =>
            dropEngine e.id).run d₃).2.ledger.Balanced := by
        intro d₃ same
        rw [run_bind, run_bind, ledger_dropEngine,
          (fixes_unloadPlugin _ _ _).after hd₂ ((fixes_returnQueue _ _).after hd₂ same)]
        exact a.balanced.drop empty
      split
      · exact finish d₂ rfl
      · rw [run_bind]
        exact finish _ (fixes_note _ d₂ hd₂)
  next => exact b

/-- Taking an engine down keeps the ledger balanced: a held worker only leaves it closing, an
idle one has it taken apart. -/
theorem balances_destroyEngine (eid : Nat) : Balances (destroyEngine (L := L) eid) := by
  intro d b
  rw [destroyEngine, run_bind, run_get]
  dsimp only
  split
  next e he =>
    split
    · -- the thread is taken back and the engine, still held, is left closing
      have hx : e.load ∈ d.ledger.loads := List.mem_map_of_mem (engine?_mem he).1
      have kept : d.ledger.setLoad { e with phase := .closing }.load = d.ledger := Ledger.setLoad_mem b.distinct hx
      rw [run_bind, run_get]
      dsimp only
      split
      · rw [run_bind, run_modify, run_bind, run_pure, ledger_putEngine]
        show (d.ledger.setLoad { e with phase := .closing }.load).Balanced
        rw [kept]
        exact b
      · rw [run_bind, run_bind, run_pure, ledger_putEngine]
        show (d.ledger.setLoad { e with phase := .closing }.load).Balanced
        rw [kept]
        exact b
    · exact ((fixes_note _).balances.andThen ((fixes_returnThread _ _).balances.andThen
        ((balances_dismantle _).andThen (fixes_pure _).balances))) d b
  next => exact b

theorem balances_finishDestroy (eid : Nat) : Balances (finishDestroy (L := L) eid) := by
  intro d b
  rw [finishDestroy, run_bind, run_get]
  dsimp only
  split
  next e _ =>
    have settled : Fixes (modify fun d : Dispatcher L => { d with threads := d.threads.settle e.thread }) :=
      fixes_modify fun _ => rfl
    exact ((fixes_note _).balances.andThen (settled.balances.andThen
      ((balances_dismantle _).andThen (fixes_note _).balances))) d b
  next => exact b

/-- Making an engine keeps the ledger balanced: the engine is added under the next serial
number, ready and empty, or, when its worker cannot start, the serial number is used up. -/
theorem balances_createEngine (key : EngineKey) : Balances (createEngine (L := L) key) := by
  intro d b
  rw [createEngine, run_bind, run_get]
  dsimp only
  split
  · exact b
  · next thread tp popped =>
    rw [run_bind, run_set, run_bind, run_get]
    dsimp only
    split
    · exact ((fixes_returnThread _ _).balances.andThen (fixes_pure _).balances) _ b
    · next qid qp queued =>
      rw [run_bind, run_modify, run_bind, run_get]
      dsimp only
      refine ((fixes_noteAll _).balances.bind fun _ => ?_) _ b
      split
      · exact (fixes_returnQueue _ _).balances.andThen ((fixes_returnThread _ _).balances.andThen
          (fixes_pure _).balances)
      · next ld loaded =>
        have counted : Fixes (modify fun d : Dispatcher L => { d with instances := d.instances + 1 }) :=
          fixes_modify fun _ => rfl
        have undone : Fixes (unloadPlugin key ld .warning >>= fun _ => returnQueue key qid >>= fun _ =>
            returnThread (L := L) key thread.id) :=
          (fixes_unloadPlugin _ _ _).andThen ((fixes_returnQueue _ _).andThen (fixes_returnThread _ _))
        refine counted.balances.andThen ?_
        split
        · -- a plugin of an unknown mode is unloaded again
          exact undone.balances.andThen (fixes_pure _).balances
        · refine balances_get_bind fun d₃ b₃ => ?_
          split
          · -- the worker cannot start: its serial number is used up
            rw [run_bind, run_set]
            exact (undone.balances.andThen (fixes_pure _).balances) _ (b₃.withEngine (Nat.le_succ _))
          · -- the engine is added, ready and empty: the ledger's step `addEngine`
            rw [run_bind, run_set]
            refine ((fixes_note _).balances.andThen (fixes_pure _).balances) _ ?_
            convert b₃.addEngine using 1
            simp [ledger, Ledger.addEngine, Engine.load, BoundedQueue.reset]

/-- Letting a plugin prepare a transaction keeps the ledger balanced: the engine's load stays
as it was, and a refused preparation takes down the engine the start made. -/
theorem balances_prepareOn (tx : UInt64) (eid : Nat) (input : Option Bytes) (created : Bool) :
    Balances (prepareOn (L := L) tx eid input created) := by
  intro d b
  rw [prepareOn, run_bind, run_get]
  dsimp only
  split
  next e he =>
    obtain ⟨-, rfl⟩ := engine?_mem he
    rw [run_bind]
    have load := Engine.load_call e "prepare" fun p => p.prepare tx input
    generalize e.call "prepare" (fun p => p.prepare tx input) = c at load ⊢
    obtain ⟨r, e₁⟩ := c
    dsimp only at load ⊢
    have id₁ : e₁.id = e.id := congrArg Engine.Load.id load
    have put := ledger_putEngine_same (distinct_of_balanced b) (id₁ ▸ he) load
    cases r with
    | error err =>
      dsimp only
      split
      · exact ((balances_discard (balances_destroyEngine _)).andThen
          ((fixes_unreserve _).balances.andThen (fixes_pure _).balances)) _ (put ▸ b)
      · exact ((fixes_unreserve _).balances.andThen (fixes_pure _).balances) _ (put ▸ b)
    | ok out =>
      -- the engine serves now, with one more reference: its load is the same
      dsimp only
      have found₁ := engine?_putEngine (d := d) (e := e₁) (id₁ ▸ he)
      rw [run_bind]
      refine (Fixes.balances ?_) _ ?_
      · refine Fixes.andThen ?_ ((fixes_unreserve _).andThen ?_)
        · exact fixes_modify fun _ => rfl
        · split <;> exact (fixes_note _).andThen (fixes_pure _)
      · rw [ledger_putEngine_same (e := { e₁ with refs := e₁.refs + 1, phase := .serving })
          (distinct_of_balanced (put ▸ b)) found₁ rfl, put]
        exact b
  next => exact b

theorem balances_startReserved (tx : UInt64) (key : EngineKey) (input : Option Bytes) :
    Balances (startReserved (L := L) tx key input) := by
  unfold startReserved
  refine fixes_get.balances.bind fun s => ?_
  -- the serving engine of the key is found, or one is made; the start goes on the same way
  split
  refine (fixes_pure _).balances.bind fun made => ?_
  pick_goal 2
  refine (balances_createEngine key).bind fun _ => (fixes_pure _).balances.bind fun made => ?_
  all_goals
    obtain ⟨eid, created⟩ := made
    dsimp only
    split
    · exact (fixes_unreserve _).balances.andThen (fixes_pure _).balances
    · refine balances_get_bind fun d₁ b₁ => ?_
      split
      · split
        · -- the start waits at the gate
          rw [run_bind, run_set]
          exact b₁
        · exact ((balances_prepareOn _ _ _ _).bind fun _ => (fixes_pure _).balances) d₁ b₁
      · exact ((balances_prepareOn _ _ _ _).bind fun _ => (fixes_pure _).balances) d₁ b₁

theorem balances_startEngine (tx : UInt64) (key : EngineKey) (input : Option Bytes) :
    Balances (startEngine (L := L) tx key input) := by
  refine balances_get_bind fun d b => ?_
  split
  · exact b
  · split
    · exact b
    · -- the transaction is reserved; the start waits behind its key, or goes on
      rw [run_bind, run_set]
      split
      · exact ((fixes_modify fun _ => rfl).balances.andThen (fixes_pure _).balances) _ b
      · exact balances_startReserved tx key input _ b

/-- Stopping a transaction keeps the ledger balanced: the plugin's release leaves the engine's
load alone, and the last transaction takes the engine down. -/
theorem balances_stopEngine (tx : UInt64) (input : Option Bytes) : Balances (stopEngine (L := L) tx input) := by
  intro d b
  rw [stopEngine, run_bind, run_get]
  dsimp only
  split
  · exact b
  next e found =>
    have he := engine?_of_lookup found
    rw [run_bind]
    have load := Engine.load_call e "release" fun p => p.release (e.refs == 1) tx
    generalize e.call "release" (fun p => p.release (e.refs == 1) tx) = c at load ⊢
    obtain ⟨r, e₁⟩ := c
    dsimp only at load ⊢
    have id₁ : e₁.id = e.id := congrArg Engine.Load.id load
    have put := ledger_putEngine_same (distinct_of_balanced b) (id₁ ▸ he) load
    cases r with
    | error err => exact (fixes_pure _).balances _ (put ▸ b)
    | ok u =>
      dsimp only
      have found₁ := engine?_putEngine (d := d) (e := e₁) (id₁ ▸ he)
      rw [run_bind]
      refine (?_ : Balances _) _ ?_
      · -- the transaction is unbound; the last one takes the engine down, or waits for it
        refine Balances.andThen (fixes_modify fun _ => rfl).balances ?_
        split
        · refine (balances_destroyEngine _).bind fun destroyed => ?_
          split
          · exact (fixes_note _).balances.andThen (fixes_pure _).balances
          · refine Balances.andThen ?_ (fixes_pure _).balances
            exact (fixes_modify fun _ => rfl).balances
        · exact (fixes_pure _).balances
      · rw [ledger_putEngine_same
          (e := { e₁ with refs := e₁.refs - 1, phase := if e₁.refs - 1 == 0 then .closing else e₁.phase })
          (distinct_of_balanced (put ▸ b)) found₁ rfl, put]
        exact b

/-- Storing back an engine after a plugin call outside the worker fixes the ledger. -/
theorem ledger_putCall {d : Dispatcher L} (hd : d.Distinct) {e : Engine} (he : d.engine? e.id = some e)
    (op : String) (f : Plugin → Call α × Plugin) : ((putEngine (e.call op f).2).run d).2.ledger = d.ledger := by
  have id : (e.call op f).2.id = e.id := congrArg Engine.Load.id (Engine.load_call e op f)
  exact ledger_putEngine_same hd (id ▸ he) (Engine.load_call e op f)

theorem balances_setOption (tx : UInt64) (t : Int32) (input : Option Bytes) :
    Balances (setOption (L := L) tx t input) :=
  Balances.composes.setOption tx t input fun _ _ found b =>
    (ledger_putCall (distinct_of_balanced b) (engine?_of_lookup found) _ _).symm ▸ b

theorem balances_getOption (tx : UInt64) (t : Int32) : Balances (getOption (L := L) tx t) :=
  Balances.composes.getOption tx t fun _ _ found b =>
    (ledger_putCall (distinct_of_balanced b) (engine?_of_lookup found) _ _).symm ▸ b

theorem balances_finishWaiting (w : Background) : Balances (finishWaiting (L := L) w) := by
  cases w with
  | start tx eid input =>
    exact (balances_prepareOn tx eid input true).bind fun _ => (fixes_countLifecycle _ _).balances.andThen
      (fixes_pure _).balances
  | stop tx eid =>
    exact (balances_finishDestroy eid).andThen ((fixes_countLifecycle _ _).balances.andThen (fixes_pure _).balances)
  | queued tx key input =>
    refine (balances_startReserved tx key input).bind fun o => ?_
    split
    · exact (fixes_countLifecycle _ _).balances.andThen (fixes_pure _).balances
    · exact (fixes_pure _).balances

/-- Opening the gate keeps the ledger balanced: held workers are let go, and the starts and
stops that waited finish. -/
theorem balances_openGate : Balances (openGate (L := L)) := by
  unfold openGate
  refine Balances.andThen (fixes_modify fun _ => rfl).balances (fixes_get.balances.bind fun _ => ?_)
  refine (balances_forIn fun e _ _ => ?_).bind fun _ => fixes_get.balances.bind fun _ =>
    Balances.andThen ?_ ((balances_mapM fun w _ => balances_finishWaiting w).bind fun _ =>
      fixes_get.balances.bind fun _ => (balances_workAll _).andThen (fixes_pure _).balances)
  · split
    · exact (balances_release e.id).andThen (fixes_pure _).balances
    · exact (fixes_pure _).balances
  · exact (fixes_modify fun _ => rfl).balances

/-- Closing keeps the ledger balanced: every transaction is stopped, and every pending future
dropped. -/
theorem balances_close : Balances (close (L := L)) := by
  unfold close
  refine fixes_get.balances.bind fun _ => (balances_forIn fun tx _ err => ?_).bind fun _ =>
    fixes_get.balances.bind fun _ => Balances.andThen (fun d b => ?_) ?_
  · -- a failed stop only adds to the error reported
    refine (balances_stopEngine tx none).bind fun stopped => ?_
    split
    · split
      · exact (fixes_pure _).balances
      · exact (fixes_pure _).balances
    · exact (fixes_pure _).balances
  · rw [run_modify]
    exact b.close
  · -- what is left only writes to the journal and reports the error
    refine Fixes.balances ?_
    dsimp only
    split
    refine (fixes_note _).bind fun _ => ?_
    all_goals
      refine fixes_get.bind fun _ => ?_
      split
      all_goals
        split
        · exact (fixes_note _).bind fun _ => fixes_pure _
        · exact fixes_pure _

theorem balances_start (tx : UInt64) (key : EngineKey) (input : Option Bytes) :
    Balances (start (L := L) tx key input) := by
  refine (balances_startEngine tx key input).bind fun r => ?_
  split
  · exact (fixes_countLifecycle _ _).balances.andThen (fixes_pure _).balances
  · exact (fixes_pure _).balances

theorem balances_stop (tx : UInt64) (input : Option Bytes) : Balances (stop (L := L) tx input) := by
  refine (balances_stopEngine tx input).bind fun r => ?_
  split
  · exact (fixes_countLifecycle _ _).balances.andThen (fixes_pure _).balances
  · exact (fixes_pure _).balances

/-- A new dispatcher's ledger is balanced: nothing is queued, recorded or pending. -/
theorem balanced_make (settings : DispatcherSettings) (loader : Loader) :
    (Dispatcher.make (L := L) settings loader).ledger.Balanced := by
  have sized : (FutureTable.make settings.effective.futureCapacity maxSequence : FutureTable L).Sized :=
    FutureTable.make_sized _ (by decide)
  refine {
    distinct := List.nodup_nil
    fresh := fun _ h => by cases h
    logged := fun _ h => by cases h
    flow := fun _ => rfl
    sealed := fun _ ⟨_, h⟩ => by cases h
    settled := fun _ _ newer _ split => by cases newer <;> cases split
    tickets := fun _ _ h => by cases h
    answered := fun _ h => by cases h
    sized := ⟨sized.capacity, sized.cursor⟩
    bounded := rfl
    unique := List.nodup_nil
    counted := rfl
    awaited := fun _ => ⟨List.nodup_nil, fun _ h => absurd h List.not_mem_nil, fun _ h => absurd h List.not_mem_nil⟩ }

end Dispatcher

namespace Operation

variable {L : Type}

theorem balances_act (c : Operation L) : Dispatcher.Balances c.act := by
  cases c with
  | start tx key input => exact Dispatcher.balances_discard (Dispatcher.balances_start tx key input)
  | stop tx input => exact Dispatcher.balances_discard (Dispatcher.balances_stop tx input)
  | setOption tx t input => exact Dispatcher.balances_discard (Dispatcher.balances_setOption tx t input)
  | getOption tx t => exact Dispatcher.balances_discard (Dispatcher.balances_getOption tx t)
  | syncExecute req => exact Dispatcher.balances_discard (Dispatcher.balances_syncExecute req)
  | asyncExecute req => exact Dispatcher.balances_discard (Dispatcher.balances_asyncExecute req)
  | registerListener tx l => exact Dispatcher.balances_discard (Dispatcher.fixes_registerListener tx l).balances
  | unregisterListener tx => exact Dispatcher.balances_discard (Dispatcher.fixes_unregisterListener tx).balances
  | openGate => exact Dispatcher.balances_discard Dispatcher.balances_openGate
  | settle => exact Dispatcher.balances_settle
  | takeReplies => exact Dispatcher.balances_discard Dispatcher.fixes_takeReplies.balances
  | close => exact Dispatcher.balances_discard Dispatcher.balances_close

end Operation

namespace Dispatcher

variable {L : Type}

/-- Every dispatcher that calls reach has a balanced ledger. -/
theorem Reachable.balanced {d : Dispatcher L} (h : d.Reachable) : d.ledger.Balanced := by
  induction h with
  | make settings loader => exact balanced_make settings loader
  | call c _ ih => exact c.balances_act _ ih

end Dispatcher

end InferenceBroker
