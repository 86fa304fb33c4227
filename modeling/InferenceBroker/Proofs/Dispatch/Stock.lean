import InferenceBroker.Proofs.Pool.Threads
import InferenceBroker.Proofs.Pool.Queues
import InferenceBroker.Proofs.Dispatch.Reachable

/-!
# The dispatcher's pools of threads and queues

Only the engine manager touches the pools: making an engine pops a thread and a queue and
starts the thread, giving them back on failure; taking one down pushes its thread back (in two
halves for a worker held at the gate) and resets and pushes back its queue. Everything else
leaves them (`Stays`). Each manager operation leaves the pools it found after a run of pool
calls (`Restocked`), a thread started right after its pop. Most leave the threads on their way
back alone (`Returns`); the last stop of an engine held at the gate adds its thread
(`stopEngine_pools`), and finishing that take-down settles it (`finishDestroy_pools`).
-/

namespace InferenceBroker

namespace Dispatcher

variable {L : Type} {α β : Type}

/-! ## Steps that leave the pools alone -/

def pools (d : Dispatcher L) : ThreadPool × QueuePool Task := (d.threads, d.queues)

def Stays (x : Act L α) : Prop := ∀ d : Dispatcher L, (x.run d).2.pools = d.pools

theorem stays_pure (a : α) : Stays (pure a : Act L α) := fun _ => rfl

theorem stays_get : Stays (get : Act L (Dispatcher L)) := fun _ => rfl

theorem Stays.composes : Composes fun d d' : Dispatcher L => d'.pools = d.pools where
  refl _ := rfl
  trans h₁ h₂ := h₂.trans h₁

theorem Stays.bind {x : Act L α} {f : α → Act L β} (hx : Stays x) (hf : ∀ a, Stays (f a)) : Stays (x >>= f) :=
  Stays.composes.bind hx hf

theorem Stays.andThen {x : Act L α} {y : Act L β} (hx : Stays x) (hy : Stays y) : Stays (x >>= fun _ => y) :=
  hx.bind fun _ => hy

theorem stays_modify {f : Dispatcher L → Dispatcher L} (h : ∀ d, (f d).pools = d.pools) : Stays (modify f) := h

theorem Stays.after {x : Act L α} (hx : Stays x) {d d₁ : Dispatcher L} (h₁ : d₁.pools = d.pools) :
    (x.run d₁).2.pools = d.pools :=
  (hx d₁).trans h₁

theorem pools_ite {c : Prop} [Decidable c] {x y : Act L α} {d : Dispatcher L}
    (hx : c → (x.run d).2.pools = d.pools) (hy : ¬c → (y.run d).2.pools = d.pools) :
    ((if c then x else y).run d).2.pools = d.pools := by
  split
  next h => exact hx h
  next h => exact hy h

/-- An operation that reads the dispatcher, then leaves the pools of what it read. -/
theorem stays_get_bind {f : Dispatcher L → Act L β} (h : ∀ d, ((f d).run d).2.pools = d.pools) :
    Stays (get >>= f) := h

theorem stays_forIn {xs : List α} {init : β} {f : α → β → Act L (ForInStep β)} (h : ∀ a b, Stays (f a b)) :
    Stays (forIn xs init f) := Stays.composes.forIn fun a _ b => h a b

theorem stays_forM {xs : List α} {f : α → Act L PUnit} (h : ∀ a, Stays (f a)) : Stays (xs.forM f) :=
  Stays.composes.forM fun a _ => h a

theorem stays_unless {c : Bool} {x : Act L PUnit} {k : PUnit → Act L β} (hx : Stays x) (hk : ∀ a, Stays (k a)) :
    Stays (if c = true then k ⟨⟩ else x >>= k) := Stays.composes.unless hx hk

theorem stays_note (e : Entry) : Stays (note (L := L) e) := stays_modify fun _ => rfl

theorem stays_noteAll (es : List Entry) : Stays (noteAll (L := L) es) := stays_forM fun e => stays_note e

theorem stays_record (ev : TaskEvent) : Stays (record (L := L) ev) := stays_modify fun _ => rfl

theorem stays_count (series : String) : Stays (count (L := L) series) := Stays.composes.count (fun _ _ => rfl) series

theorem stays_countLifecycle (op : String) (err : Option Failure) : Stays (countLifecycle (L := L) op err) :=
  stays_count _

theorem stays_putEngine (e : Engine) : Stays (putEngine (L := L) e) := stays_modify fun _ => rfl

theorem stays_dropEngine (eid : Nat) : Stays (dropEngine (L := L) eid) := stays_modify fun _ => rfl

theorem stays_answer (ticket moment : Nat) (o : Outcome) : Stays (answer (L := L) ticket moment o) :=
  stays_modify fun _ => rfl

theorem stays_unreserve (tx : UInt64) : Stays (unreserve (L := L) tx) := stays_modify fun _ => rfl

theorem stays_unloadPlugin (key : EngineKey) (ld : Loaded) (level : LogLevel) :
    Stays (unloadPlugin (L := L) key ld level) :=
  Stays.composes.unloadPlugin key ld level (fun _ => rfl) stays_note

theorem stays_registerListener (tx : UInt64) (l : Option L) : Stays (registerListener tx l) := by
  intro d
  cases l <;> rfl

theorem stays_unregisterListener (tx : UInt64) : Stays (unregisterListener (L := L) tx) := fun _ => rfl

theorem stays_takeReplies : Stays (takeReplies (L := L)) := fun _ => rfl

/-! ### Workers -/

theorem stays_failOn (eid : Nat) : Stays (failOn (L := L) eid) := Stays.composes.failOn eid fun _ _ _ => rfl

theorem stays_finishOn (eid : Nat) : Stays (finishOn (L := L) eid) := Stays.composes.finishOn eid fun _ _ _ => rfl

theorem stays_deliver (eid moment : Nat) (event : Event) (resp : Response) :
    Stays (deliver (L := L) eid moment event resp) := by
  unfold deliver
  refine stays_unless (stays_failOn eid) fun _ => stays_get_bind fun d => ?_
  dsimp only
  split
  · simp only [run_bind, run_set]
    split
    · rfl
    · rfl
  · rfl

theorem stays_deliverAll (eid moment : Nat) (events : List (Event × Response)) :
    Stays (deliverAll (L := L) eid moment events) :=
  stays_forM fun ev => stays_deliver eid moment ev.1 ev.2

theorem stays_runDirect (e : Engine) (ticket : Nat) (t : Task) (start : Nat) :
    Stays (runDirect (L := L) e ticket t start) := by
  unfold runDirect
  split
  next c took p _ =>
    refine (stays_putEngine _).bind fun _ => ?_
    -- each outcome of the plugin call ends in the same join point: finish and answer
    have finish : ∀ o, Stays (finishOn (L := L) (e.withPlugin p).id >>= fun _ =>
        answer ticket (start + took.nanos.toNat) o) :=
      fun o => (stays_finishOn _).andThen (stays_answer _ _ _)
    dsimp only
    split
    · exact (stays_pure _).bind finish
    · exact (stays_failOn _).andThen ((stays_pure _).bind finish)
    · exact (stays_failOn _).andThen ((stays_pure _).bind finish)
    · exact (stays_note _).andThen ((stays_failOn _).andThen ((stays_pure _).bind finish))

theorem stays_runAsync (e : Engine) (t : Task) (start : Nat) : Stays (runAsync (L := L) e t start) := by
  unfold runAsync
  split
  refine (stays_putEngine _).bind fun _ => ?_
  split
  · refine stays_get_bind fun d => ?_
    split
    · exact ((stays_deliverAll _ _ _).andThen (stays_finishOn _)) d
    · exact stays_putEngine _ d
  · exact (stays_deliverAll _ _ _).andThen (stays_finishOn _)
  · exact (stays_deliver _ _ _ _).andThen (stays_finishOn _)
  · exact (stays_note _).andThen ((stays_failOn _).andThen ((stays_deliver _ _ _ _).andThen (stays_finishOn _)))

theorem stays_runTask (eid : Nat) (t : Task) (start : Nat) : Stays (runTask (L := L) eid t start) :=
  stays_get_bind fun d => by
    split
    · split
      · exact stays_runDirect _ _ _ _ d
      · exact stays_runAsync _ _ _ d
    · rfl

theorem stays_workUntil (eid horizon fuel : Nat) : Stays (workUntil (L := L) eid horizon fuel) := by
  induction fuel with
  | zero => exact stays_pure _
  | succ fuel ih =>
    refine stays_get_bind fun d => ?_
    split
    · split
      · rfl
      · split
        · rfl
        · exact ((stays_putEngine _).andThen ((stays_record _).andThen ((stays_runTask _ _ _).andThen ih))) d
    · rfl

theorem stays_workEngine (eid horizon : Nat) : Stays (workEngine (L := L) eid horizon) :=
  stays_get_bind fun d => by
    split
    · exact stays_workUntil eid horizon _ d
    · rfl

theorem stays_workAll (horizon : Nat) : Stays (workAll (L := L) horizon) :=
  stays_get.bind fun _ => stays_forIn fun e _ => (stays_workEngine e.id horizon).andThen (stays_pure _)

theorem stays_settle : Stays (settle (L := L)) := (stays_workAll never).andThen (stays_modify fun _ => rfl)

theorem stays_release (eid : Nat) : Stays (release (L := L) eid) := stays_get_bind fun d => by
  split
  · split
    · exact ((stays_putEngine _).andThen (stays_get.bind fun _ => (stays_deliverAll _ _ _).andThen (stays_finishOn _))) d
    · rfl
  · rfl

/-! ### Requests and plugin options -/

theorem stays_giveUp (eid ticket deadline : Nat) (limit : Duration) :
    Stays (directRequest.giveUp (L := L) eid ticket deadline limit) := by
  intro d
  simp only [directRequest.giveUp, run_bind, run_get]
  split
  · rw [run_bind]
    refine Stays.after ?_ (stays_putEngine _ _)
    exact (stays_modify fun _ => by rfl).andThen (stays_get.bind fun _ => (stays_workAll _).andThen (stays_pure _))
  · rfl

theorem stays_directRequest (req : Request) : Stays (directRequest (L := L) req) := by
  intro d
  rw [directRequest, run_bind, engineFor_run]
  split
  · rfl
  · simp only [run_bind, run_get, run_set]
    refine Stays.after ?_ (stays_putEngine _ _)
    split
    · exact stays_pure _
    · refine (stays_record _).andThen (stays_get.bind fun _ => (stays_workEngine _ _).andThen ?_)
      refine stays_get_bind fun d' => ?_
      split
      · -- answered in time, or too late: the first goes on, the second gives up
        refine pools_ite (fun _ => ?_) fun _ => stays_giveUp _ _ _ _ d'
        rw [run_bind, run_set]
        exact Stays.after (stays_get.bind fun _ => (stays_workAll _).andThen (by split <;> exact stays_pure _)) rfl
      · exact stays_giveUp _ _ _ _ d'

theorem stays_asyncRequest (req : Request) : Stays (asyncRequest (L := L) req) := by
  intro d
  rw [asyncRequest, run_bind, engineFor_run]
  split
  · rfl
  · rw [run_bind, run_get]
    dsimp only
    split
    · rfl
    · rw [run_bind, run_set, run_bind]
      refine Stays.after ?_ (stays_putEngine _ _)
      split
      · refine stays_get.bind fun _ => ?_
        split
        · exact (stays_modify fun _ => by rfl).andThen (stays_pure _)
        · exact (stays_note _).andThen (stays_pure _)
      · exact (stays_record _).andThen (stays_get.bind fun _ => (stays_workEngine _ _).andThen (stays_pure _))

theorem stays_syncExecute (req : Option Request) : Stays (syncExecute (L := L) req) :=
  Stays.composes.syncExecute stays_count stays_directRequest req

theorem stays_asyncExecute (req : Option Request) : Stays (asyncExecute (L := L) req) :=
  Stays.composes.asyncExecute stays_count stays_asyncRequest req

theorem stays_setOption (tx : UInt64) (t : Int32) (input : Option Bytes) : Stays (setOption (L := L) tx t input) :=
  Stays.composes.setOption tx t input fun d _ _ => stays_putEngine _ d

theorem stays_getOption (tx : UInt64) (t : Int32) : Stays (getOption (L := L) tx t) :=
  Stays.composes.getOption tx t fun d _ _ => stays_putEngine _ d

/-! ## Steps of the pools -/

def Restocked (d d' : Dispatcher L) : Prop :=
  Relation.ReflTransGen ThreadPool.Move d.threads d'.threads ∧
    Relation.ReflTransGen QueuePool.Move d.queues d'.queues

theorem Restocked.refl (d : Dispatcher L) : Restocked d d := ⟨.refl, .refl⟩

theorem Restocked.trans {d₁ d₂ d₃ : Dispatcher L} (h₁ : Restocked d₁ d₂) (h₂ : Restocked d₂ d₃) : Restocked d₁ d₃ :=
  ⟨h₁.1.trans h₂.1, h₁.2.trans h₂.2⟩

theorem Restocked.of_pools {d d' : Dispatcher L} (h : d'.pools = d.pools) : Restocked d d' := by
  have threads : d'.threads = d.threads := congrArg Prod.fst h
  have queues : d'.queues = d.queues := congrArg Prod.snd h
  rw [Restocked, threads, queues]
  exact Restocked.refl d

/-- After pool calls that take no thread back halfway: threads on their way back stay. -/
def Returned (d d' : Dispatcher L) : Prop :=
  Restocked d d' ∧ d'.threads.pool.draining = d.threads.pool.draining

theorem Returned.refl (d : Dispatcher L) : Returned d d := ⟨Restocked.refl d, rfl⟩

theorem Returned.trans {d₁ d₂ d₃ : Dispatcher L} (h₁ : Returned d₁ d₂) (h₂ : Returned d₂ d₃) : Returned d₁ d₃ :=
  ⟨h₁.1.trans h₂.1, h₂.2.trans h₁.2⟩

theorem Returned.of_pools {d d' : Dispatcher L} (h : d'.pools = d.pools) : Returned d d' :=
  ⟨Restocked.of_pools h, by rw [show d'.threads = d.threads from congrArg Prod.fst h]⟩

def Returns (x : Act L α) : Prop := ∀ d : Dispatcher L, Returned d (x.run d).2

theorem Returns.onto {x : Act L α} (hx : Returns x) {d d₁ : Dispatcher L} (h : Returned d d₁) :
    Returned d (x.run d₁).2 :=
  h.trans (hx d₁)

theorem Returns.after {x : Act L α} (hx : Returns x) {d d₁ : Dispatcher L} (h : Restocked d d₁) {D : List Nat}
    (hD : d₁.threads.pool.draining = D) : Restocked d (x.run d₁).2 ∧ (x.run d₁).2.threads.pool.draining = D :=
  ⟨h.trans (hx d₁).1, (hx d₁).2.trans hD⟩

theorem Stays.returns {x : Act L α} (h : Stays x) : Returns x := fun d => Returned.of_pools (h d)

theorem Returned.composes : Composes (Returned (L := L)) := ⟨Returned.refl, Returned.trans⟩

theorem Returns.bind {x : Act L α} {f : α → Act L β} (hx : Returns x) (hf : ∀ a, Returns (f a)) : Returns (x >>= f) :=
  Returned.composes.bind hx hf

theorem Returns.andThen {x : Act L α} {y : Act L β} (hx : Returns x) (hy : Returns y) : Returns (x >>= fun _ => y) :=
  hx.bind fun _ => hy

theorem returns_returnThread (key : EngineKey) (t : Nat) : Returns (returnThread (L := L) key t) :=
  Returned.composes.returnThread key t (fun d tp pushed => by
      have step : ThreadPool.Move d.threads tp := .push pushed
      obtain ⟨-, rfl⟩ := ThreadPool.push_eq_ok pushed
      exact ⟨⟨.single step, .refl⟩, rfl⟩)
    fun e => (stays_note e).returns

theorem returns_returnQueue (key : EngineKey) (q : Nat) : Returns (returnQueue (L := L) key q) := by
  intro d
  simp only [returnQueue, run_bind, run_get]
  -- the queue is emptied first, then pushed back
  cases found : d.queues.queue? q with
  | none =>
    dsimp only
    split
    next qp pushed => exact ⟨⟨.refl, .single (.push pushed)⟩, rfl⟩
    next => exact ⟨⟨.refl, .refl⟩, rfl⟩
  | some old =>
    have cleared : QueuePool.Move d.queues (d.queues.setQueue q old.reset) := .clear q rfl
    dsimp only
    split
    next qp pushed => exact ⟨⟨.refl, .tail (.single cleared) (.push pushed)⟩, rfl⟩
    next => exact ⟨⟨.refl, .single cleared⟩, rfl⟩

theorem returns_dismantle (eid : Nat) : Returns (dismantle (L := L) eid) := by
  unfold dismantle
  refine stays_get.returns.bind fun d => ?_
  split
  · next e _ =>
    refine (stays_putEngine _).returns.andThen ((stays_record _).returns.andThen ?_)
    refine (stays_forIn fun t _ => ?_).returns.bind fun _ => ?_
    · split
      · exact stays_get.bind fun _ => (stays_answer _ _ _).andThen (stays_pure _)
      · exact stays_get.bind fun _ => (stays_deliver _ _ _ _).andThen (stays_pure _)
    · have rest : Returns (returnQueue (L := L) e.key e.queueId >>= fun _ =>
          unloadPlugin e.key e.loaded .error >>= fun _ => dropEngine eid) :=
        (returns_returnQueue _ _).andThen ((stays_unloadPlugin _ _ _).returns.andThen (stays_dropEngine _).returns)
      split
      · exact rest
      · exact (stays_note _).returns.andThen rest
  · exact (stays_pure _).returns

/-- Pops a thread and a queue and starts the thread, or gives back what it popped. -/
theorem returns_createEngine (key : EngineKey) : Returns (createEngine (L := L) key) := by
  intro d
  rw [createEngine, run_bind, run_get]
  dsimp only
  split
  · exact Returned.refl d
  · next thread tp popped =>
    have lent : thread.id ∈ tp.pool.busy := by
      rw [ThreadPool.pop_busy popped]
      exact List.mem_append_right _ (List.mem_singleton_self _)
    have took : Returned d { d with threads := tp } := by
      refine ⟨⟨.single (.pop popped), .refl⟩, ?_⟩
      obtain ⟨made, pool, popped', rfl, -⟩ := ThreadPool.pop_eq_ok popped
      rcases Pool.pop_eq_ok popped' with ⟨-, -, -, rfl⟩ | ⟨-, -, -, -, rfl⟩ <;> rfl
    rw [run_bind, run_set, run_bind, run_get]
    dsimp only
    refine took.trans ?_
    split
    · exact ((returns_returnThread _ _).andThen (stays_pure _).returns) _
    · next qid qp queued =>
      rw [run_bind, run_modify, run_bind, run_get]
      dsimp only
      refine Returned.trans (⟨⟨.refl, .single (.pop queued)⟩, rfl⟩ :
        Returned { d with threads := tp } { d with threads := tp, queues := qp }) ?_
      -- giving back what was popped, after the plugin was or was not loaded
      have undone : ∀ (ld : Loaded) (r : Except Failure Nat), Returns (unloadPlugin (L := L) key ld .warning >>= fun _ =>
          returnQueue key qid >>= fun _ => returnThread key thread.id >>= fun _ => pure r) := fun ld _ =>
        (stays_unloadPlugin _ _ _).returns.andThen ((returns_returnQueue _ _).andThen
          ((returns_returnThread _ _).andThen (stays_pure _).returns))
      split
      · exact ((stays_noteAll _).returns.andThen ((returns_returnQueue _ _).andThen
          ((returns_returnThread _ _).andThen (stays_pure _).returns))) _
      · next ld loadedOk =>
        rw [run_bind, noteAll_run, run_bind, run_modify]
        dsimp only
        split
        · exact (undone ld _).onto (.of_pools rfl)
        · rw [run_bind, run_get]
          dsimp only
          split
          · rw [run_bind, run_set]
            exact (undone ld _).onto (.of_pools rfl)
          · next tp' started =>
            -- the worker starts on the thread just popped, which the caller holds
            rw [run_bind, run_set, run_bind, run_pure]
            refine (stays_note _).returns.onto ⟨⟨.single (.start lent started), .refl⟩, ?_⟩
            rw [ThreadPool.start_pool started]

/-! ## Taking engines down and making them -/

theorem Engine.id_call (e : Engine) (op : String) (f : Plugin → Call α × Plugin) : (e.call op f).2.id = e.id := by
  rcases Engine.call_engine e op f with h | h <;> rw [h]
  rfl

theorem Engine.thread_call (e : Engine) (op : String) (f : Plugin → Call α × Plugin) :
    (e.call op f).2.thread = e.thread := by
  rcases Engine.call_engine e op f with h | h <;> rw [h]
  rfl

theorem returned_destroyEngine_idle {d : Dispatcher L} {eid : Nat} {e : Engine} (he : d.engine? eid = some e)
    (idle : e.held = none) : Returned d ((destroyEngine eid).run d).2 := by
  rw [destroyEngine, run_bind, run_get]
  dsimp only
  rw [he]
  dsimp only
  rw [if_neg (by simp [idle])]
  exact ((stays_note _).returns.andThen ((returns_returnThread _ _).andThen
    ((returns_dismantle _).andThen (stays_pure _).returns))) d

theorem destroyEngine_idle_true {d : Dispatcher L} {eid : Nat} {e : Engine} (he : d.engine? eid = some e)
    (idle : e.held = none) : ((destroyEngine eid).run d).1 = true := by
  rw [destroyEngine, run_bind, run_get]
  dsimp only
  rw [he]
  dsimp only
  rw [if_neg (by simp [idle]), run_bind, run_bind, run_bind, run_pure]

/-- Its worker held at the gate, the engine's lent thread starts on its way back. -/
theorem destroyEngine_reclaims {d : Dispatcher L} {eid : Nat} {e : Engine} (he : d.engine? eid = some e)
    (held : e.held.isSome) (lent : e.thread ∈ d.threads.pool.busy) :
    Restocked d ((destroyEngine eid).run d).2 ∧
      ((destroyEngine eid).run d).2.threads.pool.draining = e.thread :: d.threads.pool.draining := by
  have reclaimed : d.threads.reclaim e.thread = .ok { d.threads with pool := { d.threads.pool with
      busy := d.threads.pool.busy.erase e.thread, draining := e.thread :: d.threads.pool.draining } } := by
    simp only [ThreadPool.reclaim, Pool.reclaim, if_pos lent]
    rfl
  rw [destroyEngine, run_bind, run_get]
  dsimp only
  rw [he]
  dsimp only
  rw [if_pos held, run_bind, run_get]
  dsimp only
  rw [reclaimed]
  dsimp only
  rw [run_bind, run_modify, run_bind, run_pure]
  refine (stays_putEngine _).returns.after ?_ rfl
  exact ⟨.single (.reclaim reclaimed), .refl⟩

/-- When it fails on an engine the start made, that engine, its worker not held, is taken down. -/
theorem returned_prepareOn (tx : UInt64) (eid : Nat) (input : Option Bytes) (created : Bool) {d : Dispatcher L}
    (idle : created → ∀ e, d.engine? eid = some e → e.held = none) :
    Returned d ((prepareOn tx eid input created).run d).2 := by
  rw [prepareOn, run_bind, run_get]
  dsimp only
  cases found : d.engine? eid with
  | none => exact Returned.refl d
  | some e =>
    dsimp only
    rw [run_bind]
    have held := Engine.held_call e "prepare" (fun p => p.prepare tx input)
    have id₁ := Engine.id_call e "prepare" (fun p => p.prepare tx input)
    generalize e.call "prepare" (fun p => p.prepare tx input) = c at held id₁ ⊢
    obtain ⟨r, e₁⟩ := c
    dsimp only at held id₁ ⊢
    have put : Returned d ((putEngine e₁).run d).2 := (stays_putEngine e₁).returns d
    cases r with
    | error err =>
      dsimp only
      cases created
      · rw [if_neg Bool.false_ne_true]
        exact ((stays_unreserve _).returns.andThen (stays_pure _).returns).onto put
      · rw [if_pos rfl, run_bind]
        -- the engine the start made is taken down
        have found₁ : ((putEngine e₁).run d).2.engine? eid = some e₁ := by
          rw [← (engine?_mem found).2, ← id₁]
          exact engine?_putEngine (by rw [id₁, (engine?_mem found).2]; exact found)
        refine ((stays_unreserve _).returns.andThen (stays_pure _).returns).onto (put.trans ?_)
        rw [run_discard]
        exact returned_destroyEngine_idle found₁ (held.trans (idle rfl e found))
    | ok out =>
      dsimp only
      refine Returns.onto ?_ put
      refine (stays_putEngine _).returns.andThen ((stays_modify fun _ => by rfl).returns.andThen
        ((stays_unreserve _).returns.andThen ?_))
      split <;> exact (stays_note _).returns.andThen (stays_pure _).returns

theorem returned_startReserved (tx : UInt64) (key : EngineKey) (input : Option Bytes) {d : Dispatcher L}
    (fresh : ∀ x ∈ d.engines, x.id < d.nextEngine) :
    Returned d ((startReserved tx key input).run d).2 := by
  rw [startReserved, run_bind, run_get]
  dsimp only
  cases serving : d.servingOf? key with
  | some e =>
    dsimp only
    rw [run_bind, run_pure]
    dsimp only
    rw [run_bind, run_get]
    dsimp only
    -- the serving engine prepares, and nothing is taken down
    have shared := returned_prepareOn (d := d) tx e.id input false fun h => absurd h Bool.false_ne_true
    split
    · split
      · rw [run_bind, run_set, run_pure]
        exact Returned.of_pools rfl
      · rw [run_bind, run_pure]
        exact shared
    · rw [run_bind, run_pure]
      exact shared
  | none =>
    dsimp only
    rw [run_bind, run_bind, run_pure]
    have made := createEngine_spec (L := L) key d
    have took := returns_createEngine (L := L) key d
    generalize (createEngine key).run d = p at made took ⊢
    obtain ⟨r, d₁⟩ := p
    dsimp only at made took ⊢
    cases r with
    | error err =>
      rw [run_bind, run_pure]
      exact took.trans ((stays_unreserve _).returns d₁)
    | ok eid =>
      obtain ⟨rfl, e, isFresh, engines, -⟩ := made
      have found := engine?_append (isFresh.id ▸ fresh) engines
      rw [isFresh.id] at found
      dsimp only
      rw [run_bind, run_get]
      dsimp only
      refine took.trans ?_
      -- the engine just made prepares; its worker is not held
      have made := returned_prepareOn (d := d₁) tx d.nextEngine input true fun _ e' found' => by
        rw [found] at found'
        cases found'
        exact isFresh.held
      rw [found]
      dsimp only
      split
      · rw [run_bind, run_set, run_pure]
        exact Returned.of_pools rfl
      · rw [run_bind, run_pure]
        exact made

theorem returned_startEngine (tx : UInt64) (key : EngineKey) (input : Option Bytes) {d : Dispatcher L}
    (fresh : ∀ x ∈ d.engines, x.id < d.nextEngine) :
    Returned d ((startEngine tx key input).run d).2 := by
  rw [startEngine, run_bind, run_get]
  dsimp only
  split
  · exact Returned.refl d
  · split
    · exact Returned.refl d
    · rw [run_bind, run_set]
      split
      · rw [run_bind, run_modify, run_pure]
        exact Returned.of_pools rfl
      · exact returned_startReserved (d := { d with starting := d.starting ++ [tx] }) tx key input fresh

/-- A stop gives back what it took, but the last stop of an engine held at the gate waits, its
thread on its way back. -/
theorem stopEngine_pools (tx : UInt64) (input : Option Bytes) {d : Dispatcher L}
    (lent : ∀ e, d.lookup tx = .ok e → e.thread ∈ d.threads.pool.busy) :
    ((stopEngine tx input).run d).1 ≠ none ∧ Returned d ((stopEngine tx input).run d).2 ∨
      ((stopEngine tx input).run d).1 = none ∧
      ∃ e, d.lookup tx = .ok e ∧ Restocked d ((stopEngine tx input).run d).2 ∧
        ((stopEngine tx input).run d).2.threads.pool.draining = e.thread :: d.threads.pool.draining := by
  rw [stopEngine, run_bind, run_get]
  dsimp only
  split
  · exact .inl ⟨Option.some_ne_none _, Returned.refl d⟩
  · next e looked =>
    have found := engine?_of_lookup looked
    rw [run_bind]
    have held := Engine.held_call e "release" (fun p => p.release (e.refs == 1) tx)
    have id₁ := Engine.id_call e "release" (fun p => p.release (e.refs == 1) tx)
    have thread₁ := Engine.thread_call e "release" (fun p => p.release (e.refs == 1) tx)
    generalize e.call "release" (fun p => p.release (e.refs == 1) tx) = c at held id₁ thread₁ ⊢
    obtain ⟨r, e₁⟩ := c
    dsimp only at held id₁ thread₁ ⊢
    have put : Returned d ((putEngine e₁).run d).2 := (stays_putEngine e₁).returns d
    cases r with
    | error err => exact .inl ⟨Option.some_ne_none _, (stays_pure _).returns.onto put⟩
    | ok u =>
      dsimp only
      rw [run_bind, run_bind, run_modify]
      have pools₁ : ((putEngine e₁).run d).2.pools = d.pools := stays_putEngine e₁ d
      by_cases zero : e₁.refs - 1 = 0
      · have last : (e₁.refs - 1 == 0) = true := beq_iff_eq.2 zero
        rw [last, if_pos rfl, if_pos rfl, run_bind]
        -- the engine stored last is closing, and unbinding the transaction leaves it alone
        have found₂ := engine?_putEngine (e := { e₁ with refs := e₁.refs - 1, phase := .closing })
          (engine?_putEngine (d := d) (e := e₁) (by rw [id₁]; exact found))
        have pools₂ := (stays_putEngine { e₁ with refs := e₁.refs - 1, phase := .closing }).after pools₁
        generalize ((putEngine { e₁ with refs := e₁.refs - 1, phase := .closing }).run
          ((putEngine e₁).run d).2).2 = d₂ at found₂ pools₂ ⊢
        have found₃ : ({ d₂ with clients := d₂.clients.filter (·.1 != tx) } : Dispatcher L).engine? e₁.id =
            some { e₁ with refs := e₁.refs - 1, phase := .closing } := found₂
        have unbound : Returned d { d₂ with clients := d₂.clients.filter (·.1 != tx) } := Returned.of_pools pools₂
        cases hheld : e.held with
        | none =>
          rw [destroyEngine_idle_true found₃ (held.trans hheld), if_pos rfl, run_bind, run_pure]
          exact .inl ⟨Option.some_ne_none _, (stays_note _).returns.onto
            (unbound.trans (returned_destroyEngine_idle found₃ (held.trans hheld)))⟩
        | some h =>
          -- the worker is held: its thread, still lent, starts on its way back and the stop waits
          have isHeld : ({ e₁ with refs := e₁.refs - 1, phase := .closing } : Engine).held.isSome := by
            show e₁.held.isSome
            rw [held, hheld]
            rfl
          have lent₃ : e₁.thread ∈ ({ d₂ with clients := d₂.clients.filter (·.1 != tx) } : Dispatcher L).threads.pool.busy := by
            rw [show d₂.threads = d.threads from congrArg Prod.fst pools₂, thread₁]
            exact lent e looked
          have reclaims := destroyEngine_reclaims found₃ isHeld lent₃
          rw [(destroyEngine_held found₃ isHeld).1, if_neg Bool.false_ne_true, run_bind, run_modify, run_pure]
          refine .inr ⟨rfl, e, looked, unbound.1.trans (reclaims.1.trans (Restocked.of_pools rfl)), ?_⟩
          exact reclaims.2.trans (congrArg₂ List.cons thread₁ unbound.2)
      · have more : (e₁.refs - 1 == 0) = false := beq_false_of_ne zero
        rw [more, if_neg Bool.false_ne_true, if_neg Bool.false_ne_true, run_pure]
        have stored := (stays_putEngine { e₁ with refs := e₁.refs - 1, phase := e₁.phase }).returns.onto put
        exact .inl ⟨Option.some_ne_none _, stored.trans (Returned.of_pools rfl)⟩

/-- The thread on its way back comes back, and the engine is taken apart. -/
theorem finishDestroy_pools {d : Dispatcher L} {eid : Nat} {e : Engine} (he : d.engine? eid = some e)
    (draining : e.thread ∈ d.threads.pool.draining) :
    Restocked d ((finishDestroy eid).run d).2 ∧
      ((finishDestroy eid).run d).2.threads.pool.draining = d.threads.pool.draining.erase e.thread := by
  rw [finishDestroy, run_bind, run_get]
  dsimp only
  rw [he]
  dsimp only
  rw [run_bind, run_bind, run_modify]
  have settled : ThreadPool.Move d.threads (d.threads.settle e.thread) := .settle draining
  refine ((returns_dismantle eid).andThen (stays_note _).returns).after ?_ rfl
  exact ⟨.single settled, .refl⟩

end Dispatcher

end InferenceBroker
