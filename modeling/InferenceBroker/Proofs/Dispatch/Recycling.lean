import InferenceBroker.Proofs.Dispatch.Stock
import InferenceBroker.Proofs.Dispatch.Accounting

/-!
# Threads and queues go back to their pools as they came out

The dispatcher's pools follow `Stock` through each operation: runs of pool calls in which a
thread is started only right after the pop that lent it, and settled only on its way back.
The threads on their way back are exactly those of the engines being taken down
(`Stocked.draining`). So in every reachable dispatcher both pools are reached by pool calls
alone (`Reachable.stocked`), and what `ThreadPool.Kept` and `QueuePool.Kept` say holds of
them: idle threads are stopped, idle queues are empty.
-/

namespace InferenceBroker

namespace Registry

variable {r : Registry} {s t x : Engine.Slot}

def closingThreads (l : Multiset Engine.Slot) : Multiset Nat :=
  Multiset.map (·.thread) (Multiset.filter (·.phase = .closing) l)

theorem closingThreads_cons_closing {M : Multiset Engine.Slot} (h : t.phase = .closing) :
    closingThreads (t ::ₘ M) = t.thread ::ₘ closingThreads M := by
  unfold closingThreads
  rw [Multiset.filter_cons_of_pos (p := fun x : Engine.Slot => x.phase = .closing) _ h, Multiset.map_cons]

theorem closingThreads_cons_of_ne {M : Multiset Engine.Slot} (h : t.phase ≠ .closing) :
    closingThreads (t ::ₘ M) = closingThreads M := by
  unfold closingThreads
  rw [Multiset.filter_cons_of_neg (p := fun x : Engine.Slot => x.phase = .closing) _ h]

theorem lentThreads_add_closingThreads (l : Multiset Engine.Slot) :
    lentThreads l + closingThreads l = Multiset.map (·.thread) l := by
  unfold lentThreads closingThreads
  rw [← Multiset.map_add, Multiset.add_comm, Multiset.filter_add_not]

theorem closingThreads_setSlot_eq (distinct : (r.engines.map (·.id)).Nodup) (hx : x ∈ r.engines)
    (same : x.id = t.id) (running : x.phase ≠ .closing) :
    closingThreads ↑(r.setSlot t).engines = closingThreads (t ::ₘ ↑r.engines) := by
  rw [coe_setSlot distinct hx same]
  conv => rhs; rw [← Multiset.cons_erase (show x ∈ (↑r.engines : Multiset Engine.Slot) by simpa using hx),
    Multiset.cons_swap, closingThreads_cons_of_ne running]

theorem closingThreads_setSlot (distinct : (r.engines.map (·.id)).Nodup) (hx : x ∈ r.engines)
    (same : x.id = t.id) (running : x.phase ≠ .closing) (running' : t.phase ≠ .closing) :
    closingThreads ↑(r.setSlot t).engines = closingThreads ↑r.engines := by
  rw [closingThreads_setSlot_eq distinct hx same running, closingThreads_cons_of_ne running']

theorem closingThreads_setSlot_closing (distinct : (r.engines.map (·.id)).Nodup) (hx : x ∈ r.engines)
    (same : x.id = t.id) (running : x.phase ≠ .closing) (closing : t.phase = .closing) :
    closingThreads ↑(r.setSlot t).engines = t.thread ::ₘ closingThreads ↑r.engines := by
  rw [closingThreads_setSlot_eq distinct hx same running, closingThreads_cons_closing closing]

theorem closingThreads_create (h : s.phase ≠ .closing) :
    closingThreads ↑(r.create s).engines = closingThreads ↑r.engines := by
  show closingThreads ↑(r.engines ++ [s]) = _
  rw [lend_coe, closingThreads_cons_of_ne h]

theorem closingThreads_dismantle_eq (distinct : (r.engines.map (·.id)).Nodup) (hs : s ∈ r.engines) :
    closingThreads ↑r.engines = closingThreads (s ::ₘ ↑(r.dismantle s).engines) := by
  show _ = closingThreads (s ::ₘ ↑(r.drop s.id).engines)
  rw [coe_drop distinct hs, Multiset.cons_erase (by simpa using hs)]

theorem closingThreads_dismantle (distinct : (r.engines.map (·.id)).Nodup) (hs : s ∈ r.engines)
    (running : s.phase ≠ .closing) : closingThreads ↑(r.dismantle s).engines = closingThreads ↑r.engines := by
  rw [closingThreads_dismantle_eq distinct hs, closingThreads_cons_of_ne running]

theorem closingThreads_dismantle_closing (distinct : (r.engines.map (·.id)).Nodup) (hs : s ∈ r.engines)
    (closing : s.phase = .closing) :
    closingThreads ↑(r.dismantle s).engines = (closingThreads ↑r.engines).erase s.thread := by
  rw [closingThreads_dismantle_eq distinct hs, closingThreads_cons_closing closing, Multiset.erase_cons_head]

end Registry

namespace Dispatcher

variable {L : Type} {α β : Type}

open Registry (closingThreads)

/-! ## The invariant -/

/-- Each pool is reached by its own calls from a new one, and the threads on their way back are
those of the engines being taken down. -/
structure Stocked (d : Dispatcher L) : Prop where
  threads : ∃ capacity, ThreadPool.Reachable capacity d.threads
  queues : ∃ capacity queueCapacity, QueuePool.Reachable capacity queueCapacity d.queues
  draining : (↑d.threads.pool.draining : Multiset Nat) = closingThreads ↑d.registry.engines

theorem stocked_make (settings : DispatcherSettings) (loader : Loader) :
    (Dispatcher.make (L := L) settings loader).Stocked where
  threads := ⟨_, .single (.setLock _ _)⟩
  queues := ⟨_, _, .refl⟩
  draining := rfl

section Steps

variable {d d' : Dispatcher L}

theorem Stocked.restock (h : d.Stocked) (moved : Restocked d d')
    (draining : (↑d'.threads.pool.draining : Multiset Nat) = closingThreads ↑d'.registry.engines) : d'.Stocked where
  threads := h.threads.elim fun capacity reached => ⟨capacity, reached.trans moved.1⟩
  queues := h.queues.elim fun capacity queued => queued.elim fun queueCapacity reached =>
    ⟨capacity, queueCapacity, reached.trans moved.2⟩
  draining := draining

theorem Stocked.returned (h : d.Stocked) (moved : Returned d d')
    (closing : closingThreads ↑d'.registry.engines = closingThreads ↑d.registry.engines) : d'.Stocked :=
  h.restock moved.1 (by rw [moved.2, h.draining, closing])

theorem Stocked.same (h : d.Stocked) (pools : d'.pools = d.pools) (engines : d'.registry.engines = d.registry.engines) :
    d'.Stocked :=
  h.returned (Returned.of_pools pools) (by rw [engines])

theorem Stocked.update {x : Act L α} (h : d.Stocked) (hs : Stays x) (hu : Updates id x) : (x.run d).2.Stocked :=
  h.same (hs d) (congrArg Registry.engines (hu d))

theorem Stocked.keep {x : Act L α} (h : d.Stocked) (hs : Stays x) (hk : Keeps x) (hd : d.registry.Sound) :
    (x.run d).2.Stocked :=
  h.same (hs d) (congrArg Registry.engines (hk d hd))

end Steps

theorem updates_count (series : String) : Updates (L := L) id (count series) := fun d => by
  rw [count, run_modify]
  split <;> rfl

theorem Stocked.counted {d : Dispatcher L} (h : d.Stocked) (op : String) (err : Option Failure) (a : α) :
    ((countLifecycle op err >>= fun _ => pure a).run d).2.Stocked :=
  h.update ((stays_countLifecycle _ _).andThen (stays_pure _)) fun d' => updates_count _ d'

/-- The operation keeps `Stocked`, from a consistent registry. -/
def Restocks (x : Act L α) : Prop :=
  ∀ d : Dispatcher L, d.registry.Consistent → d.Stocked → (x.run d).2.Stocked

theorem restocks_of_keeps {x : Act L α} (hs : Stays x) (hk : Keeps x) : Restocks x := fun _ P h =>
  h.keep hs hk P.sound

theorem restocks_discard {x : Act L α} (h : Restocks x) : Restocks (discard x) := fun d P hs => by
  rw [run_discard]
  exact h d P hs

theorem Restocks.bind {x : Act L α} {f : α → Act L β} (hx : Restocks x) (px : Preserves x)
    (hf : ∀ a, Restocks (f a)) : Restocks (x >>= f) := fun d P h => by
  rw [run_bind]
  exact hf _ _ (px d P) (hx d P h)

theorem restocks_forIn {xs : List α} {init : β} {f : α → β → Act L (ForInStep β)}
    (h : ∀ a b, Restocks (f a b)) (p : ∀ a b, Preserves (f a b)) : Restocks (forIn xs init f) := by
  induction xs generalizing init with
  | nil => exact restocks_of_keeps (stays_pure _) (keeps_pure _)
  | cons a xs ih =>
    simp only [List.forIn_cons]
    refine (h a init).bind (p a init) fun step => ?_
    cases step with
    | done b => exact restocks_of_keeps (stays_pure _) (keeps_pure _)
    | yield b => exact ih

/-! ## Starts -/

section Starts

variable {d d' : Dispatcher L} {tx : UInt64} {key : EngineKey} {input : Option Bytes}

theorem Prepared.closingThreads {e : Engine} {created : Bool} {o : Lifecycle}
    (h : Prepared d d' tx input e created o) (distinct : (d.registry.engines.map (·.id)).Nodup)
    (he : e.slot ∈ d.registry.engines) (running : e.phase ≠ .closing) :
    closingThreads ↑d'.registry.engines = closingThreads ↑d.registry.engines := by
  cases o with
  | started out =>
    rw [h.2]
    exact Registry.closingThreads_setSlot distinct he rfl running (by simp [Engine.Slot.serve])
  | failed err =>
    rw [h.2]
    cases created
    · rfl
    · exact Registry.closingThreads_dismantle (r := d.registry.returnThread e.thread) distinct he running
  | stopped => exact h.elim

theorem StartsReserved.closingThreads {o : Option Lifecycle} (h : StartsReserved d tx key input o d')
    (hd : d.registry.Sound) (fresh : ∀ x ∈ d.engines, x.id < d.nextEngine) :
    closingThreads ↑d'.registry.engines = closingThreads ↑d.registry.engines := by
  cases h with
  | shared serving _ prepared =>
    obtain ⟨hs, phase, -⟩ := servingOf?_slot serving
    exact prepared.closingThreads hd.distinct hs (by rw [phase]; decide)
  | sharedWaits _ _ reg => rw [reg]; rfl
  | unmade _ made reg => rw [reg, made.2]; rfl
  | @made e _ d₁ _ _ isFresh _ reg _ prepared =>
    -- the engine just made has a new serial number, and it is opening
    have opening : e.phase ≠ .closing := by rw [isFresh.phase]; decide
    have sound : d₁.registry.Sound := reg ▸ hd.create (fun x hx same => by
      obtain ⟨y, hy, rfl⟩ := List.mem_map.1 hx
      have older := fresh y hy
      have newest : y.id = d.nextEngine := same.trans isFresh.id
      omega) isFresh.quiet
    have made : e.slot ∈ d₁.registry.engines := reg ▸ List.mem_append_right _ (List.mem_singleton_self _)
    rw [prepared.closingThreads sound.distinct made opening, reg]
    exact Registry.closingThreads_create opening
  | @madeWaits e _ _ _ isFresh _ reg _ reg' =>
    have opening : e.phase ≠ .closing := by rw [isFresh.phase]; decide
    rw [reg', reg]
    exact Registry.closingThreads_create opening

theorem StartsEngine.closingThreads {o : Option Lifecycle} (h : StartsEngine d tx key input o d')
    (hd : d.registry.Sound) (fresh : ∀ x ∈ d.engines, x.id < d.nextEngine) :
    closingThreads ↑d'.registry.engines = closingThreads ↑d.registry.engines := by
  cases h with
  | bound _ => rfl
  | starting _ _ => rfl
  | queued _ _ _ reg => rw [reg]; rfl
  | reserved _ _ _ started => exact started.closingThreads ⟨hd.distinct, hd.quiet, hd.bound⟩ fresh

theorem restocks_startEngine (tx : UInt64) (key : EngineKey) (input : Option Bytes) :
    Restocks (startEngine (L := L) tx key input) := by
  intro d P h
  have fresh := fresh_of_pending P
  have spec := startEngine_spec tx key input P.sound fresh
  have moved := returned_startEngine tx key input fresh
  generalize (startEngine tx key input).run d = p at spec moved ⊢
  obtain ⟨o, d'⟩ := p
  exact h.returned moved (spec.closingThreads P.sound fresh)

theorem restocks_start (tx : UInt64) (key : EngineKey) (input : Option Bytes) :
    Restocks (start (L := L) tx key input) := by
  unfold start
  refine (restocks_startEngine tx key input).bind (preserves_startEngine tx key input) fun r => ?_
  split
  · exact restocks_of_keeps ((stays_countLifecycle _ _).andThen (stays_pure _))
      ((keeps_countLifecycle _ _).andThen (keeps_pure _))
  · exact restocks_of_keeps (stays_pure _) (keeps_pure _)

end Starts

/-! ## Stops -/

theorem lent_of_lookup {d : Dispatcher L} (P : d.registry.Consistent) {tx : UInt64} {e : Engine}
    (looked : d.lookup tx = .ok e) : e.thread ∈ d.threads.pool.busy := by
  obtain ⟨hs, serving, -⟩ := lookup_slot P looked
  have running : e.slot ∈ Multiset.filter (·.phase ≠ .closing) (↑d.registry.engines : Multiset Engine.Slot) :=
    Multiset.mem_filter.2 ⟨Multiset.mem_coe.2 hs, by rw [show e.slot.phase = _ from serving]; decide⟩
  have lent : e.thread ∈ Registry.lentThreads ↑d.registry.engines := Multiset.mem_map_of_mem _ running
  rw [← P.threads] at lent
  exact Multiset.mem_coe.1 lent

/-- A stop unbinds a transaction and perhaps takes its engine apart; or the engine's worker is
held, and the engine is marked closing as its thread starts on its way back. -/
theorem restocks_stopEngine (tx : UInt64) (input : Option Bytes) : Restocks (stopEngine (L := L) tx input) := by
  intro d P h
  have spec := stopEngine_spec tx input P.sound
  have pools := stopEngine_pools tx input fun _ => lent_of_lookup P
  generalize (stopEngine tx input).run d = p at spec pools ⊢
  obtain ⟨o, d'⟩ := p
  cases spec with
  | unbound _ reg =>
    obtain ⟨-, moved⟩ | ⟨⟨⟩, -⟩ := pools
    exact h.returned moved (by rw [reg])
  | refused _ _ reg =>
    obtain ⟨-, moved⟩ | ⟨⟨⟩, -⟩ := pools
    exact h.returned moved (by rw [reg])
  | @released e _ looked _ _ reg =>
    obtain ⟨hs, serving, -⟩ := lookup_slot P looked
    have running : e.phase ≠ .closing := by rw [serving]; decide
    obtain ⟨-, moved⟩ | ⟨⟨⟩, -⟩ := pools
    refine h.returned moved ?_
    rw [reg]
    exact Registry.closingThreads_setSlot P.distinct hs rfl running running
  | @destroyed e _ looked _ _ _ reg =>
    obtain ⟨hs, serving, -⟩ := lookup_slot P looked
    have running : e.phase ≠ .closing := by rw [serving]; decide
    obtain ⟨-, moved⟩ | ⟨⟨⟩, -⟩ := pools
    refine h.returned moved ?_
    rw [reg]
    exact Registry.closingThreads_dismantle (r := (d.registry.removeClient tx).returnThread e.thread) P.distinct hs
      running
  | @waits e _ looked _ _ _ reg =>
    obtain ⟨hs, serving, -⟩ := lookup_slot P looked
    have running : e.phase ≠ .closing := by rw [serving]; decide
    obtain ⟨waits, -⟩ | ⟨-, e', looked', moved, draining⟩ := pools
    · exact absurd rfl waits
    obtain rfl : e = e' := Except.ok.inj (looked.symm.trans looked')
    refine h.restock moved ?_
    calc (↑d'.threads.pool.draining : Multiset Nat)
        = e.thread ::ₘ ↑d.threads.pool.draining := by rw [draining]; rfl
      _ = e.thread ::ₘ closingThreads ↑d.registry.engines := by rw [h.draining]
      _ = closingThreads ↑d'.registry.engines := by
        rw [reg]
        exact (Registry.closingThreads_setSlot_closing (t := e.slot.release tx 0 .closing) P.distinct hs rfl running
          rfl).symm

theorem restocks_stop (tx : UInt64) (input : Option Bytes) : Restocks (stop (L := L) tx input) := by
  unfold stop
  refine (restocks_stopEngine tx input).bind (preserves_stopEngine tx input) fun r => ?_
  split
  · exact restocks_of_keeps ((stays_countLifecycle _ _).andThen (stays_pure _))
      ((keeps_countLifecycle _ _).andThen (keeps_pure _))
  · exact restocks_of_keeps (stays_pure _) (keeps_pure _)

/-! ## The gate and closing -/

section Gate

variable {d : Dispatcher L}

/-- A start that waited prepares on an opening engine; a stop settles the thread of an engine
being taken down as it takes the engine apart. -/
theorem Stocked.finish {b : Background} {rest : List Background} (P : Draining (b :: rest) d) (h : d.Stocked) :
    ((finishWaiting b).run d).2.Stocked := by
  have sound := P.1.sound
  cases b with
  | start tx eid input =>
    obtain ⟨-, z, hz, rfl, opening, -⟩ := P.1.waits _ (List.mem_cons_self ..)
    obtain ⟨e, found, rfl⟩ := engine?_of_slot sound.nodup hz
    have idle := (quiet_of_opening sound (engine?_mem found).1 opening).1
    have running : e.phase ≠ .closing := by rw [show e.phase = _ from opening]; decide
    have prepared := prepareOn_spec tx input true sound found fun _ => idle
    have moved := returned_prepareOn (d := d) tx e.slot.id input true fun _ e' found' => by
      rw [found] at found'
      cases found'
      exact idle
    rw [finishWaiting, run_bind]
    generalize (prepareOn tx e.slot.id input true).run d = p at prepared moved ⊢
    obtain ⟨o, d'⟩ := p
    exact (h.returned moved (prepared.closingThreads sound.distinct hz running)).counted _ _ _
  | stop tx eid =>
    obtain ⟨z, hz, rfl, closing⟩ := P.1.waits _ (List.mem_cons_self ..)
    obtain ⟨e, found, rfl⟩ := engine?_of_slot sound.nodup hz
    -- the engine is being taken down, so its thread is on its way back
    have draining : e.thread ∈ d.threads.pool.draining := by
      have mem : e.slot.thread ∈ closingThreads ↑d.registry.engines :=
        Multiset.mem_map_of_mem _ (Multiset.mem_filter.2 ⟨Multiset.mem_coe.2 hz, closing⟩)
      rw [← h.draining] at mem
      exact Multiset.mem_coe.1 mem
    have pools := finishDestroy_pools found draining
    have reg := registry_finishDestroy sound found
    rw [finishWaiting, run_bind]
    refine (h.restock pools.1 ?_).counted _ _ _
    rw [pools.2, ← Multiset.coe_erase, h.draining, reg]
    exact (Registry.closingThreads_dismantle_closing sound.distinct hz closing).symm
  | queued tx key input =>
    have fresh := fresh_of_pending P.1
    have spec := startReserved_spec tx key input sound fresh
    have moved := returned_startReserved (d := d) tx key input fresh
    rw [finishWaiting, run_bind]
    generalize (startReserved tx key input).run d = p at spec moved ⊢
    obtain ⟨o, d'⟩ := p
    have h' := h.returned moved (spec.closingThreads sound fresh)
    split
    · exact h'.counted _ _ _
    · exact h'.same (stays_pure _ d') rfl

theorem Stocked.finishAll {w : List Background} (P : Draining w d) (h : d.Stocked) :
    ((w.mapM finishWaiting).run d).2.Stocked := by
  induction w generalizing d with
  | nil => exact h
  | cons b rest ih =>
    rw [List.mapM_cons, run_bind, run_bind]
    exact ih P.finish (h.finish P)

end Gate

theorem Keeps.continue_pools {x : Act L α} {f : α → Act L β} (hx : Keeps x) (hs : Stays x)
    {Q : Dispatcher L → Prop} {d : Dispatcher L} (hd : d.registry.Sound)
    (hf : ∀ a d', d'.registry = d.registry → d'.pools = d.pools → Q ((f a).run d').2) : Q ((x >>= f).run d).2 := by
  rw [run_bind]
  exact hf _ _ (hx d hd) (hs d)

theorem restocks_openGate : Restocks (openGate (L := L)) := by
  intro d P h
  have opened : ({ d with gateOpen := true } : Dispatcher L).registry.Consistent := P.openGate
  rw [openGate, run_bind, run_modify, run_bind, run_get]
  refine Keeps.continue_pools (keeps_forIn fun e _ => ?_) (stays_forIn fun e _ => ?_) opened.sound
    fun _ d₂ released same => ?_
  · split
    · exact (keeps_release e.id).andThen (keeps_pure _)
    · exact keeps_pure _
  · split
    · exact (stays_release e.id).andThen (stays_pure _)
    · exact stays_pure _
  · rw [run_bind, run_get]
    dsimp only
    rw [run_bind, run_modify, run_bind]
    have draining : Draining d₂.waiting { d₂ with waiting := [] } := by
      refine ⟨?_, rfl, (congrArg Registry.gateOpen released : d₂.gateOpen = true)⟩
      have P₂ : d₂.registry.Pending d₂.registry.waiting := released ▸ opened
      exact P₂.withWaiting []
    have engines := congrArg Registry.engines released
    have h₂ : ({ d₂ with waiting := [] } : Dispatcher L).Stocked := h.same same engines
    have done := h₂.finishAll draining
    have drained := draining.finishAll
    generalize (d₂.waiting.mapM finishWaiting).run { d₂ with waiting := [] } = p at done drained ⊢
    obtain ⟨results, d₄⟩ := p
    rw [run_bind, run_get, run_bind]
    exact done.keep (stays_workAll _) (keeps_workAll _) drained.1.sound

theorem restocks_close : Restocks (close (L := L)) := by
  unfold close
  refine (restocks_of_keeps stays_get keeps_get).bind keeps_get.preserves fun _ =>
    (restocks_forIn (fun tx err => ?_) ?p).bind (preserves_forIn ?p) fun err => restocks_of_keeps ?_ ?_
  · refine (restocks_stopEngine tx none).bind (preserves_stopEngine tx none) fun o => restocks_of_keeps ?_ ?_
    · split
      · split <;> exact stays_pure _
      · exact stays_pure _
    · split
      · split <;> exact keeps_pure _
      · exact keeps_pure _
  · intro tx err
    refine (preserves_stopEngine tx none).bind fun o => Keeps.preserves ?_
    split
    · split <;> exact keeps_pure _
    · exact keeps_pure _
  · refine stays_get.bind fun _ => ?_
    dsimp only
    refine (stays_modify fun _ => ?_).andThen ?_
    · rfl
    split
    · refine (stays_note _).andThen (stays_get.bind fun _ => ?_)
      split <;> split <;> first | exact (stays_note _).andThen (stays_pure _) | exact stays_pure _
    · refine stays_get.bind fun _ => ?_
      split <;> split <;> first | exact (stays_note _).andThen (stays_pure _) | exact stays_pure _
  · refine keeps_get.bind fun _ => ?_
    dsimp only
    refine (keeps_modify fun _ => ?_).andThen ?_
    · rfl
    split
    · refine (keeps_note _).andThen (keeps_get.bind fun _ => ?_)
      split <;> split <;> first | exact (keeps_note _).andThen (keeps_pure _) | exact keeps_pure _
    · refine keeps_get.bind fun _ => ?_
      split <;> split <;> first | exact (keeps_note _).andThen (keeps_pure _) | exact keeps_pure _

/-! ## Every reachable dispatcher -/

theorem restocks_act (c : Operation L) : Restocks c.act := by
  cases c with
  | start tx key input => exact restocks_discard (restocks_start tx key input)
  | stop tx input => exact restocks_discard (restocks_stop tx input)
  | setOption tx t input =>
    exact restocks_discard (restocks_of_keeps (stays_setOption tx t input) (keeps_setOption tx t input))
  | getOption tx t => exact restocks_discard (restocks_of_keeps (stays_getOption tx t) (keeps_getOption tx t))
  | syncExecute req => exact restocks_discard (restocks_of_keeps (stays_syncExecute req) (keeps_syncExecute req))
  | asyncExecute req => exact restocks_discard (restocks_of_keeps (stays_asyncExecute req) (keeps_asyncExecute req))
  | registerListener tx l =>
    exact restocks_discard (restocks_of_keeps (stays_registerListener tx l) (keeps_registerListener tx l))
  | unregisterListener tx =>
    exact restocks_discard (restocks_of_keeps (stays_unregisterListener tx) (keeps_unregisterListener tx))
  | openGate => exact restocks_discard restocks_openGate
  | settle => exact restocks_of_keeps stays_settle keeps_settle
  | takeReplies => exact restocks_discard (restocks_of_keeps stays_takeReplies keeps_takeReplies)
  | close => exact restocks_discard restocks_close

theorem Reachable.stocked {d : Dispatcher L} (h : d.Reachable) : d.Stocked := by
  induction h with
  | make settings loader => exact stocked_make settings loader
  | call c reached ih => exact restocks_act c _ reached.consistent ih

/-! ## What the engine manager relies on -/

/-- For want of a thread or a queue, because the plugin does not load, or in no known mode. -/
inductive Unmade (key : EngineKey) : Failure → Prop
  | thread (err : Failure) : Unmade key (.within s!"thread for {key.render}" err)
  | queue (err : Failure) : Unmade key (.within s!"queue for {key.render}" err)
  | load (err : Failure) : Unmade key (.within s!"load {key.render}" err)
  | mode (m : InferMode) : Unmade key (wrongMode key m)

/-- Making an engine never fails to start its worker: a popped thread is stopped. -/
theorem Stocked.createEngine_unmade {d : Dispatcher L} (h : d.Stocked) (key : EngineKey) {err : Failure}
    (failed : ((createEngine key).run d).1 = .error err) : Unmade key err := by
  obtain ⟨capacity, reached⟩ := h.threads
  rw [createEngine, run_bind, run_get] at failed
  dsimp only at failed
  split at failed
  · next e _ =>
    cases failed
    exact .thread e
  · next thread tp popped =>
    have startable := reached.kept.pop_startable popped
    rw [run_bind, run_set, run_bind, run_get] at failed
    dsimp only at failed
    split at failed
    · next e _ =>
      rw [run_bind] at failed
      cases failed
      exact .queue e
    · rw [run_bind, run_modify, run_bind, run_get] at failed
      dsimp only at failed
      split at failed
      · next e _ =>
        rw [run_bind, run_bind, run_bind] at failed
        cases failed
        exact .load e
      · rw [run_bind, noteAll_run, run_bind, run_modify] at failed
        dsimp only at failed
        split at failed
        · rw [run_bind, run_bind, run_bind] at failed
          cases failed
          exact .mode _
        · rw [run_bind, run_get] at failed
          dsimp only at failed
          split at failed
          · next e refused =>
            -- the pool would start the thread the pop just handed out
            cases refused.symm.trans startable
          · rw [run_bind, run_set, run_bind, run_pure] at failed
            cases failed

theorem threads_lent_or_draining {d : Dispatcher L} (P : d.registry.Consistent) (h : d.Stocked) :
    (↑d.threads.pool.busy + ↑d.threads.pool.draining : Multiset Nat) = ↑(d.engines.map (·.thread)) := by
  have lent : (↑d.threads.pool.busy : Multiset Nat) = Registry.lentThreads ↑d.registry.engines := P.threads
  rw [lent, h.draining, Registry.lentThreads_add_closingThreads]
  simp only [registry, Multiset.map_coe, List.map_map]
  rfl

end Dispatcher

section Claims

open Dispatcher

/-- Pooled threads are stopped while idle. In every thread pool reached by pops, pushes,
starts of lent threads and stops, an idle thread is not running, so a start on a popped thread
succeeds and a push stops the thread it takes back. In every reachable dispatcher the engines'
threads are exactly those lent or on their way back, idle ones are stopped, and making an
engine never fails because its worker cannot start. -/
theorem pooled_threads_stopped :
    (∀ (capacity : Int) (tp : ThreadPool), ThreadPool.Reachable capacity tp →
      (∀ u ∈ tp.threads, u.id ∈ tp.pool.idle → u.running = false) ∧
      (∀ t tp', tp.pop = .ok (t, tp') → tp'.start t.id = .ok (tp'.update t.id fun u => { u with running := true })) ∧
      ∀ id, (∀ u, tp.thread? id = some u → u.running = false) → tp.stop id = tp) ∧
    (∀ (tp tp' : ThreadPool) (id : Nat), tp.push id = .ok tp' →
      id ∈ tp'.pool.idle ∧ ∀ u ∈ tp'.threads, u.id = id → u.running = false) ∧
    ∀ (L : Type) (d : Dispatcher L), d.Reachable →
      (↑d.threads.pool.busy + ↑d.threads.pool.draining : Multiset Nat) = ↑(d.engines.map (·.thread)) ∧
      (∀ u ∈ d.threads.threads, u.id ∈ d.threads.pool.idle → u.running = false) ∧
      ∀ key err, ((createEngine key).run d).1 = .error err → Unmade key err := by
  refine ⟨fun capacity tp reached => ?_, fun _ _ _ => ThreadPool.push_stops, fun L d reached => ?_⟩
  · have kept := reached.kept
    exact ⟨kept.idle_stopped, fun _ _ => kept.pop_startable, fun _ => kept.stop_stopped⟩
  · have stocked := reached.stocked
    obtain ⟨capacity, pool⟩ := stocked.threads
    exact ⟨threads_lent_or_draining reached.consistent stocked, pool.kept.idle_stopped,
      fun key _ => stocked.createEngine_unmade key⟩

end Claims

end InferenceBroker
