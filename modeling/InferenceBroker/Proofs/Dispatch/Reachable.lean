import InferenceBroker.Proofs.Dispatch.Consistency

/-!
# The registry of every reachable dispatcher

A dispatcher is reachable when some run of public calls leads to it from a new one, over any
settings and any loader: the loader decides which plugins load, fail to load or refuse, and
the plugins decide which preparations, releases and requests succeed, fail or panic.

Every reachable dispatcher has a consistent registry (`Reachable.consistent`). When no start
or stop waits at the gate, that is when no call is under way, the consistent registry reads
as the engine manager's contract (`Registered`): every engine serves and is ready, one per key;
every transaction is bound once, to the serving engine of its key; each engine counts its
transactions and has at least one; and the lent threads, the lent queues and the loaded plugin
instances are as many as the engines.
-/

namespace InferenceBroker

/-- A public operation of the dispatcher with its arguments: what a caller can do. -/
inductive Operation (L : Type) where
  | start (tx : UInt64) (key : EngineKey) (input : Option Bytes)
  | stop (tx : UInt64) (input : Option Bytes)
  | setOption (tx : UInt64) (t : Int32) (input : Option Bytes)
  | getOption (tx : UInt64) (t : Int32)
  | syncExecute (req : Option Request)
  | asyncExecute (req : Option Request)
  | registerListener (tx : UInt64) (l : Option L)
  | unregisterListener (tx : UInt64)
  | openGate
  | settle
  | takeReplies
  | close

namespace Operation

variable {L : Type}

/-- The operation of a call, its answer dropped. -/
def act : Operation L → Act L Unit
  | .start tx key input => discard (Dispatcher.start tx key input)
  | .stop tx input => discard (Dispatcher.stop tx input)
  | .setOption tx t input => discard (Dispatcher.setOption tx t input)
  | .getOption tx t => discard (Dispatcher.getOption tx t)
  | .syncExecute req => discard (Dispatcher.syncExecute req)
  | .asyncExecute req => discard (Dispatcher.asyncExecute req)
  | .registerListener tx l => discard (Dispatcher.registerListener tx l)
  | .unregisterListener tx => discard (Dispatcher.unregisterListener tx)
  | .openGate => discard Dispatcher.openGate
  | .settle => Dispatcher.settle
  | .takeReplies => discard Dispatcher.takeReplies
  | .close => discard Dispatcher.close

theorem preserves_discard {α : Type} {x : Act L α} (h : Dispatcher.Preserves x) :
    Dispatcher.Preserves (discard x) := fun d hd => by
  rw [Dispatcher.run_discard]
  exact h d hd

/-- Every call keeps the registry consistent. -/
theorem preserves_act (c : Operation L) : Dispatcher.Preserves c.act := by
  cases c with
  | start tx key input => exact preserves_discard (Dispatcher.preserves_start tx key input)
  | stop tx input => exact preserves_discard (Dispatcher.preserves_stop tx input)
  | setOption tx t input => exact preserves_discard (Dispatcher.keeps_setOption tx t input).preserves
  | getOption tx t => exact preserves_discard (Dispatcher.keeps_getOption tx t).preserves
  | syncExecute req => exact preserves_discard (Dispatcher.keeps_syncExecute req).preserves
  | asyncExecute req => exact preserves_discard (Dispatcher.keeps_asyncExecute req).preserves
  | registerListener tx l => exact preserves_discard (Dispatcher.keeps_registerListener tx l).preserves
  | unregisterListener tx => exact preserves_discard (Dispatcher.keeps_unregisterListener tx).preserves
  | openGate => exact preserves_discard Dispatcher.preserves_openGate
  | settle => exact Dispatcher.keeps_settle.preserves
  | takeReplies => exact preserves_discard Dispatcher.keeps_takeReplies.preserves
  | close => exact preserves_discard Dispatcher.preserves_close

end Operation

namespace Dispatcher

variable {L : Type}

/-- The dispatchers that runs of calls reach from a new one, over any settings and loader. -/
inductive Reachable : Dispatcher L → Prop
  | make (settings : DispatcherSettings) (loader : Loader) : Reachable (Dispatcher.make settings loader)
  | call {d : Dispatcher L} (c : Operation L) : Reachable d → Reachable (c.act.run d).2

theorem Reachable.consistent {d : Dispatcher L} (h : d.Reachable) : d.registry.Consistent := by
  induction h with
  | make settings loader => exact consistent_make settings loader
  | call c _ ih => exact c.preserves_act _ ih

/-- The engine manager's registry while no call is under way. -/
structure Registered (d : Dispatcher L) : Prop where
  /-- every engine serves and is ready -/
  ready : ∀ e ∈ d.engines, e.phase = .serving ∧ e.state = .ready
  /-- one engine per key: a key's plugin is loaded once -/
  keys : (d.engines.map (·.key)).Nodup
  /-- every binding finds the serving engine of its engine's key -/
  bound : ∀ c ∈ d.clients, ∃ e, d.lookup c.1 = .ok e ∧ e.id = c.2 ∧ d.servingOf? e.key = some e
  /-- every transaction is bound once -/
  txs : (d.clients.map (·.1)).Nodup
  /-- an engine counts its transactions, and has one at least -/
  refs : ∀ e ∈ d.engines, e.refs = d.clients.countP (·.2 == e.id) ∧ 0 < e.refs
  threads : d.threads.busy = d.engines.length
  queues : d.queues.pool.busy.length = d.engines.length
  instances : d.instances = d.engines.length
  /-- no start is under way -/
  starting : d.starting = []

/-- A transaction bound once is looked up to its engine. -/
theorem lookup_of_mem {l : List (UInt64 × Nat)} {tx : UInt64} {i : Nat} (txs : (l.map (·.1)).Nodup)
    (h : (tx, i) ∈ l) : l.lookup tx = some i := by
  induction l with
  | nil => cases h
  | cons c l ih =>
    rw [List.map_cons, List.nodup_cons] at txs
    rcases List.mem_cons.1 h with rfl | rest
    · simp
    · obtain ⟨k, v⟩ := c
      have other : tx ≠ k := by
        rintro rfl
        have bound := List.mem_map_of_mem (f := fun c : UInt64 × Nat => c.1) rest
        exact txs.1 bound
      simp [List.lookup_cons, beq_false_of_ne other, ih txs.2 rest]

/-- The serving engine of a key is the only one. -/
theorem servingOf?_of_unique {d : Dispatcher L} {e : Engine} (he : e ∈ d.engines) (serving : e.phase = .serving)
    (unique : ∀ x ∈ d.engines, x.phase = .serving → x.key = e.key → x = e) : d.servingOf? e.key = some e := by
  cases h : d.servingOf? e.key with
  | none => exact absurd (List.find?_eq_none.1 h e he) (by simp [serving])
  | some x =>
    have found := List.find?_some h
    simp only [Bool.and_eq_true, beq_iff_eq] at found
    rw [unique x (List.mem_of_find?_eq_some h) found.1 found.2]

/-- The registry invariant of the engine manager: in every dispatcher that calls reach, while
no start or stop waits at the gate, the registry is as the contract says. -/
theorem Reachable.registered {d : Dispatcher L} (h : d.Reachable) (idle : d.waiting = []) : d.Registered := by
  have P : d.registry.Pending [] := by
    have consistent := h.consistent
    unfold Registry.Consistent at consistent
    rwa [show d.registry.waiting = [] from idle] at consistent
  -- with no call waiting, no engine is being started or taken down
  have serving : ∀ e ∈ d.engines, e.phase = .serving := fun e he => by
    cases phase : e.phase with
    | opening =>
      obtain ⟨_, _, mem⟩ := P.starts e.slot (slot_mem he) phase
      cases mem
    | serving => rfl
    | closing =>
      obtain ⟨_, mem⟩ := P.stops e.slot (slot_mem he) phase
      cases mem
  have unique : ∀ x ∈ d.engines, ∀ y ∈ d.engines, x.key = y.key → x = y := fun x hx y hy same =>
    List.inj_on_of_nodup_map P.sound.nodup hx hy
      (congrArg Engine.Slot.id (P.serving x.slot (slot_mem hx) y.slot (slot_mem hy) (serving x hx) (serving y hy) same))
  have running : Registry.lentThreads ↑d.registry.engines =
      Multiset.map (fun s : Engine.Slot => s.thread) ↑d.registry.engines := by
    unfold Registry.lentThreads
    rw [Multiset.filter_eq_self.2 fun s hs => ?_]
    obtain ⟨e, he, rfl⟩ := List.mem_map.1 (Multiset.mem_coe.1 hs)
    rw [show e.slot.phase = .serving from serving e he]
    decide
  refine {
    ready := fun e he => ⟨serving e he, (P.healthy e.slot (slot_mem he)).ready⟩
    keys := List.Nodup.map_on (fun x hx y hy same => unique x hx y hy same) (P.sound.nodup.of_map _)
    bound := fun c hc => ?_
    txs := P.txs
    refs := fun e he => ⟨P.refs e.slot (slot_mem he), P.live e.slot (slot_mem he) (serving e he)⟩
    threads := ?_
    queues := ?_
    instances := P.instances.trans (List.length_map ..)
    starting := List.eq_nil_iff_forall_not_mem.2 fun tx htx => by simpa using P.reserved tx htx }
  · obtain ⟨s, hs, hid, -⟩ := P.bound c hc
    obtain ⟨e, found, rfl⟩ := engine?_of_slot P.sound.nodup hs
    have looked : d.clients.lookup c.1 = some e.id := by
      rw [show e.id = c.2 from hid]
      exact lookup_of_mem P.txs hc
    have found' : d.engine? e.id = some e := found
    refine ⟨e, ?_, hid, servingOf?_of_unique (engine?_mem found).1 (serving e (engine?_mem found).1)
      fun x hx _ same => unique x hx e (engine?_mem found).1 same⟩
    unfold lookup
    rw [looked, Option.bind_some, found']
  · have lent := congrArg Multiset.card P.threads
    rw [running, Multiset.card_map] at lent
    simpa [registry, ThreadPool.busy] using lent
  · have lent := congrArg Multiset.card P.queues
    rw [Multiset.card_map] at lent
    simpa [registry] using lent

/-- A loader with the echo plugin under the key `echo@1`. -/
def echoLoader : Loader :=
  { table := [{ algorithm := "echo", version := 1, kind := "builtin", path := "echo" }] }

/-- A start of the echo plugin from a new dispatcher binds the transaction, and the registry
is as the contract says. -/
theorem registered_echo_start :
    ((Operation.start 7 ⟨"echo", 1⟩ none).act.run (Dispatcher.make (L := Nat) {} echoLoader)).2.clients = [(7, 1)] ∧
      ((Operation.start 7 ⟨"echo", 1⟩ none).act.run (Dispatcher.make (L := Nat) {} echoLoader)).2.Registered :=
  ⟨by decide, Reachable.registered (.call _ (.make _ _)) (by decide)⟩

end Dispatcher

end InferenceBroker
