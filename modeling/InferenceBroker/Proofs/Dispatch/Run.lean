import Mathlib.Data.Multiset.AddSub
import InferenceBroker.Dispatch.Requests

/-!
# Running dispatcher operations

A dispatcher operation is a state transformer. `run_bind` and its companions take a `do`
block apart one step at a time, so a proof follows the block's own order.

What the engine manager's invariants speak of is the *registry*: the slot of every engine
(serial number, key, phase, state, reference count, thread, queue, whether its plugin was
unloaded, whether the plugin prepares only behind the gate, whether an engine being
started is still quiet, the transactions its plugin remembers preparing), the bindings of transactions, the reservations of starts under
way, the threads and queues lent out, the plugin instances alive, the calls waiting at the
gate, the next serial number and the gate.

Most of the dispatcher never touches the registry: workers, futures, answers, the journal
and the metrics. An operation that leaves the registry as it found it *keeps* it; keeping
composes along `bind`, so a long operation keeps the registry when each of its steps does.
Workers keep it only in a *sound* registry, where serial numbers are distinct, no engine
being started has work, and every bound transaction's engine is past its start.
-/

namespace InferenceBroker

/-- The transactions a plugin remembers preparing: an echo plugin keeps them in a list; a
module plugin keeps none that can be seen. -/
def Plugin.memory : Plugin → Option (List UInt64)
  | .echo p => some p.prepared
  | .module _ => none

/-- What the engine registry holds of an engine. -/
structure Engine.Slot where
  id : Nat
  key : EngineKey
  phase : Phase
  state : EngineState
  refs : Nat
  thread : Nat
  queueId : Nat
  unloaded : Bool
  gated : Bool
  /-- an engine being started has no queued task and holds none -/
  quiet : Bool
  /-- the transactions its plugin remembers preparing -/
  memory : Option (List UInt64)
  deriving DecidableEq

/-- The slot of an engine. -/
def Engine.slot (e : Engine) : Engine.Slot :=
  ⟨e.id, e.key, e.phase, e.state, e.refs, e.thread, e.queueId, e.loaded.unloaded,
    e.plugin.preparesAfterGate, e.phase != .opening || (e.held.isNone && e.queue.items.isEmpty),
    e.plugin.memory⟩

/-- The engine registry of a dispatcher. Lent threads and queues are counted with their
multiplicity; their order is the pool's business. -/
structure Registry where
  engines : List Engine.Slot
  clients : List (UInt64 × Nat)
  starting : List UInt64
  threads : Multiset Nat
  queues : Multiset Nat
  instances : Nat
  waiting : List Background
  nextEngine : Nat
  gateOpen : Bool

/-- What workers rely on: distinct serial numbers, quiet engines while they are started,
and bound transactions whose engines are past their start. -/
structure Registry.Sound (r : Registry) : Prop where
  distinct : (r.engines.map (·.id)).Nodup
  quiet : ∀ s ∈ r.engines, s.quiet = true
  bound : ∀ c ∈ r.clients, ∃ s ∈ r.engines, s.id = c.2 ∧ s.phase ≠ .opening

namespace Dispatcher

variable {L : Type} {α β : Type}

section Run

theorem run_bind (x : Act L α) (f : α → Act L β) (d : Dispatcher L) :
    (x >>= f).run d = (f (x.run d).1).run (x.run d).2 := rfl

theorem run_get (d : Dispatcher L) : (get : Act L (Dispatcher L)).run d = (d, d) := rfl

theorem run_set (d d' : Dispatcher L) : (set d' : Act L PUnit).run d = (⟨⟩, d') := rfl

theorem run_modify (f : Dispatcher L → Dispatcher L) (d : Dispatcher L) :
    (modify f : Act L PUnit).run d = (⟨⟩, f d) := rfl

theorem run_pure (a : α) (d : Dispatcher L) : (pure a : Act L α).run d = (a, d) := rfl

end Run

/-! ## Properties that compose along `bind`

Most facts about operations below say that every run relates the dispatcher it starts from to
the one it leaves, by a relation that holds of no step and composes over consecutive runs. The
combinators for `pure`, `bind`, loops and `unless` are proved here once for any such relation;
each family takes them from its own `Composes` lemma. -/

/-- Every run of the operation relates the dispatcher it starts from to the one it leaves. -/
def Relates (R : Dispatcher L → Dispatcher L → Prop) (x : Act L α) : Prop := ∀ d, R d (x.run d).2

/-- `R` relates each dispatcher to itself and composes over consecutive runs. -/
structure Composes (R : Dispatcher L → Dispatcher L → Prop) : Prop where
  refl : ∀ d, R d d
  trans : ∀ {d₁ d₂ d₃}, R d₁ d₂ → R d₂ d₃ → R d₁ d₃

/-- Keeping any property of the dispatcher composes. -/
theorem Composes.invariant (Q : Dispatcher L → Prop) : Composes fun d d' => Q d → Q d' where
  refl _ h := h
  trans h₁ h₂ h := h₂ (h₁ h)

section Composes

variable {R : Dispatcher L → Dispatcher L → Prop}

theorem Composes.pure (hR : Composes R) (a : α) : Relates R (pure a : Act L α) := fun d => hR.refl d

theorem Composes.get (hR : Composes R) : Relates R (get : Act L (Dispatcher L)) := fun d => hR.refl d

theorem Composes.bind (hR : Composes R) {x : Act L α} {f : α → Act L β} (hx : Relates R x)
    (hf : ∀ a, Relates R (f a)) : Relates R (x >>= f) := fun d => by
  rw [run_bind]
  exact hR.trans (hx d) (hf _ _)

theorem Composes.andThen (hR : Composes R) {x : Act L α} {y : Act L β} (hx : Relates R x) (hy : Relates R y) :
    Relates R (x >>= fun _ => y) :=
  hR.bind hx fun _ => hy

theorem Composes.unless (hR : Composes R) {c : Bool} {x : Act L PUnit} {k : PUnit → Act L β} (hx : Relates R x)
    (hk : ∀ a, Relates R (k a)) : Relates R (if c = true then k ⟨⟩ else x >>= k) := by
  split
  · exact hk _
  · exact hR.bind hx hk

theorem Composes.forM (hR : Composes R) {xs : List α} {f : α → Act L PUnit} (h : ∀ a ∈ xs, Relates R (f a)) :
    Relates R (xs.forM f) := by
  induction xs with
  | nil => exact hR.pure _
  | cons a xs ih =>
    exact hR.andThen (h a (List.mem_cons_self ..)) (ih fun b hb => h b (List.mem_cons_of_mem a hb))

theorem Composes.forIn (hR : Composes R) {xs : List α} {init : β} {f : α → β → Act L (ForInStep β)}
    (h : ∀ a ∈ xs, ∀ b, Relates R (f a b)) : Relates R (forIn xs init f) := by
  induction xs generalizing init with
  | nil => exact hR.pure _
  | cons a xs ih =>
    rw [List.forIn_cons]
    refine hR.bind (h a (List.mem_cons_self ..) init) fun step => ?_
    -- the loop stops here or goes on with the rest of the list
    cases step with
    | done b => exact hR.pure _
    | yield b => exact ih fun c hc => h c (List.mem_cons_of_mem a hc)

theorem Composes.mapM (hR : Composes R) {xs : List α} {f : α → Act L β} (h : ∀ a ∈ xs, Relates R (f a)) :
    Relates R (xs.mapM f) := by
  induction xs with
  | nil => exact hR.pure _
  | cons a xs ih =>
    rw [List.mapM_cons]
    exact hR.bind (h a (List.mem_cons_self ..)) fun _ =>
      hR.bind (ih fun c hc => h c (List.mem_cons_of_mem a hc)) fun _ => hR.pure _

/-! The dispatcher's small operations, each argued once for every such relation. -/

/-- Counting a failure on an engine relates as putting the engine back with it counted. -/
theorem Composes.failOn (hR : Composes R) (eid : Nat)
    (h : ∀ d e, d.engine? eid = some e → R d ((putEngine { e with counters := e.counters.fail }).run d).2) :
    Relates R (failOn (L := L) eid) := fun d => by
  simp only [Dispatcher.failOn, run_bind, run_get]
  split
  next e he => exact h d e he
  next => exact hR.refl d

/-- Counting a finished task on an engine relates as putting the engine back with it counted. -/
theorem Composes.finishOn (hR : Composes R) (eid : Nat)
    (h : ∀ d e, d.engine? eid = some e → R d ((putEngine { e with counters := e.counters.finish }).run d).2) :
    Relates R (finishOn (L := L) eid) := fun d => by
  simp only [Dispatcher.finishOn, run_bind, run_get]
  split
  next e he => exact h d e he
  next => exact hR.refl d

/-- A synchronous request relates when its call and the count after it do. -/
theorem Composes.syncExecute (hR : Composes R) (counted : ∀ series, Relates R (count (L := L) series))
    (called : ∀ req, Relates R (directRequest (L := L) req)) (req : Option Request) :
    Relates R (syncExecute (L := L) req) := by
  unfold Dispatcher.syncExecute
  cases req with
  | none => exact hR.bind (hR.pure _) fun _ => hR.andThen (counted _) (hR.pure _)
  | some req => exact hR.bind (called req) fun _ => hR.andThen (counted _) (hR.pure _)

/-- An asynchronous request relates when its call and the count after it do. -/
theorem Composes.asyncExecute (hR : Composes R) (counted : ∀ series, Relates R (count (L := L) series))
    (called : ∀ req, Relates R (asyncRequest (L := L) req)) (req : Option Request) :
    Relates R (asyncExecute (L := L) req) := by
  unfold Dispatcher.asyncExecute
  cases req with
  | none => exact hR.bind (hR.pure _) fun _ => hR.andThen (counted _) (hR.pure _)
  | some req => exact hR.bind (called req) fun _ => hR.andThen (counted _) (hR.pure _)

/-- Setting an option relates when putting back the transaction's engine after the plugin
call does. -/
theorem Composes.setOption (hR : Composes R) (tx : UInt64) (t : Int32) (input : Option Bytes)
    (h : ∀ d e, d.lookup tx = .ok e → R d ((putEngine (e.call "set option" fun p => p.setOption t input).2).run d).2) :
    Relates R (setOption (L := L) tx t input) := fun d => by
  simp only [Dispatcher.setOption, run_bind, run_get]
  split
  next => exact hR.refl d
  next e looked => exact h d e looked

/-- Reading an option relates when putting back the transaction's engine after the plugin
call does. -/
theorem Composes.getOption (hR : Composes R) (tx : UInt64) (t : Int32)
    (h : ∀ d e, d.lookup tx = .ok e → R d ((putEngine (e.call "get option" fun p => (p.getOption t, p)).2).run d).2) :
    Relates R (getOption (L := L) tx t) := fun d => by
  simp only [Dispatcher.getOption, run_bind, run_get]
  split
  next => exact hR.refl d
  next e looked => exact h d e looked

/-- Giving a thread back relates when storing the pool it went back to, and noting a failure, do. -/
theorem Composes.returnThread (_ : Composes R) (key : EngineKey) (thread : Nat)
    (pushed : ∀ (d : Dispatcher L) tp, d.threads.push thread = .ok tp → R d { d with threads := tp })
    (noted : ∀ e, Relates R (note (L := L) e)) : Relates R (returnThread (L := L) key thread) := fun d => by
  simp only [Dispatcher.returnThread, run_bind, run_get]
  split
  next tp h => exact pushed d tp h
  next => exact noted _ d

/-- Giving a queue back relates when storing any queue pool, and noting a failure, do. -/
theorem Composes.returnQueue (hR : Composes R) (key : EngineKey) (queue : Nat)
    (stored : ∀ (d : Dispatcher L) qp, R d { d with queues := qp })
    (noted : ∀ e, Relates R (note (L := L) e)) : Relates R (returnQueue (L := L) key queue) := fun d => by
  simp only [Dispatcher.returnQueue, run_bind, run_get]
  split
  · exact stored d _
  · -- the emptied queue is stored, then the failure noted
    rw [run_bind, run_set]
    exact hR.trans (stored d _) (noted _ _)

/-- Unloading a plugin relates when dropping an instance, and noting, do. -/
theorem Composes.unloadPlugin (hR : Composes R) (key : EngineKey) (ld : Loaded) (level : LogLevel)
    (dropped : ∀ d : Dispatcher L, R d { d with instances := d.instances - 1 })
    (noted : ∀ e, Relates R (note (L := L) e)) : Relates R (unloadPlugin (L := L) key ld level) := by
  unfold Dispatcher.unloadPlugin
  rcases Loader.unload ld with ⟨r, ld', notes⟩
  dsimp only
  refine hR.unless dropped fun _ => hR.andThen (hR.forM fun e _ => noted e) ?_
  cases r
  · exact noted _
  · exact hR.pure _

/-- Counting relates when changing the counts alone does. -/
theorem Composes.count (_ : Composes R) (h : ∀ (d : Dispatcher L) counts, R d { d with counts := counts })
    (series : String) : Relates R (count (L := L) series) := fun d => by
  simp only [Dispatcher.count, run_modify]
  split <;> exact h d _

end Composes

/-- The registry of a dispatcher. -/
def registry (d : Dispatcher L) : Registry :=
  ⟨d.engines.map Engine.slot, d.clients, d.starting, d.threads.pool.busy, d.queues.pool.busy,
    d.instances, d.waiting, d.nextEngine, d.gateOpen⟩

/-- No two engines share a serial number. -/
def Distinct (d : Dispatcher L) : Prop := (d.engines.map (·.id)).Nodup

end Dispatcher

theorem Registry.Sound.nodup {L : Type} {d : Dispatcher L} (h : d.registry.Sound) : d.Distinct := by
  have ids := h.distinct
  simp only [Dispatcher.registry, List.map_map] at ids
  exact ids

namespace Dispatcher

variable {L : Type} {α β : Type}

/-- The operation leaves every sound registry as it found it. -/
def Keeps (x : Act L α) : Prop := ∀ d : Dispatcher L, d.registry.Sound → (x.run d).2.registry = d.registry

theorem sound_of_registry {d d' : Dispatcher L} (h : d'.registry = d.registry)
    (hd : d.registry.Sound) : d'.registry.Sound := h ▸ hd

/-- Keeping composes: a registry kept is the sound one found, so the next step keeps it too. -/
theorem Keeps.composes : Composes fun d d' : Dispatcher L => d.registry.Sound → d'.registry = d.registry where
  refl _ _ := rfl
  trans h₁ h₂ hd := (h₂ (sound_of_registry (h₁ hd) hd)).trans (h₁ hd)

theorem keeps_pure (a : α) : Keeps (pure a : Act L α) := Keeps.composes.pure a

theorem Keeps.bind {x : Act L α} {f : α → Act L β} (hx : Keeps x) (hf : ∀ a, Keeps (f a)) :
    Keeps (x >>= f) := Keeps.composes.bind hx hf

theorem Keeps.andThen {x : Act L α} {y : Act L β} (hx : Keeps x) (hy : Keeps y) :
    Keeps (x >>= fun _ => y) := hx.bind fun _ => hy

theorem keeps_modify {f : Dispatcher L → Dispatcher L} (h : ∀ d, (f d).registry = d.registry) :
    Keeps (modify f) := fun d _ => h d

theorem keeps_forM {xs : List α} {f : α → Act L PUnit} (h : ∀ a ∈ xs, Keeps (f a)) :
    Keeps (xs.forM f) := Keeps.composes.forM h

theorem keeps_forIn {xs : List α} {f : α → PUnit → Act L (ForInStep PUnit)}
    (h : ∀ a ∈ xs, Keeps (f a ⟨⟩)) : Keeps (forIn xs ⟨⟩ f) :=
  Keeps.composes.forIn fun a ha _ => h a ha

theorem keeps_note (e : Entry) : Keeps (note (L := L) e) := keeps_modify fun _ => rfl

theorem registry_record (ev : TaskEvent) (d : Dispatcher L) : ((record ev).run d).2.registry = d.registry := rfl

theorem keeps_record (ev : TaskEvent) : Keeps (record (L := L) ev) := fun d _ => registry_record ev d

theorem keeps_count (series : String) : Keeps (count (L := L) series) :=
  Keeps.composes.count (fun _ _ _ => rfl) series

end Dispatcher

end InferenceBroker
