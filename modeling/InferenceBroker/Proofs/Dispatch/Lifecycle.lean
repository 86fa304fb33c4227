import Mathlib.Data.Multiset.AddSub
import InferenceBroker.Proofs.Dispatch.Workers

/-!
# Starting and stopping engines, on the registry

Starts and stops change the registry only by the `Registry` operations below: an engine is
created (slot, lent thread and queue, plugin instance, next serial number), its slot replaced,
a transaction bound or unbound, a start reserved or unreserved, an engine taken apart, a start
or stop left waiting at the gate. Each manager operation acts as a sequence of them: simple
steps uniformly (`Updates`), the rest path by path (`Created`, `Prepared`, `StartsReserved`,
`StartsEngine`, `StopsEngine`). Pools lend by appending and take back by erasing one copy, so
lent items change as a multiset: what a failed start lends, it gives back.
-/

namespace InferenceBroker

namespace Pool

variable {α : Type}

theorem pop_busy {p p' : Pool α} {fresh a : α} {made : Bool} (h : p.pop fresh = .ok (a, made, p')) :
    p'.busy = p.busy ++ [a] := by
  unfold pop at h
  split at h
  · cases h
    rfl
  · split at h
    · cases h
      rfl
    · cases h

theorem push_ok [DecidableEq α] {p p' : Pool α} {a : α} (h : p.push a = .ok p') :
    p'.busy = p.busy.erase a := by
  unfold push at h
  split at h
  · cases h
    rfl
  · cases h

theorem push_error [DecidableEq α] {p : Pool α} {a : α} {err : Failure} (h : p.push a = .error err) :
    a ∉ p.busy := by
  unfold push at h
  split at h
  · cases h
  · assumption

theorem reclaim_ok [DecidableEq α] {p p' : Pool α} {a : α} (h : p.reclaim a = .ok p') :
    p'.busy = p.busy.erase a := by
  unfold reclaim at h
  split at h
  · cases h
    rfl
  · cases h

theorem reclaim_error [DecidableEq α] {p : Pool α} {a : α} {err : Failure} (h : p.reclaim a = .error err) :
    a ∉ p.busy := by
  unfold reclaim at h
  split at h
  · cases h
  · assumption

end Pool

namespace ThreadPool

theorem pop_busy {tp tp' : ThreadPool} {t : Thread} (h : tp.pop = .ok (t, tp')) :
    tp'.pool.busy = tp.pool.busy ++ [t.id] := by
  unfold pop at h
  dsimp only at h
  cases hp : tp.pool.pop (tp.threads.length + 1) with
  | error err =>
    rw [hp] at h
    cases h
  | ok v =>
    obtain ⟨id, made, pool⟩ := v
    rw [hp] at h
    have busy := Pool.pop_busy hp
    dsimp only [bind, Except.bind] at h
    split at h
    next found =>
      cases h
      unfold thread? at found
      have same := List.find?_some found
      simp only [beq_iff_eq] at same
      rw [same]
      exact busy
    next =>
      cases h
      exact busy

theorem start_pool {tp tp' : ThreadPool} {id : Nat} (h : tp.start id = .ok tp') : tp'.pool = tp.pool := by
  unfold start at h
  split at h
  · split at h
    · cases h
    · cases h
      rfl
  · cases h
    rfl

theorem stop_pool (tp : ThreadPool) (id : Nat) : (tp.stop id).pool = tp.pool := rfl

theorem push_ok {tp tp' : ThreadPool} {id : Nat} (h : tp.push id = .ok tp') :
    tp'.pool.busy = tp.pool.busy.erase id := by
  unfold push at h
  dsimp only at h
  rw [stop_pool] at h
  split at h
  · cases hp : tp.pool.push id with
    | error err =>
      rw [hp] at h
      cases h
    | ok pool =>
      rw [hp] at h
      cases h
      exact Pool.push_ok hp
  · cases h

theorem push_error {tp : ThreadPool} {id : Nat} {err : Failure} (h : tp.push id = .error err) :
    id ∉ tp.pool.busy := by
  unfold push at h
  dsimp only at h
  rw [stop_pool] at h
  split at h
  · cases hp : tp.pool.push id with
    | error err =>
      exact Pool.push_error hp
    | ok pool =>
      rw [hp] at h
      cases h
  · next lent =>
    simpa [Pool.lent] using lent

theorem reclaim_ok {tp tp' : ThreadPool} {id : Nat} (h : tp.reclaim id = .ok tp') :
    tp'.pool.busy = tp.pool.busy.erase id := by
  unfold reclaim at h
  cases hp : tp.pool.reclaim id with
  | error err =>
    rw [hp] at h
    cases h
  | ok pool =>
    rw [hp] at h
    cases h
    exact Pool.reclaim_ok hp

theorem reclaim_error {tp : ThreadPool} {id : Nat} {err : Failure} (h : tp.reclaim id = .error err) :
    id ∉ tp.pool.busy := by
  unfold reclaim at h
  cases hp : tp.pool.reclaim id with
  | error err => exact Pool.reclaim_error hp
  | ok pool =>
    rw [hp] at h
    cases h

end ThreadPool

namespace QueuePool

variable {α : Type}

theorem pop_busy {qp qp' : QueuePool α} {h : Nat} (hp : qp.pop = .ok (h, qp')) :
    qp'.pool.busy = qp.pool.busy ++ [h] := by
  unfold pop at hp
  dsimp only at hp
  cases hq : qp.pool.pop (qp.queues.length + 1) with
  | error err =>
    rw [hq] at hp
    cases hp
  | ok v =>
    obtain ⟨id, made, pool⟩ := v
    rw [hq] at hp
    cases hp
    exact Pool.pop_busy hq

theorem push_ok {qp qp' : QueuePool α} {h : Nat} (hp : qp.push h = .ok qp') :
    qp'.pool.busy = qp.pool.busy.erase h := by
  unfold push at hp
  cases hq : qp.pool.push h with
  | error err =>
    rw [hq] at hp
    cases hp
  | ok pool =>
    rw [hq] at hp
    cases hp
    exact Pool.push_ok hq

theorem push_error {qp : QueuePool α} {h : Nat} {err : Failure} (hp : qp.push h = .error err) :
    h ∉ qp.pool.busy := by
  unfold push at hp
  cases hq : qp.pool.push h with
  | error err => exact Pool.push_error hq
  | ok pool =>
    rw [hq] at hp
    cases hp

theorem setQueue_pool (qp : QueuePool α) (h : Nat) (q : BoundedQueue α) :
    (qp.setQueue h q).pool = qp.pool := rfl

end QueuePool

theorem Loader.make?_fresh {m : Maker} {p : Plugin} (h : Loader.make? m = .ok p) : ∀ l ∈ p.memory, l = [] := by
  unfold Loader.make? at h
  split at h
  · cases h
    intro l hl
    cases hl
    rfl
  · cases h
  · cases h
  · cases h
  · split at h
    · cases h
      intro l hl
      cases hl
    · cases h

theorem Loader.instantiate_fresh {lib : Library} {p : Plugin} (h : Loader.instantiate lib = .ok p) :
    ∀ l ∈ p.memory, l = [] := by
  unfold Loader.instantiate at h
  cases hs : lib.symbol with
  | error e =>
    rw [hs] at h
    cases h
  | ok sym =>
    rw [hs] at h
    cases sym with
    | other t => cases h
    | factory m => exact Loader.make?_fresh h

theorem Loader.load_fresh {l : Loader} {key : EngineKey} {ld : Loaded} (h : (l.load key).1 = .ok ld) :
    ld.unloaded = false ∧ ∀ t ∈ ld.plugin.memory, t = [] := by
  unfold Loader.load Loader.loadTraced at h
  split at h
  · cases h
  · dsimp only at h
    split at h
    · cases h
    · split at h
      · cases h
      · next made =>
        cases h
        exact ⟨rfl, Loader.instantiate_fresh made⟩

theorem Engine.slot_past (e : Engine) (refs : Nat) (phase : Phase) (past : phase ≠ .opening) :
    { e with refs := refs, phase := phase }.slot = { e.slot with refs := refs, phase := phase, quiet := true } := by
  have quiet : (phase != .opening) = true := bne_iff_ne.2 past
  simp only [Engine.slot, Engine.plugin, quiet, Bool.true_or]

/-- The next serial number, being started, ready, unbound and quiet, its plugin loaded and
remembering nothing. -/
structure Engine.Fresh (e : Engine) (key : EngineKey) (n : Nat) : Prop where
  id : e.id = n
  key : e.key = key
  phase : e.phase = .opening
  state : e.state = .ready
  refs : e.refs = 0
  held : e.held = none
  queue : e.queue.items = []
  loaded : e.loaded.unloaded = false
  memory : ∀ l ∈ e.plugin.memory, l = []

theorem Engine.Fresh.quiet {e : Engine} {key : EngineKey} {n : Nat} (h : e.Fresh key n) :
    e.slot.quiet = true := by
  simp [Engine.slot, h.phase, h.held, h.queue]

namespace Engine.Slot

/-- Its plugin prepared `tx` and it serves it: one more reference. -/
def serve (s : Slot) (tx : UInt64) : Slot :=
  { s with refs := s.refs + 1, phase := .serving, quiet := true, memory := s.memory.map (Plugin.remember tx) }

/-- Its plugin released `tx`, leaving `refs` references in `phase`. -/
def release (s : Slot) (tx : UInt64) (refs : Nat) (phase : Phase) : Slot :=
  { s with refs := refs, phase := phase, quiet := true, memory := s.memory.map (Plugin.forget tx) }

@[simp] theorem id_serve (s : Slot) (tx : UInt64) : (s.serve tx).id = s.id := rfl

@[simp] theorem id_release (s : Slot) (tx : UInt64) (refs : Nat) (phase : Phase) :
    (s.release tx refs phase).id = s.id := rfl

end Engine.Slot

theorem lend_coe {α : Type} (l : List α) (a : α) : (↑(l ++ [a]) : Multiset α) = a ::ₘ ↑l := by
  rw [Multiset.cons_coe]
  exact Multiset.coe_eq_coe.2 (List.perm_append_singleton a l)

theorem lend_erase {α : Type} [DecidableEq α] (l : List α) (a : α) :
    (↑(l ++ [a]) : Multiset α).erase a = ↑l := by
  rw [lend_coe, Multiset.erase_cons_head]

namespace Registry

def setSlot (r : Registry) (s : Engine.Slot) : Registry :=
  { r with engines := r.engines.map fun x => if x.id == s.id then s else x }

def reserve (r : Registry) (tx : UInt64) : Registry := { r with starting := r.starting ++ [tx] }

def unreserve (r : Registry) (tx : UInt64) : Registry :=
  { r with starting := r.starting.filter (· != tx) }

/-- Its slot, a lent thread and queue, a plugin instance, and the next serial number. -/
def create (r : Registry) (s : Engine.Slot) : Registry :=
  { r with engines := r.engines ++ [s], threads := s.thread ::ₘ r.threads,
           queues := s.queueId ::ₘ r.queues, instances := r.instances + 1,
           nextEngine := r.nextEngine + 1 }

def returnThread (r : Registry) (t : Nat) : Registry := { r with threads := r.threads.erase t }

def returnQueue (r : Registry) (q : Nat) : Registry := { r with queues := r.queues.erase q }

def unload (r : Registry) (unloaded : Bool) : Registry :=
  { r with instances := if unloaded then r.instances else r.instances - 1 }

def drop (r : Registry) (eid : Nat) : Registry := { r with engines := r.engines.filter (·.id != eid) }

/-- Once its worker stopped: the queue goes back, the plugin is unloaded, it is forgotten. -/
def dismantle (r : Registry) (s : Engine.Slot) : Registry :=
  ((r.returnQueue s.queueId).unload s.unloaded).drop s.id

def addClient (r : Registry) (tx : UInt64) (eid : Nat) : Registry :=
  { r with clients := r.clients ++ [(tx, eid)] }

def removeClient (r : Registry) (tx : UInt64) : Registry :=
  { r with clients := r.clients.filter (·.1 != tx) }

def park (r : Registry) (b : Background) : Registry := { r with waiting := r.waiting ++ [b] }

theorem setSlot_ids (r : Registry) (s : Engine.Slot) :
    (r.setSlot s).engines.map (·.id) = r.engines.map (·.id) := by
  simp only [setSlot, List.map_map]
  apply List.map_congr_left
  intro x _
  simp only [Function.comp_apply]
  split
  next same => exact (beq_iff_eq.1 same).symm
  next => rfl

theorem drop_setSlot (r : Registry) (s : Engine.Slot) :
    (r.setSlot s).drop s.id = r.drop s.id := by
  have kept : ((fun x : Engine.Slot => x.id != s.id) ∘ fun x => if x.id == s.id then s else x) =
      fun x => x.id != s.id := by
    funext x
    by_cases same : x.id = s.id <;> simp [same]
  simp only [drop, setSlot, List.filter_map, kept]
  congr 1
  conv => rhs; rw [← List.map_id (r.engines.filter _)]
  apply List.map_congr_left
  intro x hx
  have other : x.id ≠ s.id := by simpa using (List.mem_filter.1 hx).2
  simp [other]

theorem dismantle_setSlot (r : Registry) (s t : Engine.Slot) (same : t.id = s.id) :
    (r.setSlot t).dismantle s = r.dismantle s := by
  have forgotten := ((r.returnQueue s.queueId).unload s.unloaded).drop_setSlot t
  rw [same] at forgotten
  exact forgotten

theorem Sound.create {r : Registry} {s : Engine.Slot} (sound : r.Sound)
    (fresh : ∀ x ∈ r.engines, x.id ≠ s.id) (quiet : s.quiet = true) : (r.create s).Sound := by
  refine ⟨?_, ?_, ?_⟩
  · simp only [Registry.create, List.map_append, List.map_cons, List.map_nil]
    refine List.nodup_append.2 ⟨sound.distinct, List.nodup_singleton _, ?_⟩
    intro a ha b hb
    obtain ⟨x, hx, rfl⟩ := List.mem_map.1 ha
    rw [List.mem_singleton.1 hb]
    exact fresh x hx
  · intro x hx
    rcases List.mem_append.1 hx with old | new
    · exact sound.quiet x old
    · rw [List.mem_singleton.1 new]
      exact quiet
  · intro c hc
    obtain ⟨y, hy, hid, hphase⟩ := sound.bound c hc
    exact ⟨y, List.mem_append_left _ hy, hid, hphase⟩

theorem Sound.setSlot {r : Registry} {s : Engine.Slot} (sound : r.Sound)
    (phase : ∀ x ∈ r.engines, x.id = s.id → x.phase ≠ .opening → s.phase ≠ .opening)
    (quiet : s.quiet = true) :
    (r.setSlot s).Sound := by
  refine ⟨(r.setSlot_ids s).symm ▸ sound.distinct, ?_, ?_⟩
  · intro x hx
    obtain ⟨y, hy, rfl⟩ := List.mem_map.1 hx
    split
    · exact quiet
    · exact sound.quiet y hy
  · intro c hc
    obtain ⟨y, hy, hid, hphase⟩ := sound.bound c hc
    refine ⟨if y.id == s.id then s else y, List.mem_map_of_mem hy, ?_, ?_⟩
    · split
      next same => exact (beq_iff_eq.1 same).symm.trans hid
      next => exact hid
    · split
      next same => exact phase y hy (beq_iff_eq.1 same) hphase
      next => exact hphase

theorem Sound.removeClient {r : Registry} (sound : r.Sound) (tx : UInt64) : (r.removeClient tx).Sound :=
  ⟨sound.distinct, sound.quiet, fun c hc => sound.bound c (List.mem_of_mem_filter hc)⟩

theorem setSlot_setSlot (r : Registry) (s t : Engine.Slot) (same : s.id = t.id) :
    (r.setSlot s).setSlot t = r.setSlot t := by
  simp only [setSlot, List.map_map]
  congr 1
  apply List.map_congr_left
  intro x _
  simp only [Function.comp_apply]
  by_cases hx : x.id = s.id
  · simp [hx, same]
  · simp [hx, same ▸ hx]

theorem park_setSlot (r : Registry) (s s' : Engine.Slot) (tx : UInt64) (t : Nat) (b : Background)
    (same : s.id = s'.id) :
    ((((r.setSlot s).removeClient tx).returnThread t).setSlot s').park b =
      (((r.setSlot s').removeClient tx).returnThread t).park b :=
  congrArg (·.park b) (((r.removeClient tx).returnThread t).setSlot_setSlot s s' same)

end Registry

namespace Dispatcher

variable {L : Type} {α β : Type}

def Updates (f : Registry → Registry) (x : Act L α) : Prop :=
  ∀ d : Dispatcher L, (x.run d).2.registry = f d.registry

theorem Updates.bind {f g : Registry → Registry} {x : Act L α} {k : α → Act L β} (hx : Updates f x)
    (hk : ∀ a, Updates g (k a)) : Updates (g ∘ f) (x >>= k) := by
  intro d
  rw [run_bind, hk, hx]
  rfl

theorem Keeps.then {f : Registry → Registry} {x : Act L α} {k : α → Act L β} (hx : Keeps x)
    (hk : ∀ a, Updates f (k a)) {d : Dispatcher L} (hd : d.registry.Sound) :
    ((x >>= k).run d).2.registry = f d.registry := by
  rw [run_bind, hk, hx d hd]

theorem updates_putEngine (e : Engine) : Updates (L := L) (·.setSlot e.slot) (putEngine e) := by
  intro d
  simp only [putEngine, run_modify, registry, Registry.setSlot, List.map_map]
  congr 1
  apply List.map_congr_left
  intro x _
  by_cases same : x.id = e.id <;> simp [same, Engine.slot]

theorem updates_dropEngine (eid : Nat) : Updates (L := L) (·.drop eid) (dropEngine eid) := by
  intro d
  simp only [dropEngine, run_modify, registry, Registry.drop, List.filter_map]
  rfl

theorem updates_note (e : Entry) : Updates (L := L) id (note e) := fun _ => rfl

theorem run_discard {α : Type} (x : Act L α) (d : Dispatcher L) : ((discard x).run d).2 = (x.run d).2 := rfl

theorem note_run (e : Entry) (d : Dispatcher L) :
    ((note e).run d).2 = { d with journal := e :: d.journal } := rfl

theorem noteAll_run (es : List Entry) (d : Dispatcher L) :
    ((noteAll es).run d).2 = { d with journal := es.reverse ++ d.journal } := by
  induction es generalizing d with
  | nil => rfl
  | cons e es ih =>
    change ((note e >>= fun _ => noteAll es).run d).2 = _
    rw [run_bind, ih, note_run]
    simp only [List.reverse_cons, List.append_assoc, List.singleton_append]

theorem updates_noteAll (es : List Entry) : Updates (L := L) id (noteAll es) := by
  intro d
  induction es generalizing d with
  | nil => rfl
  | cons e es ih => exact ih _

theorem updates_returnThread (key : EngineKey) (t : Nat) :
    Updates (L := L) (·.returnThread t) (returnThread key t) := by
  intro d
  simp only [returnThread, run_bind, run_get]
  split
  next tp pushed =>
    simp only [run_modify, registry, Registry.returnThread, ThreadPool.push_ok pushed, Multiset.coe_erase]
  next err refused =>
    have absent := ThreadPool.push_error refused
    simp only [note, run_modify, registry, Registry.returnThread]
    rw [Multiset.erase_of_notMem (by simpa using absent)]

theorem updates_returnQueue (key : EngineKey) (q : Nat) :
    Updates (L := L) (·.returnQueue q) (returnQueue key q) := by
  intro d
  simp only [returnQueue, run_bind, run_get]
  -- emptying the queue first leaves the lending state alone
  cases d.queues.queue? q <;> dsimp only <;> split
  · next qp pushed =>
    simp only [run_set, registry, Registry.returnQueue, QueuePool.push_ok pushed, Multiset.coe_erase]
  · next err refused =>
    have absent := QueuePool.push_error refused
    simp only [run_bind, run_set, note, run_modify, registry, Registry.returnQueue]
    rw [Multiset.erase_of_notMem (by simpa using absent)]
  · next qp pushed =>
    simp only [run_set, registry, Registry.returnQueue, QueuePool.push_ok pushed, QueuePool.setQueue_pool,
      Multiset.coe_erase]
  · next err refused =>
    have absent := QueuePool.push_error refused
    simp only [QueuePool.setQueue_pool] at absent
    simp only [run_bind, run_set, note, run_modify, registry, Registry.returnQueue, QueuePool.setQueue_pool]
    rw [Multiset.erase_of_notMem (by simpa using absent)]

theorem updates_unloadPlugin (key : EngineKey) (ld : Loaded) (level : LogLevel) :
    Updates (L := L) (·.unload ld.unloaded) (unloadPlugin key ld level) := by
  intro d
  unfold unloadPlugin
  rcases Loader.unload ld with ⟨r, ld', notes⟩
  dsimp only
  cases ld.unloaded <;> cases r <;>
    simp only [Bool.false_eq_true, if_false, if_true, run_bind, run_modify, updates_note _ _,
      updates_noteAll _ _, run_pure, id] <;> rfl

theorem updates_unreserve (tx : UInt64) : Updates (L := L) (·.unreserve tx) (unreserve tx) :=
  fun _ => rfl

theorem sound_putEngine {d : Dispatcher L} {e n : Engine} (hd : d.registry.Sound)
    (he : d.engine? e.id = some e) (hid : n.id = e.id) (hphase : e.phase ≠ .opening → n.phase ≠ .opening)
    (quiet : n.slot.quiet = true) : ((putEngine n).run d).2.registry.Sound := by
  rw [updates_putEngine]
  refine hd.setSlot (fun x hx same => ?_) quiet
  obtain ⟨y, hy, rfl⟩ := List.mem_map.1 hx
  rw [eq_of_engine? hd.nodup he hy (same.trans hid)]
  exact hphase

theorem updates_unless {c : Bool} {g : Registry → Registry} {x : Act L PUnit} {k : PUnit → Act L β}
    (hx : Updates id x) (hk : ∀ a, Updates g (k a)) : Updates g (if c = true then k ⟨⟩ else x >>= k) := by
  split
  · exact hk _
  · exact (hx.bind hk)

theorem registry_dismantle {d : Dispatcher L} {eid : Nat} {e : Engine} (hd : d.registry.Sound)
    (he : d.engine? eid = some e) : ((dismantle eid).run d).2.registry = d.registry.dismantle e.slot := by
  have hid : e.id = eid := (engine?_mem he).2
  rw [dismantle, run_bind, run_get]
  dsimp only
  rw [he]
  dsimp only
  rw [run_bind]
  have quiet : { e with queue := e.queue.reset, state := .draining }.slot.quiet = true := by
    by_cases hop : e.phase = .opening
    · simp [Engine.slot, hop, (quiet_of_opening hd (engine?_mem he).1 hop).1, BoundedQueue.reset]
    · simp [Engine.slot, hop]
  have found : d.engine? e.id = some e := hid ▸ he
  have sound := sound_putEngine (n := { e with queue := e.queue.reset, state := .draining }) hd found
    rfl id quiet
  -- recording the drained tasks leaves the registry alone
  rw [run_bind]
  refine (Keeps.then (d := ((record (.drained eid e.queue.items)).run
      ((putEngine { e with queue := e.queue.reset, state := .draining }).run d).2).2)
    (keeps_forIn fun t _ => ?_) (fun _ => updates_unless (updates_note _) fun _ =>
    (updates_returnQueue _ _).bind fun _ => (updates_unloadPlugin _ _ _).bind fun _ =>
      updates_dropEngine _) sound).trans ?_
  · split
    · exact keeps_get.bind fun _ => (keeps_answer _ _ _).andThen (keeps_pure _)
    · exact keeps_get.bind fun _ => (keeps_deliver _ _ _ _).andThen (keeps_pure _)
  · subst hid
    rw [registry_record, updates_putEngine]
    exact d.registry.dismantle_setSlot e.slot _ rfl

theorem engines_returnThread (key : EngineKey) (t : Nat) (d : Dispatcher L) :
    ((returnThread key t).run d).2.engines = d.engines := by
  simp only [returnThread, run_bind, run_get]
  split <;> rfl

theorem destroyEngine_idle {d : Dispatcher L} {eid : Nat} {e : Engine} (hd : d.registry.Sound)
    (he : d.engine? eid = some e) (idle : e.held = none) :
    ((destroyEngine eid).run d).1 = true ∧
      ((destroyEngine eid).run d).2.registry = (d.registry.returnThread e.thread).dismantle e.slot := by
  rw [destroyEngine, run_bind, run_get]
  dsimp only
  rw [he]
  dsimp only
  rw [if_neg (by simp [idle]), run_bind, run_bind, run_bind]
  refine ⟨rfl, ?_⟩
  rw [run_pure, registry_dismantle ?sound ?found, updates_returnThread]
  · rfl
  · rw [updates_returnThread]
    exact ⟨hd.distinct, hd.quiet, hd.bound⟩
  · rw [engine?, engines_returnThread]
    exact he

/-- Its worker held at the gate: the thread goes back and it is left closing until the gate opens. -/
theorem destroyEngine_held {d : Dispatcher L} {eid : Nat} {e : Engine} (he : d.engine? eid = some e)
    (held : e.held.isSome) :
    ((destroyEngine eid).run d).1 = false ∧
      ((destroyEngine eid).run d).2.registry =
        (d.registry.returnThread e.thread).setSlot { e with phase := .closing }.slot := by
  rw [destroyEngine, run_bind, run_get]
  dsimp only
  rw [he]
  dsimp only
  rw [if_pos held, run_bind, run_get]
  dsimp only
  split
  next tp reclaimed =>
    refine ⟨rfl, ?_⟩
    rw [run_bind, run_modify, run_bind, run_pure, updates_putEngine]
    simp only [registry, Registry.returnThread, ThreadPool.reclaim_ok reclaimed, Multiset.coe_erase]
  next err refused =>
    refine ⟨rfl, ?_⟩
    have absent := ThreadPool.reclaim_error refused
    rw [run_bind, run_bind, run_pure, updates_putEngine]
    simp only [note, run_modify, registry, Registry.returnThread]
    rw [Multiset.erase_of_notMem (by simpa using absent)]

theorem registry_finishDestroy {d : Dispatcher L} {eid : Nat} {e : Engine} (hd : d.registry.Sound)
    (he : d.engine? eid = some e) :
    ((finishDestroy eid).run d).2.registry = d.registry.dismantle e.slot := by
  rw [finishDestroy, run_bind, run_get]
  dsimp only
  rw [he]
  dsimp only
  rw [run_bind, run_bind, run_modify, run_bind, updates_note, id, registry_dismantle ?sound ?found]
  · rfl
  · exact hd
  · exact he

/-- A failure changes nothing but perhaps the next serial number; a success adds a fresh engine. -/
def Created (d d' : Dispatcher L) (key : EngineKey) : Except Failure Nat → Prop
  | .error _ => d.nextEngine ≤ d'.registry.nextEngine ∧
      d'.registry = { d.registry with nextEngine := d'.registry.nextEngine }
  | .ok eid => eid = d.nextEngine ∧ ∃ e, e.Fresh key eid ∧ d'.engines = d.engines ++ [e] ∧
      d'.registry = d.registry.create e.slot

theorem createEngine_spec (key : EngineKey) (d : Dispatcher L) :
    Created d ((createEngine key).run d).2 key ((createEngine key).run d).1 := by
  rw [createEngine, run_bind, run_get]
  dsimp only
  split
  · exact ⟨le_rfl, rfl⟩
  · next thread tp popped =>
    rw [run_bind, run_set, run_bind, run_get]
    dsimp only
    split
    · rw [run_bind, run_pure]
      refine ⟨?_, ?_⟩ <;> rw [updates_returnThread] <;>
        simp only [registry, Registry.returnThread, ThreadPool.pop_busy popped, lend_erase]
      exact le_rfl
    · next qid qp queued =>
      rw [run_bind, run_modify, run_bind, run_get]
      dsimp only
      split
      · rw [run_bind, run_bind, run_bind, run_pure]
        refine ⟨?_, ?_⟩ <;> rw [updates_returnThread, updates_returnQueue, updates_noteAll] <;>
          simp only [id, registry, Registry.returnThread, Registry.returnQueue, ThreadPool.pop_busy popped,
            QueuePool.pop_busy queued, lend_erase]
        exact le_rfl
      · next ld loadedOk =>
        rw [run_bind, noteAll_run, run_bind, run_modify]
        dsimp only
        have fresh := Loader.load_fresh loadedOk
        split
        · -- a plugin of an unknown mode is unloaded again
          rw [run_bind, run_bind, run_bind, run_pure]
          refine ⟨?_, ?_⟩ <;> rw [updates_returnThread, updates_returnQueue, updates_unloadPlugin] <;>
            simp only [registry, Registry.returnThread, Registry.returnQueue, Registry.unload, fresh.1,
              ThreadPool.pop_busy popped, QueuePool.pop_busy queued, lend_erase, Bool.false_eq_true, if_false,
              Nat.add_sub_cancel]
          exact le_rfl
        · rw [run_bind, run_get]
          dsimp only
          split
          · next err refused =>
            rw [run_bind, run_set, run_bind, run_bind, run_bind, run_pure]
            refine ⟨?_, ?_⟩ <;> rw [updates_returnThread, updates_returnQueue, updates_unloadPlugin] <;>
              simp only [registry, Registry.returnThread, Registry.returnQueue, Registry.unload, fresh.1,
                ThreadPool.pop_busy popped, QueuePool.pop_busy queued, lend_erase, Bool.false_eq_true,
                if_false, Nat.add_sub_cancel]
            exact Nat.le_succ _
          · next tp' started =>
            rw [run_bind, run_set, run_bind, run_pure]
            refine ⟨rfl, _, ⟨rfl, rfl, rfl, rfl, rfl, rfl, rfl, fresh.1, by exact fresh.2⟩, rfl, ?_⟩
            simp only [note_run, registry, Registry.create, List.map_append, List.map_cons, List.map_nil,
              ThreadPool.start_pool started, ThreadPool.pop_busy popped, QueuePool.pop_busy queued, lend_coe]
            rfl

/-- When Prepare returned without error, a bound transaction on a serving engine with one more
reference, remembered by its plugin; otherwise a failure taking down the engine the start made;
the reservation ends either way. -/
def Prepared (d d' : Dispatcher L) (tx : UInt64) (input : Option Bytes) (e : Engine) (created : Bool) :
    Lifecycle → Prop
  | .started out => (e.call "prepare" fun p => p.prepare tx input).1 = .ok out ∧
      d'.registry = ((d.registry.setSlot (e.slot.serve tx)).addClient tx e.id).unreserve tx
  | .failed _ => (∃ err, (e.call "prepare" fun p => p.prepare tx input).1 = .error err) ∧
      d'.registry = (if created then (d.registry.returnThread e.thread).dismantle e.slot else d.registry).unreserve tx
  | .stopped => False

theorem prepareOn_spec {d : Dispatcher L} {eid : Nat} {e : Engine} (tx : UInt64) (input : Option Bytes)
    (created : Bool) (hd : d.registry.Sound) (he : d.engine? eid = some e) (idle : created → e.held = none) :
    Prepared d ((prepareOn tx eid input created).run d).2 tx input e created
      ((prepareOn tx eid input created).run d).1 := by
  have hid : e.id = eid := (engine?_mem he).2
  have found : d.engine? e.id = some e := hid ▸ he
  rw [prepareOn, run_bind, run_get]
  dsimp only
  rw [he]
  dsimp only
  rw [run_bind]
  have same := Engine.slot_call_changes e "prepare" (fun p => p.prepare tx input) (Plugin.prepare_changes _ _ _)
  have held := Engine.held_call e "prepare" (fun p => p.prepare tx input)
  generalize called : e.call "prepare" (fun p => p.prepare tx input) = c at same held ⊢
  obtain ⟨r, e₁⟩ := c
  dsimp only at same held ⊢
  cases r with
  | error err =>
    -- a refused preparation leaves the slot as it was
    have id₁ : e₁.id = e.id := congrArg Engine.Slot.id same
    have put := registry_putEngine hd.nodup (id₁ ▸ found) same
    have found₁ := engine?_putEngine (d := d) (e := e₁) (id₁ ▸ found)
    rw [id₁, hid] at found₁
    dsimp only
    cases created
    · rw [if_neg Bool.false_ne_true, run_bind, run_pure]
      refine (show (∃ err, _) ∧ _ = _ from ⟨⟨err, congrArg Prod.fst called⟩, ?_⟩)
      rw [updates_unreserve, put]
      rfl
    · rw [if_pos rfl, run_bind, run_bind, run_pure]
      refine (show (∃ err, _) ∧ _ = _ from ⟨⟨err, congrArg Prod.fst called⟩, ?_⟩)
      rw [updates_unreserve, run_discard, (destroyEngine_idle (sound_of_registry put hd) found₁
        (held.trans (idle rfl))).2, put, if_pos rfl, same, show e₁.thread = e.thread from
        congrArg Engine.Slot.thread same]
  | ok out =>
    dsimp only at same ⊢
    have id₁ : e₁.id = e.id := congrArg Engine.Slot.id same
    have refs₁ : e₁.refs = e.refs := congrArg Engine.Slot.refs same
    rw [run_bind, run_bind, run_modify, run_bind]
    -- the slot stored last, over the one the call left: the plugin remembers the transaction
    have serve : ((putEngine { e₁ with refs := e₁.refs + 1, phase := .serving }).run
        ((putEngine e₁).run d).2).2.registry = d.registry.setSlot (e.slot.serve tx) := by
      have ids : e₁.slot.id = ({ e₁ with refs := e₁.refs + 1, phase := .serving } : Engine).slot.id := rfl
      rw [updates_putEngine, updates_putEngine]
      dsimp only
      rw [Registry.setSlot_setSlot _ _ _ ids, Engine.slot_past _ _ _ (by decide), same, refs₁]
      rfl
    have bound : ∀ X : Dispatcher L, ({ X with clients := X.clients ++ [(tx, eid)] } : Dispatcher L).registry =
        X.registry.addClient tx eid := fun _ => rfl
    cases created
    · rw [if_neg Bool.false_ne_true, run_bind, run_pure]
      refine (show _ ∧ _ = _ from ⟨congrArg Prod.fst called, ?_⟩)
      rw [updates_note, updates_unreserve, id, bound, serve, hid]
    · rw [if_pos rfl, run_bind, run_pure]
      refine (show _ ∧ _ = _ from ⟨congrArg Prod.fst called, ?_⟩)
      rw [updates_note, updates_unreserve, id, bound, serve, hid]

theorem engine?_of_serving {d : Dispatcher L} {key : EngineKey} {e : Engine} (hd : d.Distinct)
    (h : d.servingOf? key = some e) : d.engine? e.id = some e := by
  have mem := List.mem_of_find?_eq_some h
  cases found : d.engine? e.id with
  | none =>
    unfold engine? at found
    exact absurd (List.find?_eq_none.1 found e mem) (by simp)
  | some x => rw [eq_of_engine? hd found mem rfl]

theorem engine?_append {d d₁ : Dispatcher L} {e : Engine} (fresh : ∀ x ∈ d.engines, x.id < e.id)
    (engines : d₁.engines = d.engines ++ [e]) : d₁.engine? e.id = some e := by
  have older : d.engines.find? (·.id == e.id) = none :=
    List.find?_eq_none.2 fun x hx same => by
      have := fresh x hx
      simp only [beq_iff_eq] at same
      omega
  simp only [engine?, engines, List.find?_append, older, Option.none_or, List.find?_cons, beq_self_eq_true]

/-- The key's serving engine prepares it, or the start waits for a plugin that prepares only
behind the closed gate; else a new engine is made and prepares it or waits; or making fails. -/
inductive StartsReserved (d : Dispatcher L) (tx : UInt64) (key : EngineKey) (input : Option Bytes) :
    Option Lifecycle → Dispatcher L → Prop
  | shared {e : Engine} {o : Lifecycle} {d' : Dispatcher L} : d.servingOf? key = some e →
      (e.plugin.preparesAfterGate && !d.gateOpen) = false → Prepared d d' tx input e false o →
      StartsReserved d tx key input (some o) d'
  | sharedWaits {e : Engine} {d' : Dispatcher L} : d.servingOf? key = some e →
      (e.plugin.preparesAfterGate && !d.gateOpen) = true →
      d'.registry = d.registry.park (.start tx e.id input) → StartsReserved d tx key input none d'
  | unmade {err : Failure} {d₁ d' : Dispatcher L} : d.servingOf? key = none →
      Created d d₁ key (.error err) → d'.registry = d₁.registry.unreserve tx →
      StartsReserved d tx key input (some (.failed err)) d'
  | made {e : Engine} {o : Lifecycle} {d₁ d' : Dispatcher L} : d.servingOf? key = none →
      e.Fresh key d.nextEngine → d₁.engines = d.engines ++ [e] → d₁.registry = d.registry.create e.slot →
      (e.plugin.preparesAfterGate && !d.gateOpen) = false → Prepared d₁ d' tx input e true o →
      StartsReserved d tx key input (some o) d'
  | madeWaits {e : Engine} {d₁ d' : Dispatcher L} : d.servingOf? key = none →
      e.Fresh key d.nextEngine → d₁.engines = d.engines ++ [e] → d₁.registry = d.registry.create e.slot →
      (e.plugin.preparesAfterGate && !d.gateOpen) = true →
      d'.registry = d₁.registry.park (.start tx e.id input) → StartsReserved d tx key input none d'

theorem startReserved_spec (tx : UInt64) (key : EngineKey) (input : Option Bytes) {d : Dispatcher L}
    (hd : d.registry.Sound) (fresh : ∀ x ∈ d.engines, x.id < d.nextEngine) :
    StartsReserved d tx key input ((startReserved tx key input).run d).1 ((startReserved tx key input).run d).2 := by
  rw [startReserved, run_bind, run_get]
  dsimp only
  cases serving : d.servingOf? key with
  | some e =>
    have found := engine?_of_serving hd.nodup serving
    dsimp only
    rw [run_bind, run_pure]
    dsimp only
    rw [run_bind, run_get]
    dsimp only
    rw [found]
    dsimp only
    split
    next gated =>
      rw [run_bind, run_set, run_pure]
      exact .sharedWaits serving gated rfl
    next open_ =>
      rw [run_bind, run_pure]
      exact .shared serving (by simpa using open_)
        (prepareOn_spec tx input false hd found (fun h => absurd h Bool.false_ne_true))
  | none =>
    dsimp only
    rw [run_bind, run_bind, run_pure]
    have made := createEngine_spec (L := L) key d
    generalize (createEngine key).run d = p at made ⊢
    obtain ⟨r, d₁⟩ := p
    dsimp only at made ⊢
    cases r with
    | error err =>
      rw [run_bind, run_pure]
      exact .unmade serving made rfl
    | ok eid =>
      obtain ⟨rfl, e, isFresh, engines, reg⟩ := made
      have found := engine?_append (isFresh.id ▸ fresh) engines
      rw [isFresh.id] at found
      have gate : d₁.gateOpen = d.gateOpen := congrArg Registry.gateOpen reg
      dsimp only
      rw [run_bind, run_get]
      dsimp only
      rw [found]
      dsimp only
      split
      next gated =>
        rw [run_bind, run_set, run_pure]
        rw [gate] at gated
        refine .madeWaits serving isFresh engines reg gated ?_
        rw [← isFresh.id]
        rfl
      next open_ =>
        rw [run_bind, run_pure]
        rw [gate] at open_
        have sound : d₁.registry.Sound := by
          rw [reg]
          refine hd.create (fun x hx same => ?_) isFresh.quiet
          obtain ⟨y, hy, rfl⟩ := List.mem_map.1 hx
          have older := fresh y hy
          have newest : y.id = d.nextEngine := same.trans isFresh.id
          omega
        exact .made serving isFresh engines reg (by simpa using open_)
          (prepareOn_spec tx input true sound found fun _ => isFresh.held)

/-- Refused for a transaction bound or starting, waiting behind a start or stop of its key at
the gate, or reserved and started. -/
inductive StartsEngine (d : Dispatcher L) (tx : UInt64) (key : EngineKey) (input : Option Bytes) :
    Option Lifecycle → Dispatcher L → Prop
  | bound {err : Failure} : (d.clients.lookup tx).isSome = true → StartsEngine d tx key input (some (.failed err)) d
  | starting {err : Failure} : (d.clients.lookup tx).isSome = false → d.starting.contains tx = true →
      StartsEngine d tx key input (some (.failed err)) d
  | queued {d' : Dispatcher L} : (d.clients.lookup tx).isSome = false → d.starting.contains tx = false →
      d.keyBusy key = true → d'.registry = (d.registry.reserve tx).park (.queued tx key input) →
      StartsEngine d tx key input none d'
  | reserved {o : Option Lifecycle} {d' : Dispatcher L} : (d.clients.lookup tx).isSome = false →
      d.starting.contains tx = false → d.keyBusy key = false →
      StartsReserved { d with starting := d.starting ++ [tx] } tx key input o d' →
      StartsEngine d tx key input o d'

theorem startEngine_spec (tx : UInt64) (key : EngineKey) (input : Option Bytes) {d : Dispatcher L}
    (hd : d.registry.Sound) (fresh : ∀ x ∈ d.engines, x.id < d.nextEngine) :
    StartsEngine d tx key input ((startEngine tx key input).run d).1 ((startEngine tx key input).run d).2 := by
  rw [startEngine, run_bind, run_get]
  dsimp only
  split
  next bound =>
    exact .bound bound
  next unbound =>
    rw [Bool.not_eq_true] at unbound
    split
    next starting =>
      exact .starting unbound starting
    next notStarting =>
      rw [Bool.not_eq_true] at notStarting
      rw [run_bind, run_set]
      split
      next busy =>
        rw [run_bind, run_modify, run_pure]
        exact .queued unbound notStarting busy rfl
      next free =>
        rw [Bool.not_eq_true] at free
        exact .reserved unbound notStarting free
          (startReserved_spec tx key input ⟨hd.distinct, hd.quiet, hd.bound⟩ fresh)

/-- Refused when unbound or when the plugin refuses the release; else unbound, the last one
taking the engine down at once or, its worker held, once the gate opens. -/
inductive StopsEngine (d : Dispatcher L) (tx : UInt64) : Option Lifecycle → Dispatcher L → Prop
  | unbound {err : Failure} {d' : Dispatcher L} : d.lookup tx = .error err → d'.registry = d.registry →
      StopsEngine d tx (some (.failed err)) d'
  | refused {e : Engine} {err : Failure} {d' : Dispatcher L} : d.lookup tx = .ok e →
      (∃ err', (e.call "release" fun p => p.release (e.refs == 1) tx).1 = .error err') →
      d'.registry = d.registry → StopsEngine d tx (some (.failed err)) d'
  | released {e : Engine} {d' : Dispatcher L} : d.lookup tx = .ok e →
      (e.call "release" fun p => p.release (e.refs == 1) tx).1 = .ok () → e.refs - 1 ≠ 0 →
      d'.registry = (d.registry.setSlot (e.slot.release tx (e.refs - 1) e.phase)).removeClient tx →
      StopsEngine d tx (some .stopped) d'
  | destroyed {e : Engine} {d' : Dispatcher L} : d.lookup tx = .ok e →
      (e.call "release" fun p => p.release (e.refs == 1) tx).1 = .ok () → e.refs - 1 = 0 → e.held = none →
      d'.registry = ((d.registry.removeClient tx).returnThread e.thread).dismantle e.slot →
      StopsEngine d tx (some .stopped) d'
  | waits {e : Engine} {d' : Dispatcher L} : d.lookup tx = .ok e →
      (e.call "release" fun p => p.release (e.refs == 1) tx).1 = .ok () → e.refs - 1 = 0 → e.held.isSome →
      d'.registry = (((d.registry.setSlot (e.slot.release tx 0 .closing)).removeClient tx).returnThread
        e.thread).park (.stop tx e.id) →
      StopsEngine d tx none d'

theorem stopEngine_spec (tx : UInt64) (input : Option Bytes) {d : Dispatcher L} (hd : d.registry.Sound) :
    StopsEngine d tx ((stopEngine tx input).run d).1 ((stopEngine tx input).run d).2 := by
  rw [stopEngine, run_bind, run_get]
  dsimp only
  split
  next err looked =>
    exact .unbound looked rfl
  next e looked =>
    have found := engine?_of_lookup looked
    have past := phase_of_lookup hd looked
    rw [run_bind]
    have same := Engine.slot_call_changes e "release" (fun p => p.release (e.refs == 1) tx)
      (Plugin.release_changes _ _ _)
    have held := Engine.held_call e "release" (fun p => p.release (e.refs == 1) tx)
    generalize called : e.call "release" (fun p => p.release (e.refs == 1) tx) = c at same held ⊢
    obtain ⟨r, e₁⟩ := c
    dsimp only at same held ⊢
    cases r with
    | error err =>
      -- a refused release leaves the slot as it was
      have id₁ : e₁.id = e.id := congrArg Engine.Slot.id same
      exact .refused looked ⟨err, congrArg Prod.fst called⟩ (registry_putEngine hd.nodup (id₁ ▸ found) same)
    | ok u =>
      dsimp only at same ⊢
      have id₁ : e₁.id = e.id := congrArg Engine.Slot.id same
      have refs₁ : e₁.refs = e.refs := congrArg Engine.Slot.refs same
      have phase₁ : e₁.phase = e.phase := congrArg Engine.Slot.phase same
      have thread₁ : e₁.thread = e.thread := congrArg Engine.Slot.thread same
      -- the slot stored last, over the one the call left: the plugin forgot the transaction
      have left : ∀ n phase, phase ≠ .opening → ((putEngine { e₁ with refs := n, phase := phase }).run
          ((putEngine e₁).run d).2).2.registry = d.registry.setSlot (e.slot.release tx n phase) := by
        intro n phase past'
        have ids : e₁.slot.id = ({ e₁ with refs := n, phase := phase } : Engine).slot.id := rfl
        rw [updates_putEngine, updates_putEngine]
        dsimp only
        rw [Registry.setSlot_setSlot _ _ _ ids, Engine.slot_past _ _ _ past', same]
        rfl
      have unbind : ∀ X : Dispatcher L,
          ({ X with clients := X.clients.filter (·.1 != tx) } : Dispatcher L).registry =
            X.registry.removeClient tx := fun _ => rfl
      rw [run_bind, run_bind, run_modify, refs₁]
      by_cases zero : e.refs - 1 = 0
      · have last : (e.refs - 1 == 0) = true := beq_iff_eq.2 zero
        rw [last, if_pos rfl, if_pos rfl, zero, run_bind]
        have found₁ := engine?_putEngine (id₁ ▸ found)
        have sound₁ := sound_putEngine (e := e) (n := e₁) hd found id₁ (fun _ => phase₁ ▸ past)
          (by rw [same]; exact hd.quiet e.slot (List.mem_map_of_mem (engine?_mem found).1))
        have sound₂ := sound_putEngine (e := e₁) (n := { e₁ with refs := 0, phase := .closing })
          sound₁ found₁ rfl (fun _ => by simp) (by simp [Engine.slot])
        have found₂ := engine?_putEngine (e := { e₁ with refs := 0, phase := .closing }) found₁
        cases hheld : e.held with
        | none =>
          rw [(destroyEngine_idle (e := { e₁ with refs := 0, phase := .closing }) ?sound ?found ?idle).1, if_pos rfl,
            run_bind, run_pure]
          case sound => exact sound₂.removeClient tx
          case found => exact found₂
          case idle => exact held.trans hheld
          refine .destroyed looked (congrArg Prod.fst called) zero hheld ?_
          rw [updates_note, id, (destroyEngine_idle (e := { e₁ with refs := 0, phase := .closing }) ?sound ?found ?idle).2,
            unbind, left _ _ (by decide), Engine.slot_past e₁ 0 .closing (by decide), same, thread₁]
          case sound => exact sound₂.removeClient tx
          case found => exact found₂
          case idle => exact held.trans hheld
          exact ((d.registry.removeClient tx).returnThread e.thread).dismantle_setSlot _ _ rfl
        | some h =>
          have isHeld : e₁.held.isSome := by rw [held, hheld]; rfl
          rw [(destroyEngine_held ?found ?held).1, if_neg Bool.false_ne_true, run_bind, run_modify, run_pure]
          case found => exact found₂
          case held => exact isHeld
          refine .waits looked (congrArg Prod.fst called) zero (by rw [hheld]; rfl) ?_
          have parked : ∀ Y : Dispatcher L,
              ({ Y with waiting := Y.waiting ++ [Background.stop tx e₁.id] } : Dispatcher L).registry =
                Y.registry.park (.stop tx e₁.id) := fun _ => rfl
          rw [parked, (destroyEngine_held (e := { e₁ with refs := 0, phase := .closing }) ?found ?held).2, unbind,
            left _ _ (by decide), Registry.park_setSlot _ _ _ _ _ _ id₁.symm, Engine.slot_past e₁ 0 .closing (by decide), same,
            thread₁, id₁]
          case found => exact found₂
          case held => exact isHeld
          rfl
      · have more : (e.refs - 1 == 0) = false := beq_false_of_ne zero
        rw [more, if_neg Bool.false_ne_true, if_neg Bool.false_ne_true, run_pure]
        refine .released looked (congrArg Prod.fst called) zero ?_
        rw [unbind, left _ _ (phase₁ ▸ past), phase₁]

theorem registry_call {α : Type} {d : Dispatcher L} {tx : UInt64} {e : Engine} (hd : d.registry.Sound)
    (looked : d.lookup tx = .ok e) (op : String) (f : Plugin → Call α × Plugin)
    (kind : (f e.plugin).2.preparesAfterGate = e.plugin.preparesAfterGate)
    (memory : (f e.plugin).2.memory = e.plugin.memory) :
    ((putEngine (e.call op f).2).run d).2.registry = d.registry := by
  have same := Engine.slot_call e op f kind memory
  have id : (e.call op f).2.id = e.id := congrArg Engine.Slot.id same
  exact registry_putEngine hd.nodup (id ▸ engine?_of_lookup looked) same

theorem keeps_setOption (tx : UInt64) (t : Int32) (input : Option Bytes) :
    Keeps (setOption (L := L) tx t input) :=
  Keeps.composes.setOption tx t input fun _ _ looked hd =>
    registry_call hd looked _ _ (Plugin.setOption_keeps _ _ _).1 (Plugin.setOption_keeps _ _ _).2

theorem keeps_getOption (tx : UInt64) (t : Int32) : Keeps (getOption (L := L) tx t) :=
  Keeps.composes.getOption tx t fun _ _ looked hd => registry_call hd looked _ _ rfl rfl

end Dispatcher

end InferenceBroker
