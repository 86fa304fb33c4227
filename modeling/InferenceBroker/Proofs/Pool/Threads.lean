import InferenceBroker.Proofs.Pool.Lending
import InferenceBroker.Pool.Thread

/-!
# Pooled threads are idle when handed out

A thread pool lends thread ids from a `Pool Nat`, numbering its threads 1, 2, … as it makes
them. Callers pop, start, stop and push back threads in any order, starting a function only on a
thread they hold; a push may come in two halves, `settle` only after the first. Each call moves
the lending state by a pool step or not at all, so every reachable pool keeps `Kept`: threads
numbered 1 to n, the lending state accounted for as in `Pool.Accounted`, and *no idle thread
running*. Hence a popped thread is not running, so a start on it succeeds (`Kept.pop_stopped`);
stopping a stopped thread changes nothing (`stop_eq_self`); a pushed thread is idle and stopped
(`push_stops`).
-/

namespace InferenceBroker

namespace ThreadPool

variable {tp tp' : ThreadPool} {t : Thread} {id : Nat}

/-! ## One call at a time -/

/-- The thread made after `n` others, under the pool's current choice of locking. -/
def freshThread (tp : ThreadPool) : Thread := { id := tp.threads.length + 1, locksOsThread := tp.lockOsThread }

theorem thread?_some (h : tp.thread? id = some t) : t ∈ tp.threads ∧ t.id = id := by
  have found := List.find?_some h
  simp only [beq_iff_eq] at found
  exact ⟨List.mem_of_find?_eq_some h, found⟩

theorem thread?_of_mem (nodup : (tp.threads.map (·.id)).Nodup) (h : t ∈ tp.threads) : tp.thread? t.id = some t := by
  cases found : tp.thread? t.id with
  | none => exact absurd (List.find?_eq_none.1 found t h) (by simp)
  | some u =>
    obtain ⟨mem, same⟩ := thread?_some found
    rw [List.inj_on_of_nodup_map nodup mem h same]

theorem threads_update (f : Thread → Thread) :
    (tp.update id f).threads = tp.threads.map fun u => if u.id == id then f u else u := rfl

theorem ids_update {f : Thread → Thread} (keeps : ∀ u, (f u).id = u.id) :
    (tp.update id f).threads.map (·.id) = tp.threads.map (·.id) := by
  rw [threads_update, List.map_map]
  refine List.map_congr_left fun u _ => ?_
  simp only [Function.comp_apply]
  split <;> simp [keeps]

theorem length_update (f : Thread → Thread) : (tp.update id f).threads.length = tp.threads.length := by
  rw [threads_update, List.length_map]

theorem mem_update {f : Thread → Thread} (h : t ∈ (tp.update id f).threads) :
    (∃ u ∈ tp.threads, u.id = id ∧ t = f u) ∨ (t ∈ tp.threads ∧ t.id ≠ id) := by
  rw [threads_update, List.mem_map] at h
  obtain ⟨u, mem, rfl⟩ := h
  by_cases same : u.id = id
  · exact .inl ⟨u, mem, same, by simp [same]⟩
  · exact .inr ⟨by simpa [same] using mem, by simp [same]⟩

theorem update_absent {f : Thread → Thread} (absent : ∀ u ∈ tp.threads, u.id ≠ id) : tp.update id f = tp := by
  unfold update
  congr 1
  conv => rhs; rw [← List.map_id tp.threads]
  refine List.map_congr_left fun u mem => ?_
  simp [absent u mem]

theorem stop_pool' : (tp.stop id).pool = tp.pool := rfl

/-- A pop of the lending state, making the next thread for the fresh id; the thread handed out
is the one its id finds, or, when none, one not running. -/
theorem pop_eq_ok (h : tp.pop = .ok (t, tp')) :
    ∃ made pool, tp.pool.pop (tp.threads.length + 1) = .ok (t.id, made, pool) ∧
      tp' = { tp with pool := pool, threads := if made then tp.threads ++ [tp.freshThread] else tp.threads } ∧
      (tp'.thread? t.id = some t ∨ (tp'.thread? t.id = none ∧ t.running = false)) := by
  dsimp only [pop] at h
  cases popped : tp.pool.pop (tp.threads.length + 1) with
  | error err =>
    rw [popped] at h
    cases h
  | ok r =>
    obtain ⟨a, made, pool⟩ := r
    rw [popped] at h
    dsimp only [bind, Except.bind] at h
    split at h
    next u found =>
      cases h
      obtain ⟨-, same⟩ := thread?_some found
      refine ⟨made, pool, by rw [same], rfl, .inl ?_⟩
      rw [same]
      exact found
    next absent =>
      cases h
      exact ⟨made, pool, rfl, rfl, .inr ⟨absent, rfl⟩⟩

theorem start_eq_ok (h : tp.start id = .ok tp') : tp' = tp.update id fun u => { u with running := true } := by
  unfold start at h
  split at h
  next u found =>
    split at h
    · cases h
    · cases h
      rfl
  next absent =>
    cases h
    refine (update_absent fun u mem same => ?_).symm
    have found := List.find?_eq_none.1 absent u mem
    simp [same] at found

theorem start_of_stopped (found : tp.thread? id = some t) (stopped : t.running = false) :
    tp.start id = .ok (tp.update id fun u => { u with running := true }) := by
  simp [start, found, stopped]

/-- Takes a lent thread back, stopped, as the most recently idle one. -/
theorem push_eq_ok (h : tp.push id = .ok tp') :
    id ∈ tp.pool.busy ∧
      tp' = { tp.stop id with pool := { tp.pool with busy := tp.pool.busy.erase id, idle := id :: tp.pool.idle } } := by
  unfold push at h
  dsimp only at h
  split at h
  next lent =>
    have lent : id ∈ tp.pool.busy := by simpa [Pool.lent] using lent
    rw [stop_pool', Pool.push_busy _ _ lent] at h
    cases h
    exact ⟨lent, rfl⟩
  next => cases h

theorem reclaim_eq_ok (h : tp.reclaim id = .ok tp') :
    id ∈ tp.pool.busy ∧ tp' = { tp with pool := { tp.pool with busy := tp.pool.busy.erase id, draining := id :: tp.pool.draining } } := by
  unfold reclaim at h
  cases reclaimed : tp.pool.reclaim id with
  | error err =>
    rw [reclaimed] at h
    cases h
  | ok pool =>
    rw [reclaimed] at h
    cases h
    obtain ⟨lent, rfl⟩ := Pool.reclaim_eq_ok reclaimed
    exact ⟨lent, rfl⟩

theorem push_stops (h : tp.push id = .ok tp') : id ∈ tp'.pool.idle ∧ ∀ u ∈ tp'.threads, u.id = id → u.running = false := by
  obtain ⟨-, rfl⟩ := push_eq_ok h
  refine ⟨List.mem_cons_self .., fun u mem same => ?_⟩
  rcases mem_update mem with ⟨v, -, -, rfl⟩ | ⟨-, other⟩
  · rfl
  · exact absurd same other

theorem stop_eq_self (nodup : (tp.threads.map (·.id)).Nodup) (stopped : ∀ u, tp.thread? id = some u → u.running = false) :
    tp.stop id = tp := by
  unfold stop update
  congr 1
  conv => rhs; rw [← List.map_id tp.threads]
  refine List.map_congr_left fun u mem => ?_
  by_cases same : u.id = id
  · have found := thread?_of_mem nodup mem
    rw [same] at found
    have running := stopped u found
    rw [if_pos (beq_iff_eq.2 same)]
    cases u
    cases running
    rfl
  · simp [same]

/-! ## Runs -/

/-- One call by some caller: a pop; a start on a thread it holds; a stop; a whole push; the
first half of a push, leaving the thread running until its function returns; the second half;
or a change of locking. A refused call is no step. -/
inductive Move : ThreadPool → ThreadPool → Prop
  | pop {tp tp' : ThreadPool} {t : Thread} : tp.pop = .ok (t, tp') → Move tp tp'
  | start {tp tp' : ThreadPool} {id : Nat} : id ∈ tp.pool.busy → tp.start id = .ok tp' → Move tp tp'
  | stop (tp : ThreadPool) (id : Nat) : Move tp (tp.stop id)
  | push {tp tp' : ThreadPool} {id : Nat} : tp.push id = .ok tp' → Move tp tp'
  | reclaim {tp tp' : ThreadPool} {id : Nat} : tp.reclaim id = .ok tp' → Move tp tp'
  | settle {tp : ThreadPool} {id : Nat} : id ∈ tp.pool.draining → Move tp (tp.settle id)
  | setLock (tp : ThreadPool) (lock : Bool) : Move tp (tp.setLockOsThread lock)

def Reachable (capacity : Int) (tp : ThreadPool) : Prop := Relation.ReflTransGen Move (make capacity) tp

/-- The lending state with the number of threads made. -/
def stock (tp : ThreadPool) : Pool.Stock Nat := ⟨tp.pool, tp.threads.length⟩

/-- Threads numbered 1 to n in the order made, a lending state accounted for, no idle thread
running. -/
structure Kept (capacity : Int) (tp : ThreadPool) : Prop where
  numbered : tp.threads.map (·.id) = List.range' 1 tp.threads.length
  accounted : Pool.Accounted (· + 1) capacity tp.stock
  idle_stopped : ∀ u ∈ tp.threads, u.id ∈ tp.pool.idle → u.running = false

section Invariant

variable {capacity : Int}

theorem Kept.nodup (k : tp.Kept capacity) : (tp.threads.map (·.id)).Nodup := by
  rw [k.numbered]
  exact List.nodup_range'

theorem Kept.thread_of_held (k : tp.Kept capacity) {a : Nat} (held : a ∈ tp.pool.held) :
    ∃ u ∈ tp.threads, u.id = a := by
  obtain ⟨n, below, rfl⟩ := k.accounted.made a held
  have numbered : n + 1 ∈ tp.threads.map (·.id) := by
    rw [k.numbered, List.mem_range'_1]
    exact ⟨Nat.le_add_left 1 n, by simpa [stock, Nat.add_comm] using below⟩
  exact List.mem_map.1 numbered

theorem kept_make (capacity : Int) : (make capacity).Kept capacity where
  numbered := rfl
  accounted := Pool.accounted_empty capacity
  idle_stopped := fun _ none => absurd none List.not_mem_nil

theorem Kept.update (k : tp.Kept capacity) {f : Thread → Thread} (keeps : ∀ u, (f u).id = u.id)
    (idle : ∀ u ∈ tp.threads, u.id = id → id ∈ tp.pool.idle → (f u).running = false) : (tp.update id f).Kept capacity where
  numbered := by rw [ids_update keeps, length_update, k.numbered]
  accounted := by
    have same : (tp.update id f).stock = tp.stock := by
      simp only [stock, length_update]
      rfl
    exact same ▸ k.accounted
  idle_stopped := fun u mem isIdle => by
    rcases mem_update mem with ⟨v, old, same, rfl⟩ | ⟨old, -⟩
    · rw [keeps, same] at isIdle
      exact idle v old same isIdle
    · exact k.idle_stopped u old isIdle

theorem Kept.stop (k : tp.Kept capacity) (id : Nat) : (tp.stop id).Kept capacity :=
  k.update (fun _ => rfl) fun _ _ _ _ => rfl

/-- A lending step making no thread keeps `Kept` when every thread it leaves idle is stopped. -/
theorem Kept.lend (k : tp.Kept capacity) {p : Pool Nat} (m : Pool.Move (· + 1) tp.stock ⟨p, tp.threads.length⟩)
    (idle : ∀ u ∈ tp.threads, u.id ∈ p.idle → u.running = false) : { tp with pool := p }.Kept capacity :=
  ⟨k.numbered, k.accounted.move (fun _ _ => Nat.add_right_cancel) m, idle⟩

theorem Kept.stopped_idle (k : tp.Kept capacity) (id : Nat) :
    ∀ u ∈ (tp.stop id).threads, u.id ∈ id :: tp.pool.idle → u.running = false := by
  intro u mem isIdle
  rcases mem_update mem with ⟨v, -, -, rfl⟩ | ⟨mem, other⟩
  · rfl
  · exact k.idle_stopped u mem ((List.mem_cons.1 isIdle).resolve_left other)

theorem Kept.start (k : tp.Kept capacity) (lent : id ∈ tp.pool.busy) (h : tp.start id = .ok tp') : tp'.Kept capacity := by
  rw [start_eq_ok h]
  refine k.update (fun _ => rfl) fun u _ _ isIdle => absurd lent ?_
  exact (k.accounted.to_lends (fun _ _ => Nat.add_right_cancel)).disjoint.1 isIdle

theorem Kept.pop (k : tp.Kept capacity) (h : tp.pop = .ok (t, tp')) : tp'.Kept capacity := by
  obtain ⟨made, pool, popped, rfl, -⟩ := pop_eq_ok h
  have step : Pool.Move (· + 1) tp.stock ⟨pool, if made then tp.threads.length + 1 else tp.threads.length⟩ :=
    Pool.Move.pop popped
  rcases Pool.pop_eq_ok popped with ⟨rest, idle, rfl, rfl⟩ | ⟨idle, -, -, rfl, rfl⟩
  · -- an idle thread is lent: the others stay idle and stopped
    refine k.lend step fun u mem isIdle => k.idle_stopped u mem ?_
    rw [idle]
    exact List.mem_cons_of_mem _ isIdle
  · -- the next thread is made because none was idle, and none is idle now
    refine ⟨?_, by simpa [stock] using k.accounted.move (fun _ _ => Nat.add_right_cancel) step, fun u _ isIdle => ?_⟩
    · rw [if_pos rfl, List.map_append, k.numbered, List.length_append, List.length_singleton, List.range'_concat]
      simp [freshThread, Nat.add_comm]
    · simp [idle] at isIdle

theorem Kept.push (k : tp.Kept capacity) (h : tp.push id = .ok tp') : tp'.Kept capacity := by
  obtain ⟨lent, rfl⟩ := push_eq_ok h
  exact (k.stop id).lend (Pool.Move.push (Pool.push_busy _ _ lent)) (k.stopped_idle id)

theorem Kept.reclaim (k : tp.Kept capacity) (h : tp.reclaim id = .ok tp') : tp'.Kept capacity := by
  obtain ⟨lent, rfl⟩ := reclaim_eq_ok h
  have reclaimed : tp.pool.reclaim id = .ok { tp.pool with busy := tp.pool.busy.erase id, draining := id :: tp.pool.draining } := by
    simp [Pool.reclaim, lent]
  exact k.lend (Pool.Move.reclaim reclaimed) k.idle_stopped

theorem Kept.settle (k : tp.Kept capacity) (draining : id ∈ tp.pool.draining) : (tp.settle id).Kept capacity :=
  (k.stop id).lend (Pool.Move.settle draining) (k.stopped_idle id)

theorem Kept.move (k : tp.Kept capacity) (m : Move tp tp') : tp'.Kept capacity := by
  cases m with
  | pop popped => exact k.pop popped
  | start lent started => exact k.start lent started
  | stop id => exact k.stop id
  | push pushed => exact k.push pushed
  | reclaim reclaimed => exact k.reclaim reclaimed
  | settle draining => exact k.settle draining
  | setLock lock => exact ⟨k.numbered, k.accounted, k.idle_stopped⟩

theorem Reachable.kept (h : Reachable capacity tp) : tp.Kept capacity := by
  induction h with
  | refl => exact kept_make capacity
  | tail _ m k => exact k.move m

end Invariant

/-! ## What callers can rely on -/

section Contract

variable {capacity : Int}

/-- The popped thread is found under its id and not running: idle threads are stopped, new ones
never ran. -/
theorem Kept.pop_stopped (k : tp.Kept capacity) (h : tp.pop = .ok (t, tp')) :
    tp'.thread? t.id = some t ∧ t.running = false := by
  have k' := k.pop h
  obtain ⟨made, pool, popped, rfl, found⟩ := pop_eq_ok h
  -- a stopped thread of the id handed out
  have stopped : ∃ u ∈ (if made then tp.threads ++ [tp.freshThread] else tp.threads), u.id = t.id ∧ u.running = false := by
    rcases Pool.pop_eq_ok popped with ⟨rest, idle, rfl, -⟩ | ⟨-, -, same, rfl, -⟩
    · have isIdle : t.id ∈ tp.pool.idle := by
        rw [idle]
        exact List.mem_cons_self ..
      obtain ⟨u, mem, same⟩ := k.thread_of_held (List.mem_append_left _ (List.mem_append_left _ isIdle))
      exact ⟨u, mem, same, k.idle_stopped u mem (same ▸ isIdle)⟩
    · exact ⟨tp.freshThread, by simp, same.symm, rfl⟩
  obtain ⟨u, mem, same, running⟩ := stopped
  have finds := thread?_of_mem k'.nodup mem
  rw [same] at finds
  rcases found with found | ⟨absent, -⟩
  · rw [finds] at found
    cases found
    exact ⟨finds, running⟩
  · rw [finds] at absent
    cases absent

theorem Kept.pop_startable (k : tp.Kept capacity) (h : tp.pop = .ok (t, tp')) :
    tp'.start t.id = .ok (tp'.update t.id fun u => { u with running := true }) :=
  start_of_stopped (k.pop_stopped h).1 (k.pop_stopped h).2

theorem Kept.stop_stopped (k : tp.Kept capacity) (stopped : ∀ u, tp.thread? id = some u → u.running = false) :
    tp.stop id = tp :=
  stop_eq_self k.nodup stopped

end Contract

end ThreadPool

end InferenceBroker
