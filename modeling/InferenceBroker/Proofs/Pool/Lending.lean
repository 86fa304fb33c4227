import Mathlib.Data.List.Perm.Basic
import Mathlib.Data.List.Nodup
import Mathlib.Logic.Relation
import InferenceBroker.Pool.Basic

/-!
# Lending from a pool, over every interleaving

An item is idle, lent (busy), or on its way back (draining): a push takes it from its borrower
under the lock, runs the reclaim hook outside it, then makes it idle. Callers interleave pops and
the halves of pushes (`Move`); the constructor, called by a pop taking a fresh item, never makes
one twice. Every step rearranges the items (`held`) or adds the constructor's next one while there
is room (`Move.cases`), so `Accounted` holds (distinct items, at most `capacity`, all made), and
with it the contract of every reachable pool (`Reachable.lends`).
-/

namespace InferenceBroker

namespace Pool

variable {α : Type}

/-- Idle, lent out, or being taken back. -/
def held (p : Pool α) : List α := p.idle ++ p.busy ++ p.draining

def exhausted (p : Pool α) : Failure :=
  .within s!"{p.busy.length} of {p.capacity} items busy" Failure.poolExhausted

theorem length_held (p : Pool α) : p.held.length = p.idle.length + p.busy.length + p.draining.length := by
  simp [held, Nat.add_assoc]

/-! ## One call at a time -/

/-- It lends the most recently returned idle item, or, with none and room left, the fresh one. -/
theorem pop_eq_ok {p p' : Pool α} {fresh a : α} {made : Bool} (h : p.pop fresh = .ok (a, made, p')) :
    (∃ rest, p.idle = a :: rest ∧ made = false ∧ p' = { p with idle := rest, busy := p.busy ++ [a] }) ∨
    (p.idle = [] ∧ p.busy.length + p.draining.length < p.capacity ∧ a = fresh ∧ made = true ∧
      p' = { p with busy := p.busy ++ [fresh] }) := by
  unfold pop at h
  split at h
  next a' rest idle =>
    cases h
    exact .inl ⟨rest, idle, rfl, rfl⟩
  next idle =>
    split at h
    next room =>
      cases h
      exact .inr ⟨idle, room, rfl, rfl, rfl⟩
    next => cases h

/-- Only as exhausted, exactly when nothing is idle and lent and draining items fill the capacity. -/
theorem pop_eq_error {p : Pool α} {fresh : α} {e : Failure} :
    p.pop fresh = .error e ↔ e = p.exhausted ∧ p.idle = [] ∧ p.capacity ≤ p.busy.length + p.draining.length := by
  unfold pop
  split
  next a rest idle => simp [idle]
  next idle =>
    split
    next room => simp only [reduceCtorEq, false_iff]; omega
    next full => simp [exhausted, eq_comm, idle, Nat.not_lt.1 full]

theorem held_lend (p : Pool α) (a : α) (rest : List α) (idle : p.idle = a :: rest) :
    ({ p with idle := rest, busy := p.busy ++ [a] } : Pool α).held.Perm p.held := by
  simp only [held, idle, List.cons_append, List.append_assoc]
  exact (List.perm_middle.append_left rest).trans List.perm_middle

section Decidable

variable [DecidableEq α]

theorem reclaim_eq_ok {p p' : Pool α} {a : α} (h : p.reclaim a = .ok p') :
    a ∈ p.busy ∧ p' = { p with busy := p.busy.erase a, draining := a :: p.draining } := by
  unfold reclaim at h
  split at h
  next lent =>
    cases h
    exact ⟨lent, rfl⟩
  next => cases h

/-- The first half of a push succeeds exactly for a lent item; a refusal returns no pool. -/
theorem reclaim_refused {p : Pool α} {a : α} : p.reclaim a = .error Failure.notPooled ↔ a ∉ p.busy := by
  unfold reclaim
  split <;> simp_all

theorem reclaim_accepted {p : Pool α} {a : α} : (∃ p', p.reclaim a = .ok p') ↔ a ∈ p.busy := by
  unfold reclaim
  split <;> simp_all

theorem push_eq_ok {p p' : Pool α} {a : α} (h : p.push a = .ok p') :
    a ∈ p.busy ∧ p' = { p with busy := p.busy.erase a, idle := a :: p.idle } := by
  unfold push at h
  split at h
  next lent =>
    cases h
    exact ⟨lent, rfl⟩
  next => cases h

theorem push_refused {p : Pool α} {a : α} : p.push a = .error Failure.notPooled ↔ a ∉ p.busy := by
  unfold push
  split <;> simp_all

theorem push_accepted {p : Pool α} {a : α} : (∃ p', p.push a = .ok p') ↔ a ∈ p.busy := by
  unfold push
  split <;> simp_all

theorem held_reclaim (p : Pool α) {a : α} (lent : a ∈ p.busy) :
    ({ p with busy := p.busy.erase a, draining := a :: p.draining } : Pool α).held.Perm p.held := by
  have out : (a :: p.busy.erase a).Perm p.busy := (List.perm_cons_erase lent).symm
  simp only [held, List.append_assoc]
  exact (List.perm_middle.trans (out.append_right _)).append_left _

theorem held_settle (p : Pool α) {a : α} (draining : a ∈ p.draining) : (p.settle a).held.Perm p.held := by
  have out : (a :: p.draining.erase a).Perm p.draining := (List.perm_cons_erase draining).symm
  simp only [held, settle, List.cons_append, List.append_assoc]
  exact List.perm_middle.symm.trans ((List.perm_middle.symm.trans (out.append_left _)).append_left _)

theorem held_push (p : Pool α) {a : α} (lent : a ∈ p.busy) :
    ({ p with busy := p.busy.erase a, idle := a :: p.idle } : Pool α).held.Perm p.held := by
  have out : (a :: p.busy.erase a).Perm p.busy := (List.perm_cons_erase lent).symm
  simp only [held, List.cons_append, List.append_assoc]
  exact List.perm_middle.symm.trans ((out.append_right _).append_left _)

end Decidable

/-! ## Runs -/

/-- A pool and how many items its constructor made; its next item is the one of that number. -/
structure Stock (α : Type) where
  pool : Pool α
  made : Nat

def Stock.empty (capacity : Int) : Stock α := ⟨make capacity, 0⟩

/-- One step on a pool whose constructor makes `newItem k` as its `k`-th item: a pop, the first
half of a push up to the reclaim hook, its second half, or a whole push. A refused call is no step. -/
inductive Move [DecidableEq α] (newItem : Nat → α) : Stock α → Stock α → Prop
  | pop {s : Stock α} {a : α} {made : Bool} {p : Pool α} :
      s.pool.pop (newItem s.made) = .ok (a, made, p) → Move newItem s ⟨p, if made then s.made + 1 else s.made⟩
  | reclaim {s : Stock α} {a : α} {p : Pool α} : s.pool.reclaim a = .ok p → Move newItem s ⟨p, s.made⟩
  | settle {s : Stock α} {a : α} : a ∈ s.pool.draining → Move newItem s ⟨s.pool.settle a, s.made⟩
  | push {s : Stock α} {a : α} {p : Pool α} : s.pool.push a = .ok p → Move newItem s ⟨p, s.made⟩

def Reachable [DecidableEq α] (newItem : Nat → α) (capacity : Int) (s : Stock α) : Prop :=
  Relation.ReflTransGen (Move newItem) (Stock.empty capacity) s

section Steps

variable [DecidableEq α] {newItem : Nat → α} {s s' : Stock α}

/-- All a step can do: keep the capacity and rearrange the items, or add the constructor's next
item while there is room. -/
theorem Move.cases (m : Move newItem s s') :
    s'.pool.capacity = s.pool.capacity ∧
    ((s'.pool.held.Perm s.pool.held ∧ s'.made = s.made) ∨
     (s'.pool.held.Perm (s.pool.held ++ [newItem s.made]) ∧ s'.made = s.made + 1 ∧
       s.pool.held.length < s.pool.capacity)) := by
  cases m with
  | pop popped =>
    rcases pop_eq_ok popped with ⟨rest, idle, rfl, rfl⟩ | ⟨idle, room, rfl, rfl, rfl⟩
    · exact ⟨rfl, .inl ⟨held_lend _ _ _ idle, rfl⟩⟩
    · refine ⟨rfl, .inr ⟨?_, rfl, by rw [length_held, idle]; simpa using room⟩⟩
      simp only [held, idle, List.nil_append, List.append_assoc]
      exact (List.perm_append_comm.append_left _).trans (by simp)
  | reclaim reclaimed =>
    obtain ⟨lent, rfl⟩ := reclaim_eq_ok reclaimed
    exact ⟨rfl, .inl ⟨held_reclaim _ lent, rfl⟩⟩
  | settle draining => exact ⟨rfl, .inl ⟨held_settle _ draining, rfl⟩⟩
  | push pushed =>
    obtain ⟨lent, rfl⟩ := push_eq_ok pushed
    exact ⟨rfl, .inl ⟨held_push _ lent, rfl⟩⟩

end Steps

section Invariant

variable {newItem : Nat → α} {s s' : Stock α}

/-- The capacity is the requested one, at least one; the items are distinct, at most `capacity`,
each made before. -/
structure Accounted (newItem : Nat → α) (capacity : Int) (s : Stock α) : Prop where
  capacity_eq : s.pool.capacity = max 1 capacity.toNat
  distinct : s.pool.held.Nodup
  bounded : s.pool.held.length ≤ s.pool.capacity
  made : ∀ a ∈ s.pool.held, ∃ k < s.made, newItem k = a

theorem accounted_empty (capacity : Int) : Accounted newItem capacity (Stock.empty capacity) where
  capacity_eq := rfl
  distinct := List.nodup_nil
  bounded := Nat.zero_le _
  made := fun _ none => absurd none List.not_mem_nil

theorem Accounted.fresh {capacity : Int} (inj : Function.Injective newItem) (acc : Accounted newItem capacity s) :
    newItem s.made ∉ s.pool.held := by
  intro mem
  obtain ⟨k, before, same⟩ := acc.made _ mem
  exact absurd (inj same) (Nat.ne_of_lt before)

theorem Accounted.move [DecidableEq α] {capacity : Int} (inj : Function.Injective newItem) (acc : Accounted newItem capacity s)
    (m : Move newItem s s') : Accounted newItem capacity s' := by
  obtain ⟨capacity_eq, kept | added⟩ := m.cases
  · obtain ⟨perm, made⟩ := kept
    refine ⟨capacity_eq ▸ acc.capacity_eq, perm.nodup_iff.2 acc.distinct, ?_, fun a mem => ?_⟩
    · rw [perm.length_eq, capacity_eq]
      exact acc.bounded
    · obtain ⟨k, before, same⟩ := acc.made a (perm.mem_iff.1 mem)
      exact ⟨k, made ▸ before, same⟩
  · obtain ⟨perm, made, room⟩ := added
    refine ⟨capacity_eq ▸ acc.capacity_eq, perm.nodup_iff.2 ?_, ?_, fun a mem => ?_⟩
    · exact List.nodup_append.2 ⟨acc.distinct, List.nodup_singleton _,
        fun a mem b new same => acc.fresh inj (by rw [List.mem_singleton.1 new] at same; exact same ▸ mem)⟩
    · rw [perm.length_eq, capacity_eq, List.length_append, List.length_singleton]
      exact room
    · rcases List.mem_append.1 (perm.mem_iff.1 mem) with old | new
      · obtain ⟨k, before, same⟩ := acc.made a old
        exact ⟨k, by omega, same⟩
      · exact ⟨s.made, by omega, (List.mem_singleton.1 new).symm⟩

theorem Reachable.accounted [DecidableEq α] {capacity : Int} (inj : Function.Injective newItem)
    (h : Reachable newItem capacity s) : Accounted newItem capacity s := by
  induction h with
  | refl => exact accounted_empty capacity
  | tail _ m acc => exact acc.move inj m

theorem Accounted.pop_unheld (inj : Function.Injective newItem) {capacity : Int} (acc : Accounted newItem capacity s)
    {a : α} {made : Bool} {p : Pool α} (popped : s.pool.pop (newItem s.made) = .ok (a, made, p)) :
    a ∉ s.pool.busy ∧ a ∉ s.pool.draining := by
  rcases pop_eq_ok popped with ⟨rest, idle, -, -⟩ | ⟨-, -, rfl, -, -⟩
  · -- an idle item appears once among the held items, so it is nowhere else
    have once := acc.distinct
    simp only [held, idle, List.cons_append, List.nodup_cons, List.mem_append, not_or] at once
    exact ⟨once.1.1.2, once.1.2⟩
  · have fresh := acc.fresh inj
    simp only [held, List.mem_append, not_or] at fresh
    exact ⟨fresh.1.2, fresh.2⟩

end Invariant

/-! ## The contract of a reachable pool -/

section Contract

variable [DecidableEq α] {newItem : Nat → α} {capacity : Int} {s : Stock α}

/-- The contract: no item idle twice or in two places; idle, lent and draining together at most
the capacity (the requested one, at least one); a pop calls the constructor only with nothing
idle and lends an item nobody holds; it fails, as exhausted only, exactly when nothing is idle
and the capacity is filled; a push succeeds exactly for a lent item, else returns no pool. -/
structure Lends (newItem : Nat → α) (capacity : Int) (s : Stock α) : Prop where
  idle_nodup : s.pool.idle.Nodup
  disjoint : s.pool.idle.Disjoint s.pool.busy ∧ s.pool.idle.Disjoint s.pool.draining ∧
    s.pool.busy.Disjoint s.pool.draining
  bounded : s.pool.idle.length + s.pool.busy.length + s.pool.draining.length ≤ s.pool.capacity
  capacity_eq : s.pool.capacity = max 1 capacity.toNat
  constructs_when_empty : ∀ a p, s.pool.pop (newItem s.made) = .ok (a, true, p) → s.pool.idle = []
  lends_unheld : ∀ a made p, s.pool.pop (newItem s.made) = .ok (a, made, p) →
    a ∉ s.pool.busy ∧ a ∉ s.pool.draining ∧ a ∈ p.busy
  exhausted : ∀ e, s.pool.pop (newItem s.made) = .error e ↔
    e = s.pool.exhausted ∧ s.pool.idle = [] ∧ s.pool.busy.length + s.pool.draining.length = s.pool.capacity
  reclaims : ∀ a, ((∃ p, s.pool.reclaim a = .ok p) ↔ a ∈ s.pool.busy) ∧
    (s.pool.reclaim a = .error Failure.notPooled ↔ a ∉ s.pool.busy)
  pushes : ∀ a, ((∃ p, s.pool.push a = .ok p) ↔ a ∈ s.pool.busy) ∧
    (s.pool.push a = .error Failure.notPooled ↔ a ∉ s.pool.busy)

theorem Accounted.to_lends (inj : Function.Injective newItem) (acc : Accounted newItem capacity s) :
    Lends newItem capacity s := by
  have distinct := acc.distinct
  simp only [held, List.nodup_append] at distinct
  obtain ⟨⟨idle_nodup, -, idle_busy⟩, -, apart⟩ := distinct
  have bounded := acc.bounded
  rw [length_held] at bounded
  refine ⟨idle_nodup, ⟨fun a ha hb => idle_busy a ha a hb rfl,
    fun a ha hd => apart a (List.mem_append_left _ ha) a hd rfl,
    fun a hb hd => apart a (List.mem_append_right _ hb) a hd rfl⟩, bounded, acc.capacity_eq, fun a p popped => ?_,
    fun a made p popped => ?_, fun e => ?_, fun a => ⟨reclaim_accepted, reclaim_refused⟩,
    fun a => ⟨push_accepted, push_refused⟩⟩
  · rcases pop_eq_ok popped with ⟨-, -, made, -⟩ | ⟨idle, -⟩
    · cases made
    · exact idle
  · obtain ⟨busy, draining⟩ := acc.pop_unheld inj popped
    refine ⟨busy, draining, ?_⟩
    rcases pop_eq_ok popped with ⟨-, -, -, rfl⟩ | ⟨-, -, rfl, -, rfl⟩ <;> simp
  · rw [pop_eq_error]
    constructor
    · rintro ⟨rfl, idle, full⟩
      exact ⟨rfl, idle, by rw [idle] at bounded; simp at bounded; omega⟩
    · rintro ⟨rfl, idle, full⟩
      exact ⟨rfl, idle, Nat.le_of_eq full.symm⟩

/-- Every pool an interleaving reaches, its constructor never repeating, keeps the contract. -/
theorem Reachable.lends (inj : Function.Injective newItem) (h : Reachable newItem capacity s) :
    Lends newItem capacity s :=
  (h.accounted inj).to_lends inj

/-- Two items lent, the first on its way back: the pool is full, so a pop fails. -/
theorem lends_reclaiming :
    Function.Injective (· + 1 : Nat → Nat) ∧ Reachable (· + 1) 2 (⟨⟨2, [], [2], [1]⟩, 2⟩ : Stock Nat) ∧
      Lends (· + 1) 2 (⟨⟨2, [], [2], [1]⟩, 2⟩ : Stock Nat) := by
  have inj : Function.Injective (· + 1 : Nat → Nat) := fun _ _ same => Nat.succ.inj same
  have run : Reachable (· + 1) 2 (⟨⟨2, [], [2], [1]⟩, 2⟩ : Stock Nat) :=
    .tail (.tail (.tail .refl (@Move.pop Nat _ (· + 1) ⟨⟨2, [], [], []⟩, 0⟩ 1 true ⟨2, [], [1], []⟩ rfl))
      (@Move.pop Nat _ (· + 1) ⟨⟨2, [], [1], []⟩, 1⟩ 2 true ⟨2, [], [1, 2], []⟩ rfl))
      (@Move.reclaim Nat _ (· + 1) ⟨⟨2, [], [1, 2], []⟩, 2⟩ 1 ⟨2, [], [2], [1]⟩ rfl)
  exact ⟨inj, run, Reachable.lends inj run⟩

end Contract

end Pool

end InferenceBroker
