import InferenceBroker.Proofs.Outbox.Invariant

/-!
# The consumer's progress

With no call under way, the consumer needs no other thread: on its own it hands over every node
linked after the head, and then returns, if the queue is closed, or waits on the condition
variable, if it is open. Each of its steps lowers a potential, sixteen per node still to go plus
how far it is from handing the next one over or from its rest, so a run of its steps alone reaches
the rest (`Reachable.settles`).

That it can rest on the wait list at all is the no-lost-wake-up invariant at work: while the
consumer waits, every node it has not seen and every close has a client still to signal it, and
with no call under way there is none.
-/

namespace InferenceBroker

namespace Outbox

variable {α : Type}

/-- No client is inside a call. -/
def Quiet (s : State α) : Prop := ∀ i, (s.clients i).pc = .idle

/-- The consumer has nothing left to do on its own: it returned, or it is on the wait list. -/
def Rests (s : State α) : Prop := s.consumer = .exited ∨ (s.consumer = .asleep ∧ s.waiting = true)

/-- The nodes linked after the last one handed over. -/
def State.pending (s : State α) : Nat := s.links.length - s.sent.length

/-- How far the consumer is from handing the next node over, when some are `pending`, or else
from its rest: returned once `closed`, on the wait list while open. -/
def Consumer.rank (closed waiting pending : Bool) : Consumer α → Nat
  | .send _ _ => 0
  | .scan drained => if pending then 1 else if closed then (if drained then 4 else 3) else (if drained then 7 else 6)
  | .uncount => if pending then 2 else if closed then 5 else 8
  | .unlock => if pending then 2 else if closed then 4 else 7
  | .final => if pending then 2 else 1
  | .check => if pending then 5 else if closed then 2 else 5
  | .lock => if pending then 4 else if closed then 7 else 4
  | .waitNext => if pending then 3 else if closed then 6 else 3
  | .waitClosed => if pending then 3 else if closed then 5 else 2
  | .wait => 1
  | .asleep => if waiting then 0 else if pending then 3 else if closed then 5 else 8
  | .exited => 0

/-- Sixteen per node still to hand over, plus the consumer's rank. -/
def State.potential (s : State α) : Nat :=
  16 * s.pending + s.consumer.rank s.closed s.waiting (decide (0 < s.pending))

theorem Consumer.rank_lt (closed waiting pending : Bool) (c : Consumer α) : c.rank closed waiting pending < 16 := by
  unfold Consumer.rank
  repeat' split
  all_goals omega

/-- A step that keeps the links, what went out and the closed flag lowers the potential exactly
when it lowers the consumer's rank. -/
theorem potential_lt_of_rank {s s' : State α} (closed : s'.closed = s.closed) (links : s'.links = s.links)
    (sent : s'.sent = s.sent)
    (lt : s'.consumer.rank s.closed s'.waiting (decide (0 < s.pending)) <
      s.consumer.rank s.closed s.waiting (decide (0 < s.pending))) :
    s'.potential < s.potential := by
  have pending : s'.pending = s.pending := by simp only [State.pending, links, sent]
  unfold State.potential
  rw [closed, pending]
  omega

section Steps

variable [Inhabited α] {progs : Nat → List (Call α)} {s : State α}

@[simp] theorem State.consumerStep_clients : s.consumerStep.clients = s.clients := by
  unfold State.consumerStep; split <;> (try split) <;> rfl

@[simp] theorem State.consumerStep_links : s.consumerStep.links = s.links := by
  unfold State.consumerStep; split <;> (try split) <;> rfl

@[simp] theorem State.consumerStep_closed : s.consumerStep.closed = s.closed := by
  unfold State.consumerStep; split <;> (try split) <;> rfl

@[simp] theorem State.consumerStep_origin : s.consumerStep.origin = s.origin := by
  unfold State.consumerStep; split <;> (try split) <;> rfl

omit [Inhabited α] in
/-- With no call under way and the consumer outside the mutex, the mutex is free. -/
theorem Inv.free (h : Inv progs s) (quiet : Quiet s) (out : ¬s.consumer.Holds) : s.holder = none := by
  cases hh : s.holder with
  | none => rfl
  | some w =>
    have holds := (h.holder w).1 hh
    cases w with
    | consumer => exact absurd holds out
    | client i => simp [State.Holds, quiet i, Client.Pc.Holds] at holds

omit [Inhabited α] in
/-- After the head, the consumer finds a node exactly while some are pending. -/
theorem Inv.next_head (h : Inv progs s) (hc : ∀ v n, s.consumer ≠ .send v n) :
    s.next s.head = none ↔ ¬0 < s.pending := by
  rw [h.next_chain _ _ (h.head hc), List.getElem?_eq_none_iff]
  simp only [State.pending]
  omega

/-- Away from its rest, with no call under way, each step of the consumer lowers the potential. -/
theorem Inv.potential_lt (h : Inv progs s) (quiet : Quiet s) (busy : ¬Rests s) :
    s.consumerStep.potential < s.potential := by
  cases hc : s.consumer with
  | send v n =>
    -- the only step that hands a node over: sixteen less, whatever the rank becomes
    have follows := h.follows
    simp only [Follows, hc] at follows
    have lt : s.sent.length < s.links.length := (List.getElem?_eq_some_iff.1 follows.2.1).1
    have pending : s.consumerStep.pending + 1 = s.pending := by
      simp only [State.consumerStep, hc, State.pending, List.length_append, List.length_singleton]
      omega
    have bound := Consumer.rank_lt s.consumerStep.closed s.consumerStep.waiting
      (decide (0 < s.consumerStep.pending)) s.consumerStep.consumer
    have zero : s.consumer.rank s.closed s.waiting (decide (0 < s.pending)) = 0 := by
      rw [hc]
      rfl
    unfold State.potential
    omega
  | scan d =>
    have next := h.next_head (by simp [hc])
    simp only [State.consumerStep, hc]
    cases hn : s.next s.head with
    | none =>
      have idle : decide (0 < s.pending) = false := by simpa using next.1 hn
      refine potential_lt_of_rank rfl rfl rfl ?_
      simp only [hc, idle]
      cases d <;> cases s.closed <;> simp [Consumer.rank]
    | some n =>
      have pos : 0 < s.pending := Classical.byContradiction fun no => by
        rw [← next, hn] at no
        cases no
      refine potential_lt_of_rank rfl rfl rfl ?_
      simp [hc, pos, Consumer.rank]
  | uncount =>
    simp only [State.consumerStep, hc]
    refine potential_lt_of_rank rfl rfl rfl ?_
    simp only [hc]
    cases decide (0 < s.pending) <;> cases s.closed <;> simp [Consumer.rank]
  | check =>
    simp only [State.consumerStep, hc]
    refine potential_lt_of_rank rfl rfl rfl ?_
    simp only [hc]
    cases decide (0 < s.pending) <;> cases s.closed <;> simp [Consumer.rank]
  | final =>
    have next := h.next_head (by simp [hc])
    simp only [State.consumerStep, hc]
    refine potential_lt_of_rank rfl rfl rfl ?_
    simp only [hc]
    by_cases pos : 0 < s.pending
    · simp [pos, next.not.2 (not_not.2 pos), Consumer.rank]
    · simp [pos, next.2 pos, Consumer.rank]
  | lock =>
    have free := h.free quiet (by simp [hc, Consumer.Holds])
    simp only [State.consumerStep, hc, free, ↓reduceIte]
    refine potential_lt_of_rank rfl rfl rfl ?_
    simp only [hc]
    cases decide (0 < s.pending) <;> cases s.closed <;> simp [Consumer.rank]
  | waitNext =>
    have next := h.next_head (by simp [hc])
    simp only [State.consumerStep, hc]
    refine potential_lt_of_rank rfl rfl rfl ?_
    simp only [hc]
    by_cases pos : 0 < s.pending
    · simp [pos, next.not.2 (not_not.2 pos), Consumer.rank]
    · simp only [pos, next.2 pos, decide_false, ↓reduceIte]
      cases s.closed <;> simp [Consumer.rank]
  | waitClosed =>
    simp only [State.consumerStep, hc]
    refine potential_lt_of_rank rfl rfl rfl ?_
    simp only [hc]
    cases decide (0 < s.pending) <;> cases s.closed <;> simp [Consumer.rank]
  | wait =>
    simp only [State.consumerStep, hc]
    refine potential_lt_of_rank rfl rfl rfl ?_
    simp [hc, Consumer.rank]
  | asleep =>
    have awake : s.waiting = false := by
      cases hw : s.waiting
      · rfl
      · exact absurd (.inr ⟨hc, hw⟩) busy
    have free := h.free quiet (by simp [hc, Consumer.Holds])
    simp only [State.consumerStep, hc, awake, free, Bool.not_false, decide_true, Bool.and_self, ↓reduceIte]
    refine potential_lt_of_rank rfl rfl rfl ?_
    simp only [hc, awake]
    cases decide (0 < s.pending) <;> cases s.closed <;> simp [Consumer.rank]
  | unlock =>
    simp only [State.consumerStep, hc]
    refine potential_lt_of_rank rfl rfl rfl ?_
    simp only [hc]
    cases decide (0 < s.pending) <;> cases s.closed <;> simp [Consumer.rank]
  | exited => exact absurd (.inl hc) busy

/-- A run of the consumer alone leaves the clients, the links, the flag and the origins alone. -/
theorem run_consumer_frame (m : Nat) :
    let r := run progs s (List.replicate m .consumer)
    r.clients = s.clients ∧ r.links = s.links ∧ r.closed = s.closed ∧ r.origin = s.origin := by
  induction m generalizing s with
  | zero => exact ⟨rfl, rfl, rfl, rfl⟩
  | succ m ih =>
    obtain ⟨clients, links, closed, origin⟩ := ih (s := s.consumerStep)
    exact ⟨clients.trans State.consumerStep_clients, links.trans State.consumerStep_links,
      closed.trans State.consumerStep_closed, origin.trans State.consumerStep_origin⟩

/-- With no call under way, some run of the consumer alone brings it to its rest. -/
theorem Inv.rests (h : Inv progs s) (quiet : Quiet s) :
    ∃ m, Rests (run progs s (List.replicate m .consumer)) := by
  -- on the potential, which every step away from the rest lowers
  induction hp : s.potential using Nat.strong_induction_on generalizing s with
  | _ p ih =>
    by_cases rest : Rests s
    · exact ⟨0, rest⟩
    · have quiet' : Quiet s.consumerStep := fun i => by
        rw [State.consumerStep_clients]
        exact quiet i
      obtain ⟨m, hm⟩ := ih _ (hp ▸ h.potential_lt quiet rest) (h.step .consumer) quiet' rfl
      exact ⟨m + 1, hm⟩

omit [Inhabited α] in
/-- On the wait list with no call under way, the consumer has handed over every linked node
and found the queue open: a node or a close it missed would have a client still to signal it. -/
theorem Inv.asleep_drained (h : Inv progs s) (quiet : Quiet s) (hc : s.consumer = .asleep)
    (w : s.waiting = true) : s.sent = s.links ∧ s.closed = false := by
  have dozing : s.Dozing := .inr (.inr ⟨hc, w⟩)
  have drained : s.links.drop s.sent.length = [] := List.eq_nil_iff_forall_not_mem.2 fun x hx => by
    obtain ⟨i, signals⟩ := h.wake_links dozing x hx
    simp [quiet i, Client.Pc.Signals] at signals
  refine ⟨h.sent.eq_of_length (le_antisymm h.sent.length_le (List.drop_eq_nil_iff.1 drained)), ?_⟩
  cases closed : s.closed
  · rfl
  · obtain ⟨i, signals⟩ := h.wake_close (.inr ⟨hc, w⟩) closed
    simp [quiet i, Client.Pc.Signals] at signals

end Steps

section Reachable

variable [Inhabited α] {progs : Nat → List (Call α)} {s : State α}

/-- With no call under way, a run of the consumer alone reaches its rest, and there it has
handed over every accepted push exactly once: it returned if the queue is closed, and it waits
with no linked node left if the queue is open. -/
theorem Reachable.settles (h : Reachable progs s) (quiet : Quiet s) :
    ∃ m, let r := Outbox.run progs s (List.replicate m .consumer)
      Rests r ∧ (r.consumer = .exited ↔ s.closed = true) ∧ (r.consumer = .asleep → r.sent = r.links) ∧
      ∀ i k, (s.clients i).done[k]? = some (some true) → ∃ x, s.origin x = some (i, k) ∧ r.sent.count x = 1 := by
  obtain ⟨m, rest⟩ := h.inv.rests quiet
  set r := Outbox.run progs s (List.replicate m .consumer) with hr
  have inv : Inv progs r := (h.run _).inv
  obtain ⟨clients, links, closed, origin⟩ : r.clients = s.clients ∧ r.links = s.links ∧ r.closed = s.closed ∧
      r.origin = s.origin := run_consumer_frame m
  have quiet' : Quiet r := fun i => by rw [clients]; exact quiet i
  have once : r.sent.Nodup := inv.links_nodup.sublist inv.sent.sublist
  -- every accepted push has its node among those handed over
  have delivered : ∀ i k, (s.clients i).done[k]? = some (some true) → ∃ x ∈ r.sent, s.origin x = some (i, k) := by
    intro i k accepted
    rcases rest with exited | ⟨asleep, w⟩
    · rw [← origin]
      exact inv.exit_sent exited i k (clients ▸ accepted)
    · obtain ⟨x, hx, made⟩ := (inv.clients i).accepted k (clients ▸ accepted)
      exact ⟨x, (inv.asleep_drained quiet' asleep w).1 ▸ hx, origin ▸ made⟩
  refine ⟨m, rest, ⟨fun e => closed ▸ inv.exit_closed (.inr e), fun c => ?_⟩, ?_, ?_⟩
  · rcases rest with exited | ⟨asleep, w⟩
    · exact exited
    · have := (inv.asleep_drained quiet' asleep w).2
      rw [closed, c] at this
      cases this
  · intro asleep
    rcases rest with exited | ⟨_, w⟩
    · rw [exited] at asleep
      cases asleep
    · exact (inv.asleep_drained quiet' asleep w).1
  · intro i k accepted
    obtain ⟨x, hx, made⟩ := delivered i k accepted
    exact ⟨x, made, List.count_eq_one_of_mem once hx⟩

end Reachable

end Outbox

end InferenceBroker
