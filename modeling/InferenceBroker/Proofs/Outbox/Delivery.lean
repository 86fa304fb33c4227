import InferenceBroker.Proofs.Outbox.Progress

/-!
# What the outbox delivers

The outbox's promise, over every schedule of its clients and its consumer: the values that go
out are the values of pushes, each node's once, in the order the nodes were linked, which for
one client is the order of its calls; a consumer about to wait leaves no linked node and no
close without a client still to signal it; it returns only once closed, with every accepted push
handed over; once closed, no call returns true that had not returned yet; and with no call under
way it comes to rest by itself with every accepted push handed over exactly once.

The refusal after a close is a run lemma: the flag stays set, and from then on a call returns a
refusal, a close's `none` or, from its recheck, the negated flag.
-/

namespace InferenceBroker

namespace Outbox

variable {α : Type}

section Refusal

variable {progs : Nat → List (Call α)} {s : State α}

@[simp] theorem State.goto_done (i j : Nat) (p : Client.Pc) :
    ((s.goto j p).clients i).done = (s.clients i).done := by
  by_cases h : i = j
  · subst h
    simp
  · simp [h]

theorem State.finish_done (i j : Nat) (r : Option Bool) :
    ((s.finish j r).clients i).done = (s.clients i).done ++ (if i = j then [r] else []) := by
  by_cases h : i = j
  · subst h
    simp
  · simp [h]

/-- The results of client `i` in `s'` are those in `s`, then more, none of them an acceptance. -/
def NoneAccepted (s s' : State α) (i : Nat) : Prop :=
  ∃ r, (s'.clients i).done = (s.clients i).done ++ r ∧ some true ∉ r

theorem NoneAccepted.of_done {s' : State α} {i : Nat} (done : (s'.clients i).done = (s.clients i).done) :
    NoneAccepted s s' i :=
  ⟨[], by rw [done, List.append_nil], List.not_mem_nil⟩

theorem NoneAccepted.refl (i : Nat) : NoneAccepted s s i := .of_done rfl

theorem NoneAccepted.trans {s' s'' : State α} {i : Nat} (h : NoneAccepted s s' i) (h' : NoneAccepted s' s'' i) :
    NoneAccepted s s'' i := by
  obtain ⟨r, done, hr⟩ := h
  obtain ⟨r', done', hr'⟩ := h'
  exact ⟨r ++ r', by rw [done', done, List.append_assoc], by simp [hr, hr']⟩

theorem NoneAccepted.goto {s' : State α} (clients : s'.clients = s.clients) (i j : Nat) (p : Client.Pc) :
    NoneAccepted s (s'.goto j p) i :=
  .of_done (by rw [State.goto_done, clients])

theorem NoneAccepted.finish {s' : State α} (clients : s'.clients = s.clients) (i j : Nat) {r : Option Bool}
    (hr : r ≠ some true) : NoneAccepted s (s'.finish j r) i := by
  refine ⟨if i = j then [r] else [], by rw [State.finish_done, clients], ?_⟩
  split <;> simp [Ne.symm hr]

/-- A step of a client keeps the queue closed once it is. -/
theorem State.clientStep_closed (closed : s.closed = true) (prog : List (Call α)) (j : Nat) :
    (s.clientStep prog j).closed = true := by
  unfold State.clientStep State.goto State.finish State.casTail State.alloc State.linkAfter
  split <;> (repeat' split) <;> simp [closed]

/-- Once the queue is closed, a step of client `j` gives client `i` no acceptance: a push that
starts is refused, a close returns `none`, and a push that linked its node rechecks the flag. -/
theorem NoneAccepted.clientStep (closed : s.closed = true) (prog : List (Call α)) (i j : Nat) :
    NoneAccepted s (s.clientStep prog j) i := by
  unfold State.clientStep
  cases hc : (s.clients j).pc with
  | idle =>
    dsimp only
    split
    · exact .refl i
    · rw [if_pos closed]
      exact .finish rfl i j (by simp)
    · exact .goto rfl i j _
  | loadTail n => exact .goto rfl i j _
  | loadNext n t =>
    dsimp only
    split
    · exact .goto rfl i j _
    · exact .goto rfl i j _
  | link n t =>
    dsimp only
    split
    · exact .goto rfl i j _
    · exact .goto rfl i j _
  | help n t nx => exact .goto (by simp) i j _
  | swing n t => exact .goto (by simp) i j _
  | count n => exact .goto rfl i j _
  | lock o =>
    dsimp only
    split
    · exact .goto rfl i j _
    · exact .refl i
  | signal o => exact .goto rfl i j _
  | unlock o =>
    cases o with
    | some n => exact .goto rfl i j _
    | none => exact .finish rfl i j (by simp)
  | recheck n =>
    dsimp only
    rw [closed]
    exact .finish rfl i j (by simp)

variable [Inhabited α]

/-- Once the queue is closed, a run keeps it closed and gives no client an acceptance. -/
theorem run_closed_none_accepted (closed : s.closed = true) (σ : List Thread) (i : Nat) :
    (run progs s σ).closed = true ∧ NoneAccepted s (run progs s σ) i := by
  -- on the schedule, each step keeping the flag and adding no acceptance
  induction σ generalizing s with
  | nil => exact ⟨closed, .refl i⟩
  | cons w σ ih =>
    have first : (step progs s w).closed = true ∧ NoneAccepted s (step progs s w) i := by
      cases w with
      | consumer => exact ⟨by simp [step, closed], .of_done (by simp [step])⟩
      | client j => exact ⟨State.clientStep_closed closed _ j, .clientStep closed _ i j⟩
    obtain ⟨closed', later⟩ := ih first.1
    exact ⟨closed', first.2.trans later⟩

/-- Once the queue is closed, no call returns true that had not returned yet, a push under way
included. -/
theorem run_refuses (closed : s.closed = true) (σ : List Thread) (i k : Nat) (late : (s.clients i).done.length ≤ k) :
    ((run progs s σ).clients i).done[k]? ≠ some (some true) := by
  obtain ⟨r, done, refusals⟩ := (run_closed_none_accepted closed σ i).2
  rw [done, List.getElem?_append_right late]
  exact fun found => refusals (List.mem_of_getElem? found)

end Refusal

section Promise

variable [Inhabited α] {progs : Nat → List (Call α)} {s : State α}

/-- What an outbox promises in a state, the clients making the calls of `progs`. -/
structure Delivers (progs : Nat → List (Call α)) (s : State α) : Prop where
  /-- each value that went out is that of the push that made the node handed over in its place -/
  pushed : List.Forall₂ (Carries progs s) s.out s.sent
  /-- nodes go out in the order their links were made, none twice -/
  link_order : s.sent <+: s.links
  once : s.sent.Nodup
  /-- one client's nodes are linked in the order of its calls -/
  call_order : s.links.Pairwise (InCallOrder s.origin)
  /-- a push that returned true linked the one node it made -/
  accepted : ∀ i k, (s.clients i).done[k]? = some (some true) → ∃! x, x ∈ s.links ∧ s.origin x = some (i, k)
  /-- while the consumer is about to wait or waits, each node it has not handed over, and a
  close, has a client still to signal it -/
  wake_links : s.Dozing → ∀ x ∈ s.links.drop s.sent.length, ∃ i, (s.clients i).pc.Signals (some x)
  wake_close : s.Waiting → s.closed = true → ∃ i, (s.clients i).pc.Signals none
  /-- the consumer returns only after a close, with every accepted push handed over -/
  exited : s.consumer = .exited → s.closed = true ∧
    ∀ i k, (s.clients i).done[k]? = some (some true) → ∃ x ∈ s.sent, s.origin x = some (i, k)
  /-- once the queue is closed, no call returns true that had not returned yet -/
  refused : s.closed = true → ∀ σ i k, (s.clients i).done.length ≤ k →
    ((run progs s σ).clients i).done[k]? ≠ some (some true)
  /-- with no call under way, the consumer alone comes to rest, returned exactly if the queue
  is closed and otherwise waiting with no linked node left, and every accepted push is handed
  over exactly once -/
  settles : Quiet s → ∃ m, let r := run progs s (List.replicate m .consumer)
    Rests r ∧ (r.consumer = .exited ↔ s.closed = true) ∧ (r.consumer = .asleep → r.sent = r.links) ∧
    ∀ i k, (s.clients i).done[k]? = some (some true) → ∃ x, s.origin x = some (i, k) ∧ r.sent.count x = 1

/-- Every state a schedule reaches keeps the outbox's promise. -/
theorem Reachable.delivers_accepted_once (h : Reachable progs s) : Delivers progs s := by
  have inv := h.inv
  exact {
    pushed := inv.emitted
    link_order := inv.sent
    once := inv.links_nodup.sublist inv.sent.sublist
    call_order := inv.order
    accepted := fun i k accepted => by
      obtain ⟨x, hx, made⟩ := (inv.clients i).accepted k accepted
      exact ⟨x, ⟨hx, made⟩, fun y hy => inv.origin_inj y x _ hy.2 made⟩
    wake_links := inv.wake_links
    wake_close := inv.wake_close
    exited := fun exited => ⟨inv.exit_closed (.inr exited), inv.exit_sent exited⟩
    refused := fun closed => run_refuses closed
    settles := h.settles }

/-- A push, a close that lands after it, and a second push that starts after the close. -/
theorem push_close_push_delivers :
    let progs : Nat → List (Call Nat) := fun i => [[.push 1, .push 2], [.close]].getD i []
    let s := run progs init (List.replicate 10 (.client 0) ++ List.replicate 4 (.client 1) ++ [.client 0])
    Reachable progs s ∧ Delivers progs s :=
  have reach := Reachable.run .init _
  ⟨reach, Reachable.delivers_accepted_once reach⟩

/- The first push is accepted and handed over, the second refused, and the consumer returns. -/
example : let progs : Nat → List (Call Nat) := fun i => [[.push 1, .push 2], [.close]].getD i []
    let r := run progs init (List.replicate 10 (.client 0) ++ List.replicate 4 (.client 1) ++ [.client 0] ++
      List.replicate 7 .consumer)
    r.out = [1] ∧ (r.clients 0).done = [some true, some false] ∧ r.consumer = .exited := by
  decide +kernel

end Promise

end Outbox

end InferenceBroker
