import Mathlib.Logic.Function.Basic
import Mathlib.Data.List.Infix
import Mathlib.Data.List.Forall2
import Mathlib.Data.List.Nodup
import InferenceBroker.Queue.Outbox

/-!
# The invariant of the lock-free outbox

What holds in every state a schedule reaches, and each step of each thread keeps: from the
sentinel the links spell out `links` and the tail is on that chain; every node comes from
one push and keeps its value until handed over, a push under way owning its unlinked node and
an accepted push having its node linked, each client's in call order; what the consumer handed
over is a prefix of `links` with the pushed values, its head the last one; the mutex holder is
the one thread inside a critical section, and while the consumer waits, every node it has not
seen and a close each have a thread still to signal it.
-/

namespace InferenceBroker

namespace Outbox

variable {α : Type}

namespace Client.Pc

/-- The node of the push under way. -/
def node? : Client.Pc → Option Nat
  | .loadTail n | .loadNext n _ | .link n _ | .help n _ _ | .swing n _ | .count n | .recheck n => some n
  | .lock o | .signal o | .unlock o => o
  | .idle => none

/-- A push whose node is not linked yet. -/
def Linking : Client.Pc → Prop
  | .loadTail _ | .loadNext _ _ | .link _ _ | .help _ _ _ => True
  | _ => False

/-- The nodes a push has read and acts on later. -/
def reads : Client.Pc → List Nat
  | .loadNext _ t | .link _ t => [t]
  | .help _ _ nx => [nx]
  | _ => []

/-- Still to signal the consumer for the node `some n` it linked, or for a close (`none`). -/
def Signals (x : Option Nat) : Client.Pc → Prop
  | .swing n _ | .count n => some n = x
  | .lock o | .signal o => o = x
  | _ => False

/-- Inside the critical section around the signal. -/
def Holds : Client.Pc → Prop
  | .signal _ | .unlock _ => True
  | _ => False

end Client.Pc

def Consumer.Holds : Consumer α → Prop
  | .waitNext | .waitClosed | .wait | .unlock => True
  | _ => False

namespace State

variable (s : State α)

/-- The sentinel, then the linked nodes in the order their links were made. -/
def chain : List Nat := 0 :: s.links

def Holds : Thread → Prop
  | .consumer => s.consumer.Holds
  | .client i => (s.clients i).pc.Holds

/-- The consumer found nothing after the head under the mutex, and is about to wait or waits. -/
def Dozing : Prop :=
  s.consumer = .waitClosed ∨ s.consumer = .wait ∨ (s.consumer = .asleep ∧ s.waiting = true)

/-- It also found the queue open. -/
def Waiting : Prop := s.consumer = .wait ∨ (s.consumer = .asleep ∧ s.waiting = true)

end State

/-- Node `x` holds `v`, the value of the push that made it. -/
def Carries (progs : Nat → List (Call α)) (s : State α) (v : α) (x : Nat) : Prop :=
  ∃ i k, s.origin x = some (i, k) ∧ (progs i)[k]? = some (.push v)

/-- Two nodes of one client are linked in the order of its calls. -/
def InCallOrder (origin : Nat → Option (Nat × Nat)) (x y : Nat) : Prop :=
  ∀ i k k', origin x = some (i, k) → origin y = some (i, k') → k < k'

/-- The head is the last node handed over, or the node taken while its value is handed over. -/
def Follows (progs : Nat → List (Call α)) (s : State α) : Prop :=
  match s.consumer with
  | .send v n => s.head = n ∧ s.links[s.sent.length]? = some n ∧ Carries progs s v n
  | .uncount => s.chain[s.sent.length]? = some s.head ∧ 0 < s.sent.length
  | _ => s.chain[s.sent.length]? = some s.head

/-- What client `i`'s calls and its place in the current one say about memory. -/
structure Fits (s : State α) (i : Nat) : Prop where
  /-- its nodes come from finished calls, or are the node of the push under way -/
  calls : ∀ x k, s.origin x = some (i, k) →
    k < (s.clients i).done.length ∨ ((s.clients i).pc.node? = some x ∧ k = (s.clients i).done.length)
  owns : ∀ x, (s.clients i).pc.node? = some x → s.origin x = some (i, (s.clients i).done.length)
  unlinked : (s.clients i).pc.Linking → ∀ x, (s.clients i).pc.node? = some x → x ∉ s.chain
  linked : ¬(s.clients i).pc.Linking → ∀ x, (s.clients i).pc.node? = some x → x ∈ s.links
  reads : ∀ x ∈ (s.clients i).pc.reads, x ∈ s.chain
  /-- a push that returned `true` has its node linked -/
  accepted : ∀ k, (s.clients i).done[k]? = some (some true) → ∃ x ∈ s.links, s.origin x = some (i, k)

/-- The invariant of every reachable state. -/
structure Inv (progs : Nat → List (Call α)) (s : State α) : Prop where
  nodup : s.chain.Nodup
  next_chain : ∀ (j x : Nat), s.chain[j]? = some x → s.next x = s.links[j]?
  next_off : ∀ x, x ∉ s.chain → s.next x = none
  tail : s.tail ∈ s.chain
  chain_fresh : ∀ x ∈ s.chain, x < s.fresh
  origin_fresh : ∀ x, s.fresh ≤ x → s.origin x = none
  origin_links : ∀ x ∈ s.links, s.origin x ≠ none
  origin_inj : ∀ x y p, s.origin x = some p → s.origin y = some p → x = y
  /-- a node is made by a push, and holds its value until the consumer hands it over -/
  calls : ∀ x i k, s.origin x = some (i, k) →
    ∃ v, (progs i)[k]? = some (.push v) ∧ (x ∉ s.sent → (s.nodes x).value = v)
  clients : ∀ i, Fits s i
  order : s.links.Pairwise (InCallOrder s.origin)
  sent : s.sent <+: s.links
  emitted : List.Forall₂ (Carries progs s) s.out s.sent
  follows : Follows progs s
  exit_closed : s.consumer = .final ∨ s.consumer = .exited → s.closed = true
  exit_sent : s.consumer = .exited →
    ∀ i k, (s.clients i).done[k]? = some (some true) → ∃ x ∈ s.sent, s.origin x = some (i, k)
  holder : ∀ w, s.holder = some w ↔ s.Holds w
  waiting : s.waiting = true → s.consumer = .asleep
  wake_links : s.Dozing → ∀ x ∈ s.links.drop s.sent.length, ∃ i, (s.clients i).pc.Signals (some x)
  wake_close : s.Waiting → s.closed = true → ∃ i, (s.clients i).pc.Signals none

section Chain

variable {progs : Nat → List (Call α)} {s : State α}

theorem mem_chain_of_mem_links {x : Nat} (hx : x ∈ s.links) : x ∈ s.chain := List.mem_cons_of_mem 0 hx

theorem Inv.links_nodup (h : Inv progs s) : s.links.Nodup := (List.nodup_cons.1 h.nodup).2

theorem Inv.mem_links_of_next (h : Inv progs s) {x y : Nat} (hx : x ∈ s.chain) (hy : s.next x = some y) :
    y ∈ s.links := by
  obtain ⟨j, hj⟩ := List.mem_iff_getElem?.1 hx
  rw [h.next_chain j x hj] at hy
  exact List.mem_of_getElem? hy

theorem Inv.last_of_next (h : Inv progs s) {x : Nat} (hx : x ∈ s.chain) (hn : s.next x = none) :
    s.chain[s.links.length]? = some x := by
  obtain ⟨j, hj⟩ := List.mem_iff_getElem?.1 hx
  have after : s.links.length ≤ j := List.getElem?_eq_none_iff.1 (h.next_chain j x hj ▸ hn)
  have within : j < s.links.length + 1 := (List.getElem?_eq_some_iff.1 hj).1
  rwa [show s.links.length = j by omega]

theorem not_mem_sent {sent links : List Nat} (pre : sent <+: links) (nodup : links.Nodup) {n : Nat}
    (hn : links[sent.length]? = some n) : n ∉ sent := by
  obtain ⟨rest, rfl⟩ := pre
  rw [List.getElem?_append_right (Nat.le_refl _), Nat.sub_self] at hn
  exact fun mem => (List.nodup_append.1 nodup).2.2 n mem n (List.mem_of_getElem? hn) rfl

theorem prefix_append_next {sent links : List Nat} (pre : sent <+: links) {n : Nat}
    (hn : links[sent.length]? = some n) : sent ++ [n] <+: links := by
  obtain ⟨rest, rfl⟩ := pre
  rw [List.getElem?_append_right (Nat.le_refl _), Nat.sub_self] at hn
  cases rest with
  | nil => cases hn
  | cons m rest =>
    cases hn
    exact ⟨rest, by simp⟩

theorem sent_eq_links {sent links : List Nat} (pre : sent <+: links) (none : links[sent.length]? = none) :
    sent = links :=
  pre.eq_of_length (Nat.le_antisymm pre.length_le (List.getElem?_eq_none_iff.1 none))

end Chain

section Consumer

variable {progs : Nat → List (Call α)} {s : State α}

theorem Inv.head (h : Inv progs s) (hc : ∀ v n, s.consumer ≠ .send v n) :
    s.chain[s.sent.length]? = some s.head := by
  have follows := h.follows
  unfold Follows at follows
  split at follows
  · exact absurd ‹_› (hc _ _)
  · exact follows.1
  · exact follows

theorem Inv.holder_of_consumer (h : Inv progs s) {s' : State α} (holder : s'.holder = s.holder)
    (clients : s'.clients = s.clients) (same : s'.consumer.Holds ↔ s.consumer.Holds) :
    ∀ w, s'.holder = some w ↔ s'.Holds w := by
  intro w
  rw [holder, h.holder]
  cases w with
  | consumer => exact same.symm
  | client i => simp only [State.Holds, clients]

theorem Inv.not_waiting (h : Inv progs s) (hc : s.consumer ≠ .asleep) : s.waiting = false := by
  cases hw : s.waiting
  · rfl
  · exact absurd (h.waiting hw) hc

theorem Inv.clients_out (h : Inv progs s) (free : s.holder = none ∨ s.holder = some .consumer) (i : Nat) :
    ¬(s.clients i).pc.Holds := fun holds => by
  have held := (h.holder (.client i)).2 holds
  rcases free with free | free <;> rw [free] at held <;> cases held

theorem holder_of_consumer_only {s s' : State α} (clients : s'.clients = s.clients)
    (out : ∀ i, ¬(s.clients i).pc.Holds)
    (hold : (s'.holder = some .consumer ∧ s'.consumer.Holds) ∨ (s'.holder = none ∧ ¬s'.consumer.Holds)) :
    ∀ w, s'.holder = some w ↔ s'.Holds w := by
  intro w
  cases w with
  | consumer => rcases hold with ⟨holder, holds⟩ | ⟨holder, holds⟩ <;> simp [holder, holds, State.Holds]
  | client i => rcases hold with ⟨holder, _⟩ | ⟨holder, _⟩ <;> simp [holder, State.Holds, clients, out i]

/-- The consumer moving on to a place where it neither returns nor waits, the mutex going to
`o`, with nothing else changed, keeps the invariant: no field but the consumer's own moves. -/
theorem Inv.moveConsumerHolder (h : Inv progs s) {c : Consumer α} {o : Option Thread} (idle : s.waiting = false)
    (follows : Follows progs { s with holder := o, consumer := c }) (running : c ≠ .final ∧ c ≠ .exited)
    (awake : c ≠ .waitClosed ∧ c ≠ .wait)
    (holder : ∀ w, State.holder { s with holder := o, consumer := c } = some w ↔
      ({ s with holder := o, consumer := c } : State α).Holds w) :
    Inv progs { s with holder := o, consumer := c } :=
  { h with
    clients := fun i => { h.clients i with }
    follows := follows
    exit_closed := fun e => (e.elim running.1 running.2).elim
    exit_sent := fun e => (running.2 e).elim
    holder := holder
    waiting := fun w => by simp [idle] at w
    wake_links := fun e => by simp [State.Dozing, awake, idle] at e
    wake_close := fun e => by simp [State.Waiting, awake, idle] at e }

/-- The same, the mutex staying where it is. -/
theorem Inv.moveConsumer (h : Inv progs s) {c : Consumer α} (idle : s.waiting = false)
    (follows : Follows progs { s with consumer := c }) (running : c ≠ .final ∧ c ≠ .exited)
    (awake : c ≠ .waitClosed ∧ c ≠ .wait) (holds : c.Holds ↔ s.consumer.Holds) :
    Inv progs { s with consumer := c } := by
  exact h.moveConsumerHolder idle follows running awake (h.holder_of_consumer rfl rfl holds)

theorem Inv.scan_found [Inhabited α] (h : Inv progs s) {d : Bool} (hc : s.consumer = .scan d) {n : Nat}
    (hn : s.next s.head = some n) : Inv progs s.consumerStep := by
  have head := h.head (by simp [hc])
  have next : s.links[s.sent.length]? = some n := (h.next_chain _ _ head).symm.trans hn
  obtain ⟨⟨i, k⟩, hik⟩ := Option.ne_none_iff_exists'.1 (h.origin_links n (List.mem_of_getElem? next))
  obtain ⟨v, hv, value⟩ := h.calls n i k hik
  have carries : Carries progs s (s.nodes n).value n := by
    rw [value (not_mem_sent h.sent h.links_nodup next)]
    exact ⟨i, k, hik, hv⟩
  have idle := h.not_waiting (by simp [hc])
  simp only [State.consumerStep, hc, hn]
  exact { h with
    clients := fun i => { h.clients i with }
    follows := ⟨rfl, next, carries⟩
    exit_closed := fun e => by simp at e
    exit_sent := fun e => by cases e
    holder := h.holder_of_consumer rfl rfl (by simp [Consumer.Holds, hc])
    waiting := fun w => by simp [idle] at w
    wake_links := fun e => by simp [State.Dozing] at e
    wake_close := fun e => by simp [State.Waiting] at e }

theorem Inv.scan_empty [Inhabited α] (h : Inv progs s) {d : Bool} (hc : s.consumer = .scan d)
    (hn : s.next s.head = none) : Inv progs s.consumerStep := by
  have head := h.head (by simp [hc])
  have idle := h.not_waiting (by simp [hc])
  simp only [State.consumerStep, hc, hn]
  cases d <;> exact h.moveConsumer idle head (by simp) (by simp) (by simp [Consumer.Holds, hc])

theorem Inv.send [Inhabited α] (h : Inv progs s) {v : α} {n : Nat} (hc : s.consumer = .send v n) :
    Inv progs s.consumerStep := by
  have follows := h.follows
  simp only [Follows, hc] at follows
  obtain ⟨head, next, carries⟩ := follows
  have idle := h.not_waiting (by simp [hc])
  simp only [State.consumerStep, hc]
  exact { h with
    calls := fun x i k hx => by
      obtain ⟨w, hw, value⟩ := h.calls x i k hx
      exact ⟨w, hw, fun unsent => value fun mem => unsent (List.mem_append_left _ mem)⟩
    clients := fun i => { h.clients i with }
    sent := prefix_append_next h.sent next
    emitted := List.rel_append h.emitted (.cons carries .nil)
    follows := by
      refine ⟨?_, by simp⟩
      simpa [State.chain, head] using next
    exit_closed := fun e => by simp at e
    exit_sent := fun e => by cases e
    holder := h.holder_of_consumer rfl rfl (by simp [Consumer.Holds, hc])
    waiting := fun w => by simp [idle] at w
    wake_links := fun e => by simp [State.Dozing] at e
    wake_close := fun e => by simp [State.Waiting] at e }

/-- Dropping the value handed over loses none still to go: the dropped one is the head. -/
theorem Inv.uncount [Inhabited α] (h : Inv progs s) (hc : s.consumer = .uncount) :
    Inv progs s.consumerStep := by
  have follows := h.follows
  simp only [Follows, hc] at follows
  obtain ⟨head, handed⟩ := follows
  -- the head is the last node handed over
  have sent : s.head ∈ s.sent := by
    obtain ⟨rest, hrest⟩ := h.sent
    have at_links : s.links[s.sent.length - 1]? = some s.head := by
      rw [show s.sent.length = s.sent.length - 1 + 1 by omega] at head
      simpa [State.chain] using head
    rw [← hrest, List.getElem?_append_left (by omega)] at at_links
    exact List.mem_of_getElem? at_links
  have next : ∀ x, (Function.update s.nodes s.head { s.nodes s.head with value := default } x).next = s.next x := by
    intro x
    by_cases same : x = s.head
    · subst same
      simp [State.next]
    · simp [State.next, same]
  have idle := h.not_waiting (by simp [hc])
  simp only [State.consumerStep, hc]
  exact { h with
    next_chain := fun j x hx => (next x).trans (h.next_chain j x hx)
    next_off := fun x hx => (next x).trans (h.next_off x hx)
    calls := fun x i k hx => by
      obtain ⟨w, hw, value⟩ := h.calls x i k hx
      refine ⟨w, hw, fun unsent => ?_⟩
      have other : x ≠ s.head := fun same => unsent (same ▸ sent)
      simpa [other] using value unsent
    clients := fun i => { h.clients i with }
    follows := head
    exit_closed := fun e => by simp at e
    exit_sent := fun e => by cases e
    holder := h.holder_of_consumer rfl rfl (by simp [Consumer.Holds, hc])
    waiting := fun w => by simp [idle] at w
    wake_links := fun e => by simp [State.Dozing] at e
    wake_close := fun e => by simp [State.Waiting] at e }

theorem Inv.check [Inhabited α] (h : Inv progs s) (hc : s.consumer = .check) : Inv progs s.consumerStep := by
  have head := h.head (by simp [hc])
  have idle := h.not_waiting (by simp [hc])
  by_cases closed : s.closed = true
  · simp only [State.consumerStep, hc]
    rw [if_pos closed]
    exact { h with
      clients := fun i => { h.clients i with }
      follows := head
      exit_closed := fun _ => closed
      exit_sent := fun e => by cases e
      holder := h.holder_of_consumer rfl rfl (by simp [Consumer.Holds, hc])
      waiting := fun w => by simp [idle] at w
      wake_links := fun e => by simp [State.Dozing] at e
      wake_close := fun e => by simp [State.Waiting] at e }
  · simp only [State.consumerStep, hc]
    rw [if_neg closed]
    exact h.moveConsumer idle head (by simp) (by simp) (by simp [Consumer.Holds, hc])

/-- The last look once closed: nothing after the head means every accepted value went out. -/
theorem Inv.final [Inhabited α] (h : Inv progs s) (hc : s.consumer = .final) : Inv progs s.consumerStep := by
  have head := h.head (by simp [hc])
  have idle := h.not_waiting (by simp [hc])
  have closed := h.exit_closed (.inl hc)
  cases hn : s.next s.head with
  | none =>
    have all : s.sent = s.links := sent_eq_links h.sent ((h.next_chain _ _ head).symm.trans hn)
    simp only [State.consumerStep, hc, hn, ↓reduceIte]
    exact { h with
      clients := fun i => { h.clients i with }
      follows := head
      exit_closed := fun _ => closed
      exit_sent := fun _ i k accepted => by
        obtain ⟨x, hx, origin⟩ := (h.clients i).accepted k accepted
        exact ⟨x, all ▸ hx, origin⟩
      holder := h.holder_of_consumer rfl rfl (by simp [Consumer.Holds, hc])
      waiting := fun w => by simp [idle] at w
      wake_links := fun e => by simp [State.Dozing] at e
      wake_close := fun e => by simp [State.Waiting] at e }
  | some n =>
    simp only [State.consumerStep, hc, hn, reduceCtorEq, ↓reduceIte]
    exact h.moveConsumer idle head (by simp) (by simp) (by simp [Consumer.Holds, hc])

theorem Inv.lock [Inhabited α] (h : Inv progs s) (hc : s.consumer = .lock) : Inv progs s.consumerStep := by
  by_cases free : s.holder = none
  · have head := h.head (by simp [hc])
    have idle := h.not_waiting (by simp [hc])
    simp only [State.consumerStep, hc, free, ↓reduceIte]
    exact h.moveConsumerHolder idle head (by simp) (by simp)
      (holder_of_consumer_only rfl (h.clients_out (.inl free)) (.inl ⟨rfl, trivial⟩))
  · simpa [State.consumerStep, hc, free] using h

theorem Inv.waitNext [Inhabited α] (h : Inv progs s) (hc : s.consumer = .waitNext) : Inv progs s.consumerStep := by
  have head := h.head (by simp [hc])
  have idle := h.not_waiting (by simp [hc])
  cases hn : s.next s.head with
  | none =>
    have drained : s.links.drop s.sent.length = [] :=
      List.drop_eq_nil_of_le (List.getElem?_eq_none_iff.1 ((h.next_chain _ _ head).symm.trans hn))
    simp only [State.consumerStep, hc, hn, ↓reduceIte]
    exact { h with
      clients := fun i => { h.clients i with }
      follows := head
      exit_closed := fun e => by simp at e
      exit_sent := fun e => by cases e
      holder := h.holder_of_consumer rfl rfl (by simp [Consumer.Holds, hc])
      waiting := fun w => by simp [idle] at w
      wake_links := fun _ x hx => by simp [drained] at hx
      wake_close := fun e => by simp [State.Waiting] at e }
  | some n =>
    simp only [State.consumerStep, hc, hn, reduceCtorEq, ↓reduceIte]
    exact h.moveConsumer idle head (by simp) (by simp) (by simp [Consumer.Holds, hc])

theorem Inv.waitClosed [Inhabited α] (h : Inv progs s) (hc : s.consumer = .waitClosed) :
    Inv progs s.consumerStep := by
  have head := h.head (by simp [hc])
  have idle := h.not_waiting (by simp [hc])
  by_cases closed : s.closed = true
  · simp only [State.consumerStep, hc]
    rw [if_pos closed]
    exact h.moveConsumer idle head (by simp) (by simp) (by simp [Consumer.Holds, hc])
  · simp only [State.consumerStep, hc]
    rw [if_neg closed]
    exact { h with
      clients := fun i => { h.clients i with }
      follows := head
      exit_closed := fun e => by simp at e
      exit_sent := fun e => by cases e
      holder := h.holder_of_consumer rfl rfl (by simp [Consumer.Holds, hc])
      waiting := fun w => by simp [idle] at w
      wake_links := fun _ => h.wake_links (.inl hc)
      wake_close := fun _ shut => absurd shut closed }

/-- The consumer gives the mutex back and joins the wait list in one step, so who was to
signal it still is. -/
theorem Inv.wait [Inhabited α] (h : Inv progs s) (hc : s.consumer = .wait) : Inv progs s.consumerStep := by
  have head := h.head (by simp [hc])
  have held : s.holder = some .consumer := (h.holder .consumer).2 (by simp [State.Holds, Consumer.Holds, hc])
  simp only [State.consumerStep, hc]
  exact { h with
    clients := fun i => { h.clients i with }
    follows := head
    exit_closed := fun e => by simp at e
    exit_sent := fun e => by cases e
    holder := holder_of_consumer_only rfl (h.clients_out (.inr held)) (.inr ⟨rfl, by simp [Consumer.Holds]⟩)
    waiting := fun _ => rfl
    wake_links := fun _ => h.wake_links (.inr (.inl hc))
    wake_close := fun _ => h.wake_close (.inl hc) }

theorem Inv.asleep [Inhabited α] (h : Inv progs s) (hc : s.consumer = .asleep) : Inv progs s.consumerStep := by
  by_cases woken : s.waiting = false ∧ s.holder = none
  · have head := h.head (by simp [hc])
    have signalled : (!s.waiting && decide (s.holder = none)) = true := by simp [woken]
    simp only [State.consumerStep, hc, signalled, ↓reduceIte]
    exact h.moveConsumerHolder woken.1 head (by simp) (by simp)
      (holder_of_consumer_only rfl (h.clients_out (.inl woken.2)) (.inl ⟨rfl, trivial⟩))
  · have blocked : (!s.waiting && decide (s.holder = none)) = false := by
      cases hw : s.waiting <;> simp_all
    simpa [State.consumerStep, hc, blocked] using h

theorem Inv.unlock [Inhabited α] (h : Inv progs s) (hc : s.consumer = .unlock) : Inv progs s.consumerStep := by
  have head := h.head (by simp [hc])
  have idle := h.not_waiting (by simp [hc])
  have held : s.holder = some .consumer := (h.holder .consumer).2 (by simp [State.Holds, Consumer.Holds, hc])
  simp only [State.consumerStep, hc]
  exact h.moveConsumerHolder idle head (by simp) (by simp)
    (holder_of_consumer_only rfl (h.clients_out (.inr held)) (.inr ⟨rfl, by simp [Consumer.Holds]⟩))

theorem Inv.consumerStep [Inhabited α] (h : Inv progs s) : Inv progs s.consumerStep := by
  cases hc : s.consumer with
  | scan d =>
    cases hn : s.next s.head with
    | none => exact h.scan_empty hc hn
    | some n => exact h.scan_found hc hn
  | send v n => exact h.send hc
  | uncount => exact h.uncount hc
  | check => exact h.check hc
  | final => exact h.final hc
  | lock => exact h.lock hc
  | waitNext => exact h.waitNext hc
  | waitClosed => exact h.waitClosed hc
  | wait => exact h.wait hc
  | asleep => exact h.asleep hc
  | unlock => exact h.unlock hc
  | exited => simpa [State.consumerStep, hc] using h

end Consumer

section Clients

variable {progs : Nat → List (Call α)} {s : State α}

theorem Fits.of_other {s' : State α} {i j : Nat} (h : Fits s j) (ne : j ≠ i)
    (same : s'.clients j = s.clients j)
    (links : ∃ l, s'.links = s.links ++ l ∧ ∀ y ∈ l, ∃ k, s.origin y = some (i, k))
    (kept : ∀ x p, s.origin x = some p → s'.origin x = some p)
    (new : ∀ x k, s'.origin x = some (j, k) → s.origin x = some (j, k)) : Fits s' j := by
  obtain ⟨l, hl, mine⟩ := links
  have chain : s'.chain = s.chain ++ l := by simp [State.chain, hl]
  refine ⟨fun x k hx => same ▸ h.calls x k (new x k hx), fun x hx => ?_, fun linking x hx => ?_,
    fun linked x hx => ?_, fun x hx => ?_, fun k hk => ?_⟩
  · rw [same] at hx ⊢
    exact kept _ _ (h.owns x hx)
  · rw [same] at linking hx
    rw [chain, List.mem_append, not_or]
    refine ⟨h.unlinked linking x hx, fun mem => ?_⟩
    -- a node `i` added is `i`'s, and this one is `j`'s
    obtain ⟨k, hk⟩ := mine x mem
    have owners := (h.owns x hx).symm.trans hk
    exact ne (Prod.mk.inj (Option.some.inj owners)).1
  · rw [same] at linked hx
    rw [hl]
    exact List.mem_append_left _ (h.linked linked x hx)
  · rw [same] at hx
    rw [chain]
    exact List.mem_append_left _ (h.reads x hx)
  · rw [same] at hk
    obtain ⟨x, hx, origin⟩ := h.accepted k hk
    exact ⟨x, hl ▸ List.mem_append_left _ hx, kept _ _ origin⟩

theorem Fits.move {s' : State α} {i : Nat} (h : Fits s i) (links : s'.links = s.links)
    (origin : s'.origin = s.origin) (done : (s'.clients i).done = (s.clients i).done)
    (node : (s'.clients i).pc.node? = (s.clients i).pc.node?)
    (linking : (s'.clients i).pc.Linking ↔ (s.clients i).pc.Linking)
    (reads : ∀ x ∈ (s'.clients i).pc.reads, x ∈ s.chain) : Fits s' i := by
  have chain : s'.chain = s.chain := by simp [State.chain, links]
  refine ⟨fun x k hx => ?_, fun x hx => ?_, fun l x hx => ?_, fun l x hx => ?_, fun x hx => chain ▸ reads x hx,
    fun k hk => ?_⟩
  · rw [origin] at hx
    rw [done, node]
    exact h.calls x k hx
  · rw [origin, done]
    exact h.owns x (node ▸ hx)
  · rw [chain]
    exact h.unlinked (linking.1 l) x (node ▸ hx)
  · rw [links]
    exact h.linked (fun l' => l (linking.2 l')) x (node ▸ hx)
  · rw [done] at hk
    rw [links, origin]
    exact h.accepted k hk

theorem Inv.holder_of_client (h : Inv progs s) {s' : State α} {i : Nat} (consumer : s'.consumer = s.consumer)
    (others : ∀ j, j ≠ i → s'.clients j = s.clients j) (holder : s'.holder = s.holder)
    (same : (s'.clients i).pc.Holds ↔ (s.clients i).pc.Holds) : ∀ w, s'.holder = some w ↔ s'.Holds w := by
  intro w
  rw [holder, h.holder]
  cases w with
  | consumer => simp [State.Holds, consumer]
  | client j =>
    by_cases hj : j = i
    · subst hj
      exact same.symm
    · simp [State.Holds, others j hj]

theorem holder_taken {s' : State α} {i : Nat} (consumer : s'.consumer = s.consumer)
    (others : ∀ j, j ≠ i → s'.clients j = s.clients j)
    (free : ∀ w, w ≠ .client i → ¬s.Holds w)
    (hold : (s'.holder = some (.client i) ∧ (s'.clients i).pc.Holds) ∨
      (s'.holder = none ∧ ¬(s'.clients i).pc.Holds)) : ∀ w, s'.holder = some w ↔ s'.Holds w := by
  intro w
  by_cases hw : w = .client i
  · subst hw
    rcases hold with ⟨holder, holds⟩ | ⟨holder, holds⟩ <;> simp [holder, holds, State.Holds]
  · have out := free w hw
    have unheld : s'.Holds w ↔ s.Holds w := by
      cases w with
      | consumer => simp [State.Holds, consumer]
      | client j => simp [State.Holds, others j (fun e => hw (e ▸ rfl))]
    rw [unheld]
    rcases hold with ⟨holder, _⟩ | ⟨holder, _⟩ <;> simp [holder, out, Ne.symm hw]

theorem Inv.wake_of_client (h : Inv progs s) (s' : State α) {i : Nat} (consumer : s'.consumer = s.consumer)
    (waiting : s'.waiting = s.waiting)
    (others : ∀ j, j ≠ i → s'.clients j = s.clients j)
    (signals : ∀ x, (s.clients i).pc.Signals x → (s'.clients i).pc.Signals x)
    (links : ∀ x ∈ s'.links.drop s'.sent.length, x ∈ s.links.drop s.sent.length ∨ (s'.clients i).pc.Signals (some x))
    (closed : s'.closed = true → s.closed = true ∨ (s'.clients i).pc.Signals none) :
    (s'.Dozing → ∀ x ∈ s'.links.drop s'.sent.length, ∃ j, (s'.clients j).pc.Signals (some x)) ∧
      (s'.Waiting → s'.closed = true → ∃ j, (s'.clients j).pc.Signals none) := by
  -- a signaller before is one after: `i` by `signals`, every other client unchanged
  have keep : ∀ x, (∃ j, (s.clients j).pc.Signals x) → ∃ j, (s'.clients j).pc.Signals x := by
    rintro x ⟨j, hj⟩
    by_cases ji : j = i
    · subst ji
      exact ⟨j, signals x hj⟩
    · exact ⟨j, others j ji ▸ hj⟩
  have dozing : s'.Dozing → s.Dozing := by simp [State.Dozing, consumer, waiting]
  have waits : s'.Waiting → s.Waiting := by simp [State.Waiting, consumer, waiting]
  refine ⟨fun d x hx => ?_, fun w c => ?_⟩
  · rcases links x hx with old | mine
    · exact keep _ (h.wake_links (dozing d) x old)
    · exact ⟨i, mine⟩
  · rcases closed c with old | mine
    · exact keep _ (h.wake_close (waits w) old)
    · exact ⟨i, mine⟩

theorem Inv.clients_of_move (h : Inv progs s) {s' : State α} {i : Nat} (fits : Fits s' i)
    (others : ∀ j, j ≠ i → s'.clients j = s.clients j) (links : s'.links = s.links)
    (origin : s'.origin = s.origin) (consumer : s'.consumer = s.consumer) (sent : s'.sent = s.sent)
    (done : (s'.clients i).done = (s.clients i).done) :
    (∀ j, Fits s' j) ∧ (s'.consumer = .exited →
      ∀ j k, (s'.clients j).done[k]? = some (some true) → ∃ x ∈ s'.sent, s'.origin x = some (j, k)) := by
  refine ⟨fun j => if hj : j = i then hj ▸ fits else
    (h.clients j).of_other hj (others j hj) ⟨[], by simp [links], by simp⟩ (fun _ _ hx => origin ▸ hx)
      (fun _ _ hx => origin ▸ hx), fun e j k accepted => ?_⟩
  rw [sent, origin]
  by_cases hj : j = i
  · subst hj
    exact h.exit_sent (consumer ▸ e) j k (done ▸ accepted)
  · exact h.exit_sent (consumer ▸ e) j k (others j hj ▸ accepted)

/-- Client `i` moving on within its call, memory unchanged: its facts at the new place suffice,
inside or outside the critical section as before and still a signaller. -/
theorem Inv.goto (h : Inv progs s) {i : Nat} {p : Client.Pc} (fits : Fits (s.goto i p) i)
    (holds : p.Holds ↔ (s.clients i).pc.Holds)
    (signals : ∀ x, (s.clients i).pc.Signals x → p.Signals x) : Inv progs (s.goto i p) := by
  have others : ∀ j, j ≠ i → (s.goto i p).clients j = s.clients j := fun j hj => State.goto_other s p hj
  have clients := h.clients_of_move fits others rfl rfl rfl rfl (by simp)
  have wake := h.wake_of_client (s.goto i p) rfl rfl others (by simpa using signals)
    (fun x hx => .inl hx) (fun c => .inl c)
  exact { h with
    clients := clients.1
    exit_sent := clients.2
    holder := h.holder_of_client rfl others rfl (by simpa using holds)
    wake_links := wake.1
    wake_close := wake.2 }

theorem Inv.casTail (h : Inv progs s) {t x : Nat} (hx : x ∈ s.chain) : Inv progs (s.casTail t x) := by
  unfold State.casTail
  split
  · exact { h with tail := hx, clients := fun j => { h.clients j with } }
  · exact h

end Clients

section ClientSteps

variable {progs : Nat → List (Call α)} {s : State α} {i : Nat}

theorem Inv.fits_goto (h : Inv progs s) {p : Client.Pc} (node : p.node? = (s.clients i).pc.node?)
    (linking : p.Linking ↔ (s.clients i).pc.Linking) (reads : ∀ x ∈ p.reads, x ∈ s.chain) :
    Fits (s.goto i p) i :=
  (h.clients i).move rfl rfl (by simp) (by simpa using node) (by simpa using linking) (by simpa using reads)

theorem Inv.loadTail (h : Inv progs s) {n : Nat} (hc : (s.clients i).pc = .loadTail n) :
    Inv progs (s.goto i (.loadNext n s.tail)) :=
  h.goto (h.fits_goto (by simp [hc, Client.Pc.node?]) (by simp [hc, Client.Pc.Linking])
      (by simp [Client.Pc.reads, h.tail]))
    (by simp [hc, Client.Pc.Holds]) (by simp [hc, Client.Pc.Signals])

theorem Inv.loadNext (h : Inv progs s) {n t : Nat} (hc : (s.clients i).pc = .loadNext n t) :
    Inv progs (s.clientStep prog i) := by
  have read : t ∈ s.chain := (h.clients i).reads t (by simp [hc, Client.Pc.reads])
  simp only [State.clientStep, hc]
  cases hn : s.next t with
  | none =>
    exact h.goto (h.fits_goto (by simp [hc, Client.Pc.node?]) (by simp [hc, Client.Pc.Linking])
        (by simp [Client.Pc.reads, read]))
      (by simp [hc, Client.Pc.Holds]) (by simp [hc, Client.Pc.Signals])
  | some nx =>
    exact h.goto (h.fits_goto (by simp [hc, Client.Pc.node?]) (by simp [hc, Client.Pc.Linking])
        (by simp [Client.Pc.reads, mem_chain_of_mem_links (h.mem_links_of_next read hn)]))
      (by simp [hc, Client.Pc.Holds]) (by simp [hc, Client.Pc.Signals])

theorem Inv.help (h : Inv progs s) {n t nx : Nat} (hc : (s.clients i).pc = .help n t nx) :
    Inv progs ((s.casTail t nx).goto i (.loadTail n)) := by
  have moved := h.casTail (t := t) ((h.clients i).reads nx (by simp [hc, Client.Pc.reads]))
  exact moved.goto (moved.fits_goto (by simp [hc, Client.Pc.node?]) (by simp [hc, Client.Pc.Linking])
      (by simp [Client.Pc.reads]))
    (by simp [hc, Client.Pc.Holds]) (by simp [hc, Client.Pc.Signals])

theorem Inv.swing (h : Inv progs s) {n t : Nat} (hc : (s.clients i).pc = .swing n t) :
    Inv progs ((s.casTail t n).goto i (.count n)) := by
  have linked := (h.clients i).linked (by simp [hc, Client.Pc.Linking]) n (by simp [hc, Client.Pc.node?])
  have moved := h.casTail (t := t) (mem_chain_of_mem_links linked)
  exact moved.goto (moved.fits_goto (by simp [hc, Client.Pc.node?]) (by simp [hc, Client.Pc.Linking])
      (by simp [Client.Pc.reads]))
    (by simp [hc, Client.Pc.Holds]) (by simp [hc, Client.Pc.Signals])

theorem Inv.count (h : Inv progs s) {n : Nat} (hc : (s.clients i).pc = .count n) :
    Inv progs ({ s with size := s.size + 1 }.goto i (.lock (some n))) := by
  have counted : Inv progs { s with size := s.size + 1 } := { h with clients := fun j => { h.clients j with } }
  exact counted.goto (counted.fits_goto (by simp [hc, Client.Pc.node?]) (by simp [hc, Client.Pc.Linking])
      (by simp [Client.Pc.reads]))
    (by simp [hc, Client.Pc.Holds]) (by simp [hc, Client.Pc.Signals])

/-- A push may return `true` only with its node linked, and handed over once the consumer
returned. -/
theorem Inv.finish (h : Inv progs s) {r : Option Bool} (hd : Option Thread)
    (quiet : ∀ x, ¬(s.clients i).pc.Signals x)
    (holder : (hd = s.holder ∧ ¬(s.clients i).pc.Holds) ∨ (hd = none ∧ s.holder = some (.client i)))
    (accept : r = some true → ∃ x ∈ s.links, s.origin x = some (i, (s.clients i).done.length))
    (exit : r = some true → s.consumer ≠ .exited) :
    Inv progs ({ s with holder := hd }.finish i r) := by
  have others : ∀ j, j ≠ i → ({ s with holder := hd }.finish i r).clients j = s.clients j :=
    fun j hj => State.finish_other _ r hj
  have done : ∀ k, ({ s with holder := hd }.finish i r).clients i |>.done[k]? = some (some true) →
      (s.clients i).done[k]? = some (some true) ∨ (k = (s.clients i).done.length ∧ r = some true) := by
    intro k hk
    simp only [State.finish_self, List.getElem?_append, List.getElem?_singleton] at hk
    split at hk
    · exact .inl hk
    · split at hk
      · exact .inr ⟨by omega, by simpa using hk⟩
      · cases hk
  have fits : Fits ({ s with holder := hd }.finish i r) i := by
    refine ⟨fun x k hx => .inl ?_, fun x hx => by simp [Client.Pc.node?] at hx, fun l => by simp [Client.Pc.Linking] at l,
      fun _ x hx => by simp [Client.Pc.node?] at hx, fun x hx => by simp [Client.Pc.reads] at hx, fun k hk => ?_⟩
    · rcases (h.clients i).calls x k hx with before | ⟨_, now⟩ <;> simp <;> omega
    · rcases done k hk with before | ⟨rfl, yes⟩
      · exact (h.clients i).accepted k before
      · exact accept yes
  have wake := h.wake_of_client ({ s with holder := hd }.finish i r) rfl rfl others
    (fun x hx => absurd hx (quiet x)) (fun x hx => .inl hx) (fun c => .inl c)
  exact { h with
    clients := fun j => if hj : j = i then hj ▸ fits else
      (h.clients j).of_other hj (others j hj) ⟨[], (List.append_nil _).symm, by simp⟩ (fun _ _ hx => hx)
        (fun _ _ hx => hx)
    exit_sent := fun e j k accepted => by
      by_cases hj : j = i
      · subst hj
        rcases done k accepted with before | ⟨_, yes⟩
        · exact h.exit_sent e j k before
        · exact absurd e (exit yes)
      · exact h.exit_sent e j k (by simpa [others j hj] using accepted)
    holder := by
      rcases holder with ⟨rfl, out⟩ | ⟨rfl, held⟩
      · exact h.holder_of_client rfl others rfl (by simpa [Client.Pc.Holds] using out)
      · refine holder_taken (s := s) (i := i) rfl others (fun w hw holds => hw ?_) (.inr ⟨rfl, by simp [Client.Pc.Holds]⟩)
        exact Option.some.inj (((h.holder w).2 holds).symm.trans held)
    wake_links := wake.1
    wake_close := wake.2 }

theorem Inv.lockTaken (h : Inv progs s) {o : Option Nat} (hc : (s.clients i).pc = .lock o) (free : s.holder = none) :
    Inv progs ({ s with holder := some (.client i) }.goto i (.signal o)) := by
  have others : ∀ j, j ≠ i → ({ s with holder := some (.client i) }.goto i (.signal o)).clients j = s.clients j :=
    fun j hj => State.goto_other _ _ hj
  have fits : Fits ({ s with holder := some (.client i) }.goto i (.signal o)) i :=
    (h.clients i).move rfl rfl (by simp) (by simp [hc, Client.Pc.node?]) (by simp [hc, Client.Pc.Linking])
      (by simp [Client.Pc.reads])
  have clients := h.clients_of_move fits others rfl rfl rfl rfl (by simp)
  have wake := h.wake_of_client ({ s with holder := some (.client i) }.goto i (.signal o)) rfl rfl others
    (by simp [hc, Client.Pc.Signals]) (fun x hx => .inl hx) (fun c => .inl c)
  exact { h with
    clients := clients.1
    exit_sent := clients.2
    holder := holder_taken (s := s) rfl others (fun w _ holds => by simpa [free] using (h.holder w).2 holds)
      (.inl ⟨rfl, by simp [Client.Pc.Holds]⟩)
    wake_links := wake.1
    wake_close := wake.2 }

/-- The consumer leaves the wait list; it cannot be about to wait, holding the mutex. -/
theorem Inv.signal (h : Inv progs s) {o : Option Nat} (hc : (s.clients i).pc = .signal o) :
    Inv progs ({ s with waiting := false }.goto i (.unlock o)) := by
  have others : ∀ j, j ≠ i → ({ s with waiting := false }.goto i (.unlock o)).clients j = s.clients j :=
    fun j hj => State.goto_other _ _ hj
  have fits : Fits ({ s with waiting := false }.goto i (.unlock o)) i :=
    (h.clients i).move rfl rfl (by simp) (by simp [hc, Client.Pc.node?]) (by simp [hc, Client.Pc.Linking])
      (by simp [Client.Pc.reads])
  have clients := h.clients_of_move fits others rfl rfl rfl rfl (by simp)
  have held : s.holder = some (.client i) := (h.holder (.client i)).2 (by simp [State.Holds, hc, Client.Pc.Holds])
  -- the consumer is outside the mutex, so neither about to wait nor waiting unsignalled
  have outside : ¬s.consumer.Holds := fun holds => by
    have := (h.holder .consumer).2 holds
    rw [held] at this
    cases this
  exact { h with
    clients := clients.1
    exit_sent := clients.2
    holder := h.holder_of_client rfl others rfl (by simp [hc, Client.Pc.Holds])
    waiting := fun w => (Bool.false_ne_true w).elim
    wake_links := fun d => by
      rcases d with d | d | ⟨_, d⟩
      · exact absurd (show s.consumer.Holds by rw [show s.consumer = .waitClosed from d]; trivial) outside
      · exact absurd (show s.consumer.Holds by rw [show s.consumer = .wait from d]; trivial) outside
      · exact (Bool.false_ne_true d).elim
    wake_close := fun d => by
      rcases d with d | ⟨_, d⟩
      · exact absurd (show s.consumer.Holds by rw [show s.consumer = .wait from d]; trivial) outside
      · exact (Bool.false_ne_true d).elim }

theorem Inv.unlockPush (h : Inv progs s) {n : Nat} (hc : (s.clients i).pc = .unlock (some n)) :
    Inv progs ({ s with holder := none }.goto i (.recheck n)) := by
  have others : ∀ j, j ≠ i → ({ s with holder := none }.goto i (.recheck n)).clients j = s.clients j :=
    fun j hj => State.goto_other _ _ hj
  have fits : Fits ({ s with holder := none }.goto i (.recheck n)) i :=
    (h.clients i).move rfl rfl (by simp) (by simp [hc, Client.Pc.node?]) (by simp [hc, Client.Pc.Linking])
      (by simp [Client.Pc.reads])
  have clients := h.clients_of_move fits others rfl rfl rfl rfl (by simp)
  have held : s.holder = some (.client i) := (h.holder (.client i)).2 (by simp [State.Holds, hc, Client.Pc.Holds])
  have wake := h.wake_of_client ({ s with holder := none }.goto i (.recheck n)) rfl rfl others
    (by simp [hc, Client.Pc.Signals]) (fun x hx => .inl hx) (fun c => .inl c)
  exact { h with
    clients := clients.1
    exit_sent := clients.2
    holder := holder_taken (s := s) rfl others
      (fun w hw holds => hw (Option.some.inj (((h.holder w).2 holds).symm.trans held)))
      (.inr ⟨rfl, by simp [Client.Pc.Holds]⟩)
    wake_links := wake.1
    wake_close := wake.2 }

theorem Inv.unlockClose (h : Inv progs s) (hc : (s.clients i).pc = .unlock none) :
    Inv progs ({ s with holder := none }.finish i none) :=
  h.finish none (by simp [hc, Client.Pc.Signals])
    (.inr ⟨rfl, (h.holder (.client i)).2 (by simp [State.Holds, hc, Client.Pc.Holds])⟩)
    (fun e => by cases e) (fun e => by cases e)

/-- The last read of a push: open means its node is linked and the consumer has not returned. -/
theorem Inv.recheck (h : Inv progs s) {n : Nat} (hc : (s.clients i).pc = .recheck n) :
    Inv progs (s.finish i (some !s.closed)) := by
  exact h.finish s.holder (by simp [hc, Client.Pc.Signals]) (.inl ⟨rfl, by simp [hc, Client.Pc.Holds]⟩)
    (fun e => ⟨n, (h.clients i).linked (by simp [hc, Client.Pc.Linking]) n (by simp [hc, Client.Pc.node?]),
      (h.clients i).owns n (by simp [hc, Client.Pc.node?])⟩)
    (fun e exited => by simp [h.exit_closed (.inr exited)] at e)

theorem Inv.refuse (h : Inv progs s) (hc : (s.clients i).pc = .idle) :
    Inv progs (s.finish i (some false)) :=
  h.finish s.holder (by simp [hc, Client.Pc.Signals]) (.inl ⟨rfl, by simp [hc, Client.Pc.Holds]⟩)
    (fun e => by cases e) (fun e => by cases e)

/-- A close sets the flag; the closer is then still to signal the consumer. -/
theorem Inv.close (h : Inv progs s) (hc : (s.clients i).pc = .idle) :
    Inv progs ({ s with closed := true }.goto i (.lock none)) := by
  have others : ∀ j, j ≠ i → ({ s with closed := true }.goto i (.lock none)).clients j = s.clients j :=
    fun j hj => State.goto_other _ _ hj
  have fits : Fits ({ s with closed := true }.goto i (.lock none)) i :=
    (h.clients i).move rfl rfl (by simp) (by simp [hc, Client.Pc.node?]) (by simp [hc, Client.Pc.Linking])
      (by simp [Client.Pc.reads])
  have clients := h.clients_of_move fits others rfl rfl rfl rfl (by simp)
  have wake := h.wake_of_client ({ s with closed := true }.goto i (.lock none)) rfl rfl others
    (by simp [hc, Client.Pc.Signals]) (fun x hx => .inl hx) (fun _ => .inr (by simp [Client.Pc.Signals]))
  exact { h with
    clients := clients.1
    exit_closed := fun _ => rfl
    exit_sent := clients.2
    holder := h.holder_of_client rfl others rfl (by simp [hc, Client.Pc.Holds])
    wake_links := wake.1
    wake_close := wake.2 }

theorem Inv.consumer_of_client (h : Inv progs s) (s' : State α) (consumer : s'.consumer = s.consumer)
    (head : s'.head = s.head) (out : s'.out = s.out) (sent : s'.sent = s.sent)
    (links : ∃ l, s'.links = s.links ++ l) (kept : ∀ x p, s.origin x = some p → s'.origin x = some p) :
    s'.sent <+: s'.links ∧ List.Forall₂ (Carries progs s') s'.out s'.sent ∧ Follows progs s' := by
  obtain ⟨l, hl⟩ := links
  have carries : ∀ v x, Carries progs s v x → Carries progs s' v x := fun v x ⟨i, k, ho, hp⟩ =>
    ⟨i, k, kept _ _ ho, hp⟩
  have onLinks : ∀ (j x : Nat), s.links[j]? = some x → s'.links[j]? = some x := fun j x hx => by
    rw [hl, List.getElem?_append_left (List.getElem?_eq_some_iff.1 hx).1]
    exact hx
  have onChain : ∀ (j x : Nat), s.chain[j]? = some x → s'.chain[j]? = some x := fun j x hx => by
    cases j with
    | zero => exact hx
    | succ j => exact onLinks j x hx
  refine ⟨sent ▸ hl ▸ h.sent.trans (List.prefix_append _ _), out ▸ sent ▸ h.emitted.imp carries, ?_⟩
  have follows := h.follows
  unfold Follows at follows ⊢
  rw [consumer, head, sent]
  split
  · next v n hc =>
    rw [hc] at follows
    exact ⟨follows.1, onLinks _ _ follows.2.1, carries _ _ follows.2.2⟩
  · next hc =>
    rw [hc] at follows
    exact ⟨onChain _ _ follows.1, follows.2⟩
  · next c hsend hun =>
    split at follows
    · exact absurd ‹_› (hsend _ _)
    · exact absurd ‹_› hun
    · exact onChain _ _ follows

theorem Inv.alloc (h : Inv progs s) {v : α} (hc : (s.clients i).pc = .idle)
    (hv : (progs i)[(s.clients i).done.length]? = some (.push v)) :
    Inv progs ((s.alloc v i (s.clients i).done.length).goto i (.loadTail s.fresh)) := by
  set k := (s.clients i).done.length
  set s' := (s.alloc v i k).goto i (.loadTail s.fresh)
  have unseen : s.fresh ∉ s.chain := fun mem => Nat.lt_irrefl _ (h.chain_fresh _ mem)
  have old : ∀ x, s.origin x ≠ none → x ≠ s.fresh := fun x hx same => hx (h.origin_fresh x (by omega))
  have origin : ∀ x, s'.origin x = if x = s.fresh then some (i, k) else s.origin x := fun x => by
    by_cases hx : x = s.fresh <;> simp [s', State.alloc, State.goto, hx]
  have nodes : ∀ x, x ≠ s.fresh → s'.nodes x = s.nodes x := fun x hx => by
    simp [s', State.alloc, State.goto, hx]
  have next : ∀ x, x ≠ s.fresh → s'.next x = s.next x := fun x hx => by
    simp [State.next, nodes x hx]
  have kept : ∀ x p, s.origin x = some p → s'.origin x = some p := fun x p hx => by
    rw [origin, if_neg (old x (by simp [hx]))]
    exact hx
  have linked : ∀ x ∈ s.links, s'.origin x = s.origin x := fun x hx => by
    have other : x ≠ s.fresh := fun same => unseen (same ▸ mem_chain_of_mem_links hx)
    rw [origin, if_neg other]
  -- no node had the origin of this call before: the client was idle
  have first : ∀ y, s.origin y ≠ some (i, k) := fun y hy => by
    rcases (h.clients i).calls y k hy with before | ⟨node, _⟩
    · exact Nat.lt_irrefl _ before
    · simp [hc, Client.Pc.node?] at node
  have others : ∀ j, j ≠ i → s'.clients j = s.clients j := fun j hj => State.goto_other _ _ hj
  have fits : Fits s' i := by
    refine ⟨fun x k' hx => ?_, fun x hx => ?_, fun _ x hx => ?_, fun l => by simp [s', Client.Pc.Linking] at l,
      fun x hx => by simp [s', Client.Pc.reads] at hx, fun k' hk => ?_⟩
    · rw [origin] at hx
      split at hx
      · next same =>
        cases hx
        exact .inr ⟨by simp [s', same, Client.Pc.node?], by simp [s', k]⟩
      · rcases (h.clients i).calls x k' hx with before | ⟨node, _⟩
        · exact .inl (by simpa [s'] using before)
        · simp [hc, Client.Pc.node?] at node
    · simp only [s', State.goto_self, Client.Pc.node?, Option.some.injEq] at hx
      subst hx
      simp [origin, k, s']
    · simp only [s', State.goto_self, Client.Pc.node?, Option.some.injEq] at hx
      subst hx
      exact unseen
    · obtain ⟨x, hx, ho⟩ := (h.clients i).accepted k' (by simpa [s'] using hk)
      exact ⟨x, hx, kept _ _ ho⟩
  have consumer := h.consumer_of_client s' rfl rfl rfl rfl ⟨[], by simp [s', State.alloc, State.goto]⟩ kept
  have wake := h.wake_of_client s' rfl rfl others (by simp [s', hc, Client.Pc.Signals])
    (fun x hx => .inl hx) (fun c => .inl c)
  exact { h with
    next_chain := fun j x hx => (next x (fun same => unseen (same ▸ List.mem_of_getElem? hx))).trans
      (h.next_chain j x hx)
    next_off := fun x hx => by
      by_cases same : x = s.fresh
      · simp [State.next, s', State.alloc, State.goto, same]
      · exact (next x same).trans (h.next_off x hx)
    chain_fresh := fun x hx => Nat.lt_succ_of_lt (h.chain_fresh x hx)
    origin_fresh := fun x hx => by
      rw [origin, if_neg (by simp [s', State.alloc, State.goto] at hx; omega)]
      exact h.origin_fresh x (by simp [s', State.alloc, State.goto] at hx; omega)
    origin_links := fun x hx => linked x hx ▸ h.origin_links x hx
    origin_inj := fun x y p hx hy => by
      rw [origin] at hx hy
      split at hx <;> split at hy
      · next ex ey => exact ex.trans ey.symm
      · next ex ey => exact absurd (hx ▸ hy) (first y)
      · next ex ey => exact absurd (hy ▸ hx) (first x)
      · exact h.origin_inj x y p hx hy
    calls := fun x j k' hx => by
      rw [origin] at hx
      split at hx
      · next same =>
        cases hx
        exact ⟨v, hv, fun _ => by simp [s', State.alloc, State.goto, same]⟩
      · next other =>
        obtain ⟨w, hw, value⟩ := h.calls x j k' hx
        exact ⟨w, hw, fun unsent => (nodes x other).symm ▸ value unsent⟩
    clients := fun j => if hj : j = i then hj ▸ fits else
      (h.clients j).of_other hj (others j hj) ⟨[], by simp [s', State.alloc, State.goto], by simp⟩ kept
        (fun x k' hx => by
          rw [origin] at hx
          split at hx
          · cases hx
            exact absurd rfl hj
          · exact hx)
    order := h.order.imp_of_mem fun {x y} hx hy order j k₁ k₂ ox oy =>
      order j k₁ k₂ (linked x hx ▸ ox) (linked y hy ▸ oy)
    sent := consumer.1
    emitted := consumer.2.1
    follows := consumer.2.2
    exit_sent := fun e j k' accepted => by
      have before : (s.clients j).done[k']? = some (some true) := by
        by_cases hj : j = i
        · subst hj
          simpa [s'] using accepted
        · simpa [others j hj] using accepted
      obtain ⟨x, hx, ho⟩ := h.exit_sent e j k' before
      exact ⟨x, hx, kept _ _ ho⟩
    holder := h.holder_of_client rfl others rfl (by simp [s', hc, Client.Pc.Holds])
    wake_links := wake.1
    wake_close := wake.2 }

theorem Inv.chain_index (h : Inv progs s) {j j' x : Nat} (hj : s.chain[j]? = some x)
    (hj' : s.chain[j']? = some x) : j = j' := by
  obtain ⟨lt, eq⟩ := List.getElem?_eq_some_iff.1 hj
  obtain ⟨lt', eq'⟩ := List.getElem?_eq_some_iff.1 hj'
  exact (List.Nodup.getElem_inj_iff h.nodup).1 (eq.trans eq'.symm)

/-- The compare-and-swap that links a push's node: the chain grows by it, still to signal. -/
theorem Inv.link (h : Inv progs s) {n t : Nat} (hc : (s.clients i).pc = .link n t) (hn : s.next t = none) :
    Inv progs ((s.linkAfter t n).goto i (.swing n t)) := by
  set s' := (s.linkAfter t n).goto i (.swing n t)
  have read : t ∈ s.chain := (h.clients i).reads t (by simp [hc, Client.Pc.reads])
  have last : s.chain[s.links.length]? = some t := h.last_of_next read hn
  have unlinked : n ∉ s.chain :=
    (h.clients i).unlinked (by simp [hc, Client.Pc.Linking]) n (by simp [hc, Client.Pc.node?])
  have owns : s.origin n = some (i, (s.clients i).done.length) := (h.clients i).owns n (by simp [hc, Client.Pc.node?])
  have other : n ≠ t := fun same => unlinked (same ▸ read)
  have links : s'.links = s.links ++ [n] := rfl
  have chain : s'.chain = s.chain ++ [n] := by rw [State.chain, links]; rfl
  have next : ∀ x, s'.next x = if x = t then some n else s.next x := fun x => by
    by_cases hx : x = t <;> simp [s', State.next, State.linkAfter, State.goto, hx]
  have value : ∀ x, (s'.nodes x).value = (s.nodes x).value := fun x => by
    by_cases hx : x = t <;> simp [s', State.linkAfter, State.goto, hx]
  have others : ∀ j, j ≠ i → s'.clients j = s.clients j := fun j hj => State.goto_other _ _ hj
  have grows : ∀ x ∈ s.chain, x ∈ s'.chain := fun x hx => chain ▸ List.mem_append_left _ hx
  have fits : Fits s' i := by
    refine ⟨fun x k hx => by simpa [s', hc, Client.Pc.node?] using (h.clients i).calls x k hx,
      fun x hx => ?_, fun l => by simp [s', Client.Pc.Linking] at l, fun _ x hx => ?_,
      fun x hx => by simp [s', Client.Pc.reads] at hx, fun k hk => ?_⟩
    · simp only [s', State.goto_self, Client.Pc.node?, Option.some.injEq] at hx
      subst hx
      show s.origin _ = some (i, ((s.linkAfter t _).goto i _).clients i |>.done.length)
      simpa using owns
    · simp only [s', State.goto_self, Client.Pc.node?, Option.some.injEq] at hx
      subst hx
      simp [links]
    · obtain ⟨x, hx, ho⟩ := (h.clients i).accepted k (by simpa [s'] using hk)
      exact ⟨x, links ▸ List.mem_append_left _ hx, ho⟩
  have consumer := h.consumer_of_client s' rfl rfl rfl rfl ⟨[n], links⟩ fun _ _ hx => hx
  have wake := h.wake_of_client s' rfl rfl others (by simp [hc, Client.Pc.Signals])
    (fun x hx => by
      rw [links, show s'.sent = s.sent from rfl, List.drop_append_of_le_length h.sent.length_le,
        List.mem_append, List.mem_singleton] at hx
      rcases hx with old | rfl
      · exact .inl old
      · exact .inr (by simp [s', Client.Pc.Signals]))
    (fun c => .inl c)
  exact { h with
    nodup := by
      rw [chain, List.nodup_append]
      refine ⟨h.nodup, by simp, fun a ha b hb same => ?_⟩
      rw [List.mem_singleton] at hb
      subst hb same
      exact unlinked ha
    next_chain := fun j x hx => by
      rw [chain] at hx
      rw [next, links]
      by_cases within : j < s.chain.length
      · rw [List.getElem?_append_left within] at hx
        split
        · -- the last node of the chain now links to `n`
          next same =>
          subst same
          rw [h.chain_index hx last, List.getElem?_append_right (Nat.le_refl _)]
          simp
        · next differs =>
          have before : j ≠ s.links.length := fun at_end => differs (Option.some.inj ((at_end ▸ hx).symm.trans last))
          rw [h.next_chain j x hx, List.getElem?_append_left (by simp [State.chain] at within; omega)]
      · rw [List.getElem?_append_right (by omega)] at hx
        have at_end : j = s.chain.length := by
          have := (List.getElem?_eq_some_iff.1 hx).1
          simp at this
          omega
        subst at_end
        simp only [List.length_cons, Nat.sub_self, List.getElem?_cons_zero, Option.some.injEq, State.chain] at hx
        subst hx
        rw [if_neg other, h.next_off _ unlinked]
        simp [State.chain]
    next_off := fun x hx => by
      rw [chain, List.mem_append, not_or] at hx
      have away : x ≠ t := fun same => hx.1 (same ▸ read)
      rw [next, if_neg away]
      exact h.next_off x hx.1
    tail := grows _ h.tail
    chain_fresh := fun x hx => by
      rw [chain, List.mem_append, List.mem_singleton] at hx
      rcases hx with old | rfl
      · exact h.chain_fresh x old
      · exact Nat.lt_of_not_le fun stale => by simp [h.origin_fresh x stale] at owns
    origin_links := fun x hx => by
      rw [links, List.mem_append, List.mem_singleton] at hx
      rcases hx with old | rfl
      · exact h.origin_links x old
      · show s.origin _ ≠ none
        simp [owns]
    calls := fun x j k hx => by
      obtain ⟨w, hw, held⟩ := h.calls x j k hx
      exact ⟨w, hw, fun unsent => (value x).trans (held unsent)⟩
    clients := fun j => if hj : j = i then hj ▸ fits else
      (h.clients j).of_other hj (others j hj) ⟨[n], links, by simp [owns]⟩ (fun _ _ hx => hx) (fun _ _ hx => hx)
    order := by
      rw [links, List.pairwise_append]
      refine ⟨h.order, List.pairwise_singleton _ _, fun x hx y hy j k₁ k₂ ox oy => ?_⟩
      rw [List.mem_singleton] at hy
      subst hy
      obtain ⟨rfl, rfl⟩ := Prod.mk.inj (Option.some.inj (oy.symm.trans owns))
      rcases (h.clients j).calls x k₁ ox with before | ⟨node, _⟩
      · exact before
      · simp only [hc, Client.Pc.node?, Option.some.injEq] at node
        exact absurd (node ▸ mem_chain_of_mem_links hx) unlinked
    sent := consumer.1
    emitted := consumer.2.1
    follows := consumer.2.2
    exit_sent := fun e j k accepted => by
      have before : (s.clients j).done[k]? = some (some true) := by
        by_cases hj : j = i
        · subst hj
          simpa [s'] using accepted
        · simpa [others j hj] using accepted
      exact h.exit_sent e j k before
    holder := h.holder_of_client rfl others rfl (by simp [s', hc, Client.Pc.Holds])
    wake_links := wake.1
    wake_close := wake.2 }

theorem Inv.clientStep (h : Inv progs s) (i : Nat) : Inv progs (s.clientStep (progs i) i) := by
  cases hc : (s.clients i).pc with
  | idle =>
    simp only [State.clientStep, hc]
    cases hp : (progs i)[(s.clients i).done.length]? with
    | none => exact h
    | some call =>
      cases call with
      | push v =>
        dsimp only
        by_cases closed : s.closed = true
        · rw [if_pos closed]
          exact h.refuse hc
        · rw [if_neg closed]
          exact h.alloc hc hp
      | close => exact h.close hc
  | loadTail n => simpa [State.clientStep, hc] using h.loadTail hc
  | loadNext n t => exact h.loadNext hc
  | link n t =>
    simp only [State.clientStep, hc]
    by_cases free : s.next t = none
    · rw [if_pos free]
      exact h.link hc free
    · rw [if_neg free]
      exact h.goto (h.fits_goto (by simp [hc, Client.Pc.node?]) (by simp [hc, Client.Pc.Linking])
          (by simp [Client.Pc.reads]))
        (by simp [hc, Client.Pc.Holds]) (by simp [hc, Client.Pc.Signals])
  | help n t nx => simpa [State.clientStep, hc] using h.help hc
  | swing n t => simpa [State.clientStep, hc] using h.swing hc
  | count n => simpa [State.clientStep, hc] using h.count hc
  | lock o =>
    simp only [State.clientStep, hc]
    by_cases free : s.holder = none
    · rw [if_pos free]
      exact h.lockTaken hc free
    · rw [if_neg free]
      exact h
  | signal o => simpa [State.clientStep, hc] using h.signal hc
  | unlock o =>
    cases o with
    | some n => simpa [State.clientStep, hc] using h.unlockPush hc
    | none => simpa [State.clientStep, hc] using h.unlockClose hc
  | recheck n => simpa [State.clientStep, hc] using h.recheck hc

end ClientSteps

section Reachable

variable [Inhabited α] {progs : Nat → List (Call α)} {s : State α}

theorem Inv.step (h : Inv progs s) (w : Thread) : Inv progs (step progs s w) := by
  cases w with
  | consumer => exact h.consumerStep
  | client i => exact h.clientStep i

theorem inv_init : Inv progs (init : State α) where
  nodup := by simp [State.chain, init]
  next_chain := fun _ _ _ => by simp [init, State.next]
  next_off := fun _ _ => rfl
  tail := by simp [State.chain, init]
  chain_fresh := fun x hx => by simp_all [State.chain, init]
  origin_fresh := fun _ _ => rfl
  origin_links := fun x hx => by simp [init] at hx
  origin_inj := fun x y p hx => by simp [init] at hx
  calls := fun x i k hx => by simp [init] at hx
  clients := fun i => ⟨fun x k hx => by simp [init] at hx, fun x hx => by simp [init, Client.Pc.node?] at hx,
    fun l => by simp [init, Client.Pc.Linking] at l, fun _ x hx => by simp [init, Client.Pc.node?] at hx,
    fun x hx => by simp [init, Client.Pc.reads] at hx, fun k hk => by simp [init] at hk⟩
  order := List.Pairwise.nil
  sent := List.nil_prefix
  emitted := .nil
  follows := rfl
  exit_closed := fun e => by simp [init] at e
  exit_sent := fun e => by simp [init] at e
  holder := fun w => by cases w <;> simp [init, State.Holds, Consumer.Holds, Client.Pc.Holds]
  waiting := fun w => by simp [init] at w
  wake_links := fun e => by simp [State.Dozing, init] at e
  wake_close := fun e => by simp [State.Waiting, init] at e

theorem Reachable.inv (h : Reachable progs s) : Inv progs s := by
  induction h with
  | init => exact inv_init
  | step w _ ih => exact ih.step w

end Reachable


end Outbox

end InferenceBroker
