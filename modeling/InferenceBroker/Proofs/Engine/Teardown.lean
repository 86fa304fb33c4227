import Mathlib.Data.List.Infix
import InferenceBroker.Engine.Teardown
import InferenceBroker.Proofs.Dispatch.Bookkeeping

/-!
# What a stopped worker leaves to the drain

Over every schedule of submits, the close of the stop channel, the worker's loop and the
drain: every accepted task is handed to the handler or aborted, once, in the order of
acceptance, each aborted one with `engine stopped`. After the channel closes the worker takes
at most one more task, and only when it was already past its check: its select may take a
queued task over the closed channel. Once drained, every task queued at the close but that
one has been aborted.

The invariant `Sound` holds at the start and each move keeps it, one lemma per move; `Stops`,
what it gives, holds of every reachable state. The last theorem is a schedule in which the
select takes a task queued when the channel closed, so that task is never aborted.
-/

namespace InferenceBroker

namespace Engine

/-- A submit queues the task at the end of a ready engine's queue, or keeps queue and state. -/
theorem submit_cases (e : Engine) (t : Task) :
    (∃ c, e.state = .ready ∧
      e.submit t = (.ok (), { e with queue := { e.queue with items := e.queue.items ++ [t] }, counters := c })) ∨
    ∃ err c, e.submit t = (.error err, { e with counters := c }) := by
  by_cases ready : e.state = .ready
  · by_cases full : e.queue.isFull
    · exact .inr ⟨_, _, by simp only [submit, ready, bne_self_eq_false, BoundedQueue.push, full]; rfl⟩
    · exact .inl ⟨_, ready, by simp [submit, ready, BoundedQueue.push, full]; rfl⟩
  · exact .inr ⟨e.notReady, e.counters, by simp [submit, ready]⟩

theorem stopped_of_key {e e' : Engine} (h : e.key = e'.key) : e.stopped = e'.stopped := by
  simp [stopped, h]

end Engine

namespace Teardown

variable (e : Engine)

/-- The promise of a teardown, as the worker keeps it. -/
structure Stops (s : State) : Prop where
  once : s.handled ++ s.aborted.map Prod.fst ++ s.engine.queue.items = s.accepted
  stopped : ∀ p ∈ s.aborted, p.2 = e.stopped
  late : s.late.length ≤ 1
  polling : s.late ≠ [] → s.polling = true
  drained : s.engine.state = .draining →
    s.worker = .exited ∧ s.pending.drop s.late.length <+: s.aborted.map Prod.fst

/-- What every reachable state keeps. -/
structure Sound (s : State) : Prop where
  once : s.handled ++ s.aborted.map Prod.fst ++ s.engine.queue.items = s.accepted
  key : s.engine.key = e.key
  stopped : ∀ p ∈ s.aborted, p.2 = e.stopped
  /-- ready with nothing aborted, or drained once the worker returned -/
  phase : (s.engine.state = .ready ∧ s.aborted = []) ∨
    (s.engine.state = .draining ∧ s.worker = .exited ∧ s.engine.queue.items = [])
  exited : s.worker = .exited → s.closed = true
  opened : s.closed = false → s.late = []
  /-- a worker in its select after the close was there when it closed, and has taken nothing -/
  waiting : s.worker = .select → s.closed = true → s.polling = true ∧ s.late = []
  late : s.late.length ≤ 1
  polling : s.late ≠ [] → s.polling = true
  /-- the queue at the close, less what was taken late, heads what is left or aborted -/
  pending : s.closed = true → s.pending.drop s.late.length <+: s.aborted.map Prod.fst ++ s.engine.queue.items

variable {e} {s : State}

theorem Sound.stops (h : Sound e s) : Stops e s where
  once := h.once
  stopped := h.stopped
  late := h.late
  polling := h.polling
  drained hd := by
    rcases h.phase with ⟨ready, _⟩ | ⟨_, exited, empty⟩
    · simp [ready] at hd
    · exact ⟨exited, by simpa [empty] using h.pending (h.exited exited)⟩

/-- A worker that has not returned works for an engine that is not drained. -/
theorem Sound.ready (h : Sound e s) (hw : s.worker ≠ .exited) : s.engine.state = .ready ∧ s.aborted = [] := by
  rcases h.phase with ready | ⟨_, exited, _⟩
  · exact ready
  · exact absurd exited hw

theorem sound_init : Sound e (init e) where
  once := rfl
  key := rfl
  stopped := nofun
  phase := .inl ⟨rfl, rfl⟩
  exited := nofun
  opened _ := rfl
  waiting := nofun
  late := Nat.zero_le 1
  polling h := absurd rfl h
  pending := nofun

theorem Sound.submit (h : Sound e s) (t : Task) : Sound e (s.step (.submit t)) := by
  rcases s.engine.submit_cases t with ⟨c, ready, hs⟩ | ⟨err, c, hs⟩
  · simp only [State.step, hs]
    refine ⟨by simp [← h.once], h.key, h.stopped, by simpa [ready] using h.phase, h.exited, h.opened,
      h.waiting, h.late, h.polling, fun hc => ?_⟩
    simpa using (h.pending hc).trans (List.prefix_append _ [t])
  · simp only [State.step, hs]
    exact ⟨h.once, h.key, h.stopped, h.phase, h.exited, h.opened, h.waiting, h.late, h.polling, h.pending⟩

theorem Sound.close (h : Sound e s) : Sound e (s.step .close) := by
  cases hc : s.closed
  · -- the worker has not returned, so nothing is aborted yet
    have late := h.opened hc
    have aborted : s.aborted = [] := (h.ready fun hx => by simp [h.exited hx] at hc).2
    simp only [State.step, hc, Bool.false_eq_true, if_false]
    exact ⟨h.once, h.key, h.stopped, h.phase, fun _ => rfl, nofun, fun hw _ => ⟨by simpa using hw, late⟩,
      by simp [late], by simp [late], fun _ => by simp [late, aborted]⟩
  · simpa [State.step, hc] using h

theorem Sound.check (h : Sound e s) : Sound e (s.step .check) := by
  by_cases hw : s.worker = .check
  · have ready := h.ready (by simp [hw])
    simp only [State.step, hw, if_true]
    refine ⟨h.once, h.key, h.stopped, .inl ready, ?_, h.opened, ?_, h.late, h.polling, h.pending⟩
    · cases s.closed <;> simp
    · cases s.closed <;> simp
  · simpa [State.step, hw] using h

theorem Sound.quit (h : Sound e s) : Sound e (s.step .quit) := by
  by_cases hw : s.worker = .select ∧ s.closed = true
  · have ready := h.ready (by simp [hw.1])
    simp only [State.step, hw, and_self, if_true]
    exact ⟨h.once, h.key, h.stopped, .inl ready, fun _ => rfl, by simp, nofun, h.late, h.polling, fun _ => h.pending hw.2⟩
  · simpa [State.step, hw] using h

/-- A take hands the oldest task over; after the close it is the one late task, taken from the
select the worker was in when the channel closed. -/
theorem Sound.take (h : Sound e s) : Sound e (s.step .take) := by
  simp only [State.step]
  split
  · rename_i t q hw hq
    have ready := h.ready (by simp [hw])
    have items := BoundedQueue.items_of_take? hq
    have once : s.handled ++ [t] ++ s.aborted.map Prod.fst ++ q.items = s.accepted := by
      simp [← h.once, items, ready.2]
    cases hc : s.closed
    · simp only [Bool.false_eq_true, if_false]
      exact ⟨once, h.key, h.stopped, .inl ready, nofun, fun _ => h.opened hc, nofun, h.late, h.polling, nofun⟩
    · obtain ⟨polling, late⟩ := h.waiting hw hc
      simp only [if_true, late, List.nil_append]
      refine ⟨once, h.key, h.stopped, .inl ready, nofun, nofun, nofun, by simp, fun _ => polling, fun _ => ?_⟩
      simpa [late, ready.2, items] using (h.pending hc).drop 1
  · exact h

theorem Sound.drain (h : Sound e s) : Sound e (s.step .drain) := by
  by_cases hd : s.worker = .exited ∧ s.engine.state = .ready
  · have key := Engine.stopped_of_key h.key
    simp only [State.step, hd, and_self, if_true]
    refine ⟨?_, h.key, ?_, .inr ⟨rfl, rfl, rfl⟩, fun _ => h.exited hd.1, h.opened, nofun, h.late, h.polling, ?_⟩
    · simpa [Engine.drain, BoundedQueue.reset, Function.comp_def] using h.once
    · intro p hp
      rcases List.mem_append.1 hp with hp | hp
      · exact h.stopped p hp
      · obtain ⟨t, _, rfl⟩ := List.mem_map.1 hp
        exact key
    · simpa [Engine.drain, BoundedQueue.reset, Function.comp_def] using h.pending
  · simpa [State.step, hd] using h

theorem Sound.step (h : Sound e s) : (m : Move) → Sound e (s.step m)
  | .submit t => h.submit t
  | .close => h.close
  | .check => h.check
  | .quit => h.quit
  | .take => h.take
  | .drain => h.drain

theorem Reachable.sound (h : Reachable e s) : Sound e s := by
  induction h with
  | init => exact sound_init
  | step m _ ih => exact ih.step m

/-- Every schedule of submits, the close, the worker and the drain keeps the teardown's promise:
each accepted task is handed over or aborted with `engine stopped`, once and in order; after the
close the worker takes at most one task, from the select it was in; and once drained, every task
queued at the close but that one has been aborted. -/
theorem Reachable.worker_stops (h : Reachable e s) : Stops e s := h.sound.stops

/-- An engine with room for one task. -/
def roomForOne : Engine := { (default : Engine) with queue := BoundedQueue.make 1 }

/-- The stop channel closes between the worker's check and its select, with a task queued. -/
def closeBetweenSelects : List Move := [.submit default, .check, .close, .take, .check, .drain]

theorem worker_stops_between_selects :
    Reachable roomForOne (run (init roomForOne) closeBetweenSelects) ∧
      Stops roomForOne (run (init roomForOne) closeBetweenSelects) :=
  have reach := Reachable.init.run closeBetweenSelects
  ⟨reach, Reachable.worker_stops reach⟩

/-- With the channel closed and the task queued, the select takes the task: it is handed to the
handler after the close, and the drain that follows aborts nothing. -/
theorem select_takes_task_after_close :
    let s := run (init roomForOne) closeBetweenSelects
    Reachable roomForOne s ∧ s.pending = [default] ∧ s.late = [default] ∧ s.aborted = [] ∧
      s.engine.state = .draining :=
  ⟨Reachable.init.run closeBetweenSelects, rfl, rfl, rfl, rfl⟩

end Teardown

end InferenceBroker
