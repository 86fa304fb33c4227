import InferenceBroker.Proofs.Dispatch.Reachable
import InferenceBroker.Proofs.Future.Sequence

/-!
# The ledger of tasks and futures

The *ledger* is what the dispatcher knows of its work: each engine's queued and held tasks, the
task record, the futures, and the tickets of direct callers; the invariant of `Balance` speaks
of it alone. Most steps *fix* it (notes, metrics, listeners, threads, plugin calls outside the
worker), and fixing composes along `bind`. The others change it by one of the equations here:
an engine stored back or forgotten, an event recorded, a future completed, an answer kept.
-/

namespace InferenceBroker

/-- Its serial number and state, its queued tasks, and the held task with the events the plugin
reports once the gate opens. -/
structure Engine.Load where
  id : Nat
  state : EngineState
  queued : List Task
  held : Option (Task × List (Event × Response))

def Engine.load (e : Engine) : Engine.Load := ⟨e.id, e.state, e.queue.items, e.held⟩

/-- The sequence number its request carries, and its transaction. -/
def Task.future (t : Task) : PendingFuture := ⟨t.request.requestId.toNat, t.request.transactionId⟩

/-- No direct caller waits for it. -/
def Task.async (t : Task) : Bool := t.ticket.isNone

/-- Its queued asynchronous tasks and the task its worker holds. -/
def Engine.Load.awaiting (x : Engine.Load) : List Task :=
  x.queued.filter Task.async ++ (x.held.map (·.1)).toList

/-- Each names the request and carries its transaction, or none. -/
def Addressed (req : Request) (events : List (Event × Response)) : Prop :=
  ∀ ev ∈ events, ev.2.requestId = req.requestId ∧ (ev.2.transactionId = req.transactionId ∨ ev.2.transactionId = 0)

namespace TaskEvent

def acceptedBy (i : Nat) : TaskEvent → Option Task
  | .accepted j t => if j = i then some t else none
  | _ => none

def takenBy (i : Nat) : TaskEvent → Option Task
  | .taken j t => if j = i then some t else none
  | _ => none

def abortedBy (i : Nat) : TaskEvent → List Task
  | .drained j left => if j = i then left else []
  | _ => []

def acceptedAsync : TaskEvent → Option Task
  | .accepted _ t => if t.async then some t else none
  | _ => none

section Views

variable {i j : Nat} {t : Task} {left : List Task}

@[simp] theorem acceptedBy_taken : (taken j t).acceptedBy i = none := rfl
@[simp] theorem acceptedBy_drained : (drained j left).acceptedBy i = none := rfl
@[simp] theorem takenBy_accepted : (accepted j t).takenBy i = none := rfl
@[simp] theorem takenBy_drained : (drained j left).takenBy i = none := rfl
@[simp] theorem abortedBy_accepted : (accepted j t).abortedBy i = [] := rfl
@[simp] theorem abortedBy_taken : (taken j t).abortedBy i = [] := rfl
@[simp] theorem acceptedAsync_taken : (taken j t).acceptedAsync = none := rfl
@[simp] theorem acceptedAsync_drained : (drained j left).acceptedAsync = none := rfl

end Views

end TaskEvent

structure Ledger where
  loads : List Engine.Load
  nextEngine : Nat
  /-- the task record, most recent first -/
  events : List TaskEvent
  nextTicket : Nat
  answered : List Nat
  pending : List PendingFuture
  completed : Nat
  dropped : Nat
  nextSeq : Nat
  capacity : Nat
  maxSeq : Nat

namespace Ledger

def history (l : Ledger) : List TaskEvent := l.events.reverse

def accepted (l : Ledger) (i : Nat) : List Task := l.history.filterMap (TaskEvent.acceptedBy i)

def taken (l : Ledger) (i : Nat) : List Task := l.history.filterMap (TaskEvent.takenBy i)

def aborted (l : Ledger) (i : Nat) : List Task := l.history.flatMap (TaskEvent.abortedBy i)

def queued (l : Ledger) (i : Nat) : List Task := (l.loads.filter (·.id == i)).flatMap (·.queued)

def acceptedAsync (l : Ledger) : List Task := l.history.filterMap TaskEvent.acceptedAsync

def awaiting (l : Ledger) : List Task := l.loads.flatMap (·.awaiting)

def setLoad (l : Ledger) (y : Engine.Load) : Ledger :=
  { l with loads := l.loads.map fun x => if x.id == y.id then y else x }

def drop (l : Ledger) (i : Nat) : Ledger := { l with loads := l.loads.filter (·.id != i) }

def addEngine (l : Ledger) : Ledger :=
  { l with loads := l.loads ++ [⟨l.nextEngine, .ready, [], none⟩], nextEngine := l.nextEngine + 1 }

def record (l : Ledger) (ev : TaskEvent) : Ledger := { l with events := ev :: l.events }

def respond (l : Ledger) (seq : Nat) : Ledger :=
  if seq ∈ l.pending.map (·.seq) then
    { l with pending := l.pending.filter (·.seq != seq), completed := l.completed + 1 }
  else l

end Ledger

namespace Ledger

variable {l : Ledger} {i : Nat} {x y : Engine.Load} {pre post : List Engine.Load}

section Record

variable (ev : TaskEvent)

theorem history_record : (l.record ev).history = l.history ++ [ev] := by
  simp [history, record]

@[simp] theorem accepted_record : (l.record ev).accepted i = l.accepted i ++ (ev.acceptedBy i).toList := by
  simp only [accepted, history_record, List.filterMap_append, List.filterMap_cons, List.filterMap_nil]
  cases ev.acceptedBy i <;> rfl

@[simp] theorem taken_record : (l.record ev).taken i = l.taken i ++ (ev.takenBy i).toList := by
  simp only [taken, history_record, List.filterMap_append, List.filterMap_cons, List.filterMap_nil]
  cases ev.takenBy i <;> rfl

@[simp] theorem aborted_record : (l.record ev).aborted i = l.aborted i ++ ev.abortedBy i := by
  simp [aborted, history_record]

@[simp] theorem acceptedAsync_record : (l.record ev).acceptedAsync = l.acceptedAsync ++ ev.acceptedAsync.toList := by
  simp only [acceptedAsync, history_record, List.filterMap_append, List.filterMap_cons, List.filterMap_nil]
  cases ev.acceptedAsync <;> rfl

@[simp] theorem queued_record : (l.record ev).queued i = l.queued i := rfl

@[simp] theorem awaiting_record : (l.record ev).awaiting = l.awaiting := rfl

end Record

theorem ids_ne_of_split (distinct : (l.loads.map (·.id)).Nodup) (split : l.loads = pre ++ x :: post) :
    ∀ z ∈ pre ++ post, z.id ≠ x.id := by
  rw [split, List.map_append, List.map_cons] at distinct
  have outside := List.nodup_cons.1 (List.nodup_middle.1 distinct)
  intro z hz same
  have mem : z.id ∈ pre.map (·.id) ++ post.map (·.id) := by
    rw [← List.map_append]
    exact List.mem_map_of_mem hz
  exact outside.1 (same ▸ mem)

theorem queued_split (split : l.loads = pre ++ x :: post) :
    l.queued i = (pre.filter (·.id == i)).flatMap (·.queued) ++ (if x.id = i then x.queued else []) ++
      (post.filter (·.id == i)).flatMap (·.queued) := by
  simp only [queued, split, List.filter_append, List.filter_cons, List.flatMap_append, beq_iff_eq]
  split <;> simp

theorem filter_id_eq_nil {zs : List Engine.Load} (h : ∀ z ∈ zs, z.id ≠ i) : zs.filter (·.id == i) = [] :=
  List.filter_eq_nil_iff.2 fun z hz => by simpa using h z hz

theorem setLoad_split (split : l.loads = pre ++ x :: post) (outside : ∀ z ∈ pre ++ post, z.id ≠ x.id)
    (same : y.id = x.id) : (l.setLoad y).loads = pre ++ y :: post := by
  have kept : ∀ zs : List Engine.Load, (∀ z ∈ zs, z.id ≠ x.id) →
      zs.map (fun z => if z.id == x.id then y else z) = zs := fun zs h =>
    (List.map_congr_left (g := id) fun z hz => by simp [h z hz]).trans (List.map_id zs)
  simp only [setLoad, split, List.map_append, List.map_cons, same, beq_self_eq_true, if_true,
    kept pre fun z hz => outside z (List.mem_append_left _ hz),
    kept post fun z hz => outside z (List.mem_append_right _ hz)]

theorem awaiting_split (split : l.loads = pre ++ x :: post) :
    l.awaiting = pre.flatMap (·.awaiting) ++ x.awaiting ++ post.flatMap (·.awaiting) := by
  simp [awaiting, split]

@[simp] theorem accepted_setLoad (y : Engine.Load) : (l.setLoad y).accepted i = l.accepted i := rfl

@[simp] theorem taken_setLoad (y : Engine.Load) : (l.setLoad y).taken i = l.taken i := rfl

@[simp] theorem aborted_setLoad (y : Engine.Load) : (l.setLoad y).aborted i = l.aborted i := rfl

@[simp] theorem acceptedAsync_setLoad (y : Engine.Load) : (l.setLoad y).acceptedAsync = l.acceptedAsync := rfl

theorem mem_setLoad {z : Engine.Load} (h : z ∈ (l.setLoad y).loads) : z = y ∨ z ∈ l.loads ∧ z.id ≠ y.id := by
  obtain ⟨w, hw, rfl⟩ := List.mem_map.1 h
  split
  next => exact .inl rfl
  next other => exact .inr ⟨hw, by simpa using other⟩

theorem ids_setLoad (y : Engine.Load) : (l.setLoad y).loads.map (·.id) = l.loads.map (·.id) := by
  simp only [setLoad, List.map_map]
  exact List.map_congr_left fun z _ => by
    simp only [Function.comp_apply]
    split
    next same => exact (beq_iff_eq.1 same).symm
    next => rfl

theorem queued_setLoad (distinct : (l.loads.map (·.id)).Nodup) (hx : x ∈ l.loads) (same : y.id = x.id) (i : Nat) :
    (l.setLoad y).queued i = if x.id = i then y.queued else l.queued i := by
  obtain ⟨pre, post, split⟩ := List.append_of_mem hx
  have outside := ids_ne_of_split distinct split
  rw [queued_split (setLoad_split split outside same), queued_split split, same]
  split
  next here =>
    subst here
    rw [filter_id_eq_nil fun z hz => outside z (List.mem_append_left _ hz),
      filter_id_eq_nil fun z hz => outside z (List.mem_append_right _ hz)]
    simp
  next => rfl

theorem queued_of_mem (distinct : (l.loads.map (·.id)).Nodup) (hx : x ∈ l.loads) : l.queued x.id = x.queued := by
  obtain ⟨pre, post, split⟩ := List.append_of_mem hx
  have outside := ids_ne_of_split distinct split
  rw [queued_split split, filter_id_eq_nil fun z hz => outside z (List.mem_append_left _ hz),
    filter_id_eq_nil fun z hz => outside z (List.mem_append_right _ hz)]
  simp

end Ledger

namespace Dispatcher

variable {L : Type} {α β : Type}

def ledger (d : Dispatcher L) : Ledger :=
  ⟨d.engines.map Engine.load, d.nextEngine, d.taskEvents, d.nextTicket, d.answers.map (·.1),
    d.futures.pending, d.futures.completed, d.futures.dropped, d.futures.nextSeq, d.futures.capacity,
    d.futures.maxSeq⟩

theorem ids_ledger (d : Dispatcher L) : d.ledger.loads.map (·.id) = d.engines.map (·.id) := by
  simp only [ledger, List.map_map]
  rfl

theorem distinct_of_ledger {d d' : Dispatcher L} (h : d'.ledger = d.ledger) (hd : d.Distinct) : d'.Distinct := by
  unfold Distinct
  rw [← ids_ledger, h, ids_ledger]
  exact hd

/-- Leaves the ledger of every dispatcher without shared serial numbers as it found it. -/
def Fixes (x : Act L α) : Prop := ∀ d : Dispatcher L, d.Distinct → (x.run d).2.ledger = d.ledger

/-- Fixing composes: a ledger fixed keeps the serial numbers distinct for the next step. -/
theorem Fixes.composes : Composes fun d d' : Dispatcher L => d.Distinct → d'.ledger = d.ledger where
  refl _ _ := rfl
  trans h₁ h₂ hd := (h₂ (distinct_of_ledger (h₁ hd) hd)).trans (h₁ hd)

theorem fixes_pure (a : α) : Fixes (pure a : Act L α) := fun _ _ => rfl

theorem fixes_get : Fixes (get : Act L (Dispatcher L)) := fun _ _ => rfl

theorem Fixes.bind {x : Act L α} {f : α → Act L β} (hx : Fixes x) (hf : ∀ a, Fixes (f a)) :
    Fixes (x >>= f) := Fixes.composes.bind hx hf

theorem Fixes.andThen {x : Act L α} {y : Act L β} (hx : Fixes x) (hy : Fixes y) :
    Fixes (x >>= fun _ => y) := hx.bind fun _ => hy

theorem Fixes.after {x : Act L α} (hx : Fixes x) {d d₁ : Dispatcher L} (hd : d.Distinct)
    (h₁ : d₁.ledger = d.ledger) : (x.run d₁).2.ledger = d.ledger := by
  rw [hx d₁ (distinct_of_ledger h₁ hd), h₁]

theorem fixes_modify {f : Dispatcher L → Dispatcher L} (h : ∀ d, (f d).ledger = d.ledger) :
    Fixes (modify f) := fun d _ => h d

theorem fixes_forM {xs : List α} {f : α → Act L PUnit} (h : ∀ a ∈ xs, Fixes (f a)) :
    Fixes (xs.forM f) := Fixes.composes.forM h

theorem fixes_note (e : Entry) : Fixes (note (L := L) e) := fixes_modify fun _ => rfl

theorem fixes_noteAll (es : List Entry) : Fixes (noteAll (L := L) es) :=
  fixes_forM fun e _ => fixes_note e

theorem fixes_count (series : String) : Fixes (count (L := L) series) :=
  Fixes.composes.count (fun _ _ _ => rfl) series

theorem fixes_countLifecycle (op : String) (err : Option Failure) : Fixes (countLifecycle (L := L) op err) :=
  fixes_count _

section Equations

variable {d : Dispatcher L}

theorem ledger_putEngine (e : Engine) (d : Dispatcher L) :
    ((putEngine e).run d).2.ledger = d.ledger.setLoad e.load := by
  simp only [putEngine, run_modify, ledger, Ledger.setLoad, List.map_map, Ledger.mk.injEq, and_true]
  apply List.map_congr_left
  intro x _
  show (if (x.id == e.id) = true then e else x).load = if (x.id == e.id) = true then e.load else x.load
  split <;> rfl

theorem ledger_putEngine_same (hd : d.Distinct) {e o : Engine} (h : d.engine? e.id = some o)
    (same : e.load = o.load) : ((putEngine e).run d).2.ledger = d.ledger := by
  rw [ledger_putEngine]
  simp only [Ledger.setLoad, ledger, List.map_map, Ledger.mk.injEq, and_true]
  apply List.map_congr_left
  intro x hx
  simp only [Function.comp_apply]
  split
  next hid => rw [eq_of_engine? hd h hx (by simpa [Engine.load] using hid), same]
  next => rfl

theorem ledger_dropEngine (eid : Nat) (d : Dispatcher L) :
    ((dropEngine eid).run d).2.ledger = d.ledger.drop eid := by
  simp only [dropEngine, run_modify, ledger, Ledger.drop, List.filter_map, Ledger.mk.injEq, and_true]
  rfl

theorem ledger_record (ev : TaskEvent) (d : Dispatcher L) :
    ((record ev).run d).2.ledger = d.ledger.record ev := rfl

theorem ledger_answer (ticket moment : Nat) (o : Outcome) (d : Dispatcher L) :
    ((answer ticket moment o).run d).2.ledger = { d.ledger with answered := ticket :: d.ledger.answered } := rfl

end Equations

theorem fixes_failOn (eid : Nat) : Fixes (failOn (L := L) eid) :=
  Fixes.composes.failOn eid fun _ e he hd => ledger_putEngine_same (o := e) hd ((engine?_mem he).2 ▸ he) rfl

theorem fixes_finishOn (eid : Nat) : Fixes (finishOn (L := L) eid) :=
  Fixes.composes.finishOn eid fun _ e he hd => ledger_putEngine_same (o := e) hd ((engine?_mem he).2 ▸ he) rfl

theorem fixes_returnThread (key : EngineKey) (thread : Nat) : Fixes (returnThread (L := L) key thread) :=
  Fixes.composes.returnThread key thread (fun _ _ _ _ => rfl) fixes_note

theorem fixes_returnQueue (key : EngineKey) (queue : Nat) : Fixes (returnQueue (L := L) key queue) :=
  Fixes.composes.returnQueue key queue (fun _ _ _ => rfl) fixes_note

theorem fixes_unloadPlugin (key : EngineKey) (ld : Loaded) (level : LogLevel) :
    Fixes (unloadPlugin (L := L) key ld level) :=
  Fixes.composes.unloadPlugin key ld level (fun _ _ => rfl) fixes_note

theorem fixes_unreserve (tx : UInt64) : Fixes (unreserve (L := L) tx) := fixes_modify fun _ => rfl

theorem fixes_registerListener (tx : UInt64) (l : Option L) : Fixes (registerListener tx l) := by
  intro d _
  cases l <;> rfl

theorem fixes_unregisterListener (tx : UInt64) : Fixes (unregisterListener (L := L) tx) := fun _ _ => rfl

theorem fixes_takeReplies : Fixes (takeReplies (L := L)) := fun _ _ => rfl

end Dispatcher

end InferenceBroker
