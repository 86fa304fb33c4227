import Mathlib
import InferenceBroker.Proofs.Dispatch.Balance

/-!
# Workers and requests keep the ledger balanced

The steps of `Balance`, found in the code, each under the condition the code meets there: a
response goes to the futures only for a task in flight, so no waiting task owns its future,
and a plugin's events answer its request (`Plugin.asyncProcess_addressed`); a worker takes
the first task of its queue; a request is queued in a ready engine under the next ticket or a
fresh future, a refused one giving its future back. `Accounting` adds engines made and taken down.
-/

namespace InferenceBroker

section Plugins

theorem addressed_success (req : Request) (ev : Event) (result : Option Bytes) :
    Addressed req [(ev, Response.success req result)] := by
  simp [Addressed, Response.success]

theorem addressed_failure (req : Request) (ev : Event) (err : Option Failure) :
    Addressed req [(ev, Response.failure req err)] := by
  simp [Addressed, Response.failure]

theorem Addressed.append {req : Request} {xs ys : List (Event × Response)} (hx : Addressed req xs)
    (hy : Addressed req ys) : Addressed req (xs ++ ys) := fun ev hev =>
  (List.mem_append.1 hev).elim (hx ev) (hy ev)

theorem ModulePlugin.syncProcess_success {p : ModulePlugin} {req : Request} {r : Response}
    (h : (p.syncProcess req).1 = .done (some r)) : ∃ out, r = Response.success req (some out) := by
  unfold ModulePlugin.syncProcess at h
  split at h
  · cases h
  · split at h
    next c _ _ =>
      cases c with
      | done out =>
        simp only [Call.map, Call.done.injEq, Option.some.injEq] at h
        exact ⟨out, h.symm⟩
      | failed => simp [Call.map] at h
      | panicked => simp [Call.map] at h

/-- The events name the request and carry its transaction or none. -/
theorem Plugin.asyncProcess_addressed (pl : Plugin) (req : Request) {delivery : Delivery}
    (h : (pl.asyncProcess req).1 = .done delivery) : Addressed req delivery.events := by
  cases pl with
  | echo p =>
    simp only [Plugin.asyncProcess, Echo.asyncProcess] at h
    -- a refusal or a panic reports no events; each fault reports its own
    split_ifs at h
    · cases h
      simp [Addressed, Delivery.events]
    · cases h
      exact (addressed_success req _ _).append (addressed_failure req _ _)
    · cases h
      exact addressed_success req _ _
    · cases h
      exact addressed_success req _ _
    · split at h
      · next r answered =>
        cases h
        unfold Echo.answer at answered
        split at answered
        · cases answered
        · cases answered
          exact addressed_success req _ _
      · cases h
        exact addressed_failure req _ _
  | module p =>
    simp only [Plugin.asyncProcess, ModulePlugin.asyncProcess] at h
    split at h <;> cases h
    · next r _ processed =>
      obtain ⟨out, rfl⟩ := ModulePlugin.syncProcess_success (congrArg Prod.fst processed)
      exact addressed_success req _ _
    · simp [Addressed, Delivery.events]
    · exact addressed_failure req _ _
    · exact addressed_failure req _ _

theorem Addressed.seq {t : Task} {events : List (Event × Response)} (h : Addressed t.request events) :
    ∀ ev ∈ events, ev.2.requestId.toNat = t.future.seq := fun ev hev => by
  rw [(h ev hev).1]
  rfl

theorem Ledger.InFlight.free {l : Ledger} {t : Task} (flight : l.InFlight t) {events : List (Event × Response)}
    (addressed : l.dropped = 0 → Addressed t.request events) :
    l.dropped = 0 → ∀ u ∈ l.awaiting, ∀ ev ∈ events, u.future.seq ≠ ev.2.requestId.toNat := by
  intro undropped u hu ev hev
  rw [Addressed.seq (addressed undropped) ev hev]
  exact (flight undropped).2 u hu

theorem Engine.submit_error {e e' : Engine} {t : Task} {err : Failure} (h : e.submit t = (.error err, e')) :
    e'.load = e.load ∧ e'.queue = e.queue ∧ e'.counters.submitted = e.counters.submitted := by
  unfold Engine.submit at h
  split at h
  · cases h
    exact ⟨rfl, rfl, rfl⟩
  · split at h
    · cases h
      exact ⟨rfl, rfl, rfl⟩
    · cases h

theorem Engine.submit_ok {e e' : Engine} {t : Task} (h : e.submit t = (.ok (), e')) :
    e.state = .ready ∧ e'.load = { e.load with queued := e.load.queued ++ [t] } := by
  unfold Engine.submit at h
  split at h
  · cases h
  · next ready =>
    split at h
    · cases h
    · next q pushed =>
      cases h
      have items : q.items = e.queue.items ++ [t] := by
        unfold BoundedQueue.push at pushed
        split at pushed
        · cases pushed
        · cases pushed
          rfl
      refine ⟨by simpa using ready, ?_⟩
      simp only [Engine.load, items]

theorem BoundedQueue.items_of_take? {α : Type} {q q' : BoundedQueue α} {a : α} (h : q.take? = some (a, q')) :
    q.items = a :: q'.items := by
  unfold BoundedQueue.take? at h
  split at h
  · cases h
  · next rest items =>
    cases h
    exact items

end Plugins

namespace Dispatcher

variable {L : Type} {α β : Type}

section Framework

theorem distinct_of_balanced {d : Dispatcher L} (b : d.ledger.Balanced) : d.Distinct := by
  unfold Distinct
  rw [← ids_ledger]
  exact b.distinct

theorem isSome_engine? (d : Dispatcher L) (j : Nat) : (d.engine? j).isSome ↔ j ∈ d.ledger.loads.map (·.id) := by
  rw [ids_ledger, engine?, List.find?_isSome]
  simp

theorem isSome_engine?_of_ledger {d d' : Dispatcher L} (h : d'.ledger = d.ledger) (j : Nat) :
    (d'.engine? j).isSome = (d.engine? j).isSome := by
  rw [Bool.eq_iff_iff, isSome_engine?, isSome_engine?, h]

def Balances (x : Act L α) : Prop := ∀ d : Dispatcher L, d.ledger.Balanced → (x.run d).2.ledger.Balanced

theorem Fixes.balances {x : Act L α} (h : Fixes x) : Balances x := fun d b => by
  rw [h d (distinct_of_balanced b)]
  exact b

theorem Balances.composes : Composes fun d d' : Dispatcher L => d.ledger.Balanced → d'.ledger.Balanced :=
  Composes.invariant _

theorem Balances.bind {x : Act L α} {f : α → Act L β} (hx : Balances x) (hf : ∀ a, Balances (f a)) :
    Balances (x >>= f) := Balances.composes.bind hx hf

theorem Balances.andThen {x : Act L α} {y : Act L β} (hx : Balances x) (hy : Balances y) :
    Balances (x >>= fun _ => y) := hx.bind fun _ => hy

theorem ledger_forIn {xs : List α} {init : β} {f : α → β → Act L (ForInStep β)} (P : Ledger → Prop)
    (step : ∀ a ∈ xs, ∀ s (d : Dispatcher L), P d.ledger → P ((f a s).run d).2.ledger) :
    ∀ d : Dispatcher L, P d.ledger → P ((forIn xs init f).run d).2.ledger :=
  (Composes.invariant fun d : Dispatcher L => P d.ledger).forIn step

theorem balances_forIn {xs : List α} {init : β} {f : α → β → Act L (ForInStep β)}
    (h : ∀ a ∈ xs, ∀ s, Balances (f a s)) : Balances (forIn xs init f) :=
  ledger_forIn Ledger.Balanced fun a ha s => h a ha s

theorem balances_mapM {xs : List α} {f : α → Act L β} (h : ∀ a ∈ xs, Balances (f a)) : Balances (xs.mapM f) :=
  Balances.composes.mapM h

theorem run_unless (c : Bool) (x : Act L Unit) (k : Unit → Act L β) (d : Dispatcher L) :
    (have jp := k; if c = true then jp () else x >>= fun r => jp r).run d =
      (k ()).run (if c = true then d else (x.run d).2) := by
  split <;> rfl

end Framework

section Deliveries

variable {d : Dispatcher L}

theorem ledger_respond (d : Dispatcher L) (event : Event) (resp : Response) :
    ({ d with futures := (d.futures.respond event (some resp)).2 } : Dispatcher L).ledger =
      d.ledger.respond resp.requestId.toNat := by
  rw [FutureTable.respond_table]
  by_cases found : resp.requestId.toNat ∈ d.futures.pending.map (·.seq)
  · rw [if_pos (FutureTable.used_iff.2 found), Ledger.respond_of_mem found]
    rfl
  · rw [if_neg (mt FutureTable.used_iff.1 found), Ledger.respond_of_not_mem found]

theorem ledger_deliver (hd : d.Distinct) (eid moment : Nat) (event : Event) (resp : Response) :
    ((deliver eid moment event resp).run d).2.ledger =
      if (d.engine? eid).isSome then d.ledger.respond resp.requestId.toNat else d.ledger := by
  unfold deliver
  erw [run_unless]
  -- counting the failure changes no ledger
  generalize hd₁ : (if event.isResult = true then d else ((failOn eid).run d).2) = d₁
  have same : d₁.ledger = d.ledger := by
    rw [← hd₁]
    split
    · rfl
    · exact fixes_failOn eid d hd
  rw [← isSome_engine?_of_ledger same, ← same]
  simp only [run_bind, run_get]
  split
  next e he =>
    rw [if_pos (by simp [he])]
    simp only [run_bind, run_set]
    split <;> exact ledger_respond d₁ event resp
  next he =>
    have absent : d₁.engine? eid = none := Option.eq_none_iff_forall_ne_some.2 he
    rw [if_neg (by simp [absent])]
    rfl

theorem deliver_keeps (hd : d.Distinct) (eid moment : Nat) (event : Event) (resp : Response) :
    ((deliver eid moment event resp).run d).2.ledger.loads = d.ledger.loads ∧
      ((deliver eid moment event resp).run d).2.ledger.dropped = d.ledger.dropped := by
  rw [ledger_deliver hd]
  split <;> simp

theorem balanced_deliver (b : d.ledger.Balanced) {eid moment : Nat} {event : Event} {resp : Response}
    (free : d.ledger.dropped = 0 → ∀ u ∈ d.ledger.awaiting, u.future.seq ≠ resp.requestId.toNat) :
    ((deliver eid moment event resp).run d).2.ledger.Balanced := by
  rw [ledger_deliver (distinct_of_balanced b)]
  split
  · exact b.respond free
  · exact b

theorem balanced_deliverAll (b : d.ledger.Balanced) {eid moment : Nat} {events : List (Event × Response)}
    (free : d.ledger.dropped = 0 → ∀ u ∈ d.ledger.awaiting, ∀ ev ∈ events, u.future.seq ≠ ev.2.requestId.toNat) :
    ((deliverAll eid moment events).run d).2.ledger.Balanced := by
  induction events generalizing d with
  | nil => exact b
  | cons ev events ih =>
    change ((deliver eid moment ev.1 ev.2 >>= fun _ => deliverAll eid moment events).run d).2.ledger.Balanced
    rw [run_bind]
    have kept := deliver_keeps (distinct_of_balanced b) eid moment ev.1 ev.2
    refine ih (balanced_deliver b fun none u hu => free none u hu ev (List.mem_cons_self ..)) fun none u hu e he => ?_
    have hu' : u ∈ d.ledger.awaiting := by rwa [Ledger.awaiting, ← kept.1]
    exact free (kept.2 ▸ none) u hu' e (List.mem_cons_of_mem _ he)

end Deliveries

section Workers

variable {d : Dispatcher L}

theorem ledger_runDirect (hd : d.Distinct) {e : Engine} (he : d.engine? e.id = some e) (ticket : Nat) (t : Task)
    (start : Nat) :
    ((runDirect e ticket t start).run d).2.ledger = { d.ledger with answered := ticket :: d.ledger.answered } := by
  unfold runDirect
  split
  next c took p hc =>
    rw [run_bind]
    have put := ledger_putEngine_same (e := { e.withPlugin p with freeAt := start + took.nanos.toNat }) hd he rfl
    -- each outcome of the plugin call changes no ledger before the answer is kept
    have outcome : ∀ x : Act L Outcome, Fixes x → ((x >>= fun o => finishOn (L := L) (e.withPlugin p).id >>= fun _ =>
        answer ticket (start + took.nanos.toNat) o).run ((putEngine { e.withPlugin p with
          freeAt := start + took.nanos.toNat }).run d).2).2.ledger = { d.ledger with answered := ticket :: d.ledger.answered } := by
      intro x hx
      rw [run_bind, run_bind, ledger_answer, (fixes_finishOn _).after hd (hx.after hd put)]
    dsimp only
    split
    -- each branch's act is spelled out: inferring it from the goal takes seconds
    · exact outcome (pure _) (fixes_pure _)
    · exact outcome (failOn _ >>= fun _ => pure _) ((fixes_failOn _).andThen (fixes_pure _))
    · exact outcome (failOn _ >>= fun _ => pure _) ((fixes_failOn _).andThen (fixes_pure _))
    · exact outcome (note _ >>= fun _ => failOn _ >>= fun _ => pure _)
        ((fixes_note _).andThen ((fixes_failOn _).andThen (fixes_pure _)))

/-- The plugin's events, or the failure in their place, answer the task's own future, and a
worker held at the gate keeps the task waiting. -/
theorem balanced_runAsync (b : d.ledger.Balanced) {e : Engine} (he : d.engine? e.id = some e)
    (idle : e.held = none) {t : Task} (flight : d.ledger.InFlight t) (start : Nat) :
    ((runAsync e t start).run d).2.ledger.Balanced := by
  have hd := distinct_of_balanced b
  have hx : e.load ∈ d.ledger.loads := List.mem_map_of_mem (engine?_mem he).1
  unfold runAsync
  split
  next c p hc =>
    have put := ledger_putEngine_same (e := { e.withPlugin p with freeAt := start }) hd he rfl
    have addressed : ∀ delivery, c = .done delivery → Addressed t.request delivery.events := fun delivery done =>
      Plugin.asyncProcess_addressed e.plugin t.request (by rw [hc, done])
    rw [run_bind]
    set d₁ := ((putEngine { e.withPlugin p with freeAt := start }).run d).2
    have b₁ : d₁.ledger.Balanced := put ▸ b
    have flight₁ : d₁.ledger.InFlight t := put ▸ flight
    split
    next events =>
      rw [run_bind, run_get]
      split
      · rw [run_bind]
        exact (fixes_finishOn _).balances _ (balanced_deliverAll b₁ (flight₁.free fun _ => addressed _ rfl))
      · rw [ledger_putEngine, put]
        exact b.hold hx idle fun undropped => ⟨(flight undropped).1, (flight undropped).2, addressed _ rfl⟩
    next delivery _ =>
      rw [run_bind]
      exact (fixes_finishOn _).balances _ (balanced_deliverAll b₁ (flight₁.free fun _ => addressed _ rfl))
    next err =>
      rw [run_bind]
      exact (fixes_finishOn _).balances _ (balanced_deliver b₁ fun undropped => (flight₁ undropped).2)
    next msg =>
      rw [run_bind, run_bind, run_bind]
      -- the panic is noted and counted before the failure answers the future
      have noted : ∀ (entry : Entry) (eid : Nat), ((failOn eid).run ((note entry).run d₁).2).2.ledger = d₁.ledger :=
        fun entry eid => (fixes_failOn eid).after (distinct_of_balanced b₁) (fixes_note entry d₁ (distinct_of_balanced b₁))
      refine (fixes_finishOn _).balances _ (balanced_deliver ?_ ?_)
      · rw [noted]
        exact b₁
      · rw [noted]
        exact fun undropped => (flight₁ undropped).2

/-- When its ticket was handed out and, asynchronous, it is in flight. -/
theorem balanced_runTask (b : d.ledger.Balanced) {eid : Nat} {t : Task}
    (idle : ∀ e, d.engine? eid = some e → e.held = none) (flight : t.async = true → d.ledger.InFlight t)
    (ticket : ∀ k ∈ t.ticket, k < d.ledger.nextTicket) (start : Nat) :
    ((runTask eid t start).run d).2.ledger.Balanced := by
  simp only [runTask, run_bind, run_get]
  split
  next e he =>
    have found : d.engine? e.id = some e := (engine?_mem he).2 ▸ he
    split
    next k direct =>
      rw [ledger_runDirect (distinct_of_balanced b) found]
      exact b.answer (ticket k direct)
    next undirected =>
      exact balanced_runAsync b found (idle e he) (flight (by simp [Task.async, undirected])) start
  next => exact b

theorem balances_workUntil (eid horizon fuel : Nat) : Balances (workUntil (L := L) eid horizon fuel) := by
  induction fuel with
  | zero => exact (fixes_pure _).balances
  | succ fuel ih =>
    intro d b
    simp only [workUntil, run_bind, run_get]
    split
    next e he =>
      obtain ⟨-, rfl⟩ := engine?_mem he
      have hx : e.load ∈ d.ledger.loads := List.mem_map_of_mem (engine?_mem he).1
      split
      · exact b
      · next free =>
        split
        · exact b
        · next task q taken =>
          have queue := BoundedQueue.items_of_take? taken
          have idle : e.held = none := by
            simp only [Bool.or_eq_true, Option.isSome_iff_ne_none, not_or, not_not] at free
            exact free.1.1
          -- taking the task is the ledger's step `take`
          have took : ((record (.taken e.id task)).run ((putEngine { e with queue := q }).run d).2).2.ledger =
              (d.ledger.setLoad { e.load with queued := q.items }).record (.taken e.load.id task) := by
            rw [ledger_record, ledger_putEngine]
            rfl
          have held : ∀ e', ((record (.taken e.id task)).run ((putEngine { e with queue := q }).run d).2).2.engine? e.id =
              some e' → e'.held = none := by
            intro e' he'
            have put := engine?_putEngine (d := d) (e := { e with queue := q }) he
            rw [show ((record (.taken e.id task)).run ((putEngine { e with queue := q }).run d).2).2.engine? e.id =
              ((putEngine { e with queue := q }).run d).2.engine? e.id from rfl, put] at he'
            cases he'
            exact idle
          have handed : ∀ k ∈ task.ticket, k < d.ledger.nextTicket := by
            refine b.tickets e.id task (b.accepted_of_queued ?_)
            rw [show e.id = e.load.id from rfl, Ledger.queued_of_mem b.distinct hx]
            simp [Engine.load, queue]
          rw [run_bind, run_bind, run_bind]
          refine ih _ (balanced_runTask ?_ held (fun async => ?_) ?_ _)
          · rw [took]
            exact b.take hx queue
          · rw [took]
            exact b.take_inFlight hx queue async
          · rw [took]
            exact handed
    next => exact b

theorem balances_workEngine (eid horizon : Nat) : Balances (workEngine (L := L) eid horizon) := by
  intro d b
  simp only [workEngine, run_bind, run_get]
  split
  · exact balances_workUntil eid horizon _ d b
  · exact b

theorem balances_workAll (horizon : Nat) : Balances (workAll (L := L) horizon) :=
  fixes_get.balances.bind fun _ =>
    balances_forIn fun e _ _ => (balances_workEngine e.id horizon).andThen (fixes_pure _).balances

theorem balances_settle : Balances (settle (L := L)) :=
  (balances_workAll never).andThen (fixes_modify fun _ => rfl).balances

theorem balances_release (eid : Nat) : Balances (release (L := L) eid) := by
  intro d b
  simp only [release, run_bind, run_get]
  split
  next e he =>
    split
    next t events held =>
      obtain ⟨-, rfl⟩ := engine?_mem he
      have hx : e.load ∈ d.ledger.loads := List.mem_map_of_mem (engine?_mem he).1
      obtain ⟨flight, addressed⟩ := b.unhold_inFlight hx held
      have unheld : ((putEngine { e with held := none }).run d).2.ledger = d.ledger.setLoad { e.load with held := none } :=
        ledger_putEngine _ _
      refine (fixes_finishOn _).balances _ (balanced_deliverAll ?_ ?_)
      · erw [unheld]
        exact b.unhold hx
      · erw [unheld]
        exact flight.free addressed
    next => exact b
  next => exact b

end Workers

section Requests

theorem balances_get_bind {f : Dispatcher L → Act L β}
    (hf : ∀ d, d.ledger.Balanced → ((f d).run d).2.ledger.Balanced) : Balances (get >>= f) := fun d b => by
  rw [run_bind, run_get]
  exact hf d b

theorem balanced_filterAnswers {d : Dispatcher L} (b : d.ledger.Balanced) (ticket now : Nat) :
    ({ d with answers := d.answers.filter (·.1 != ticket), now := now } : Dispatcher L).ledger.Balanced :=
  b.withAnswered fun _ hk => ((List.filter_sublist (l := d.answers)).map (·.1)).subset hk

theorem balances_filterAnswers (ticket : Nat) (now : Dispatcher L → Nat) :
    Balances (modify fun d : Dispatcher L => { d with answers := d.answers.filter (·.1 != ticket), now := now d }) :=
  fun d b => by
    rw [run_modify]
    exact balanced_filterAnswers b ticket (now d)

theorem balances_giveUp (eid ticket deadline : Nat) (limit : Duration) :
    Balances (directRequest.giveUp (L := L) eid ticket deadline limit) := by
  intro d b
  simp only [directRequest.giveUp, run_bind, run_get]
  split
  next e he =>
    rw [run_bind]
    have put := ledger_putEngine_same (e := { e with counters := e.counters.giveUp }) (o := e)
      (distinct_of_balanced b) ((engine?_mem he).2 ▸ he) rfl
    refine Balances.andThen (balances_filterAnswers ticket fun d => max d.now deadline)
      (fixes_get.balances.bind fun _ => (balances_workAll _).andThen (fixes_pure _).balances) _ (put ▸ b)
  next => exact b

/-- Its task is queued under the next ticket and its answer taken away when the caller has it
or stops waiting. -/
theorem balances_directRequest (req : Request) : Balances (directRequest (L := L) req) := by
  intro d b
  rw [directRequest, run_bind, engineFor_run]
  split
  next => exact b
  next e he =>
    have found := engine?_of_lookup (engineFor_lookup he)
    have hx : e.load ∈ d.ledger.loads := List.mem_map_of_mem (engine?_mem found).1
    simp only [run_bind, run_get, run_set]
    -- the next ticket is handed out before the engine is asked
    have b₁ : ({ d with nextTicket := d.nextTicket + 1 } : Dispatcher L).ledger.Balanced :=
      b.withTicket (Nat.le_succ _)
    set task : Task := ⟨req, some d.nextTicket, d.now⟩
    rcases hs : e.submit task with ⟨r, e'⟩
    cases r with
    | error err =>
      obtain ⟨same, -, -⟩ := Engine.submit_error hs
      have id : e'.id = e.id := congrArg Engine.Load.id same
      show ((putEngine e').run _).2.ledger.Balanced
      rw [ledger_putEngine_same (distinct_of_balanced b₁) (o := e) (id ▸ found) same]
      exact b₁
    | ok u =>
      obtain ⟨ready, queued⟩ := Engine.submit_ok hs
      have id : e'.id = e.id := congrArg Engine.Load.id queued
      -- the queue accepts the task: the ledger's step `accept`
      have accepted : ((record (.accepted e'.id task)).run
          ((putEngine e').run { d with nextTicket := d.nextTicket + 1 }).2).2.ledger.Balanced := by
        rw [ledger_record, ledger_putEngine, queued, id]
        exact b₁.accept hx ready rfl fun k hk => by
          cases hk
          exact Nat.lt_succ_self _
      rw [run_bind]
      refine (fixes_get.balances.bind fun s => ?_) _ accepted
      -- with a time limit or without, the caller has the answer in time, too late, or not at all
      split
      all_goals
        refine (balances_workEngine _ _).andThen (balances_get_bind fun d' b' => ?_)
        split
        · split
          · rw [run_bind, run_set]
            exact (fixes_get.balances.bind fun _ => (balances_workAll _).andThen
              (by split <;> exact (fixes_pure _).balances)) _ (balanced_filterAnswers b' _ _)
          · exact balances_giveUp _ _ _ _ _ b'
        · exact balances_giveUp _ _ _ _ _ b'

theorem ledger_withFutures (d : Dispatcher L) (F : FutureTable L) :
    ({ d with futures := F } : Dispatcher L).ledger =
      { d.ledger with
        pending := F.pending, completed := F.completed, dropped := F.dropped, nextSeq := F.nextSeq,
        capacity := F.capacity, maxSeq := F.maxSeq } := rfl

theorem balances_asyncRequest (req : Request) : Balances (asyncRequest (L := L) req) := by
  intro d b
  rw [asyncRequest, run_bind, engineFor_run]
  split
  next => exact b
  next e he =>
    have found := engine?_of_lookup (engineFor_lookup he)
    have hx : e.load ∈ d.ledger.loads := List.mem_map_of_mem (engine?_mem found).1
    rw [run_bind, run_get]
    dsimp only
    split
    next => exact b
    next seq futures created =>
      have sized : d.futures.Sized := ⟨b.sized.1, b.sized.2⟩
      obtain ⟨unused, -, below, -⟩ := FutureTable.create_fresh sized created
      have cursor := FutureTable.advance_bounds (t := d.futures) seq
        (by have := b.sized; change 1 ≤ d.ledger.maxSeq; omega)
      have released := FutureTable.release_created sized created
      obtain ⟨-, -, table⟩ := FutureTable.create_eq_ok created
      rw [run_bind, run_set, run_bind]
      set task : Task := ⟨{ req with requestId := UInt64.ofNat seq }, none, d.now⟩
      -- the request's id is the future's number, which fits in 64 bits
      have future : task.future = ⟨seq, req.transactionId⟩ := by
        have fits : seq < 2 ^ 64 := by
          have bounded := b.bounded
          simp only [maxSequence, Nat.pow_eq] at bounded
          change seq ≤ d.ledger.maxSeq at below
          omega
        simp only [task, Task.future, UInt64.toNat_ofNat_of_lt' fits]
      rcases hs : e.submit task with ⟨r, e'⟩
      cases r with
      | error err =>
        obtain ⟨same, -, -⟩ := Engine.submit_error hs
        have id : e'.id = e.id := congrArg Engine.Load.id same
        set S := ((putEngine e').run { d with futures := futures }).2
        have hd : ({ d with futures := futures } : Dispatcher L).Distinct := (distinct_of_balanced b : d.Distinct)
        have put : S.ledger = ({ d with futures := futures } : Dispatcher L).ledger :=
          ledger_putEngine_same hd (o := e) (id ▸ found) same
        -- the refused task gives its future back: only the cursor has moved
        dsimp only
        rw [run_bind, run_get]
        erw [released]
        change ({ S with futures := { d.futures with nextSeq := d.futures.advance seq } } : Dispatcher L).ledger.Balanced
        rw [ledger_withFutures, put]
        exact b.withCursor cursor
      | ok u =>
        obtain ⟨ready, queued⟩ := Engine.submit_ok hs
        have id : e'.id = e.id := congrArg Engine.Load.id queued
        -- the queue accepts the task under its new future: the ledger's step `acceptAsync`
        have accepted : ((record (.accepted e'.id task)).run
            ((putEngine e').run { d with futures := futures }).2).2.ledger.Balanced := by
          have step := b.acceptAsync hx ready rfl (t := task) (by rw [future]; exact unused) cursor
          rw [future] at step
          rw [ledger_record, ledger_putEngine, queued, id, table]
          exact step
        exact (fixes_get.balances.bind fun _ => (balances_workEngine _ _).andThen (fixes_pure _).balances) _ accepted

theorem balances_syncExecute (req : Option Request) : Balances (syncExecute (L := L) req) :=
  Balances.composes.syncExecute (fun s => (fixes_count s).balances) balances_directRequest req

theorem balances_asyncExecute (req : Option Request) : Balances (asyncExecute (L := L) req) :=
  Balances.composes.asyncExecute (fun s => (fixes_count s).balances) balances_asyncRequest req

end Requests

end Dispatcher

end InferenceBroker
