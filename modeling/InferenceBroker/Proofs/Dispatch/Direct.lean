import InferenceBroker.Proofs.Dispatch.Queues

/-!
# What a direct caller is told

A direct request is queued under a ticket no queued task or kept answer holds, and the worker
running it keeps its answer under that ticket. So in every reachable dispatcher a direct
request to a synchronous engine ends in what the engine's plugin answered for this very request,
in the engine's refusal, or in the caller giving up; never with neither response nor failure,
never with another caller's answer. The answer depends on the *desk*: every engine's serial
number, key and queue, and the answers kept; workers change it only by taking a task and keeping
a direct answer, and everything else leaves it *steady*.
-/

namespace InferenceBroker

/-- Its failure if it has one, else its response. -/
def Outcome.result (o : Outcome) : Except Failure (Option Response) :=
  match o.failure with
  | some err => .error err
  | none => .ok o.response

namespace Engine

/-- Its response, its failure, or the failure of a missing response or of a panic, naming the
engine. -/
inductive Answers (e : Engine) (req : Request) : Except Failure (Option Response) → Prop
  | response {r : Response} : (e.plugin.syncProcess req).1 = .done (some r) → e.Answers req (.ok (some r))
  | failed {f : Failure} : (e.plugin.syncProcess req).1 = .failed f → e.Answers req (.error f)
  | empty : (e.plugin.syncProcess req).1 = .done none →
      e.Answers req (.error (.within s!"no response from {e.key.render}" Failure.pluginFailed))
  | panicked {msg : String} : (e.plugin.syncProcess req).1 = .panicked msg →
      e.Answers req (.error (e.panicked msg))

theorem Answers.ne_none {e : Engine} {req : Request} {r : Except Failure (Option Response)}
    (h : e.Answers req r) : r ≠ .ok none := by
  cases h <;> simp

theorem key_submit (e : Engine) (t : Task) : (e.submit t).2.id = e.id ∧ (e.submit t).2.key = e.key := by
  unfold submit
  split
  · exact ⟨rfl, rfl⟩
  · split <;> exact ⟨rfl, rfl⟩

theorem submit_refused {e e' : Engine} {t : Task} {err : Failure} (h : e.submit t = (.error err, e')) :
    err = e.notReady ∨ err = .within s!"engine {e.key.render}" Failure.queueFull := by
  unfold submit at h
  split at h
  · cases h
    exact .inl rfl
  · split at h
    · next failure pushed =>
      cases h
      unfold BoundedQueue.push at pushed
      split at pushed
      · cases pushed
        exact .inr rfl
      · cases pushed
    · cases h

end Engine

namespace Dispatcher

variable {L : Type} {α β : Type}

section Desk

/-- Every engine's serial number, key and queue, and the answers kept for direct callers. -/
def desk (d : Dispatcher L) : List (Nat × EngineKey × List Task) × List (Nat × Nat × Outcome) :=
  (d.engines.map fun x => (x.id, x.key, x.queue.items), d.answers)

theorem distinct_of_desk {d d' : Dispatcher L} (h : d'.desk.1 = d.desk.1) (hd : d.Distinct) : d'.Distinct := by
  have ids := congrArg (List.map Prod.fst) h
  simp only [desk, List.map_map] at ids
  unfold Distinct
  rw [show d'.engines.map (·.id) = d.engines.map (·.id) from ids]
  exact hd

theorem mem_desk {d d' : Dispatcher L} (h : d'.desk.1 = d.desk.1) {x : Engine} (hx : x ∈ d'.engines) :
    ∃ y ∈ d.engines, y.id = x.id ∧ y.key = x.key ∧ y.queue.items = x.queue.items := by
  have mem : (x.id, x.key, x.queue.items) ∈ d.desk.1 := h ▸ List.mem_map_of_mem hx
  obtain ⟨y, hy, same⟩ := List.mem_map.1 mem
  simp only [Prod.mk.injEq] at same
  exact ⟨y, hy, same⟩

/-- Leaves the desk of every dispatcher without shared serial numbers as it found it. -/
def Steady (x : Act L α) : Prop := ∀ d : Dispatcher L, d.Distinct → (x.run d).2.desk = d.desk

/-- Steadiness composes: a desk left as found keeps the serial numbers distinct. -/
theorem Steady.composes : Composes fun d d' : Dispatcher L => d.Distinct → d'.desk = d.desk where
  refl _ _ := rfl
  trans h₁ h₂ hd := (h₂ (distinct_of_desk (congrArg Prod.fst (h₁ hd)) hd)).trans (h₁ hd)

theorem Steady.bind {x : Act L α} {f : α → Act L β} (hx : Steady x) (hf : ∀ a, Steady (f a)) :
    Steady (x >>= f) := Steady.composes.bind hx hf

theorem Steady.andThen {x : Act L α} {y : Act L β} (hx : Steady x) (hy : Steady y) :
    Steady (x >>= fun _ => y) := hx.bind fun _ => hy

theorem Steady.after {x : Act L α} (hx : Steady x) {d d₁ : Dispatcher L} (hd : d.Distinct)
    (h₁ : d₁.desk = d.desk) : (x.run d₁).2.desk = d.desk := by
  rw [hx d₁ (distinct_of_desk (congrArg Prod.fst h₁) hd), h₁]

theorem steady_modify {f : Dispatcher L → Dispatcher L} (h : ∀ d, (f d).desk = d.desk) :
    Steady (modify f) := fun d _ => h d

theorem steady_forM {xs : List α} {f : α → Act L PUnit} (h : ∀ a ∈ xs, Steady (f a)) :
    Steady (xs.forM f) := Steady.composes.forM h

theorem steady_unless {c : Bool} {x : Act L PUnit} {k : PUnit → Act L β} (hx : Steady x)
    (hk : ∀ a, Steady (k a)) : Steady (if c = true then k ⟨⟩ else x >>= k) := Steady.composes.unless hx hk

theorem steady_note (e : Entry) : Steady (note (L := L) e) := steady_modify fun _ => rfl

theorem desk_putEngine_same {d : Dispatcher L} (hd : d.Distinct) {e o : Engine} (h : d.engine? e.id = some o)
    (key : e.key = o.key) (queue : e.queue.items = o.queue.items) : ((putEngine e).run d).2.desk = d.desk := by
  have hid := (engine?_mem h).2
  simp only [putEngine, run_modify, desk, List.map_map, Prod.mk.injEq, and_true]
  refine List.map_congr_left fun x hx => ?_
  simp only [Function.comp_apply]
  split
  next same => rw [eq_of_engine? hd h hx (by simpa using same), key, queue, hid]
  next => rfl

theorem steady_failOn (eid : Nat) : Steady (failOn (L := L) eid) :=
  Steady.composes.failOn eid fun _ e he hd => desk_putEngine_same (o := e) hd ((engine?_mem he).2 ▸ he) rfl rfl

theorem steady_finishOn (eid : Nat) : Steady (finishOn (L := L) eid) :=
  Steady.composes.finishOn eid fun _ e he hd => desk_putEngine_same (o := e) hd ((engine?_mem he).2 ▸ he) rfl rfl

theorem steady_deliver (eid moment : Nat) (event : Event) (resp : Response) :
    Steady (deliver (L := L) eid moment event resp) := by
  unfold deliver
  refine steady_unless (steady_failOn eid) fun _ => ?_
  intro d _
  simp only [run_bind, run_get]
  split
  next =>
    simp only [run_bind, run_set]
    split <;> rfl
  next => rfl

theorem steady_deliverAll (eid moment : Nat) (events : List (Event × Response)) :
    Steady (deliverAll (L := L) eid moment events) :=
  steady_forM fun ev _ => steady_deliver eid moment ev.1 ev.2

theorem desk_answer {d d₁ : Dispatcher L} (h₁ : d₁.desk = d.desk) (ticket moment : Nat) (o : Outcome) :
    ((answer ticket moment o).run d₁).2.desk = (d.desk.1, (ticket, moment, o) :: d.answers) := by
  show (d₁.desk.1, (ticket, moment, o) :: d₁.desk.2) = _
  rw [h₁]
  rfl

theorem desk_runAsync {d : Dispatcher L} (hd : d.Distinct) {e : Engine} (he : d.engine? e.id = some e)
    (t : Task) (start : Nat) : ((runAsync e t start).run d).2.desk = d.desk := by
  unfold runAsync
  split
  next c p hc =>
    have put := desk_putEngine_same (e := { e.withPlugin p with freeAt := start }) hd he rfl rfl
    have found := engine?_putEngine (d := d) (e := { e.withPlugin p with freeAt := start }) he
    rw [run_bind]
    split
    · rw [run_bind, run_get]
      split
      · exact ((steady_deliverAll _ _ _).andThen (steady_finishOn _)).after hd put
      · refine Eq.trans ?_ put
        exact desk_putEngine_same (distinct_of_desk (congrArg Prod.fst put) hd) found rfl rfl
    · exact ((steady_deliverAll _ _ _).andThen (steady_finishOn _)).after hd put
    · exact ((steady_deliver _ _ _ _).andThen (steady_finishOn _)).after hd put
    · exact ((steady_note _).andThen ((steady_failOn _).andThen
        ((steady_deliver _ _ _ _).andThen (steady_finishOn _)))).after hd put

/-- Keeps one more answer under its ticket: what the engine's plugin answers the request. -/
theorem desk_runDirect {d : Dispatcher L} (hd : d.Distinct) {e : Engine} (he : d.engine? e.id = some e)
    (ticket : Nat) (t : Task) (start : Nat) :
    ∃ moment o, ((runDirect e ticket t start).run d).2.desk = (d.desk.1, (ticket, moment, o) :: d.answers) ∧
      e.Answers t.request o.result := by
  unfold runDirect
  split
  next c took p hc =>
    rw [run_bind]
    have put := desk_putEngine_same (e := { e.withPlugin p with freeAt := start + took.nanos.toNat }) hd he rfl rfl
    generalize ((putEngine _).run d).2 = d₁ at put ⊢
    -- every outcome of the plugin call reaches the same join point: finish, then answer
    have finish : ∀ (o : Outcome) (d₂ : Dispatcher L), d₂.desk = d.desk → e.Answers t.request o.result →
        ∃ moment o', ((answer ticket (start + took.nanos.toNat) o).run ((finishOn (e.withPlugin p).id).run d₂).2).2.desk =
          (d.desk.1, (ticket, moment, o') :: d.answers) ∧ e.Answers t.request o'.result :=
      fun o d₂ h₂ answers => ⟨_, o, desk_answer ((steady_finishOn _).after hd h₂) _ _ _, answers⟩
    have call : e.plugin.syncProcess t.request = (c, took, p) := hc
    dsimp only
    split <;> simp only [run_bind, run_pure]
    · exact finish _ _ put (.response (by rw [call]))
    · exact finish _ _ ((steady_failOn _).after hd put) (.empty (by rw [call]))
    · exact finish _ _ ((steady_failOn _).after hd put) (.failed (by rw [call]))
    · exact finish _ _ ((steady_failOn _).after hd ((steady_note _).after hd put)) (.panicked (by rw [call]))

theorem mem_putEngine {d : Dispatcher L} {e x : Engine} (hx : x ∈ ((putEngine e).run d).2.engines) :
    x = e ∨ x ∈ d.engines := by
  obtain ⟨y, hy, rfl⟩ := List.mem_map.1 hx
  by_cases same : y.id = e.id
  · exact .inl (if_pos (beq_iff_eq.2 same))
  · exact .inr (by rw [if_neg (by simpa using same)]; exact hy)

theorem distinct_putEngine (e : Engine) {d : Dispatcher L} (hd : d.Distinct) : ((putEngine e).run d).2.Distinct := by
  unfold Distinct
  rw [← ids_ledger, ledger_putEngine, Ledger.ids_setLoad, ids_ledger]
  exact hd

end Desk

section Tracing

variable {k : Nat} {req : Request} {eid : Nat} {key : EngineKey}

variable (k req eid key) in
/-- The desk holds ticket `k` for `req` on engine `eid` of key `key`: it is there, alone with its
serial number; every queued task holding the ticket carries the request; every answer under the
ticket is what such an engine answers it. -/
structure Traced (d : Dispatcher L) : Prop where
  distinct : d.Distinct
  present : ∃ x ∈ d.engines, x.id = eid
  keyed : ∀ x ∈ d.engines, x.id = eid → x.key = key
  queued : ∀ x ∈ d.engines, ∀ u ∈ x.queue.items, u.ticket = some k → u.request = req
  answered : ∀ a ∈ d.answers, a.1 = k → ∃ e : Engine, e.id = eid ∧ e.key = key ∧ e.Answers req a.2.2.result

theorem Traced.of_desk {d d' : Dispatcher L} (h : Traced k req eid key d) (engines : d'.desk.1 = d.desk.1)
    (answers : ∀ a ∈ d'.answers, a.1 = k →
      a ∈ d.answers ∨ ∃ e : Engine, e.id = eid ∧ e.key = key ∧ e.Answers req a.2.2.result) :
    Traced k req eid key d' where
  distinct := distinct_of_desk engines h.distinct
  present := by
    obtain ⟨y, hy, hid⟩ := h.present
    obtain ⟨x, hx, same, -⟩ := mem_desk engines.symm hy
    exact ⟨x, hx, same.trans hid⟩
  keyed x hx hid := by
    obtain ⟨y, hy, same, key', -⟩ := mem_desk engines hx
    exact key'.symm.trans (h.keyed y hy (same.trans hid))
  queued x hx u hu ticket := by
    obtain ⟨y, hy, -, -, queue⟩ := mem_desk engines hx
    exact h.queued y hy u (queue ▸ hu) ticket
  answered a ha hk := by
    rcases answers a ha hk with old | new
    · exact h.answered a old hk
    · exact new

theorem Traced.steady {d d' : Dispatcher L} (h : Traced k req eid key d) (same : d'.desk = d.desk) :
    Traced k req eid key d' :=
  h.of_desk (congrArg Prod.fst same) fun a ha _ => by
    have answers : d'.answers = d.answers := congrArg Prod.snd same
    exact .inl (answers ▸ ha)

theorem Traced.record {d : Dispatcher L} (h : Traced k req eid key d) (ev : TaskEvent) :
    Traced k req eid key ((record ev).run d).2 :=
  h.steady rfl

theorem Traced.take {d : Dispatcher L} (h : Traced k req eid key d) {e : Engine} (he : d.engine? eid = some e)
    {task : Task} {q : BoundedQueue Task} (taken : e.queue.take? = some (task, q)) :
    Traced k req eid key ((putEngine { e with queue := q }).run d).2 ∧ (task.ticket = some k → task.request = req) := by
  obtain ⟨mem, hid⟩ := engine?_mem he
  have items := BoundedQueue.items_of_take? taken
  refine ⟨⟨distinct_putEngine _ h.distinct, ?_, ?_, ?_, h.answered⟩, h.queued e mem task (items ▸ List.mem_cons_self ..)⟩
  · exact ⟨_, List.mem_map.2 ⟨e, mem, if_pos (beq_self_eq_true _)⟩, hid⟩
  · intro x hx same
    rcases mem_putEngine hx with rfl | old
    · exact h.keyed e mem hid
    · exact h.keyed x old same
  · intro x hx u hu
    rcases mem_putEngine hx with rfl | old
    · exact h.queued e mem u (items ▸ List.mem_cons_of_mem _ hu)
    · exact h.queued x old u hu

theorem Traced.runTask {d : Dispatcher L} (h : Traced k req eid key d) {task : Task}
    (carries : task.ticket = some k → task.request = req) (start : Nat) :
    Traced k req eid key ((runTask eid task start).run d).2 := by
  simp only [Dispatcher.runTask, run_bind, run_get]
  split
  next e he =>
    obtain ⟨mem, hid⟩ := engine?_mem he
    have found : d.engine? e.id = some e := hid ▸ he
    split
    next ticket held =>
      obtain ⟨moment, o, desk', answers⟩ := desk_runDirect h.distinct found ticket task start
      refine h.of_desk (by rw [desk']) fun a ha hk => ?_
      rw [show ((runDirect e ticket task start).run d).2.answers = (ticket, moment, o) :: d.answers from
        congrArg Prod.snd desk'] at ha
      rcases List.mem_cons.1 ha with rfl | old
      · refine .inr ⟨e, hid, h.keyed e mem hid, ?_⟩
        rw [← carries (held.trans (congrArg some hk))]
        exact answers
      · exact .inl old
    next => exact h.steady (desk_runAsync h.distinct found task start)
  next => exact h

theorem Traced.workUntil {d : Dispatcher L} (h : Traced k req eid key d) (horizon fuel : Nat) :
    Traced k req eid key ((workUntil eid horizon fuel).run d).2 := by
  induction fuel generalizing d with
  | zero => exact h
  | succ fuel ih =>
    simp only [Dispatcher.workUntil, run_bind, run_get]
    split
    next e he =>
      split
      · exact h
      · split
        · exact h
        · next task q taken =>
          obtain ⟨put, carries⟩ := h.take he taken
          -- recording the task changes no desk
          rw [run_bind, run_bind, run_bind]
          exact ih ((put.record _).runTask carries _)
    next => exact h

theorem Traced.workEngine {d : Dispatcher L} (h : Traced k req eid key d) (horizon : Nat) :
    Traced k req eid key ((workEngine eid horizon).run d).2 := by
  simp only [Dispatcher.workEngine, run_bind, run_get]
  split
  · exact h.workUntil horizon _
  · exact h

theorem Traced.giveUp {d : Dispatcher L} (h : Traced k req eid key d) (ticket deadline : Nat) (limit : Duration) :
    ((directRequest.giveUp eid ticket deadline limit).run d).1 =
      .error (.within s!"engine {key.render} after {limit.render}" Failure.timeout) := by
  obtain ⟨e, he⟩ : ∃ e, d.engine? eid = some e := by
    obtain ⟨x, hx, hid⟩ := h.present
    exact Option.isSome_iff_exists.1 (List.find?_isSome.2 ⟨x, hx, by simpa using hid⟩)
  obtain ⟨mem, hid⟩ := engine?_mem he
  simp only [directRequest.giveUp, run_bind, run_get, he, run_modify, run_pure]
  rw [h.keyed e mem hid]

end Tracing

theorem engineFor_ok {d : Dispatcher L} {req : Request} {mode : InferMode} {e : Engine}
    (bound : d.lookup req.transactionId = .ok e) (same : e.mode = mode) :
    ((engineFor req mode).run d).1 = .ok e := by
  simp only [engineFor, run_bind, run_get, bound, same, beq_self_eq_true, if_true]
  rfl

end Dispatcher

/-- How a direct request to `e` can end, waiting at most `limit`: with what an engine of its
serial number and key answers, refused (not ready, queue full), or given up. -/
inductive DirectResult (e : Engine) (limit : Duration) (req : Request) : Except Failure (Option Response) → Prop
  | answered {r : Except Failure (Option Response)} {e' : Engine} :
      e'.id = e.id → e'.key = e.key → e'.Answers req r → DirectResult e limit req r
  | notReady : DirectResult e limit req (.error e.notReady)
  | full : DirectResult e limit req (.error (.within s!"engine {e.key.render}" Failure.queueFull))
  | timedOut :
      DirectResult e limit req (.error (.within s!"engine {e.key.render} after {limit.render}" Failure.timeout))

theorem DirectResult.ne_none {e : Engine} {limit : Duration} {req : Request} {r : Except Failure (Option Response)}
    (h : DirectResult e limit req r) : r ≠ .ok none := by
  cases h with
  | answered _ _ answers => exact answers.ne_none
  | notReady | full | timedOut => exact fun same => by cases same

namespace Dispatcher

variable {L : Type}

theorem ticket_lt_of_queued {d : Dispatcher L} (b : d.ledger.Balanced) {x : Engine} (hx : x ∈ d.engines)
    {u : Task} (hu : u ∈ x.queue.items) {k : Nat} (hk : u.ticket = some k) : k < d.nextTicket :=
  b.tickets x.id u (b.accepted_of_queued (by rw [queued_ledger (distinct_of_balanced b) hx]; exact hu)) k hk

/-- Queueing under the next ticket traces it to the request. -/
theorem Traced.submit {d : Dispatcher L} (b : d.ledger.Balanced) {req : Request} {e e' : Engine}
    (found : d.engine? e.id = some e) (hs : e.submit ⟨req, some d.nextTicket, d.now⟩ = (.ok (), e')) :
    Traced d.nextTicket req e.id e.key ((putEngine e').run { d with nextTicket := d.nextTicket + 1 }).2 := by
  have hd : d.Distinct := distinct_of_balanced b
  obtain ⟨mem, -⟩ := engine?_mem found
  obtain ⟨-, load⟩ := Engine.submit_ok hs
  have id : e'.id = e.id := congrArg Engine.Load.id load
  have items : e'.queue.items = e.queue.items ++ [⟨req, some d.nextTicket, d.now⟩] :=
    congrArg Engine.Load.queued load
  have key : e'.key = e.key := by
    have := (Engine.key_submit e ⟨req, some d.nextTicket, d.now⟩).2
    rwa [hs] at this
  -- the ticket is fresh: every queued task and every answer holds an earlier one
  have fresh : ∀ x ∈ d.engines, ∀ u ∈ x.queue.items, u.ticket ≠ some d.nextTicket :=
    fun x hx u hu hk => Nat.lt_irrefl _ (ticket_lt_of_queued b hx hu hk)
  refine ⟨distinct_putEngine e' hd, ⟨e', List.mem_map.2 ⟨e, mem, ?_⟩, id⟩, ?_, ?_, ?_⟩
  · simp [id]
  · intro x hx hid
    rcases mem_putEngine hx with rfl | old
    · exact key
    · rw [eq_of_engine? hd found old hid]
  · intro x hx u hu hk
    rcases mem_putEngine hx with rfl | old
    · rw [items, List.mem_append, List.mem_singleton] at hu
      rcases hu with queued | rfl
      · exact absurd hk (fresh e mem u queued)
      · rfl
    · exact absurd hk (fresh x old u hu)
  · intro a ha hk
    exact absurd (b.answered a.1 (List.mem_map_of_mem ha)) (by rw [hk]; exact Nat.lt_irrefl _)

theorem directRequest_result {d : Dispatcher L} (b : d.ledger.Balanced) {req : Request} {e : Engine}
    (bound : d.lookup req.transactionId = .ok e) (sync : e.mode = .sync) :
    DirectResult e d.settings.syncTimeout req ((directRequest req).run d).1 := by
  have found := engine?_of_lookup bound
  rw [directRequest, run_bind, engineFor_ok bound sync, engineFor_run]
  dsimp only
  rw [run_bind, run_get]
  dsimp only
  -- the engine either refuses the task or queues it under the next ticket
  rcases hs : e.submit ⟨req, some d.nextTicket, d.now⟩ with ⟨r, e'⟩
  rw [run_bind, run_set, run_bind]
  cases r with
  | error err =>
    rcases Engine.submit_refused hs with rfl | rfl
    · exact .notReady
    · exact .full
  | ok u =>
    have traced := Traced.submit b found hs
    have id : e'.id = e.id := by
      have := (Engine.key_submit e ⟨req, some d.nextTicket, d.now⟩).1
      rwa [hs] at this
    dsimp only
    rw [id, run_bind, run_bind, run_get, run_bind, run_bind, run_get]
    -- which answer is read does not depend on the deadline, only whether it came in time
    generalize (if (_ : Int) > 0 then (_ : Nat) else never) = deadline
    split
    next fst moment o kept =>
      -- the tracing says the answer kept under the ticket is the engine's answer to `req`
      have hk : fst = d.nextTicket := by simpa using List.find?_some kept
      obtain ⟨e'', hid, hkey, answers⟩ :=
        ((traced.record _).workEngine _).answered _ (List.mem_of_find?_eq_some kept) hk
      split
      · refine .answered hid hkey ?_
        rw [run_bind, run_set, run_bind, run_get, run_bind]
        split
        next err failed =>
          rw [run_pure]
          simpa only [Outcome.result, failed] using answers
        next none =>
          rw [run_pure]
          simpa only [Outcome.result, none] using answers
      · rw [((traced.record _).workEngine _).giveUp]
        exact .timedOut
    next =>
      rw [((traced.record _).workEngine _).giveUp]
      exact .timedOut

/-- A direct request to a synchronous engine ends in what an engine of the same serial number and
key answered for this very request, in its refusal (not ready, queue full), or in the caller
giving up; never with neither a response nor a failure. -/
theorem Reachable.direct_result {d : Dispatcher L} (h : d.Reachable) {req : Request} {e : Engine}
    (bound : d.lookup req.transactionId = .ok e) (sync : e.mode = .sync) :
    DirectResult e d.settings.syncTimeout req ((syncExecute (some req)).run d).1 ∧
      ((syncExecute (some req)).run d).1 ≠ .ok none := by
  have counted : ((syncExecute (some req)).run d).1 = ((directRequest req).run d).1 := rfl
  have result := directRequest_result h.balanced bound sync
  rw [counted]
  exact ⟨result, result.ne_none⟩

/-- Transaction 7 started on the echo plugin. -/
def echoStarted : Dispatcher Nat := ((Operation.start 7 ⟨"echo", 1⟩ none).act.run (Dispatcher.make {} echoLoader)).2

theorem echoStarted_reachable : echoStarted.Reachable := by
  unfold echoStarted
  exact .call _ (.make _ _)

theorem direct_result_echoStarted :
    ∃ e, echoStarted.lookup 7 = .ok e ∧ e.mode = .sync ∧
      DirectResult e echoStarted.settings.syncTimeout { transactionId := 7 }
        ((syncExecute (some { transactionId := 7 })).run echoStarted).1 ∧
      ((syncExecute (some { transactionId := 7 })).run echoStarted).1 ≠ .ok none := by
  have mode : (echoStarted.lookup 7).toOption.map Engine.mode = some .sync := by decide
  rcases bound : echoStarted.lookup 7 with err | e
  · rw [bound] at mode
    cases mode
  · rw [bound] at mode
    have sync : e.mode = .sync := Option.some.inj mode
    exact ⟨e, rfl, sync, Reachable.direct_result echoStarted_reachable bound sync⟩

end Dispatcher

end InferenceBroker
