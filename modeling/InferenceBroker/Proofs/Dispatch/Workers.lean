import InferenceBroker.Proofs.Dispatch.Run

/-!
# Workers keep the registry

Running tasks, delivering events, answering direct callers, queueing requests and the futures'
bookkeeping change engines only where the registry does not look: queues, plugins, counters,
clocks and held tasks. Every plugin call keeps the plugin's kind, and only a preparation or a
release changes what it remembers. The main statements are `keeps_workAll`, `keeps_settle`,
`keeps_release`, `keeps_syncExecute` and `keeps_asyncExecute`.
-/

namespace InferenceBroker

theorem Echo.setOption_options (p : Echo) (t : Int32) (input : Option Bytes) :
    (p.setOption t input).2 = { p with lead := (p.setOption t input).2.lead, delay := (p.setOption t input).2.delay } := by
  unfold Echo.setOption
  split_ifs
  · rfl
  · rfl
  · split
    · rfl
    · split <;> rfl
  · rfl

namespace Plugin

/-- An echo plugin adds `tx` unless it has it. -/
def remember (tx : UInt64) (l : List UInt64) : List UInt64 := if l.contains tx then l else l ++ [tx]

def forget (tx : UInt64) (l : List UInt64) : List UInt64 := l.filter (· != tx)

/-- Keeps whether the plugin prepares behind the gate, and changes what it remembers by `g`
exactly when it succeeds. -/
def Changes {α : Type} (g : List UInt64 → List UInt64) (pl : Plugin) (r : Call α × Plugin) : Prop :=
  r.2.preparesAfterGate = pl.preparesAfterGate ∧
    r.2.memory = match r.1 with
      | .done _ => pl.memory.map g
      | _ => pl.memory

theorem prepare_changes (pl : Plugin) (tx : UInt64) (input : Option Bytes) :
    Changes (remember tx) pl (pl.prepare tx input) := by
  cases pl with
  | echo p =>
    dsimp only [Changes, prepare, Echo.prepare]
    split
    · exact ⟨rfl, rfl⟩
    · split
      · exact ⟨rfl, rfl⟩
      · exact ⟨rfl, rfl⟩
  | module p => exact ⟨rfl, by split <;> rfl⟩

theorem release_changes (pl : Plugin) (full : Bool) (tx : UInt64) :
    Changes (forget tx) pl (pl.release full tx) := by
  cases pl with
  | echo p =>
    dsimp only [Changes, release, Echo.release]
    split
    · exact ⟨rfl, rfl⟩
    · split
      · exact ⟨rfl, rfl⟩
      · -- a full release also forgets the options
        split <;> exact ⟨rfl, rfl⟩
  | module p => exact ⟨rfl, by split <;> rfl⟩

theorem setOption_keeps (pl : Plugin) (t : Int32) (input : Option Bytes) :
    (pl.setOption t input).2.preparesAfterGate = pl.preparesAfterGate ∧
      (pl.setOption t input).2.memory = pl.memory := by
  cases pl with
  | echo p =>
    have kept : (p.setOption t input).2 = { p with lead := _, delay := _ } := Echo.setOption_options p t input
    dsimp only [setOption, preparesAfterGate, memory, Echo.has]
    rw [kept]
    exact ⟨rfl, rfl⟩
  | module p => exact ⟨rfl, rfl⟩

theorem syncProcess_keeps (pl : Plugin) (req : Request) :
    (pl.syncProcess req).2.2.preparesAfterGate = pl.preparesAfterGate ∧
      (pl.syncProcess req).2.2.memory = pl.memory := by
  cases pl <;> exact ⟨rfl, rfl⟩

theorem asyncProcess_keeps (pl : Plugin) (req : Request) :
    (pl.asyncProcess req).2.preparesAfterGate = pl.preparesAfterGate ∧
      (pl.asyncProcess req).2.memory = pl.memory := by
  cases pl <;> exact ⟨rfl, rfl⟩

end Plugin

namespace Engine

theorem slot_withPlugin_memory (e : Engine) (p : Plugin) (h : p.preparesAfterGate = e.plugin.preparesAfterGate) :
    (e.withPlugin p).slot = { e.slot with memory := p.memory } := by
  simp only [slot, withPlugin, plugin] at h ⊢
  rw [h]

@[simp] theorem slot_withPlugin (e : Engine) (p : Plugin) (h : p.preparesAfterGate = e.plugin.preparesAfterGate)
    (hm : p.memory = e.plugin.memory) : (e.withPlugin p).slot = e.slot := by
  rw [slot_withPlugin_memory e p h, hm]
  rfl

theorem call_engine {α : Type} (e : Engine) (op : String) (f : Plugin → Call α × Plugin) :
    (e.call op f).2 = e ∨ (e.call op f).2 = e.withPlugin (f e.plugin).2 := by
  unfold call
  split
  · exact .inl rfl
  · rcases f e.plugin with ⟨c, p⟩
    cases c <;> exact .inr rfl

theorem slot_call {α : Type} (e : Engine) (op : String) (f : Plugin → Call α × Plugin)
    (hf : (f e.plugin).2.preparesAfterGate = e.plugin.preparesAfterGate)
    (hm : (f e.plugin).2.memory = e.plugin.memory) :
    (e.call op f).2.slot = e.slot := by
  rcases call_engine e op f with h | h <;> rw [h]
  exact slot_withPlugin e _ hf hm

theorem slot_call_changes {α : Type} (e : Engine) (op : String) (f : Plugin → Call α × Plugin)
    {g : List UInt64 → List UInt64} (h : Plugin.Changes g e.plugin (f e.plugin)) :
    (e.call op f).2.slot = match (e.call op f).1 with
      | .ok _ => { e.slot with memory := e.slot.memory.map g }
      | .error _ => e.slot := by
  obtain ⟨gated, memory⟩ := h
  unfold call
  by_cases ready : (e.state != .ready) = true
  · rw [if_pos ready]
  · rw [if_neg ready]
    generalize f e.plugin = r at gated memory
    obtain ⟨c, p⟩ := r
    dsimp only at gated memory ⊢
    cases c <;> (dsimp only; rw [slot_withPlugin_memory e p gated, memory]) <;> rfl

theorem held_call {α : Type} (e : Engine) (op : String) (f : Plugin → Call α × Plugin) :
    (e.call op f).2.held = e.held := by
  rcases call_engine e op f with h | h <;> rw [h]
  rfl

theorem slot_update (e : Engine) (q : BoundedQueue Task) (held : Option (Task × List (Event × Response)))
    (h : e.phase ≠ .opening) : { e with queue := q, held := held }.slot = e.slot := by
  have past : (e.phase != .opening) = true := bne_iff_ne.2 h
  simp only [slot, past, Bool.true_or]
  rfl

theorem slot_submit (e : Engine) (t : Task) (h : e.phase ≠ .opening) : (e.submit t).2.slot = e.slot := by
  unfold submit
  split
  · rfl
  · split
    · rfl
    · exact slot_update e _ e.held h

end Engine

namespace Dispatcher

variable {L : Type} {α β : Type}

theorem engine?_mem {d : Dispatcher L} {eid : Nat} {e : Engine} (h : d.engine? eid = some e) :
    e ∈ d.engines ∧ e.id = eid := by
  unfold engine? at h
  exact ⟨List.mem_of_find?_eq_some h, by simpa using List.find?_some h⟩

theorem eq_of_engine? {d : Dispatcher L} {eid : Nat} {e x : Engine} (hd : d.Distinct)
    (h : d.engine? eid = some e) (hx : x ∈ d.engines) (hid : x.id = eid) : x = e := by
  obtain ⟨he, rfl⟩ := engine?_mem h
  exact List.inj_on_of_nodup_map hd hx he hid

theorem engine?_putEngine {d : Dispatcher L} {e o : Engine} (h : d.engine? e.id = some o) :
    ((putEngine e).run d).2.engine? e.id = some e := by
  have hid := (engine?_mem h).2
  have same : ((fun x : Engine => x.id == e.id) ∘ fun x => if x.id == e.id then e else x) =
      fun x => x.id == e.id := by
    funext x
    simp only [Function.comp_apply]
    split <;> simp_all
  unfold engine? at h
  simp only [putEngine, run_modify, engine?, List.find?_map, same, h, Option.map_some, hid,
    beq_self_eq_true, if_true]

theorem registry_putEngine {d : Dispatcher L} {e o : Engine} (hd : d.Distinct)
    (h : d.engine? e.id = some o) (hs : e.slot = o.slot) :
    ((putEngine e).run d).2.registry = d.registry := by
  simp only [putEngine, run_modify, registry, List.map_map, Registry.mk.injEq, and_true]
  apply List.map_congr_left
  intro x hx
  simp only [Function.comp_apply]
  split
  next hid => rw [eq_of_engine? hd h hx (by simpa using hid), hs]
  next => rfl

theorem keeps_get : Keeps (get : Act L (Dispatcher L)) := fun _ _ => rfl

theorem Keeps.after {x : Act L α} (hx : Keeps x) {d d₁ : Dispatcher L} (hd : d.registry.Sound)
    (h₁ : d₁.registry = d.registry) : (x.run d₁).2.registry = d.registry := by
  rw [hx d₁ (sound_of_registry h₁ hd), h₁]

theorem registry_ite {c : Prop} [Decidable c] {x y : Act L α} {d : Dispatcher L}
    (hx : c → (x.run d).2.registry = d.registry) (hy : ¬c → (y.run d).2.registry = d.registry) :
    ((if c then x else y).run d).2.registry = d.registry := by
  split
  next h => exact hx h
  next h => exact hy h

theorem keeps_unless {c : Bool} {x : Act L PUnit} {k : PUnit → Act L β} (hx : Keeps x)
    (hk : ∀ a, Keeps (k a)) : Keeps (if c = true then k ⟨⟩ else x >>= k) :=
  Keeps.composes.unless hx hk

theorem keeps_failOn (eid : Nat) : Keeps (failOn (L := L) eid) :=
  Keeps.composes.failOn eid fun _ e he hd => registry_putEngine (o := e) hd.nodup ((engine?_mem he).2 ▸ he) rfl

theorem keeps_finishOn (eid : Nat) : Keeps (finishOn (L := L) eid) :=
  Keeps.composes.finishOn eid fun _ e he hd => registry_putEngine (o := e) hd.nodup ((engine?_mem he).2 ▸ he) rfl

theorem keeps_deliver (eid moment : Nat) (event : Event) (resp : Response) :
    Keeps (deliver (L := L) eid moment event resp) := by
  unfold deliver
  refine keeps_unless (keeps_failOn eid) fun _ => ?_
  intro d _
  simp only [run_bind, run_get]
  split
  next =>
    simp only [run_bind, run_set]
    split <;> rfl
  next => rfl

theorem keeps_deliverAll (eid moment : Nat) (events : List (Event × Response)) :
    Keeps (deliverAll (L := L) eid moment events) :=
  keeps_forM fun ev _ => keeps_deliver eid moment ev.1 ev.2

theorem keeps_answer (ticket moment : Nat) (o : Outcome) : Keeps (answer (L := L) ticket moment o) :=
  keeps_modify fun _ => rfl

theorem registry_runDirect {d : Dispatcher L} {e : Engine} (hd : d.registry.Sound)
    (he : d.engine? e.id = some e) (ticket : Nat) (t : Task) (start : Nat) :
    ((runDirect e ticket t start).run d).2.registry = d.registry := by
  unfold runDirect
  split
  next c took p hc =>
    obtain ⟨gated, memory⟩ : p.preparesAfterGate = e.plugin.preparesAfterGate ∧ p.memory = e.plugin.memory := by
      simpa only [hc] using Plugin.syncProcess_keeps e.plugin t.request
    rw [run_bind]
    refine Keeps.after ?_ hd (registry_putEngine (o := e) hd.nodup he (Engine.slot_withPlugin e p gated memory))
    -- each outcome of the plugin call ends in the same join point: finish and answer
    have finish : ∀ o, Keeps (finishOn (L := L) (e.withPlugin p).id >>= fun _ =>
        answer ticket (start + took.nanos.toNat) o) :=
      fun o => (keeps_finishOn _).andThen (keeps_answer _ _ _)
    dsimp only
    split
    · exact (keeps_pure _).bind finish
    · exact (keeps_failOn _).andThen ((keeps_pure _).bind finish)
    · exact (keeps_failOn _).andThen ((keeps_pure _).bind finish)
    · exact (keeps_note _).andThen ((keeps_failOn _).andThen ((keeps_pure _).bind finish))

/-- Keeps the registry, also with its worker held at the gate, once the engine is past its start. -/
theorem registry_runAsync {d : Dispatcher L} {e : Engine} (hd : d.registry.Sound)
    (he : d.engine? e.id = some e) (hop : e.phase ≠ .opening) (t : Task) (start : Nat) :
    ((runAsync e t start).run d).2.registry = d.registry := by
  unfold runAsync
  split
  next c p hc =>
    obtain ⟨gated, memory⟩ : p.preparesAfterGate = e.plugin.preparesAfterGate ∧ p.memory = e.plugin.memory := by
      simpa only [hc] using Plugin.asyncProcess_keeps e.plugin t.request
    have put := registry_putEngine (o := e) hd.nodup he (e := { e.withPlugin p with freeAt := start })
      (Engine.slot_withPlugin e p gated memory)
    have found := engine?_putEngine (d := d) (e := { e.withPlugin p with freeAt := start }) he
    rw [run_bind]
    split
    · rw [run_bind, run_get]
      split
      · exact Keeps.after ((keeps_deliverAll _ _ _).andThen (keeps_finishOn _)) hd put
      · refine Eq.trans ?_ put
        exact registry_putEngine (sound_of_registry put hd).nodup found (Engine.slot_update _ _ _ hop)
    · exact Keeps.after ((keeps_deliverAll _ _ _).andThen (keeps_finishOn _)) hd put
    · exact Keeps.after ((keeps_deliver _ _ _ _).andThen (keeps_finishOn _)) hd put
    · exact Keeps.after ((keeps_note _).andThen ((keeps_failOn _).andThen
        ((keeps_deliver _ _ _ _).andThen (keeps_finishOn _)))) hd put

theorem registry_runTask {d : Dispatcher L} {eid : Nat} (hd : d.registry.Sound)
    (hop : ∀ e, d.engine? eid = some e → e.phase ≠ .opening) (t : Task) (start : Nat) :
    ((runTask eid t start).run d).2.registry = d.registry := by
  simp only [runTask, run_bind, run_get]
  split
  next e he =>
    have found : d.engine? e.id = some e := (engine?_mem he).2 ▸ he
    split
    · exact registry_runDirect hd found _ _ _
    · exact registry_runAsync hd found (hop e he) _ _
  next => rfl

theorem quiet_of_opening {d : Dispatcher L} {e : Engine} (hd : d.registry.Sound) (he : e ∈ d.engines)
    (hop : e.phase = .opening) : e.held = none ∧ e.queue.items = [] := by
  have quiet := hd.quiet e.slot (List.mem_map_of_mem he)
  simpa only [Engine.slot, hop, bne_self_eq_false, Bool.false_or, Bool.and_eq_true,
    Option.isNone_iff_eq_none, List.isEmpty_iff] using quiet

theorem keeps_workUntil (eid horizon fuel : Nat) : Keeps (workUntil (L := L) eid horizon fuel) := by
  induction fuel with
  | zero => exact keeps_pure _
  | succ fuel ih =>
    intro d hd
    simp only [workUntil, run_bind, run_get]
    split
    next e he =>
      split
      · rfl
      · split
        · rfl
        · next task q taken =>
          -- a worker takes tasks only from an engine past its start
          have hop : e.phase ≠ .opening := fun hop => by
            simp [BoundedQueue.take?, (quiet_of_opening hd (engine?_mem he).1 hop).2] at taken
          have found : d.engine? e.id = some e := (engine?_mem he).2 ▸ he
          have put := registry_putEngine (e := { e with queue := q }) hd.nodup found
            (Engine.slot_update e q e.held hop)
          have found' := engine?_putEngine (e := { e with queue := q }) found
          -- recording the task changes no engine
          have recorded : ((record (.taken eid task)).run ((putEngine { e with queue := q }).run d).2).2.registry =
              d.registry := put
          rw [run_bind, run_bind, run_bind]
          refine Keeps.after ih hd ((registry_runTask (sound_of_registry recorded hd) ?_ _ _).trans recorded)
          intro e' he'
          have he'' : ((putEngine { e with queue := q }).run d).2.engine? e.id = some e' :=
            (engine?_mem he).2 ▸ he'
          rw [found'] at he''
          cases he''
          exact hop
    next => rfl

theorem keeps_workEngine (eid horizon : Nat) : Keeps (workEngine (L := L) eid horizon) := by
  intro d hd
  simp only [workEngine, run_bind, run_get]
  split
  · exact keeps_workUntil eid horizon _ d hd
  · rfl

theorem keeps_workAll (horizon : Nat) : Keeps (workAll (L := L) horizon) :=
  keeps_get.bind fun _ => keeps_forIn fun e _ => (keeps_workEngine e.id horizon).andThen (keeps_pure _)

theorem keeps_settle : Keeps (settle (L := L)) :=
  (keeps_workAll never).andThen (keeps_modify fun _ => rfl)

theorem keeps_release (eid : Nat) : Keeps (release (L := L) eid) := by
  intro d hd
  simp only [release, run_bind, run_get]
  split
  next e he =>
    split
    next t events hheld =>
      have hop : e.phase ≠ .opening := fun hop => by
        simp [(quiet_of_opening hd (engine?_mem he).1 hop).1] at hheld
      rw [run_bind]
      exact Keeps.after (keeps_get.bind fun _ => (keeps_deliverAll _ _ _).andThen (keeps_finishOn _)) hd
        (registry_putEngine (o := e) hd.nodup ((engine?_mem he).2 ▸ he) (Engine.slot_update e e.queue none hop))
    next => rfl
  next => rfl

theorem keeps_takeReplies : Keeps (takeReplies (L := L)) := fun _ _ => rfl

theorem keeps_registerListener (tx : UInt64) (l : Option L) : Keeps (registerListener tx l) := by
  intro d _
  cases l <;> rfl

theorem keeps_unregisterListener (tx : UInt64) : Keeps (unregisterListener (L := L) tx) :=
  fun _ _ => rfl

theorem engine?_of_lookup {d : Dispatcher L} {tx : UInt64} {e : Engine} (h : d.lookup tx = .ok e) :
    d.engine? e.id = some e := by
  unfold lookup at h
  split at h
  next e' he =>
    cases h
    obtain ⟨eid, -, found⟩ := Option.bind_eq_some_iff.1 he
    exact (engine?_mem found).2 ▸ found
  next => cases h

theorem mem_of_lookup {α β : Type} [BEq α] [LawfulBEq α] {l : List (α × β)} {a : α} {b : β}
    (h : l.lookup a = some b) : (a, b) ∈ l := by
  induction l with
  | nil => cases h
  | cons c l ih =>
    obtain ⟨k, v⟩ := c
    by_cases hk : a = k
    · subst hk
      simp only [List.lookup_cons, beq_self_eq_true, Option.some.injEq] at h
      simp [h]
    · simp only [List.lookup_cons, beq_false_of_ne hk] at h
      exact List.mem_cons_of_mem _ (ih h)

theorem phase_of_lookup {d : Dispatcher L} {tx : UInt64} {e : Engine} (hd : d.registry.Sound)
    (h : d.lookup tx = .ok e) : e.phase ≠ .opening := by
  unfold lookup at h
  split at h
  next e' he =>
    cases h
    obtain ⟨eid, bound, found⟩ := Option.bind_eq_some_iff.1 he
    obtain ⟨s, hs, sid, sphase⟩ := hd.bound (tx, eid) (mem_of_lookup bound)
    obtain ⟨x, hx, rfl⟩ := List.mem_map.1 hs
    rw [← eq_of_engine? hd.nodup found hx sid]
    exact sphase
  next => cases h

theorem engineFor_run (d : Dispatcher L) (req : Request) (mode : InferMode) :
    ((engineFor req mode).run d).2 = d := by
  simp only [engineFor, run_bind, run_get]
  split
  · rfl
  · split <;> rfl

theorem engineFor_lookup {d : Dispatcher L} {req : Request} {mode : InferMode} {e : Engine}
    (h : ((engineFor req mode).run d).1 = .ok e) : d.lookup req.transactionId = .ok e := by
  simp only [engineFor, run_bind, run_get] at h
  split at h
  · cases h
  · next e' he =>
    split at h
    · cases h
      exact he
    · cases h

theorem keeps_giveUp (eid ticket deadline : Nat) (limit : Duration) :
    Keeps (directRequest.giveUp (L := L) eid ticket deadline limit) := by
  intro d hd
  simp only [directRequest.giveUp, run_bind, run_get]
  split
  next e he =>
    rw [run_bind]
    refine Keeps.after ?_ hd (registry_putEngine (o := e) hd.nodup ((engine?_mem he).2 ▸ he) rfl)
    refine (keeps_modify fun _ => ?_).andThen (keeps_get.bind fun _ =>
      (keeps_workAll _).andThen (keeps_pure _))
    rfl
  next => rfl

theorem registry_submit {d : Dispatcher L} {tx : UInt64} {e e' : Engine} {t : Task}
    {r : Except Failure Unit} (hd : d.registry.Sound) (found : d.lookup tx = .ok e)
    (hs : e.submit t = (r, e')) (f : Dispatcher L → Dispatcher L) (hf : (f d).engines = d.engines)
    (hr : (f d).registry = d.registry) :
    ((putEngine e').run (f d)).2.registry = d.registry := by
  have slot : e'.slot = e.slot := by
    rw [show e' = (e.submit t).2 by rw [hs]]
    exact Engine.slot_submit e t (phase_of_lookup hd found)
  have id : e'.id = e.id := congrArg Engine.Slot.id slot
  refine (registry_putEngine (o := e) (sound_of_registry hr hd).nodup ?_ slot).trans hr
  rw [id]
  exact (show (f d).engine? e.id = d.engine? e.id by simp only [engine?, hf]) ▸ engine?_of_lookup found

theorem keeps_directRequest (req : Request) : Keeps (directRequest (L := L) req) := by
  intro d hd
  rw [directRequest, run_bind, engineFor_run]
  split
  next => rfl
  next e he =>
    simp only [run_bind, run_get, run_set]
    refine Keeps.after ?_ hd (registry_submit hd (engineFor_lookup he) rfl
      (fun d => { d with nextTicket := d.nextTicket + 1 }) rfl rfl)
    split
    · exact keeps_pure _
    · refine (keeps_record _).andThen (keeps_get.bind fun _ => (keeps_workEngine _ _).andThen ?_)
      intro d' hd'
      rw [run_bind, run_get]
      split
      · -- answered in time, or too late: the first goes on, the second gives up
        refine registry_ite (fun _ => ?_) fun _ => keeps_giveUp _ _ _ _ d' hd'
        rw [run_bind, run_set]
        exact Keeps.after (keeps_get.bind fun _ => (keeps_workAll _).andThen
          (by split <;> exact keeps_pure _)) hd' rfl
      · exact keeps_giveUp _ _ _ _ d' hd'

theorem keeps_asyncRequest (req : Request) : Keeps (asyncRequest (L := L) req) := by
  intro d hd
  rw [asyncRequest, run_bind, engineFor_run]
  split
  next => rfl
  next e he =>
    -- rewriting only the outer steps: a simp through the whole block is too much for the kernel
    rw [run_bind, run_get]
    dsimp only
    split
    next => rfl
    next seq futures _ =>
      rw [run_bind, run_set, run_bind]
      refine Keeps.after ?_ hd (registry_submit hd (engineFor_lookup he) rfl
        (fun d => { d with futures := futures }) rfl rfl)
      split
      · refine keeps_get.bind fun _ => ?_
        split
        · refine Keeps.andThen ?_ (keeps_pure _)
          exact keeps_modify fun _ => rfl
        · exact (keeps_note _).andThen (keeps_pure _)
      · exact (keeps_record _).andThen (keeps_get.bind fun _ => (keeps_workEngine _ _).andThen (keeps_pure _))

theorem keeps_syncExecute (req : Option Request) : Keeps (syncExecute (L := L) req) :=
  Keeps.composes.syncExecute keeps_count keeps_directRequest req

theorem keeps_asyncExecute (req : Option Request) : Keeps (asyncExecute (L := L) req) :=
  Keeps.composes.asyncExecute keeps_count keeps_asyncRequest req

end Dispatcher

end InferenceBroker
