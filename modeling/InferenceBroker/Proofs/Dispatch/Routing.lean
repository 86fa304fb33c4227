import InferenceBroker.Proofs.Dispatch.Bindings

/-!
# Replies go only to listeners

A reply is delivered when a plugin's response completes a future whose transaction has a
listener: the table hands the reply to that listener, and drops the response otherwise. Only
registering, unregistering and closing change a listener. So every reply that a start, a stop,
a request, an option call or the settling of the workers delivers goes to a listener the
dispatcher had before, and no listener changes (`Routing`, from `routing_deliver` up to
`routing_start`, `routing_stop`, `routing_syncExecute`, `routing_asyncExecute` and
`routing_settle`). A dispatcher without listeners therefore delivers nothing
(`Routes.silent`).
-/

namespace InferenceBroker

namespace Dispatcher

variable {L : Type} {α β : Type}

section Frame

/-- `d'` comes after `d` as far as listeners and replies go: every transaction keeps its
listener, and the replies are those of `d` with newer ones in front, each for a listener of
`d`. -/
structure Routes (d d' : Dispatcher L) : Prop where
  listeners : d'.futures.listeners = d.futures.listeners
  replies : ∃ fresh, d'.replies = fresh ++ d.replies ∧ ∀ r ∈ fresh, r.listener ∈ d.futures.listeners.map (·.2)

theorem Routes.refl (d : Dispatcher L) : Routes d d :=
  ⟨rfl, [], rfl, fun _ none => absurd none List.not_mem_nil⟩

theorem Routes.trans {d₁ d₂ d₃ : Dispatcher L} (h₁ : Routes d₁ d₂) (h₂ : Routes d₂ d₃) : Routes d₁ d₃ := by
  obtain ⟨fresh₁, grown₁, routed₁⟩ := h₁.replies
  obtain ⟨fresh₂, grown₂, routed₂⟩ := h₂.replies
  refine ⟨h₂.listeners.trans h₁.listeners, fresh₂ ++ fresh₁, by rw [grown₂, grown₁, List.append_assoc], ?_⟩
  intro r hr
  rcases List.mem_append.1 hr with later | earlier
  · rw [← h₁.listeners]
    exact routed₂ r later
  · exact routed₁ r earlier

/-- A dispatcher with the listeners and the replies of `d`. -/
theorem Routes.kept {d d' : Dispatcher L} (listeners : d'.futures.listeners = d.futures.listeners)
    (replies : d'.replies = d.replies) : Routes d d' :=
  ⟨listeners, [], replies, fun _ none => absurd none List.not_mem_nil⟩

/-- Without listeners nothing is delivered, and none appears. -/
theorem Routes.silent {d d' : Dispatcher L} (h : Routes d d') (unheard : d.futures.listeners = []) :
    d'.futures.listeners = [] ∧ d'.replies = d.replies := by
  obtain ⟨fresh, grown, routed⟩ := h.replies
  have empty : fresh = [] := List.eq_nil_iff_forall_not_mem.2 fun r hr => by
    simpa [unheard] using routed r hr
  exact ⟨h.listeners.trans unheard, by rw [grown, empty, List.nil_append]⟩

/-- The operation keeps every listener and delivers replies only to listeners. -/
def Routing (x : Act L α) : Prop := ∀ d : Dispatcher L, Routes d (x.run d).2

theorem routing_pure (a : α) : Routing (pure a : Act L α) := fun d => .refl d

theorem Routes.composes : Composes (Routes (L := L)) := ⟨Routes.refl, Routes.trans⟩

theorem Routing.bind {x : Act L α} {f : α → Act L β} (hx : Routing x) (hf : ∀ a, Routing (f a)) :
    Routing (x >>= f) := Routes.composes.bind hx hf

theorem Routing.andThen {x : Act L α} {y : Act L β} (hx : Routing x) (hy : Routing y) :
    Routing (x >>= fun _ => y) := hx.bind fun _ => hy

/-- An operation that reads the state first routes when each of its continuations routes from
the state it read. -/
theorem routing_get_bind {f : Dispatcher L → Act L α} (h : ∀ d, Routes d ((f d).run d).2) :
    Routing (get >>= f) := fun d => h d

theorem routing_modify {f : Dispatcher L → Dispatcher L} (h : ∀ d, Routes d (f d)) :
    Routing (modify f) := fun d => h d

/-- A change of fields other than the futures and the replies. -/
theorem routing_modify_kept {f : Dispatcher L → Dispatcher L} (futures : ∀ d, (f d).futures = d.futures)
    (replies : ∀ d, (f d).replies = d.replies) : Routing (modify f) :=
  routing_modify fun d => .kept (congrArg FutureTable.listeners (futures d)) (replies d)

theorem routing_forIn {xs : List α} {f : α → PUnit → Act L (ForInStep PUnit)}
    (h : ∀ a ∈ xs, Routing (f a ⟨⟩)) : Routing (forIn xs ⟨⟩ f) :=
  Routes.composes.forIn fun a ha _ => h a ha

theorem routing_forM {xs : List α} {f : α → Act L PUnit} (h : ∀ a ∈ xs, Routing (f a)) :
    Routing (xs.forM f) := Routes.composes.forM h

/-- Storing a state with the listeners and replies of the current one, then going on. -/
theorem routes_set_bind {d s : Dispatcher L} {k : PUnit → Act L α} (listeners : s.futures.listeners = d.futures.listeners)
    (replies : s.replies = d.replies) (hk : Routing (k ⟨⟩)) : Routes d ((set s >>= k).run d).2 :=
  (Routes.kept listeners replies).trans (hk s)

/-- Changing the current state without touching its listeners and replies, then going on. -/
theorem routes_modify_bind {d : Dispatcher L} {f : Dispatcher L → Dispatcher L} {k : PUnit → Act L α}
    (listeners : (f d).futures.listeners = d.futures.listeners) (replies : (f d).replies = d.replies)
    (hk : Routing (k ⟨⟩)) : Routes d ((modify f >>= k).run d).2 :=
  (Routes.kept listeners replies).trans (hk (f d))

theorem routes_ite {c : Prop} [Decidable c] {x y : Act L α} {d : Dispatcher L} (hx : c → Routes d (x.run d).2)
    (hy : ¬c → Routes d (y.run d).2) : Routes d ((if c then x else y).run d).2 := by
  split
  next holds => exact hx holds
  next fails => exact hy fails

theorem routing_ite {c : Prop} [Decidable c] {x y : Act L α} (hx : Routing x) (hy : Routing y) :
    Routing (if c then x else y) := by
  split
  · exact hx
  · exact hy

theorem Routing.discard {x : Act L α} (hx : Routing x) : Routing (discard x) := fun d => hx d

/-- `unless c do x` followed by `k`, as `do` notation compiles it. -/
theorem routing_unless {c : Bool} {x : Act L PUnit} {k : PUnit → Act L β} (hx : Routing x)
    (hk : ∀ a, Routing (k a)) : Routing (if c = true then k ⟨⟩ else x >>= k) := Routes.composes.unless hx hk

end Frame

section Steps

theorem routing_note (e : Entry) : Routing (note (L := L) e) := routing_modify_kept (fun _ => rfl) fun _ => rfl

theorem routing_noteAll (es : List Entry) : Routing (noteAll (L := L) es) :=
  routing_forM fun e _ => routing_note e

theorem routing_count (series : String) : Routing (count (L := L) series) :=
  Routes.composes.count (fun _ _ => .kept rfl rfl) series

theorem routing_putEngine (e : Engine) : Routing (putEngine (L := L) e) :=
  routing_modify_kept (fun _ => rfl) fun _ => rfl

theorem routing_record (ev : TaskEvent) : Routing (record (L := L) ev) :=
  routing_modify_kept (fun _ => rfl) fun _ => rfl

theorem routing_dropEngine (eid : Nat) : Routing (dropEngine (L := L) eid) :=
  routing_modify_kept (fun _ => rfl) fun _ => rfl

theorem routing_answer (ticket moment : Nat) (o : Outcome) : Routing (answer (L := L) ticket moment o) :=
  routing_modify_kept (fun _ => rfl) fun _ => rfl

theorem routing_unreserve (tx : UInt64) : Routing (unreserve (L := L) tx) :=
  routing_modify_kept (fun _ => rfl) fun _ => rfl

theorem routing_failOn (eid : Nat) : Routing (failOn (L := L) eid) :=
  Routes.composes.failOn eid fun d _ _ => routing_putEngine _ d

theorem routing_finishOn (eid : Nat) : Routing (finishOn (L := L) eid) :=
  Routes.composes.finishOn eid fun d _ _ => routing_putEngine _ d

theorem routing_returnThread (key : EngineKey) (thread : Nat) : Routing (returnThread (L := L) key thread) :=
  Routes.composes.returnThread key thread (fun _ _ _ => .kept rfl rfl) routing_note

theorem routing_returnQueue (key : EngineKey) (queue : Nat) : Routing (returnQueue (L := L) key queue) :=
  Routes.composes.returnQueue key queue (fun _ _ => .kept rfl rfl) routing_note

theorem routing_unloadPlugin (key : EngineKey) (ld : Loaded) (level : LogLevel) :
    Routing (unloadPlugin (L := L) key ld level) :=
  Routes.composes.unloadPlugin key ld level (fun _ => .kept rfl rfl) routing_note

end Steps

section Delivery

/-- A listener the table hands a reply to is one of its listeners. -/
theorem listener_mem_of_respond {t : FutureTable L} {event : Event} {resp : Response} {reply : Reply L}
    (h : (t.respond event (some resp)).1 = .ok reply) : reply.listener ∈ t.listeners.map (·.2) := by
  simp only [FutureTable.respond] at h
  split at h
  · cases h
  · split at h
    · cases h
    next l found =>
      cases h
      exact List.mem_map.2 ⟨_, mem_of_lookup found, rfl⟩

/-- Handing a response to the futures delivers at most one reply, to a listener of the table,
and keeps every listener. -/
theorem routing_deliver (eid moment : Nat) (event : Event) (resp : Response) :
    Routing (deliver (L := L) eid moment event resp) := by
  intro d
  unfold deliver
  erw [run_unless]
  have counted : Routes d (if event.isResult = true then d else ((failOn eid).run d).2) := by
    split
    · exact .refl d
    · exact routing_failOn eid d
  refine counted.trans ?_
  generalize (if event.isResult = true then d else ((failOn eid).run d).2) = d₁
  simp only [run_bind, run_get]
  split
  · rw [run_bind, run_set]
    have answered : Routes d₁ { d₁ with futures := (d₁.futures.respond event (some resp)).2 } :=
      .kept (FutureTable.listeners_respond _ _ _) rfl
    refine answered.trans ?_
    split
    next reply delivered =>
      -- the reply goes in front, for the listener the table found
      have found := listener_mem_of_respond delivered
      rw [← FutureTable.listeners_respond d₁.futures event (some resp)] at found
      refine ⟨rfl, [{ reply with moment := moment }], rfl, fun r hr => ?_⟩
      rw [List.mem_singleton.1 hr]
      exact found
    · exact routing_note _ _
  · exact .refl d₁

theorem routing_deliverAll (eid moment : Nat) (events : List (Event × Response)) :
    Routing (deliverAll (L := L) eid moment events) :=
  routing_forM fun ev _ => routing_deliver eid moment ev.1 ev.2

end Delivery

section Teardown

/-- Taking an engine apart fails the tasks left in its queue through the futures. -/
theorem routing_dismantle (eid : Nat) : Routing (dismantle (L := L) eid) := by
  refine routing_get_bind fun d => ?_
  dsimp only
  split
  next e _ =>
    refine ((routing_putEngine _).andThen ((routing_record _).andThen
      ((routing_forIn fun t _ => ?_).bind fun _ => routing_unless (routing_note _) fun _ =>
        (routing_returnQueue _ _).andThen ((routing_unloadPlugin _ _ _).andThen
          (routing_dropEngine _))))) d
    intro d₁
    split
    · rw [run_bind, run_get, run_bind, run_pure]
      exact routing_answer _ _ _ d₁
    · rw [run_bind, run_get, run_bind, run_pure]
      exact routing_deliver _ _ _ _ d₁
  next => exact .refl d

theorem routing_destroyEngine (eid : Nat) : Routing (destroyEngine (L := L) eid) := by
  refine routing_get_bind fun d => ?_
  dsimp only
  split
  next e _ =>
    split
    · -- a held worker keeps its thread until the gate opens; the engine is left closing
      rw [run_bind, run_get]
      dsimp only
      split
      · refine ((routing_modify ?_).andThen ((routing_putEngine _).andThen (routing_pure _))) d
        exact fun _ => .kept rfl rfl
      · exact ((routing_note _).andThen ((routing_putEngine _).andThen (routing_pure _))) d
    · exact ((routing_note _).andThen ((routing_returnThread _ _).andThen
        ((routing_dismantle _).andThen (routing_pure _)))) d
  next => exact .refl d

/-- A stop may take an engine down, which fails its queued tasks through the futures. -/
theorem routing_stopEngine (tx : UInt64) (input : Option Bytes) : Routing (stopEngine (L := L) tx input) := by
  refine routing_get_bind fun d => ?_
  dsimp only
  split
  · exact .refl d
  next e _ =>
    rw [run_bind]
    generalize e.call "release" (fun p => p.release (e.refs == 1) tx) = c
    obtain ⟨r, e₁⟩ := c
    dsimp only
    refine (routing_putEngine e₁ d).trans ?_
    cases r with
    | error err => exact .refl _
    | ok u =>
      refine ((routing_putEngine _).andThen ((routing_modify ?_).bind fun _ => ?_)) _
      · exact fun _ => .kept rfl rfl
      split
      · refine (routing_destroyEngine _).bind fun destroyed => ?_
        split
        · exact (routing_note _).andThen (routing_pure _)
        · refine (routing_modify ?_).andThen (routing_pure _)
          exact fun _ => .kept rfl rfl
      · exact routing_pure _

theorem routing_stop (tx : UInt64) (input : Option Bytes) : Routing (stop (L := L) tx input) := by
  refine (routing_stopEngine tx input).bind fun r => ?_
  cases r with
  | none => exact routing_pure _
  | some o => exact (routing_count _).andThen (routing_pure _)

end Teardown

section Workers

theorem routing_runDirect (e : Engine) (ticket : Nat) (t : Task) (start : Nat) :
    Routing (runDirect (L := L) e ticket t start) := by
  unfold runDirect
  split
  next c took p _ =>
    -- each outcome of the plugin call ends in the same join point: finish and answer
    have finish : ∀ o, Routing (finishOn (L := L) (e.withPlugin p).id >>= fun _ =>
        answer ticket (start + took.nanos.toNat) o) :=
      fun o => (routing_finishOn _).andThen (routing_answer _ _ _)
    refine (routing_putEngine _).andThen ?_
    split
    · exact (routing_pure _).bind finish
    · exact (routing_failOn _).andThen ((routing_pure _).bind finish)
    · exact (routing_failOn _).andThen ((routing_pure _).bind finish)
    · exact (routing_note _).andThen ((routing_failOn _).andThen ((routing_pure _).bind finish))

theorem routing_runAsync (e : Engine) (t : Task) (start : Nat) : Routing (runAsync (L := L) e t start) := by
  unfold runAsync
  split
  next c p _ =>
    refine (routing_putEngine _).andThen ?_
    split
    · refine routing_get_bind fun d => ?_
      split
      · exact ((routing_deliverAll _ _ _).andThen (routing_finishOn _)) d
      · exact routing_putEngine _ d
    · exact (routing_deliverAll _ _ _).andThen (routing_finishOn _)
    · exact (routing_deliver _ _ _ _).andThen (routing_finishOn _)
    · exact (routing_note _).andThen ((routing_failOn _).andThen
        ((routing_deliver _ _ _ _).andThen (routing_finishOn _)))

theorem routing_runTask (eid : Nat) (t : Task) (start : Nat) : Routing (runTask (L := L) eid t start) := by
  refine routing_get_bind fun d => ?_
  split
  · split
    · exact routing_runDirect _ _ _ _ d
    · exact routing_runAsync _ _ _ d
  · exact .refl d

theorem routing_workUntil (eid horizon fuel : Nat) : Routing (workUntil (L := L) eid horizon fuel) := by
  induction fuel with
  | zero => exact routing_pure _
  | succ fuel ih =>
    refine routing_get_bind fun d => ?_
    split
    · split
      · exact .refl d
      · split
        · exact .refl d
        · exact ((routing_putEngine _).andThen ((routing_record _).andThen
            ((routing_runTask _ _ _).andThen ih))) d
    · exact .refl d

theorem routing_workEngine (eid horizon : Nat) : Routing (workEngine (L := L) eid horizon) := by
  refine routing_get_bind fun d => ?_
  split
  · exact routing_workUntil eid horizon _ d
  · exact .refl d

theorem routing_workAll (horizon : Nat) : Routing (workAll (L := L) horizon) :=
  routing_get_bind fun d => routing_forIn (fun e _ => (routing_workEngine e.id horizon).andThen (routing_pure _)) d

/-- Letting every worker run delivers replies only to listeners. -/
theorem routing_settle : Routing (settle (L := L)) :=
  (routing_workAll never).andThen (routing_modify_kept (fun _ => rfl) fun _ => rfl)

end Workers

section Requests

theorem routing_engineFor (req : Request) (mode : InferMode) : Routing (engineFor (L := L) req mode) := fun d => by
  rw [engineFor_run]
  exact .refl d

theorem routing_giveUp (eid ticket deadline : Nat) (limit : Duration) :
    Routing (directRequest.giveUp (L := L) eid ticket deadline limit) := by
  refine routing_get_bind fun d => ?_
  split
  · refine ((routing_putEngine _).andThen ((routing_modify ?_).andThen
      (routing_get_bind fun d₁ => ((routing_workAll _).andThen (routing_pure _)) d₁))) d
    exact fun _ => .kept rfl rfl
  · exact .refl d

/-- A direct request delivers replies only through the workers it lets run. -/
theorem routing_directRequest (req : Request) : Routing (directRequest (L := L) req) := by
  refine (routing_engineFor req .sync).bind fun found => ?_
  split
  · exact routing_pure _
  · refine routing_get_bind fun d => ?_
    refine routes_set_bind rfl rfl ((routing_putEngine _).bind fun _ => ?_)
    split
    · exact routing_pure _
    · refine (routing_record _).andThen (routing_get_bind fun d₁ => ?_)
      refine ((routing_workEngine _ _).andThen (routing_get_bind fun d₂ => ?_)) d₁
      split
      · -- answered in time, or too late: the first goes on, the second gives up
        refine routes_ite (fun _ => routes_set_bind rfl rfl (routing_get_bind fun d₃ => ?_))
          fun _ => routing_giveUp _ _ _ _ d₂
        refine ((routing_workAll _).andThen ?_) d₃
        split <;> exact routing_pure _
      · exact routing_giveUp _ _ _ _ d₂

theorem listeners_create {t t' : FutureTable L} {tx : UInt64} {seq : Nat} (h : t.create tx = .ok (seq, t')) :
    t'.listeners = t.listeners := by
  obtain ⟨-, -, rfl⟩ := FutureTable.create_eq_ok h
  rfl

theorem listeners_release {t t' : FutureTable L} {seq : Nat} (h : t.release seq = .ok t') :
    t'.listeners = t.listeners := by
  unfold FutureTable.release at h
  split at h
  · cases h
    rfl
  · cases h

/-- An asynchronous request makes a future, which changes no listener, and lets the engine's
worker run. -/
theorem routing_asyncRequest (req : Request) : Routing (asyncRequest (L := L) req) := by
  refine (routing_engineFor req .async).bind fun found => ?_
  split
  · exact routing_pure _
  · refine routing_get_bind fun d => ?_
    dsimp only
    split
    · exact .refl d
    next seq futures created =>
      refine routes_set_bind (listeners_create created) rfl ((routing_putEngine _).bind fun _ => ?_)
      split
      · refine routing_get_bind fun d₁ => ?_
        split
        next released =>
          rw [run_bind, run_modify, run_pure]
          exact .kept (listeners_release released) rfl
        · exact ((routing_note _).andThen (routing_pure _)) d₁
      · exact (routing_record _).andThen (routing_get_bind fun d₁ =>
          ((routing_workEngine _ _).andThen (routing_pure _)) d₁)

theorem routing_syncExecute (req : Option Request) : Routing (syncExecute (L := L) req) :=
  Routes.composes.syncExecute routing_count routing_directRequest req

theorem routing_asyncExecute (req : Option Request) : Routing (asyncExecute (L := L) req) :=
  Routes.composes.asyncExecute routing_count routing_asyncRequest req

theorem routing_setOption (tx : UInt64) (t : Int32) (input : Option Bytes) :
    Routing (setOption (L := L) tx t input) :=
  Routes.composes.setOption tx t input fun d _ _ => routing_putEngine _ d

theorem routing_getOption (tx : UInt64) (t : Int32) : Routing (getOption (L := L) tx t) :=
  Routes.composes.getOption tx t fun d _ _ => routing_putEngine _ d

end Requests

section Starts

/-- Making an engine touches pools, the loader and the journal, never the futures. -/
theorem routing_createEngine (key : EngineKey) : Routing (createEngine (L := L) key) := by
  refine routing_get_bind fun d => ?_
  split
  · exact .refl d
  · refine routes_set_bind rfl rfl (routing_get_bind fun d₁ => ?_)
    split
    · exact ((routing_returnThread _ _).andThen (routing_pure _)) d₁
    · refine routes_modify_bind rfl rfl (routing_get_bind fun d₂ => ?_)
      refine ((routing_noteAll _).andThen ?_) d₂
      split
      · exact (routing_returnQueue _ _).andThen ((routing_returnThread _ _).andThen (routing_pure _))
      · refine fun d₃ => routes_modify_bind rfl rfl ?_
        refine routing_ite ?_ (routing_get_bind fun d₄ => ?_)
        · exact (routing_unloadPlugin _ _ _).andThen ((routing_returnQueue _ _).andThen
            ((routing_returnThread _ _).andThen (routing_pure _)))
        split
        · exact routes_set_bind rfl rfl ((routing_unloadPlugin _ _ _).andThen ((routing_returnQueue _ _).andThen
            ((routing_returnThread _ _).andThen (routing_pure _))))
        · exact routes_set_bind rfl rfl ((routing_note _).andThen (routing_pure _))

/-- A preparation that fails may take a new engine down again, which fails its queued tasks
through the futures. -/
theorem routing_prepareOn (tx : UInt64) (eid : Nat) (input : Option Bytes) (created : Bool) :
    Routing (prepareOn (L := L) tx eid input created) := by
  refine routing_get_bind fun d => ?_
  split
  next e _ =>
    generalize e.call "prepare" (fun p => p.prepare tx input) = c
    obtain ⟨r, e₁⟩ := c
    rw [run_bind]
    refine (routing_putEngine e₁ d).trans ?_
    cases r with
    | error err =>
      -- a new engine is undone before the reservation ends
      have finish : Routing (unreserve (L := L) tx >>= fun _ => pure (Lifecycle.failed
          (.within s!"prepare {e₁.key.render} for transaction {tx.toNat}" err))) :=
        (routing_unreserve tx).andThen (routing_pure _)
      exact routing_ite ((routing_destroyEngine eid).discard.bind fun _ => finish) finish _
    | ok out =>
      dsimp only
      refine ((routing_putEngine _).andThen ?_) _
      intro d₂
      refine routes_modify_bind rfl rfl ((routing_unreserve tx).andThen ?_)
      split
      · exact (routing_note _).andThen (routing_pure _)
      · exact (routing_note _).andThen (routing_pure _)
  next => exact .refl d

theorem routing_startReserved (tx : UInt64) (key : EngineKey) (input : Option Bytes) :
    Routing (startReserved (L := L) tx key input) := by
  refine routing_get_bind fun d => ?_
  extract_lets jp
  -- the engine found or made, the start goes on from the join point
  have cont : ∀ found, Routing (jp found) := by
    intro found
    obtain ⟨eid, created⟩ := found
    simp only [jp]
    split
    · exact (routing_unreserve tx).andThen (routing_pure _)
    · refine routing_get_bind fun d₁ => ?_
      split
      · refine routes_ite (fun _ => ?_) fun _ => ((routing_prepareOn _ _ _ _).bind fun _ => routing_pure _) d₁
        exact routes_set_bind rfl rfl (routing_pure _)
      · exact ((routing_prepareOn _ _ _ _).bind fun _ => routing_pure _) d₁
  split
  · exact ((routing_pure _).bind cont) d
  · exact ((routing_createEngine key).bind fun _ => (routing_pure _).bind cont) d

theorem routing_startEngine (tx : UInt64) (key : EngineKey) (input : Option Bytes) :
    Routing (startEngine (L := L) tx key input) := by
  refine routing_get_bind fun d => ?_
  split
  · exact .refl d
  · split
    · exact .refl d
    · refine routes_set_bind rfl rfl ?_
      split
      · exact fun d₁ => routes_modify_bind rfl rfl (routing_pure _)
      · exact routing_startReserved tx key input

/-- A start delivers replies only to listeners: only the undoing of a new engine whose
preparation failed can fail tasks through the futures. -/
theorem routing_start (tx : UInt64) (key : EngineKey) (input : Option Bytes) :
    Routing (start (L := L) tx key input) := by
  refine (routing_startEngine tx key input).bind fun r => ?_
  cases r with
  | none => exact routing_pure _
  | some o => exact (routing_count _).andThen (routing_pure _)

end Starts

end Dispatcher

end InferenceBroker
