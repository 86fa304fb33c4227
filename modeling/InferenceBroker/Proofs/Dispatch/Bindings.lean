import InferenceBroker.Proofs.Dispatch.Atomicity
import InferenceBroker.Proofs.Dispatch.Completion

/-!
# What starts, stops and listener calls change

A start binds its transaction exactly when it reports it started, and that needs the
transaction unbound before (`start_binds`); a stop unbinds its transaction exactly when it
does not report a failure, and that needs it bound before (`stop_unbinds`). A stop changes
the binding of no other transaction (`clients_stop`). Removing a listener removes the one of
its transaction and no other (`listener?_unregisterListener`).

A stop never touches a listener, and only adds entries to the journal, newer ones in front
(`extending_stop`): each step on its way, down to the teardown of an engine that fails the
tasks left in its queue, is `Extending`.
-/

namespace InferenceBroker

namespace Dispatcher

variable {L : Type} {α β : Type}

section Extending

/-- `d'` comes after `d` as far as listeners and the journal go: every transaction has the
listener it had, and the journal is that of `d` with perhaps newer entries in front. -/
structure Extends (d d' : Dispatcher L) : Prop where
  listeners : d'.futures.listeners = d.futures.listeners
  journal : d.journal <:+ d'.journal

theorem Extends.refl (d : Dispatcher L) : Extends d d := ⟨rfl, List.suffix_refl _⟩

theorem Extends.trans {d₁ d₂ d₃ : Dispatcher L} (h₁ : Extends d₁ d₂) (h₂ : Extends d₂ d₃) :
    Extends d₁ d₃ :=
  ⟨h₂.listeners.trans h₁.listeners, h₁.journal.trans h₂.journal⟩

/-- A dispatcher with the listeners and the journal of `d`. -/
theorem Extends.kept {d d' : Dispatcher L} (listeners : d'.futures.listeners = d.futures.listeners)
    (journal : d'.journal = d.journal) : Extends d d' :=
  ⟨listeners, journal ▸ List.suffix_refl _⟩

/-- The operation leaves every listener alone and only adds entries to the journal. -/
def Extending (x : Act L α) : Prop := ∀ d : Dispatcher L, Extends d (x.run d).2

theorem extending_pure (a : α) : Extending (pure a : Act L α) := fun d => .refl d

theorem Extends.composes : Composes (Extends (L := L)) := ⟨Extends.refl, Extends.trans⟩

theorem Extending.bind {x : Act L α} {f : α → Act L β} (hx : Extending x) (hf : ∀ a, Extending (f a)) :
    Extending (x >>= f) := Extends.composes.bind hx hf

theorem Extending.andThen {x : Act L α} {y : Act L β} (hx : Extending x) (hy : Extending y) :
    Extending (x >>= fun _ => y) := hx.bind fun _ => hy

theorem extending_modify {f : Dispatcher L → Dispatcher L} (h : ∀ d, Extends d (f d)) :
    Extending (modify f) := fun d => h d

theorem extending_forIn {xs : List α} {f : α → PUnit → Act L (ForInStep PUnit)}
    (h : ∀ a ∈ xs, Extending (f a ⟨⟩)) : Extending (forIn xs ⟨⟩ f) :=
  Extends.composes.forIn fun a ha _ => h a ha

theorem extending_forM {xs : List α} {f : α → Act L PUnit} (h : ∀ a ∈ xs, Extending (f a)) :
    Extending (xs.forM f) := Extends.composes.forM h

/-- `unless c do x` followed by `k`, as `do` notation compiles it. -/
theorem extending_unless {c : Bool} {x : Act L PUnit} {k : PUnit → Act L β} (hx : Extending x)
    (hk : ∀ a, Extending (k a)) : Extending (if c = true then k ⟨⟩ else x >>= k) :=
  Extends.composes.unless hx hk

theorem extending_note (e : Entry) : Extending (note (L := L) e) :=
  extending_modify fun d => ⟨rfl, List.suffix_cons e d.journal⟩

theorem extending_count (series : String) : Extending (count (L := L) series) :=
  Extends.composes.count (fun _ _ => .kept rfl rfl) series

theorem extending_putEngine (e : Engine) : Extending (putEngine (L := L) e) :=
  extending_modify fun _ => .kept rfl rfl

theorem extending_record (ev : TaskEvent) : Extending (record (L := L) ev) :=
  extending_modify fun _ => .kept rfl rfl

theorem extending_dropEngine (eid : Nat) : Extending (dropEngine (L := L) eid) :=
  extending_modify fun _ => .kept rfl rfl

theorem extending_answer (ticket moment : Nat) (o : Outcome) : Extending (answer (L := L) ticket moment o) :=
  extending_modify fun _ => .kept rfl rfl

theorem extending_failOn (eid : Nat) : Extending (failOn (L := L) eid) :=
  Extends.composes.failOn eid fun d _ _ => extending_putEngine _ d

theorem extending_returnThread (key : EngineKey) (thread : Nat) : Extending (returnThread (L := L) key thread) :=
  Extends.composes.returnThread key thread (fun _ _ _ => .kept rfl rfl) extending_note

theorem extending_returnQueue (key : EngineKey) (queue : Nat) : Extending (returnQueue (L := L) key queue) :=
  Extends.composes.returnQueue key queue (fun _ _ => .kept rfl rfl) extending_note

theorem extending_unloadPlugin (key : EngineKey) (ld : Loaded) (level : LogLevel) :
    Extending (unloadPlugin (L := L) key ld level) :=
  Extends.composes.unloadPlugin key ld level (fun _ => .kept rfl rfl) extending_note

/-- Handing a response to the futures leaves every listener where it was: the table answers
it, and at most a reply or a journal entry is added. -/
theorem extending_deliver (eid moment : Nat) (event : Event) (resp : Response) :
    Extending (deliver (L := L) eid moment event resp) := by
  intro d
  unfold deliver
  erw [run_unless]
  have counted : Extends d (if event.isResult = true then d else ((failOn eid).run d).2) := by
    split
    · exact .refl d
    · exact extending_failOn eid d
  refine counted.trans ?_
  generalize (if event.isResult = true then d else ((failOn eid).run d).2) = d₁
  simp only [run_bind, run_get]
  split
  · rw [run_bind, run_set]
    have answered : Extends d₁ { d₁ with futures := (d₁.futures.respond event (some resp)).2 } :=
      .kept (FutureTable.listeners_respond _ _ _) rfl
    split
    · exact answered.trans (.kept rfl rfl)
    · exact answered.trans (extending_note _ _)
  · exact .refl d₁

/-- Taking an engine apart fails the tasks left in its queue through the futures, which keeps
every listener. -/
theorem extending_dismantle (eid : Nat) : Extending (dismantle (L := L) eid) := by
  intro d
  rw [dismantle, run_bind, run_get]
  dsimp only
  split
  next e _ =>
    refine ((extending_putEngine _).andThen ((extending_record _).andThen
      ((extending_forIn fun t _ => ?_).bind fun _ => extending_unless (extending_note _) fun _ =>
        (extending_returnQueue _ _).andThen ((extending_unloadPlugin _ _ _).andThen
          (extending_dropEngine _))))) d
    intro d₁
    split
    · rw [run_bind, run_get, run_bind, run_pure]
      exact extending_answer _ _ _ d₁
    · rw [run_bind, run_get, run_bind, run_pure]
      exact extending_deliver _ _ _ _ d₁
  next => exact .refl d

theorem extending_destroyEngine (eid : Nat) : Extending (destroyEngine (L := L) eid) := by
  intro d
  rw [destroyEngine, run_bind, run_get]
  dsimp only
  split
  next e _ =>
    split
    · -- a held worker keeps its thread until the gate opens; the engine is left closing
      rw [run_bind, run_get]
      dsimp only
      split
      · refine (extending_modify ?_).andThen ((extending_putEngine _).andThen (extending_pure _)) d
        exact fun _ => .kept rfl rfl
      · exact ((extending_note _).andThen ((extending_putEngine _).andThen (extending_pure _))) d
    · exact ((extending_note _).andThen ((extending_returnThread _ _).andThen
        ((extending_dismantle _).andThen (extending_pure _)))) d
  next => exact .refl d

/-- A stop keeps every listener and only adds to the journal. -/
theorem extending_stopEngine (tx : UInt64) (input : Option Bytes) : Extending (stopEngine (L := L) tx input) := by
  intro d
  rw [stopEngine, run_bind, run_get]
  dsimp only
  split
  · exact .refl d
  next e _ =>
    rw [run_bind]
    generalize e.call "release" (fun p => p.release (e.refs == 1) tx) = c
    obtain ⟨r, e₁⟩ := c
    dsimp only
    refine (extending_putEngine e₁ d).trans ?_
    cases r with
    | error err => exact .refl _
    | ok u =>
      -- the transaction is unbound; the last one takes the engine down, or waits for it
      refine ((extending_putEngine _).andThen ((extending_modify ?_).bind fun _ => ?_)) _
      · exact fun _ => .kept rfl rfl
      split
      · refine (extending_destroyEngine _).bind fun destroyed => ?_
        split
        · exact (extending_note _).andThen (extending_pure _)
        · refine (extending_modify ?_).andThen (extending_pure _)
          exact fun _ => .kept rfl rfl
      · exact extending_pure _

theorem extending_stop (tx : UInt64) (input : Option Bytes) : Extending (stop (L := L) tx input) := by
  refine (extending_stopEngine tx input).bind fun r => ?_
  cases r with
  | none => exact extending_pure _
  | some o => exact (extending_count _).andThen (extending_pure _)

end Extending

section Bindings

section Lookup

variable {κ β : Type} [BEq κ] [LawfulBEq κ]

/-- Forgetting the entries of one key leaves the entry of every other. -/
theorem lookup_filter_ne (l : List (κ × β)) {a k : κ} (ne : a ≠ k) :
    (l.filter (·.1 != k)).lookup a = l.lookup a := by
  induction l with
  | nil => rfl
  | cons c l ih =>
    obtain ⟨j, v⟩ := c
    by_cases hj : j = k
    · subst hj
      have other : (a == j) = false := beq_false_of_ne ne
      rw [List.filter_cons_of_neg (by simp), ih, List.lookup_cons, other]
    · rw [List.filter_cons_of_pos (by simpa using hj), List.lookup_cons, List.lookup_cons, ih]

theorem lookup_filter_self (l : List (κ × β)) (k : κ) : (l.filter (·.1 != k)).lookup k = none :=
  List.lookup_eq_none_iff.2 fun p hp => by
    rw [bne_comm]
    exact (List.mem_filter.1 hp).2

end Lookup

/-- Removing the listener of a transaction removes no other. -/
theorem listener?_unregisterListener (tx t : UInt64) (d : Dispatcher L) :
    ((unregisterListener tx).run d).2.futures.listener? t = if t = tx then none else d.futures.listener? t := by
  show (d.futures.listeners.filter (·.1 != tx)).lookup t = _
  split
  next same => rw [same, lookup_filter_self]
  next ne => exact lookup_filter_ne _ ne

variable {d : Dispatcher L}

theorem bound_of_lookup {tx : UInt64} {e : Engine} (h : d.lookup tx = .ok e) : (d.clients.lookup tx).isSome = true := by
  unfold lookup at h
  split at h
  next e' found =>
    obtain ⟨eid, bound, -⟩ := Option.bind_eq_some_iff.1 found
    rw [bound]
    rfl
  next => cases h

/-- What a preparation leaves of the bindings: the transaction bound to the engine when the
plugin prepared it, and nothing changed otherwise. -/
theorem clients_prepared {d' : Dispatcher L} {tx : UInt64} {input : Option Bytes} {e : Engine} {created : Bool}
    {o : Lifecycle} (h : Prepared d d' tx input e created o) :
    (∃ out, o = .started out ∧ d'.clients = d.clients ++ [(tx, e.id)]) ∨
      (∀ out, o ≠ .started out) ∧ d'.clients = d.clients := by
  cases o with
  | started out => exact .inl ⟨out, rfl, congrArg Registry.clients h.2⟩
  | failed err =>
    refine .inr ⟨(fun _ started => by cases started), ?_⟩
    cases created <;> exact congrArg Registry.clients h.2
  | stopped => exact h.elim

/-- What a start of a reserved transaction leaves of the bindings: the transaction bound when
the start reports it started, and nothing changed otherwise. -/
theorem clients_startsReserved {d' : Dispatcher L} {tx : UInt64} {key : EngineKey} {input : Option Bytes}
    {o : Option Lifecycle} (h : StartsReserved d tx key input o d') :
    (∃ out eid, o = some (.started out) ∧ d'.clients = d.clients ++ [(tx, eid)]) ∨
      (∀ out, o ≠ some (.started out)) ∧ d'.clients = d.clients := by
  cases h with
  | shared _ _ prepared =>
    rcases clients_prepared prepared with ⟨out, rfl, added⟩ | ⟨unstarted, same⟩
    · exact .inl ⟨out, _, rfl, added⟩
    · exact .inr ⟨fun out started => unstarted out (Option.some.inj started), same⟩
  | sharedWaits _ _ reg => exact .inr ⟨(fun _ started => by cases started), congrArg Registry.clients reg⟩
  | unmade _ created reg =>
    refine .inr ⟨(fun _ started => by cases started), ?_⟩
    exact (congrArg Registry.clients reg).trans (congrArg Registry.clients created.2)
  | made _ _ _ reg₁ _ prepared =>
    -- the engine the start made binds nothing yet
    have made := congrArg Registry.clients reg₁
    rcases clients_prepared prepared with ⟨out, rfl, added⟩ | ⟨unstarted, same⟩
    · exact .inl ⟨out, _, rfl, added.trans (congrArg (· ++ [(tx, _)]) made)⟩
    · exact .inr ⟨fun out started => unstarted out (Option.some.inj started), same.trans made⟩
  | madeWaits _ _ _ reg₁ _ reg =>
    exact .inr ⟨(fun _ started => by cases started),
      (congrArg Registry.clients reg).trans (congrArg Registry.clients reg₁)⟩

/-- What a start leaves of the bindings: the transaction, unbound before, bound when the start
reports it started, and nothing changed otherwise. -/
theorem clients_start (P : d.registry.Consistent) (tx : UInt64) (key : EngineKey) (input : Option Bytes) :
    (∃ out eid, ((start tx key input).run d).1 = some (.started out) ∧ (d.clients.lookup tx).isSome = false ∧
        ((start tx key input).run d).2.clients = d.clients ++ [(tx, eid)]) ∨
      (∀ out, ((start tx key input).run d).1 ≠ some (.started out)) ∧
        ((start tx key input).run d).2.clients = d.clients := by
  obtain ⟨answer, kept⟩ : ((start tx key input).run d).1 = ((startEngine tx key input).run d).1 ∧
      ((start tx key input).run d).2.registry = ((startEngine tx key input).run d).2.registry :=
    run_counted "start" (startEngine tx key input) d
  rw [answer, show ((start tx key input).run d).2.clients = _ from congrArg Registry.clients kept]
  have spec := startEngine_spec tx key input P.sound (fresh_of_pending P)
  generalize (startEngine tx key input).run d = p at spec ⊢
  obtain ⟨o, d'⟩ := p
  cases spec with
  | bound _ => exact .inr ⟨(fun _ started => by cases started), rfl⟩
  | starting _ _ => exact .inr ⟨(fun _ started => by cases started), rfl⟩
  | queued _ _ _ reg => exact .inr ⟨(fun _ started => by cases started), congrArg Registry.clients reg⟩
  | reserved unbound _ _ started =>
    -- the reservation changes no binding
    rcases clients_startsReserved started with ⟨out, eid, rfl, added⟩ | ⟨unstarted, same⟩
    · exact .inl ⟨out, eid, rfl, unbound, added⟩
    · exact .inr ⟨unstarted, same⟩

/-- A start binds its transaction exactly when it reports it started: the transaction was
unbound before and is bound after. -/
theorem start_binds (P : d.registry.Consistent) (tx : UInt64) (key : EngineKey) (input : Option Bytes) :
    (∃ out, ((start tx key input).run d).1 = some (.started out)) ↔
      (d.clients.lookup tx).isSome = false ∧ (((start tx key input).run d).2.clients.lookup tx).isSome = true := by
  rcases clients_start P tx key input with ⟨out, eid, started, unbound, added⟩ | ⟨unstarted, same⟩
  · have none : d.clients.lookup tx = none := by simpa using unbound
    refine iff_of_true ⟨out, started⟩ ⟨unbound, ?_⟩
    rw [added, List.lookup_append, none]
    simp
  · refine iff_of_false (fun ⟨out, started⟩ => unstarted out started) fun ⟨before, after⟩ => ?_
    rw [same, before] at after
    cases after

/-- What a stop leaves of the bindings: nothing changed when it fails, and otherwise its
transaction, bound before, unbound. -/
theorem clients_stop (hd : d.registry.Sound) (tx : UInt64) (input : Option Bytes) :
    (∃ err, ((stop tx input).run d).1 = some (.failed err)) ∧ ((stop tx input).run d).2.clients = d.clients ∨
      (∀ err, ((stop tx input).run d).1 ≠ some (.failed err)) ∧ (d.clients.lookup tx).isSome = true ∧
        ((stop tx input).run d).2.clients = d.clients.filter (·.1 != tx) := by
  obtain ⟨answer, kept⟩ : ((stop tx input).run d).1 = ((stopEngine tx input).run d).1 ∧
      ((stop tx input).run d).2.registry = ((stopEngine tx input).run d).2.registry :=
    run_counted "stop" (stopEngine tx input) d
  rw [answer, show ((stop tx input).run d).2.clients = _ from congrArg Registry.clients kept]
  have spec := stopEngine_spec tx input hd
  generalize (stopEngine tx input).run d = p at spec ⊢
  obtain ⟨o, d'⟩ := p
  cases spec with
  | unbound _ reg => exact .inl ⟨⟨_, rfl⟩, congrArg Registry.clients reg⟩
  | refused _ _ reg => exact .inl ⟨⟨_, rfl⟩, congrArg Registry.clients reg⟩
  | released found _ _ reg =>
    exact .inr ⟨(fun _ failed => by cases failed), bound_of_lookup found, congrArg Registry.clients reg⟩
  | destroyed found _ _ _ reg =>
    exact .inr ⟨(fun _ failed => by cases failed), bound_of_lookup found, congrArg Registry.clients reg⟩
  | waits found _ _ _ reg =>
    exact .inr ⟨(fun _ failed => by cases failed), bound_of_lookup found, congrArg Registry.clients reg⟩

/-- A stop unbinds its transaction exactly when it reports no failure: the transaction was
bound before and is unbound after. -/
theorem stop_unbinds (hd : d.registry.Sound) (tx : UInt64) (input : Option Bytes) :
    (∀ err, ((stop tx input).run d).1 ≠ some (.failed err)) ↔
      (d.clients.lookup tx).isSome = true ∧ (((stop tx input).run d).2.clients.lookup tx).isSome = false := by
  rcases clients_stop hd tx input with ⟨⟨err, failed⟩, same⟩ | ⟨unfailed, bound, unbound⟩
  · refine iff_of_false (fun unfailed => unfailed err failed) fun ⟨before, after⟩ => ?_
    rw [same, before] at after
    cases after
  · refine iff_of_true unfailed ⟨bound, ?_⟩
    rw [unbound, lookup_filter_self]
    rfl

end Bindings

end Dispatcher

end InferenceBroker
