import InferenceBroker.Proofs.Dispatch.Reachable

/-!
# Failed starts and stops undo what they took

A start that fails gives back what it took on the way: its reservation, the thread and
queue of an engine it made, that engine's plugin instance and slot. A stop that fails took
nothing. So a failure leaves the registry as it was, but for the serial numbers a start
spent on engines it made and took down again (`failed_lifecycle_keeps_registry`).

Two facts of the registry carry it: ending a reservation undoes making it
(`Registry.unreserve_reserve`), and taking apart an engine just made undoes making it
(`Registry.dismantle_create`).
-/

namespace InferenceBroker

namespace Registry

theorem unreserve_reserve {r : Registry} {tx : UInt64} (free : tx ∉ r.starting) :
    (r.reserve tx).unreserve tx = r := by
  have kept : (r.starting ++ [tx]).filter (· != tx) = r.starting := by
    rw [List.filter_append, List.filter_eq_self.2 fun x hx => bne_iff_ne.2 (by rintro rfl; exact free hx)]
    simp
  simp only [unreserve, reserve, kept]

/-- Taking apart an engine just made gives back its thread, queue and plugin instance and
forgets its slot; only the serial number it took stays spent. -/
theorem dismantle_create {r : Registry} {s : Engine.Slot} (fresh : ∀ x ∈ r.engines, x.id ≠ s.id)
    (loaded : s.unloaded = false) :
    ((r.create s).returnThread s.thread).dismantle s = { r with nextEngine := r.nextEngine + 1 } := by
  have kept : (r.engines ++ [s]).filter (·.id != s.id) = r.engines := by
    rw [List.filter_append, List.filter_eq_self.2 fun x hx => bne_iff_ne.2 (fresh x hx)]
    simp
  simp only [dismantle, drop, unload, returnQueue, returnThread, create, kept, loaded,
    Multiset.erase_cons_head, Bool.false_eq_true, if_false, Nat.add_sub_cancel]

end Registry

namespace Dispatcher

variable {L : Type}

/-- A lifecycle call whose outcome is counted answers and leaves the registry as the call did. -/
theorem run_counted (op : String) (x : Act L (Option Lifecycle)) (d : Dispatcher L) :
    let counted : Act L (Option Lifecycle) := do
      let r ← x
      if let some o := r then countLifecycle op o.failure?
      return r
    (counted.run d).1 = (x.run d).1 ∧ (counted.run d).2.registry = (x.run d).2.registry := by
  intro counted
  unfold counted
  rw [run_bind]
  generalize x.run d = p
  obtain ⟨r, d'⟩ := p
  cases r with
  | none => exact ⟨rfl, rfl⟩
  | some o =>
    refine ⟨rfl, ?_⟩
    show ((countLifecycle op o.failure?).run d').2.registry = d'.registry
    unfold countLifecycle count
    rw [run_modify]
    split <;> rfl

/-- A start that fails leaves the registry as it was, but for serial numbers. -/
theorem startEngine_failed {d : Dispatcher L} (P : d.registry.Consistent) {tx : UInt64} {key : EngineKey}
    {input : Option Bytes} {err : Failure} (h : ((startEngine tx key input).run d).1 = some (.failed err)) :
    ∃ n, ((startEngine tx key input).run d).2.registry = { d.registry with nextEngine := n } := by
  have spec := startEngine_spec tx key input P.sound (fresh_of_pending P)
  generalize (startEngine tx key input).run d = p at spec h ⊢
  obtain ⟨o, d'⟩ := p
  dsimp only at h ⊢
  subst h
  cases spec with
  | bound _ => exact ⟨_, rfl⟩
  | starting _ _ => exact ⟨_, rfl⟩
  | reserved _ starting _ started =>
    -- the start reserved the transaction on the way; every path ends the reservation
    have free : tx ∉ d.starting := by simpa using starting
    cases started with
    | shared _ _ prepared =>
      have reg : d'.registry = _ := prepared.2
      refine ⟨d.nextEngine, ?_⟩
      rw [reg, if_neg Bool.false_ne_true]
      exact Registry.unreserve_reserve (r := { d.registry with nextEngine := d.nextEngine }) free
    | @unmade _ d₁ _ _ created unreserved =>
      refine ⟨d₁.registry.nextEngine, unreserved.trans ?_⟩
      rw [created.2]
      exact Registry.unreserve_reserve (r := { d.registry with nextEngine := _ }) free
    | @made e _ _ _ _ fresh _ created _ prepared =>
      have reg : d'.registry = _ := prepared.2
      have ids : ∀ x ∈ (d.registry.reserve tx).engines, x.id ≠ e.slot.id := fun x hx =>
        Nat.ne_of_lt ((P.healthy x hx).below.trans_eq fresh.id.symm)
      refine ⟨d.nextEngine + 1, ?_⟩
      rw [reg, if_pos rfl, created]
      -- the engine the start made is taken apart again
      exact (congrArg (Registry.unreserve · tx) (Registry.dismantle_create ids fresh.loaded)).trans
        (Registry.unreserve_reserve (r := { d.registry with nextEngine := d.nextEngine + 1 }) free)

/-- A stop that fails leaves the registry as it was. -/
theorem stopEngine_failed {d : Dispatcher L} (hd : d.registry.Sound) {tx : UInt64} {input : Option Bytes}
    {err : Failure} (h : ((stopEngine tx input).run d).1 = some (.failed err)) :
    ((stopEngine tx input).run d).2.registry = d.registry := by
  have spec := stopEngine_spec tx input hd
  generalize (stopEngine tx input).run d = p at spec h ⊢
  obtain ⟨o, d'⟩ := p
  dsimp only at h ⊢
  subst h
  cases spec with
  | unbound _ reg => exact reg
  | refused _ _ reg => exact reg

/-- Failure atomicity of starts and stops: from a consistent registry, a start that fails
leaves the registry as it was, but for the serial numbers it spent, and a stop that fails
leaves it as it was. -/
theorem failed_lifecycle_keeps_registry {d : Dispatcher L} (P : d.registry.Consistent) :
    (∀ tx key input err, ((start tx key input).run d).1 = some (.failed err) →
      ((start tx key input).run d).2.registry =
        { d.registry with nextEngine := ((start tx key input).run d).2.nextEngine }) ∧
    (∀ tx input err, ((stop tx input).run d).1 = some (.failed err) →
      ((stop tx input).run d).2.registry = d.registry) := by
  constructor
  · intro tx key input err failed
    obtain ⟨answer, kept⟩ : ((start tx key input).run d).1 = ((startEngine tx key input).run d).1 ∧
        ((start tx key input).run d).2.registry = ((startEngine tx key input).run d).2.registry :=
      run_counted "start" (startEngine tx key input) d
    obtain ⟨n, reg⟩ := startEngine_failed P (answer ▸ failed)
    have next : ((start tx key input).run d).2.nextEngine = n := congrArg Registry.nextEngine (kept.trans reg)
    rw [kept, reg, next]
  · intro tx input err failed
    obtain ⟨answer, kept⟩ : ((stop tx input).run d).1 = ((stopEngine tx input).run d).1 ∧
        ((stop tx input).run d).2.registry = ((stopEngine tx input).run d).2.registry :=
      run_counted "stop" (stopEngine tx input) d
    rw [kept, stopEngine_failed P.sound (answer ▸ failed)]

/-- On a new dispatcher, a start of a plugin the loader does not know and a stop of an
unbound transaction both fail, and keep the registry. -/
theorem failures_on_new_dispatcher_keep_registry :
    ((start 7 ⟨"missing", 1⟩ none).run (Dispatcher.make (L := Nat) {} echoLoader)).2.registry =
        { (Dispatcher.make (L := Nat) {} echoLoader).registry with
          nextEngine := ((start 7 ⟨"missing", 1⟩ none).run (Dispatcher.make (L := Nat) {} echoLoader)).2.nextEngine } ∧
      ((stop 9 none).run (Dispatcher.make (L := Nat) {} echoLoader)).2.registry =
        (Dispatcher.make (L := Nat) {} echoLoader).registry :=
  ⟨(failed_lifecycle_keeps_registry (consistent_make {} echoLoader)).1 7 _ none _ rfl,
    (failed_lifecycle_keeps_registry (consistent_make {} echoLoader)).2 9 none _ rfl⟩

end Dispatcher

end InferenceBroker
