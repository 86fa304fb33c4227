import InferenceBroker.Proofs.Dispatch.Invariant

/-!
# The dispatcher keeps its registry consistent

Every public operation takes a dispatcher whose registry is consistent to one whose registry
is consistent: starts and stops along the paths of `Lifecycle`, each a composite of the
registry steps of `Invariant`; opening the gate finishes the waiting calls one by one, the
invariant holding meanwhile of the calls not yet finished; closing stops every transaction;
and the rest keeps the registry.
-/

namespace InferenceBroker

namespace Dispatcher

variable {L : Type} {α β : Type}

/-- The operation takes every consistent registry to a consistent one. -/
def Preserves (x : Act L α) : Prop :=
  ∀ d : Dispatcher L, d.registry.Consistent → (x.run d).2.registry.Consistent

theorem Keeps.preserves {x : Act L α} (h : Keeps x) : Preserves x := fun d hd =>
  (h d (Registry.Pending.sound hd)).symm ▸ hd

/-- After a step that keeps a sound registry, what follows starts from the same registry. -/
theorem Keeps.continue {x : Act L α} {f : α → Act L β} (hx : Keeps x) {Q : Dispatcher L → Prop}
    {d : Dispatcher L} (hd : d.registry.Sound) (hf : ∀ a d', d'.registry = d.registry → Q ((f a).run d').2) :
    Q ((x >>= f).run d).2 := by
  rw [run_bind]
  exact hf _ _ (hx d hd)

theorem Preserves.composes :
    Composes fun d d' : Dispatcher L => d.registry.Consistent → d'.registry.Consistent :=
  Composes.invariant _

theorem Preserves.bind {x : Act L α} {f : α → Act L β} (hx : Preserves x) (hf : ∀ a, Preserves (f a)) :
    Preserves (x >>= f) := Preserves.composes.bind hx hf

theorem preserves_forIn {xs : List α} {init : β} {f : α → β → Act L (ForInStep β)}
    (h : ∀ a b, Preserves (f a b)) : Preserves (forIn xs init f) :=
  Preserves.composes.forIn fun a _ b => h a b

/-- A new dispatcher's registry is empty, so consistent. -/
theorem consistent_make (settings : DispatcherSettings) (loader : Loader) :
    (Dispatcher.make (L := L) settings loader).registry.Consistent :=
  Registry.Pending.empty 1 false

section Registry

variable {d : Dispatcher L}

theorem slot_mem {e : Engine} (h : e ∈ d.engines) : e.slot ∈ d.registry.engines := List.mem_map_of_mem h

/-- Every slot of the registry is that of the engine its serial number finds. -/
theorem engine?_of_slot (hd : d.Distinct) {s : Engine.Slot} (hs : s ∈ d.registry.engines) :
    ∃ e, d.engine? s.id = some e ∧ e.slot = s := by
  obtain ⟨e, he, rfl⟩ := List.mem_map.1 hs
  cases found : d.engine? e.id with
  | none => exact absurd (List.find?_eq_none.1 found e he) (by simp)
  | some x => exact ⟨x, found, by rw [eq_of_engine? hd found he rfl]⟩

theorem fresh_of_pending {w : List Background} (P : d.registry.Pending w) :
    ∀ x ∈ d.engines, x.id < d.nextEngine :=
  fun x hx => (P.healthy x.slot (slot_mem hx)).below

/-- The serving engine of a key is a serving slot of that key. -/
theorem servingOf?_slot {key : EngineKey} {e : Engine} (h : d.servingOf? key = some e) :
    e.slot ∈ d.registry.engines ∧ e.phase = .serving ∧ e.key = key := by
  have found := List.find?_some h
  simp only [Bool.and_eq_true, beq_iff_eq] at found
  exact ⟨slot_mem (List.mem_of_find?_eq_some h), found⟩

theorem servingOf?_none {key : EngineKey} (h : d.servingOf? key = none) :
    ∀ s ∈ d.registry.engines, s.phase = .serving → s.key ≠ key := by
  rintro s hs serving rfl
  obtain ⟨e, he, rfl⟩ := List.mem_map.1 hs
  exact absurd (List.find?_eq_none.1 h e he) (by simpa [Engine.slot] using serving)

theorem unbound_of_lookup {tx : UInt64} (h : (d.clients.lookup tx).isSome = false) :
    ∀ c ∈ d.registry.clients, c.1 ≠ tx := by
  intro c hc same
  have none := List.lookup_eq_none_iff.1 (Option.eq_none_of_isNone (Option.isSome_eq_false_iff.1 h))
  simpa [same] using none c hc

/-- A start whose key no waiting call holds comes after no waiting start of its key. -/
theorem claims_of_keyBusy (hd : d.Distinct) {key : EngineKey} (h : d.keyBusy key = false) :
    ∀ a ∈ d.waiting, ¬ d.registry.Claims key a := by
  intro a ha claims
  have free := List.any_eq_false.1 h a ha
  cases a with
  | start tx eid input =>
    obtain ⟨s, hs, rfl, rfl⟩ := claims
    obtain ⟨e, found, rfl⟩ := engine?_of_slot hd hs
    have found' : d.engine? e.id = some e := found
    simp [found', Engine.slot] at free
  | stop => exact claims
  | queued tx k input =>
    cases claims
    simp at free

/-- What a transaction's lookup finds in a consistent registry: its serving engine, bound
to it. -/
theorem lookup_slot {w : List Background} (P : d.registry.Pending w) {tx : UInt64} {e : Engine}
    (h : d.lookup tx = .ok e) :
    e.slot ∈ d.registry.engines ∧ e.phase = .serving ∧ (tx, e.id) ∈ d.registry.clients := by
  have found := engine?_of_lookup h
  have he := (engine?_mem found).1
  unfold lookup at h
  split at h
  next e' bound =>
    cases h
    obtain ⟨eid, bound, found'⟩ := Option.bind_eq_some_iff.1 bound
    have mem := mem_of_lookup bound
    rw [← (engine?_mem found').2] at mem
    obtain ⟨s, hs, hid, serving⟩ := P.bound _ mem
    obtain ⟨x, hx, rfl⟩ := List.mem_map.1 hs
    rw [eq_of_engine? P.sound.nodup found hx hid] at serving
    exact ⟨slot_mem he, serving, mem⟩
  next => cases h

end Registry

section Lifecycle

variable {d d' : Dispatcher L} {tx : UInt64} {key : EngineKey} {input : Option Bytes}
  {pre post : List Background}

/-- A reserved start that ends without parking at the gate: the registry it leaves holds the
invariant for the other calls, and keeps the waiting list and the gate. -/
theorem pending_unparked {r : Registry} (reg : d'.registry = r) (P : r.Pending (pre ++ post))
    (waiting : r.waiting = d.waiting) (gate : r.gateOpen = d.gateOpen) :
    ∃ rest, d'.registry.Pending (pre ++ rest ++ post) ∧ d'.waiting = d.waiting ++ rest ∧
      d'.gateOpen = d.gateOpen ∧ (d.gateOpen = true → rest = []) := by
  refine ⟨[], ?_, ?_, ?_, fun _ => rfl⟩
  · rw [reg, List.append_nil]
    exact P
  · show d'.registry.waiting = _
    rw [reg, List.append_nil, waiting]
  · show d'.registry.gateOpen = _
    rw [reg, gate]

/-- Where a reserved start ends, the invariant holds with the start in place of its
reservation: bound to an engine or given up, or, behind the closed gate only, waiting for the
preparation of the engine it made. -/
theorem StartsReserved.pending {o : Option Lifecycle} (h : StartsReserved d tx key input o d')
    (P : d.registry.Pending (pre ++ .queued tx key input :: post))
    (first : ∀ a ∈ pre, ¬ d.registry.Claims key a) :
    ∃ rest, d'.registry.Pending (pre ++ rest ++ post) ∧ d'.waiting = d.waiting ++ rest ∧
      d'.gateOpen = d.gateOpen ∧ (d.gateOpen = true → rest = []) := by
  cases h with
  | @shared e o _ serving _ prepared =>
    obtain ⟨hs, hserving, -⟩ := servingOf?_slot serving
    cases o with
    | started out => exact pending_unparked prepared.2 (P.share hs hserving) rfl rfl
    | stopped => exact prepared.elim
    | failed err =>
      refine pending_unparked prepared.2 ?_ rfl rfl
      rw [if_neg Bool.false_ne_true]
      exact P.abandon
  | @sharedWaits e _ serving gated _ =>
    -- behind the closed gate no engine serves with a plugin that prepares only once it opens
    obtain ⟨hs, hserving, -⟩ := servingOf?_slot serving
    simp only [Bool.and_eq_true, Bool.not_eq_true'] at gated
    have ungated := (P.healthy e.slot hs).gate gated.2 hserving
    simp [Engine.slot, gated.1] at ungated
  | @unmade err d₁ _ _ created unreserved =>
    rw [created.2] at unreserved
    exact pending_unparked unreserved (P.advance created.1).abandon rfl rfl
  | @made e o d₁ _ serving fresh _ created gate prepared =>
    have P₁ : d₁.registry.Pending (pre ++ .start tx e.id input :: post) := by
      rw [created]
      exact P.create fresh (servingOf?_none serving) first
    have hs : e.slot ∈ d₁.registry.engines := by
      rw [created]
      exact List.mem_append_right _ (List.mem_singleton_self _)
    have gate₁ : d₁.registry.gateOpen = false → e.slot.gated = false := fun closed => by
      rw [created] at closed
      simpa [Engine.slot, show d.gateOpen = false from closed] using gate
    -- the engine made leaves the waiting list and the gate as they were
    have kept : d₁.registry.waiting = d.waiting ∧ d₁.registry.gateOpen = d.gateOpen := by
      rw [created]
      exact ⟨rfl, rfl⟩
    cases o with
    | started out => exact pending_unparked prepared.2 (P₁.bind hs gate₁) kept.1 kept.2
    | stopped => exact prepared.elim
    | failed err =>
      refine pending_unparked prepared.2 ?_ kept.1 kept.2
      rw [if_pos rfl]
      exact P₁.discard hs
  | @madeWaits e d₁ _ serving fresh _ created gated parked =>
    have P₁ : d₁.registry.Pending (pre ++ .start tx e.id input :: post) := by
      rw [created]
      exact P.create fresh (servingOf?_none serving) first
    refine ⟨[.start tx e.id input], ?_, ?_, ?_, fun opened => ?_⟩
    · rw [parked, List.append_assoc, List.singleton_append]
      exact P₁.withWaiting _
    · show d'.registry.waiting = _
      rw [parked, created]
      rfl
    · show d'.registry.gateOpen = _
      rw [parked, created]
      rfl
    · simp [opened] at gated

theorem preserves_startEngine (tx : UInt64) (key : EngineKey) (input : Option Bytes) :
    Preserves (startEngine (L := L) tx key input) := by
  intro d P
  have spec := startEngine_spec tx key input P.sound (fresh_of_pending P)
  generalize (startEngine tx key input).run d = p at spec ⊢
  obtain ⟨o, d'⟩ := p
  show Registry.Consistent d'.registry
  cases spec with
  | bound _ => exact P
  | starting _ _ => exact P
  | queued unbound starting _ reg =>
    rw [reg]
    exact (P.reserve (by simpa using starting : tx ∉ d.starting) (unbound_of_lookup unbound) key input).withWaiting _
  | reserved unbound starting free started =>
    obtain ⟨rest, P', waiting, -, -⟩ := started.pending
      (P.reserve (by simpa using starting : tx ∉ d.starting) (unbound_of_lookup unbound) key input)
      (claims_of_keyBusy P.sound.nodup free)
    show d'.registry.Pending d'.registry.waiting
    rw [show d'.registry.waiting = d.waiting ++ rest from waiting]
    rw [List.append_nil] at P'
    exact P'

theorem preserves_stopEngine (tx : UInt64) (input : Option Bytes) :
    Preserves (stopEngine (L := L) tx input) := by
  intro d P
  have spec := stopEngine_spec tx input P.sound
  generalize (stopEngine tx input).run d = p at spec ⊢
  obtain ⟨o, d'⟩ := p
  show Registry.Consistent d'.registry
  cases spec with
  | unbound _ reg =>
    rw [reg]
    exact P
  | refused _ _ reg =>
    rw [reg]
    exact P
  | released looked _ more reg =>
    obtain ⟨hs, serving, bound⟩ := lookup_slot P looked
    rw [reg]
    exact P.release hs serving bound more
  | destroyed looked _ last _ reg =>
    obtain ⟨hs, serving, bound⟩ := lookup_slot P looked
    rw [reg]
    exact P.destroy hs serving bound last
  | waits looked _ last _ reg =>
    obtain ⟨hs, serving, bound⟩ := lookup_slot P looked
    rw [reg]
    exact P.close hs serving bound last


theorem keeps_countLifecycle (op : String) (err : Option Failure) : Keeps (countLifecycle (L := L) op err) :=
  keeps_count _

theorem preserves_start (tx : UInt64) (key : EngineKey) (input : Option Bytes) :
    Preserves (start (L := L) tx key input) := by
  unfold start
  refine (preserves_startEngine tx key input).bind fun r => Keeps.preserves ?_
  split
  · exact (keeps_countLifecycle _ _).andThen (keeps_pure _)
  · exact keeps_pure _

theorem preserves_stop (tx : UInt64) (input : Option Bytes) : Preserves (stop (L := L) tx input) := by
  unfold stop
  refine (preserves_stopEngine tx input).bind fun r => Keeps.preserves ?_
  split
  · exact (keeps_countLifecycle _ _).andThen (keeps_pure _)
  · exact keeps_pure _

/-- Closing stops every bound transaction; dropping the futures and reporting keep the
registry. -/
theorem preserves_close : Preserves (close (L := L)) := by
  unfold close
  refine keeps_get.preserves.bind fun _ => (preserves_forIn fun tx err => ?_).bind fun err => Keeps.preserves ?_
  · refine (preserves_stopEngine tx none).bind fun o => Keeps.preserves ?_
    split
    · split <;> exact keeps_pure _
    · exact keeps_pure _
  · refine keeps_get.bind fun _ => ?_
    dsimp only
    refine (keeps_modify fun _ => ?_).andThen ?_
    · rfl
    split
    · refine (keeps_note _).andThen (keeps_get.bind fun _ => ?_)
      split <;> split <;> first | exact (keeps_note _).andThen (keeps_pure _) | exact keeps_pure _
    · refine keeps_get.bind fun _ => ?_
      split <;> split <;> first | exact (keeps_note _).andThen (keeps_pure _) | exact keeps_pure _

/-- The gate is open and the dispatcher, its own list of waiting calls emptied, is finishing
the calls `w` that waited. -/
def Draining (w : List Background) (d : Dispatcher L) : Prop :=
  d.registry.Pending w ∧ d.waiting = [] ∧ d.gateOpen = true

theorem Draining.consistent {d : Dispatcher L} (h : Draining [] d) : d.registry.Consistent := by
  unfold Registry.Consistent
  rw [show d.registry.waiting = [] from h.2.1]
  exact h.1

theorem Draining.keep {w : List Background} {d : Dispatcher L} {x : Act L α} (h : Draining w d) (hx : Keeps x) :
    Draining w (x.run d).2 := by
  have same := hx d h.1.sound
  refine ⟨same ▸ h.1, ?_, ?_⟩
  · exact (congrArg Registry.waiting same).trans h.2.1
  · exact (congrArg Registry.gateOpen same).trans h.2.2

/-- A registry step that leaves the waiting calls and the gate alone. -/
theorem Draining.step {w w' : List Background} {d d' : Dispatcher L} (h : Draining w d) {r : Registry}
    (reg : d'.registry = r) (P : r.Pending w') (waiting : r.waiting = d.registry.waiting)
    (gate : r.gateOpen = d.registry.gateOpen) : Draining w' d' :=
  ⟨reg ▸ P, (congrArg Registry.waiting reg).trans (waiting.trans h.2.1),
    (congrArg Registry.gateOpen reg).trans (gate.trans h.2.2)⟩

/-- Finishing the first of the calls that waited leaves the invariant of the rest. -/
theorem Draining.finish {b : Background} {rest : List Background} {d : Dispatcher L} (h : Draining (b :: rest) d) :
    Draining rest ((finishWaiting b).run d).2 := by
  have P := h.1
  cases b with
  | start tx eid input =>
    obtain ⟨-, z, hz, rfl, opening, -⟩ := P.waits _ (List.mem_cons_self ..)
    obtain ⟨e, found, rfl⟩ := engine?_of_slot P.sound.nodup hz
    have prepared := prepareOn_spec tx input true P.sound found fun _ =>
      (quiet_of_opening P.sound (engine?_mem found).1 opening).1
    rw [finishWaiting, run_bind]
    generalize (prepareOn tx e.slot.id input true).run d = p at prepared ⊢
    obtain ⟨o, d'⟩ := p
    refine Draining.keep ?_ ((keeps_countLifecycle _ _).andThen (keeps_pure _))
    have P₀ : d.registry.Pending ([] ++ .start tx e.slot.id input :: rest) := P
    have hs : e.slot ∈ d.registry.engines := slot_mem (engine?_mem found).1
    cases o with
    | started out =>
      have reg : d'.registry = _ := prepared.2
      exact h.step reg (P₀.bind hs fun closed => absurd (closed ▸ h.2.2 : false = true) (by decide)) rfl rfl
    | stopped => exact prepared.elim
    | failed err =>
      have reg : d'.registry = _ := prepared.2
      rw [if_pos rfl] at reg
      exact h.step reg (P₀.discard hs) rfl rfl
  | stop tx eid =>
    obtain ⟨z, hz, rfl, -⟩ := P.waits _ (List.mem_cons_self ..)
    obtain ⟨e, found, rfl⟩ := engine?_of_slot P.sound.nodup hz
    have P₀ : d.registry.Pending ([] ++ .stop tx e.slot.id :: rest) := P
    rw [finishWaiting, run_bind]
    refine Draining.keep ?_ ((keeps_countLifecycle _ _).andThen (keeps_pure _))
    exact h.step (registry_finishDestroy P.sound found) (P₀.finish (slot_mem (engine?_mem found).1)) rfl rfl
  | queued tx key input =>
    have P₀ : d.registry.Pending ([] ++ .queued tx key input :: rest) := P
    have spec := startReserved_spec tx key input P.sound (fresh_of_pending P)
    rw [finishWaiting, run_bind]
    generalize (startReserved tx key input).run d = p at spec ⊢
    obtain ⟨o, d'⟩ := p
    obtain ⟨more, P', waiting, gate, none⟩ := spec.pending P₀ fun a ha => absurd ha List.not_mem_nil
    rw [none h.2.2, List.append_nil, List.nil_append] at P'
    rw [none h.2.2, List.append_nil] at waiting
    refine Draining.keep ⟨P', waiting.trans h.2.1, gate.trans h.2.2⟩ ?_
    split
    · exact (keeps_countLifecycle _ _).andThen (keeps_pure _)
    · exact keeps_pure _

theorem Draining.finishAll {w : List Background} {d : Dispatcher L} (h : Draining w d) :
    Draining [] ((w.mapM finishWaiting).run d).2 := by
  induction w generalizing d with
  | nil => exact h
  | cons b rest ih =>
    rw [List.mapM_cons, run_bind, run_bind]
    exact ih h.finish

/-- Opening the gate: the gate opens and workers held at it finish, which keeps the
registry; then the waiting calls finish in order. -/
theorem preserves_openGate : Preserves (openGate (L := L)) := by
  intro d P
  have opened : ({ d with gateOpen := true } : Dispatcher L).registry.Consistent := P.openGate
  rw [openGate, run_bind, run_modify, run_bind, run_get]
  refine (keeps_forIn fun e _ => ?_).continue (Q := fun d' => d'.registry.Consistent) opened.sound
    fun _ d₂ released => ?_
  · split
    · exact (keeps_release e.id).andThen (keeps_pure _)
    · exact keeps_pure _
  · rw [run_bind, run_get]
    dsimp only
    rw [run_bind, run_modify, run_bind]
    have draining : Draining d₂.waiting { d₂ with waiting := [] } := by
      refine ⟨?_, rfl, (congrArg Registry.gateOpen released : d₂.gateOpen = true)⟩
      have P₂ : d₂.registry.Pending d₂.registry.waiting := released ▸ opened
      exact P₂.withWaiting []
    have done := draining.finishAll
    generalize (d₂.waiting.mapM finishWaiting).run { d₂ with waiting := [] } = p at done ⊢
    obtain ⟨results, d₄⟩ := p
    rw [run_bind, run_get, run_bind]
    exact (done.keep (keeps_workAll d₄.now)).consistent

end Lifecycle

end Dispatcher

end InferenceBroker
