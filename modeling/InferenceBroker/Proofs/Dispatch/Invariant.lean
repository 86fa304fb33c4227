import Mathlib.Data.Multiset.Filter
import InferenceBroker.Proofs.Dispatch.Lifecycle

/-!
# The registry invariant

What the engine manager keeps true of its registry between operations. Starts and stops may
wait at the gate, so the invariant `Registry.Pending r w` speaks of a registry and the calls
`w` still to finish, in launch order (while the gate opens, the dispatcher has emptied its
waiting list but not finished them); a registry is *consistent* when it holds of its own.
It covers slots (serial numbers below the next, a ready engine with a loaded plugin), keys
(one serving engine each), bindings (each transaction once, to a serving engine counting its
transactions, whose plugin remembers exactly them), resources (lent threads, queues and plugin
instances match the engines) and waiting calls (their reservations and engines, a start of a
key waiting behind an earlier one). Each composite step of the manager has its lemma below.
-/

namespace InferenceBroker

namespace Background

def engine? : Background → Option Nat
  | .start _ eid _ => some eid
  | .stop _ eid => some eid
  | .queued .. => none

def reserved? : Background → Option UInt64
  | .start tx _ _ => some tx
  | .stop .. => none
  | .queued tx _ _ => some tx

end Background

namespace Engine.Slot

/-- A slot the registry can hold, below the next serial number, under a gate open or not. -/
structure Healthy (s : Engine.Slot) (next : Nat) (gateOpen : Bool) : Prop where
  below : s.id < next
  ready : s.state = .ready
  loaded : s.unloaded = false
  quiet : s.quiet = true
  gate : gateOpen = false → s.phase = .serving → s.gated = false

theorem Healthy.serve {s : Engine.Slot} {n : Nat} {g : Bool} (h : s.Healthy n g) (tx : UInt64)
    (gate : g = false → s.gated = false) : (s.serve tx).Healthy n g :=
  ⟨h.below, h.ready, h.loaded, rfl, fun closed _ => gate closed⟩

theorem Healthy.release {s : Engine.Slot} {n : Nat} {g : Bool} (h : s.Healthy n g) (tx : UInt64) (refs : Nat) :
    (s.release tx refs s.phase).Healthy n g :=
  ⟨h.below, h.ready, h.loaded, rfl, h.gate⟩

theorem Healthy.mono {s : Engine.Slot} {n m : Nat} {g : Bool} (h : s.Healthy n g) (le : n ≤ m) : s.Healthy m g :=
  ⟨lt_of_lt_of_le h.below le, h.ready, h.loaded, h.quiet, h.gate⟩

/-- The slot's plugin, when it keeps a memory, remembers exactly its engine's transactions. -/
def Remembers (s : Engine.Slot) (clients : List (UInt64 × Nat)) : Prop :=
  ∀ l ∈ s.memory, ∀ t, t ∈ l ↔ (t, s.id) ∈ clients

section Remembers

variable {s y : Engine.Slot} {cl : List (UInt64 × Nat)} {tx : UInt64}

theorem mem_remember {l : List UInt64} {t : UInt64} : t ∈ Plugin.remember tx l ↔ t ∈ l ∨ t = tx := by
  unfold Plugin.remember
  split
  next has =>
    refine ⟨.inl, ?_⟩
    rintro (old | rfl)
    · exact old
    · simpa using has
  next => simp

theorem mem_forget {l : List UInt64} {t : UInt64} : t ∈ Plugin.forget tx l ↔ t ∈ l ∧ t ≠ tx := by
  simp [Plugin.forget]

theorem Remembers.serve (h : s.Remembers cl) : (s.serve tx).Remembers (cl ++ [(tx, s.id)]) := by
  intro l hl t
  obtain ⟨l₀, h₀, rfl⟩ := Option.mem_map.1 hl
  rw [mem_remember, h l₀ h₀ t, List.mem_append, List.mem_singleton, Prod.mk.injEq]
  simp

theorem Remembers.other (h : y.Remembers cl) (ne : y.id ≠ s.id) : y.Remembers (cl ++ [(tx, s.id)]) := by
  intro l hl t
  rw [h l hl t, List.mem_append, List.mem_singleton, Prod.mk.injEq]
  simp [ne]

theorem Remembers.release (h : s.Remembers cl) (refs : Nat) (phase : Phase) :
    (s.release tx refs phase).Remembers (cl.filter (·.1 != tx)) := by
  intro l hl t
  obtain ⟨l₀, h₀, rfl⟩ := Option.mem_map.1 hl
  rw [mem_forget, h l₀ h₀ t, List.mem_filter]
  simp [Engine.Slot.release]

theorem Remembers.unbind (h : y.Remembers cl) (txs : (cl.map (·.1)).Nodup) (bound : (tx, s.id) ∈ cl)
    (ne : y.id ≠ s.id) : y.Remembers (cl.filter (·.1 != tx)) := by
  intro l hl t
  rw [h l hl t, List.mem_filter]
  constructor
  · intro mem
    refine ⟨mem, bne_iff_ne.2 fun same => ne ?_⟩
    subst same
    exact congrArg Prod.snd (List.inj_on_of_nodup_map txs mem bound rfl)
  · exact fun mem => mem.1

theorem Remembers.fresh (h : ∀ l ∈ s.memory, l = []) (unbound : ∀ c ∈ cl, c.2 ≠ s.id) : s.Remembers cl := by
  intro l hl t
  rw [h l hl]
  exact ⟨fun none => absurd none List.not_mem_nil, fun mem => absurd rfl (unbound _ mem)⟩

end Remembers

end Engine.Slot

theorem Engine.Fresh.healthy {e : Engine} {key : EngineKey} {n : Nat} (h : e.Fresh key n) (g : Bool) :
    e.slot.Healthy (n + 1) g where
  below := h.id ▸ Nat.lt_succ_self n
  ready := h.state
  loaded := h.loaded
  quiet := h.quiet
  gate := fun _ serving => absurd (h.phase ▸ serving : Phase.opening = .serving) (by decide)

namespace Registry

/-- What a waiting call needs: a start waiting for its preparation holds its reservation and
an engine being started of a key none serves; a stop has its engine being taken down; a start
waiting behind another holds its reservation. -/
def Waits (r : Registry) : Background → Prop
  | .start tx eid _ => tx ∈ r.starting ∧ ∃ s ∈ r.engines, s.id = eid ∧ s.phase = .opening ∧
      ∀ s' ∈ r.engines, s'.phase = .serving → s'.key ≠ s.key
  | .stop _ eid => ∃ s ∈ r.engines, s.id = eid ∧ s.phase = .closing
  | .queued tx _ _ => tx ∈ r.starting

def Opens (r : Registry) (key : EngineKey) : Background → Prop
  | .start _ eid _ => ∃ s ∈ r.engines, s.id = eid ∧ s.key = key
  | _ => False

def Claims (r : Registry) (key : EngineKey) : Background → Prop
  | .start tx eid input => r.Opens key (.start tx eid input)
  | .stop .. => False
  | .queued _ k _ => k = key

/-- A call waiting after `b₁` starts no engine of a key `b₁` starts. -/
def Behind (r : Registry) (b₁ b₂ : Background) : Prop := ∀ key, r.Claims key b₁ → ¬ r.Opens key b₂

def lentThreads (l : Multiset Engine.Slot) : Multiset Nat :=
  Multiset.map (·.thread) (Multiset.filter (·.phase ≠ .closing) l)

/-- The registry invariant, of a registry and the starts and stops still to finish. -/
structure Pending (r : Registry) (w : List Background) : Prop where
  distinct : (r.engines.map (·.id)).Nodup
  healthy : ∀ s ∈ r.engines, s.Healthy r.nextEngine r.gateOpen
  serving : ∀ s ∈ r.engines, ∀ s' ∈ r.engines, s.phase = .serving → s'.phase = .serving → s.key = s'.key → s = s'
  txs : (r.clients.map (·.1)).Nodup
  bound : ∀ c ∈ r.clients, ∃ s ∈ r.engines, s.id = c.2 ∧ s.phase = .serving
  refs : ∀ s ∈ r.engines, s.refs = r.clients.countP (·.2 == s.id)
  live : ∀ s ∈ r.engines, s.phase = .serving → 0 < s.refs
  threads : r.threads = lentThreads ↑r.engines
  queues : r.queues = Multiset.map (·.queueId) (↑r.engines : Multiset Engine.Slot)
  instances : r.instances = r.engines.length
  starts : ∀ s ∈ r.engines, s.phase = .opening → ∃ tx input, .start tx s.id input ∈ w
  stops : ∀ s ∈ r.engines, s.phase = .closing → ∃ tx, .stop tx s.id ∈ w
  waits : ∀ b ∈ w, r.Waits b
  behind : w.Pairwise r.Behind
  perEngine : (w.filterMap Background.engine?).Nodup
  perTx : (w.filterMap Background.reserved?).Nodup
  reserved : ∀ tx ∈ r.starting, tx ∈ w.filterMap Background.reserved?
  unbound : ∀ tx ∈ r.starting, ∀ c ∈ r.clients, c.1 ≠ tx
  memory : ∀ s ∈ r.engines, s.Remembers r.clients

def Consistent (r : Registry) : Prop := r.Pending r.waiting

section Slots

variable {r : Registry} {t x y : Engine.Slot}

theorem mem_setSlot (h : y ∈ (r.setSlot t).engines) : y = t ∨ y ∈ r.engines ∧ y.id ≠ t.id := by
  obtain ⟨z, hz, rfl⟩ := List.mem_map.1 h
  by_cases same : z.id = t.id
  · simp [same]
  · simp [same, hz]

theorem mem_setSlot_of_ne (hy : y ∈ r.engines) (ne : y.id ≠ t.id) : y ∈ (r.setSlot t).engines :=
  List.mem_map.2 ⟨y, hy, by simp [ne]⟩

theorem mem_setSlot_self (hx : x ∈ r.engines) (same : x.id = t.id) : t ∈ (r.setSlot t).engines :=
  List.mem_map.2 ⟨x, hx, by simp [same]⟩

theorem forall_setSlot {p : Engine.Slot → Prop} (ht : p t) (rest : ∀ y ∈ r.engines, y.id ≠ t.id → p y) :
    ∀ y ∈ (r.setSlot t).engines, p y := by
  intro y hy
  rcases mem_setSlot hy with rfl | ⟨old, ne⟩
  · exact ht
  · exact rest y old ne

theorem nodup_setSlot (h : (r.engines.map (·.id)).Nodup) : ((r.setSlot t).engines.map (·.id)).Nodup :=
  (setSlot_ids r t).symm ▸ h

theorem id_ne_of_erase (distinct : (r.engines.map (·.id)).Nodup) (hx : x ∈ r.engines)
    (hy : y ∈ r.engines.erase x) : y.id ≠ x.id := by
  have nodup := ((List.perm_cons_erase hx).map (·.id)).nodup_iff.1 distinct
  rw [List.map_cons, List.nodup_cons] at nodup
  exact fun same => nodup.1 (same ▸ List.mem_map_of_mem hy)

theorem coe_setSlot (distinct : (r.engines.map (·.id)).Nodup) (hx : x ∈ r.engines) (same : x.id = t.id) :
    (↑(r.setSlot t).engines : Multiset Engine.Slot) = t ::ₘ (↑r.engines : Multiset Engine.Slot).erase x := by
  have perm := (List.perm_cons_erase hx).map fun z => if z.id == t.id then t else z
  rw [Multiset.coe_erase, Multiset.cons_coe]
  refine Multiset.coe_eq_coe.2 (perm.trans ?_)
  rw [List.map_cons, if_pos (by simpa using same)]
  refine List.Perm.cons _ (List.Perm.of_eq ?_)
  conv => rhs; rw [← List.map_id (r.engines.erase x)]
  refine List.map_congr_left fun z hz => ?_
  rw [if_neg (by simpa [← same] using id_ne_of_erase distinct hx hz)]
  rfl

theorem map_setSlot {β : Type} (f : Engine.Slot → β) (distinct : (r.engines.map (·.id)).Nodup)
    (hx : x ∈ r.engines) (same : x.id = t.id) (hf : f t = f x) :
    Multiset.map f ↑(r.setSlot t).engines = Multiset.map f ↑r.engines := by
  rw [coe_setSlot distinct hx same, Multiset.map_cons, hf, ← Multiset.map_cons, Multiset.cons_erase (by simpa using hx)]

theorem mem_drop {i : Nat} : y ∈ (r.drop i).engines ↔ y ∈ r.engines ∧ y.id ≠ i := by
  simp [drop]

theorem coe_drop (distinct : (r.engines.map (·.id)).Nodup) (hx : x ∈ r.engines) :
    (↑(r.drop x.id).engines : Multiset Engine.Slot) = (↑r.engines : Multiset Engine.Slot).erase x := by
  rw [Multiset.coe_erase]
  refine Multiset.coe_eq_coe.2 (((List.perm_cons_erase hx).filter _).trans ?_)
  rw [List.filter_cons_of_neg (by simp),
    List.filter_eq_self.2 fun z hz => by simpa using id_ne_of_erase distinct hx hz]

theorem lentThreads_cons_of_ne {M : Multiset Engine.Slot} (h : t.phase ≠ .closing) :
    lentThreads (t ::ₘ M) = t.thread ::ₘ lentThreads M := by
  unfold lentThreads
  rw [Multiset.filter_cons_of_pos (p := fun x : Engine.Slot => x.phase ≠ .closing) _ h, Multiset.map_cons]

theorem lentThreads_cons_closing {M : Multiset Engine.Slot} (h : t.phase = .closing) :
    lentThreads (t ::ₘ M) = lentThreads M := by
  unfold lentThreads
  rw [Multiset.filter_cons_of_neg (p := fun x : Engine.Slot => x.phase ≠ .closing) _ (not_not.2 h)]

theorem lentThreads_erase_running {M : Multiset Engine.Slot} (hx : x ∈ M) (running : x.phase ≠ .closing) :
    lentThreads (M.erase x) = (lentThreads M).erase x.thread := by
  conv => rhs; rw [← Multiset.cons_erase hx, lentThreads_cons_of_ne running, Multiset.erase_cons_head]

theorem lentThreads_erase_closing {M : Multiset Engine.Slot} (hx : x ∈ M) (closing : x.phase = .closing) :
    lentThreads (M.erase x) = lentThreads M := by
  conv => rhs; rw [← Multiset.cons_erase hx, lentThreads_cons_closing closing]

theorem lentThreads_setSlot (distinct : (r.engines.map (·.id)).Nodup) (hx : x ∈ r.engines) (same : x.id = t.id)
    (phase : t.phase = .closing ↔ x.phase = .closing) (thread : t.thread = x.thread) :
    lentThreads ↑(r.setSlot t).engines = lentThreads ↑r.engines := by
  rw [coe_setSlot distinct hx same]
  conv => rhs; rw [← Multiset.cons_erase (show x ∈ (↑r.engines : Multiset Engine.Slot) by simpa using hx)]
  by_cases closing : x.phase = .closing
  · rw [lentThreads_cons_closing (phase.2 closing), lentThreads_cons_closing closing]
  · rw [lentThreads_cons_of_ne (mt phase.1 closing), lentThreads_cons_of_ne closing, thread]

theorem mem_dismantle {s : Engine.Slot} : y ∈ (r.dismantle s).engines ↔ y ∈ r.engines ∧ y.id ≠ s.id :=
  mem_drop

theorem keyed_dismantle {s : Engine.Slot} :
    ∀ y ∈ (r.dismantle s).engines, ∃ z ∈ r.engines, z.id = y.id ∧ z.key = y.key :=
  fun y hy => ⟨y, (mem_dismantle.1 hy).1, rfl, rfl⟩

theorem nodup_dismantle {s : Engine.Slot} (h : (r.engines.map (·.id)).Nodup) :
    ((r.dismantle s).engines.map (·.id)).Nodup :=
  h.sublist (List.filter_sublist.map _)

theorem queues_dismantle {s : Engine.Slot} (distinct : (r.engines.map (·.id)).Nodup) (hs : s ∈ r.engines)
    (queues : r.queues = Multiset.map (fun x : Engine.Slot => x.queueId) ↑r.engines) :
    (r.dismantle s).queues = Multiset.map (fun x : Engine.Slot => x.queueId) ↑(r.dismantle s).engines := by
  show r.queues.erase s.queueId = Multiset.map (fun x : Engine.Slot => x.queueId) ↑(r.drop s.id).engines
  rw [coe_drop distinct hs, Multiset.map_erase_of_mem _ _ (by simpa using hs), queues]

theorem instances_dismantle {s : Engine.Slot} (distinct : (r.engines.map (·.id)).Nodup) (hs : s ∈ r.engines)
    (loaded : s.unloaded = false) (instances : r.instances = r.engines.length) :
    (r.dismantle s).instances = (r.dismantle s).engines.length := by
  show (if s.unloaded then r.instances else r.instances - 1) = (r.drop s.id).engines.length
  rw [loaded, if_neg Bool.false_ne_true, instances, ← Multiset.coe_card, ← Multiset.coe_card, coe_drop distinct hs,
    Multiset.card_erase_of_mem (by simpa using hs), Nat.pred_eq_sub_one]

theorem keyed_setSlot (hx : x ∈ r.engines) (same : x.id = t.id) (key : x.key = t.key) :
    ∀ y ∈ (r.setSlot t).engines, ∃ z ∈ r.engines, z.id = y.id ∧ z.key = y.key :=
  forall_setSlot ⟨x, hx, same, key⟩ fun y hy _ => ⟨y, hy, rfl, rfl⟩

theorem length_setSlot : (r.setSlot t).engines.length = r.engines.length := List.length_map ..

theorem serving_setSlot
    (uniq : ∀ s ∈ r.engines, ∀ s' ∈ r.engines, s.phase = .serving → s'.phase = .serving → s.key = s'.key → s = s')
    (alone : t.phase = .serving → ∀ y ∈ r.engines, y.id ≠ t.id → y.phase = .serving → y.key ≠ t.key) :
    ∀ s ∈ (r.setSlot t).engines, ∀ s' ∈ (r.setSlot t).engines, s.phase = .serving → s'.phase = .serving →
      s.key = s'.key → s = s' := by
  intro s hs s' hs' serving serving' same
  rcases mem_setSlot hs with rfl | ⟨old, ne⟩ <;> rcases mem_setSlot hs' with rfl | ⟨old', ne'⟩
  · rfl
  · exact absurd same.symm (alone serving s' old' ne' serving')
  · exact absurd same (alone serving' s old ne serving)
  · exact uniq s old s' old' serving serving' same

theorem bound_setSlot {cl : List (UInt64 × Nat)}
    (bound : ∀ c ∈ cl, ∃ y ∈ r.engines, y.id = c.2 ∧ y.phase = .serving)
    (keep : ∀ c ∈ cl, c.2 = t.id → t.phase = .serving) :
    ∀ c ∈ cl, ∃ y ∈ (r.setSlot t).engines, y.id = c.2 ∧ y.phase = .serving := by
  intro c hc
  obtain ⟨y, hy, hid, serving⟩ := bound c hc
  by_cases same : y.id = t.id
  · exact ⟨t, mem_setSlot_self hy same, same ▸ hid, keep c hc (hid ▸ same)⟩
  · exact ⟨y, mem_setSlot_of_ne hy same, hid, serving⟩

end Slots

section Clients

theorem filter_fst_eq_erase {l : List (UInt64 × Nat)} {tx : UInt64} {i : Nat} (txs : (l.map (·.1)).Nodup)
    (h : (tx, i) ∈ l) : l.filter (·.1 != tx) = l.erase (tx, i) := by
  induction l with
  | nil => cases h
  | cons c l ih =>
    rw [List.map_cons, List.nodup_cons] at txs
    by_cases hc : c = (tx, i)
    · subst hc
      rw [List.erase_cons_head, List.filter_cons_of_neg (by simp)]
      refine List.filter_eq_self.2 fun a ha => bne_iff_ne.2 fun same => txs.1 ?_
      have mem := List.mem_map_of_mem (f := fun c : UInt64 × Nat => c.1) ha
      rwa [same] at mem
    · have rest : (tx, i) ∈ l := (List.mem_cons.1 h).resolve_left (Ne.symm hc)
      have other : c.1 ≠ tx := fun same => txs.1 (same ▸ List.mem_map_of_mem (f := (·.1)) rest)
      rw [List.filter_cons_of_pos (by simpa using other), List.erase_cons_tail (by simpa using hc), ih txs.2 rest]

theorem countP_removeClient {l : List (UInt64 × Nat)} {tx : UInt64} {i : Nat} (txs : (l.map (·.1)).Nodup)
    (h : (tx, i) ∈ l) (j : Nat) :
    (l.filter (·.1 != tx)).countP (·.2 == j) = l.countP (·.2 == j) - if i = j then 1 else 0 := by
  rw [filter_fst_eq_erase txs h, List.countP_erase]
  by_cases same : i = j
  · subst same
    simp [h]
  · simp [same]

theorem txs_addClient {r : Registry} {tx : UInt64} (txs : (r.clients.map (·.1)).Nodup)
    (fresh : ∀ c ∈ r.clients, c.1 ≠ tx) (i : Nat) : ((r.clients ++ [(tx, i)]).map (·.1)).Nodup := by
  rw [List.map_append, List.nodup_append]
  refine ⟨txs, List.nodup_singleton _, fun a ha b hb => ?_⟩
  obtain ⟨c, hc, rfl⟩ := List.mem_map.1 ha
  rw [List.mem_singleton.1 hb]
  exact fresh c hc

end Clients

namespace Waits

variable {r r' : Registry} {b : Background}

theorem transfer (h : r.Waits b) (starting : ∀ tx, b.reserved? = some tx → tx ∈ r.starting → tx ∈ r'.starting)
    (engines : ∀ z ∈ r.engines, b.engine? = some z.id → z.phase ≠ .serving → z ∈ r'.engines)
    (serving : ∀ z ∈ r.engines, z.phase = .opening → r.Opens z.key b →
      (∀ s ∈ r.engines, s.phase = .serving → s.key ≠ z.key) → ∀ s ∈ r'.engines, s.phase = .serving → s.key ≠ z.key) :
    r'.Waits b := by
  cases b with
  | start tx eid input =>
    obtain ⟨reserved, z, hz, rfl, opening, alone⟩ := h
    exact ⟨starting tx rfl reserved, z, engines z hz rfl (by simp [opening]), rfl, opening,
      serving z hz opening ⟨z, hz, rfl, rfl⟩ alone⟩
  | stop tx eid =>
    obtain ⟨z, hz, rfl, closing⟩ := h
    exact ⟨z, engines z hz rfl (by simp [closing]), rfl, closing⟩
  | queued tx key input => exact starting tx rfl h

end Waits

theorem opens_mono {r r' : Registry} (keyed : ∀ y ∈ r'.engines, ∃ x ∈ r.engines, x.id = y.id ∧ x.key = y.key)
    {key : EngineKey} {b : Background} (h : r'.Opens key b) : r.Opens key b := by
  cases b with
  | start tx eid input =>
    obtain ⟨y, hy, rfl, rfl⟩ := h
    obtain ⟨x, hx, hid, hkey⟩ := keyed y hy
    exact ⟨x, hx, hid, hkey⟩
  | stop => exact h.elim
  | queued => exact h.elim

theorem Behind.mono {r r' : Registry} (keyed : ∀ y ∈ r'.engines, ∃ x ∈ r.engines, x.id = y.id ∧ x.key = y.key)
    {b₁ b₂ : Background} (h : r.Behind b₁ b₂) : r'.Behind b₁ b₂ := by
  intro key claims opens
  refine h key ?_ (opens_mono keyed opens)
  cases b₁ with
  | start tx eid input => exact opens_mono (b := .start tx eid input) keyed claims
  | stop => exact claims
  | queued => exact claims

theorem opens_create {r : Registry} {s : Engine.Slot} {k : EngineKey} {a : Background}
    (other : a.engine? ≠ some s.id) (h : (r.create s).Opens k a) : r.Opens k a := by
  cases a with
  | start tx eid input =>
    obtain ⟨z, hz, rfl, hk⟩ := h
    rcases List.mem_append.1 hz with old | new
    · exact ⟨z, old, rfl, hk⟩
    · rw [List.mem_singleton.1 new] at other
      exact absurd rfl other
  | stop => exact h.elim
  | queued => exact h.elim

theorem claims_create {r : Registry} {s : Engine.Slot} {k : EngineKey} {a : Background}
    (other : a.engine? ≠ some s.id) (h : (r.create s).Claims k a) : r.Claims k a := by
  cases a with
  | start tx eid input => exact opens_create (a := .start tx eid input) other h
  | stop => exact h
  | queued => exact h

theorem Behind.create {r : Registry} {s : Engine.Slot} {a₁ a₂ : Background} (h : r.Behind a₁ a₂)
    (h₁ : a₁.engine? ≠ some s.id) (h₂ : a₂.engine? ≠ some s.id) : (r.create s).Behind a₁ a₂ :=
  fun k claims opens => h k (claims_create h₁ claims) (opens_create h₂ opens)

theorem sublist_remove (pre post : List Background) (b : Background) : (pre ++ post).Sublist (pre ++ b :: post) :=
  (List.sublist_cons_self b post).append_left pre

theorem mem_remove {pre post : List Background} {a b : Background} (h : a ∈ pre ++ b :: post) (ne : a ≠ b) :
    a ∈ pre ++ post := by
  simp only [List.mem_append, List.mem_cons] at h ⊢
  rcases h with h | h | h
  · exact .inl h
  · exact absurd h ne
  · exact .inr h


namespace Pending

variable {r : Registry} {w : List Background}

theorem sound (P : r.Pending w) : r.Sound where
  distinct := P.distinct
  quiet := fun s hs => (P.healthy s hs).quiet
  bound := fun c hc =>
    let ⟨y, hy, hid, serving⟩ := P.bound c hc
    ⟨y, hy, hid, by rw [serving]; decide⟩

theorem engine_below (P : r.Pending w) {a : Background} (ha : a ∈ w) {i : Nat} (found : a.engine? = some i) :
    i < r.nextEngine := by
  have waits := P.waits a ha
  cases a with
  | start tx' eid input' =>
    obtain ⟨-, y, hy, rfl, -⟩ := waits
    cases found
    exact (P.healthy y hy).below
  | stop tx' eid =>
    obtain ⟨y, hy, rfl, -⟩ := waits
    cases found
    exact (P.healthy y hy).below
  | queued => cases found

theorem empty (n : Nat) (g : Bool) : (⟨[], [], [], 0, 0, 0, [], n, g⟩ : Registry).Pending [] where
  distinct := List.nodup_nil
  healthy := by simp
  serving := by simp
  txs := List.nodup_nil
  bound := by simp
  refs := by simp
  live := by simp
  threads := rfl
  queues := rfl
  instances := rfl
  starts := by simp
  stops := by simp
  waits := by simp
  behind := List.Pairwise.nil
  perEngine := List.nodup_nil
  perTx := List.nodup_nil
  reserved := by simp
  unbound := by simp
  memory := by simp

theorem starting_of_reserved (P : r.Pending w) {tx : UInt64} (h : tx ∈ w.filterMap Background.reserved?) :
    tx ∈ r.starting := by
  obtain ⟨b, hb, found⟩ := List.mem_filterMap.1 h
  have waits := P.waits b hb
  cases b with
  | start tx' eid input =>
    cases found
    exact waits.1
  | stop tx' eid => cases found
  | queued tx' key input =>
    cases found
    exact waits

variable {pre post : List Background} {b : Background} {tx : UInt64} {key : EngineKey} {input : Option Bytes}

theorem eq_of_id (P : r.Pending w) {x y : Engine.Slot} (hx : x ∈ r.engines) (hy : y ∈ r.engines)
    (same : x.id = y.id) : x = y :=
  List.inj_on_of_nodup_map P.distinct hx hy same

theorem other_of_nodup {β : Type} {f : Background → Option β} {v : β}
    (nodup : ((pre ++ b :: post).filterMap f).Nodup) (hb : f b = some v) {a : Background}
    (ha : a ∈ pre ++ post) : f a ≠ some v := by
  intro same
  rw [List.filterMap_append, List.filterMap_cons_some hb, List.nodup_middle, List.nodup_cons,
    ← List.filterMap_append] at nodup
  exact nodup.1 (List.mem_filterMap.2 ⟨a, ha, same⟩)

theorem starting_mid (P : r.Pending (pre ++ b :: post)) (hb : b.reserved? = some tx) : tx ∈ r.starting :=
  P.starting_of_reserved (List.mem_filterMap.2 ⟨b, List.mem_append_right _ (List.mem_cons_self ..), hb⟩)

theorem reserved_ne (P : r.Pending (pre ++ b :: post)) (hb : b.reserved? = some tx) {a : Background}
    (ha : a ∈ pre ++ post) : a.reserved? ≠ some tx :=
  other_of_nodup P.perTx hb ha

theorem reserved_remove (P : r.Pending (pre ++ b :: post)) {x : UInt64} (hx : x ∈ r.starting)
    (ne : b.reserved? ≠ some x) : x ∈ (pre ++ post).filterMap Background.reserved? := by
  obtain ⟨a, ha, found⟩ := List.mem_filterMap.1 (P.reserved x hx)
  exact List.mem_filterMap.2 ⟨a, mem_remove ha (by rintro rfl; exact ne found), found⟩

theorem not_serving (P : r.Pending w) {a : Background} (ha : a ∈ w) {z : Engine.Slot} (hz : z ∈ r.engines)
    (found : a.engine? = some z.id) : z.phase ≠ .serving := by
  have waits := P.waits a ha
  cases a with
  | start tx' eid input' =>
    obtain ⟨-, y, hy, rfl, opening, -⟩ := waits
    rw [P.eq_of_id hz hy (Option.some.inj found).symm, opening]
    decide
  | stop tx' eid =>
    obtain ⟨y, hy, rfl, closing⟩ := waits
    rw [P.eq_of_id hz hy (Option.some.inj found).symm, closing]
    decide
  | queued => cases found

theorem unserved (P : r.Pending w) {a : Background} (ha : a ∈ w) {k : EngineKey} (opens : r.Opens k a)
    {s : Engine.Slot} (hs : s ∈ r.engines) (serving : s.phase = .serving) : s.key ≠ k := by
  have waits := P.waits a ha
  cases a with
  | start tx' eid input' =>
    obtain ⟨z, hz, rfl, rfl⟩ := opens
    obtain ⟨-, y, hy, same, -, alone⟩ := waits
    rw [P.eq_of_id hz hy same.symm]
    exact alone s hs serving
  | stop => exact opens.elim
  | queued => exact opens.elim

theorem claims_of_opens {k : EngineKey} {a : Background} (h : r.Opens k a) : r.Claims k a := by
  cases a with
  | start => exact h
  | stop => exact h.elim
  | queued => exact h.elim

theorem opens_once (P : r.Pending (pre ++ b :: post)) {k : EngineKey} (hb : r.Opens k b) {a : Background}
    (ha : a ∈ pre ++ post) (opens : r.Opens k a) : False := by
  obtain ⟨-, later, before⟩ := List.pairwise_append.1 P.behind
  rcases List.mem_append.1 ha with ha | ha
  · exact before a ha b (List.mem_cons_self ..) k (claims_of_opens opens) hb
  · exact (List.pairwise_cons.1 later).1 a ha k (claims_of_opens hb) opens

/-- Binding the transaction reserved by `b` to `s`, which serves from then on alone for its
key, once `b` finished: `b` is about no engine but `s`, and no other call is about `s` or
starts an engine of its key. -/
theorem bindAt (P : r.Pending (pre ++ b :: post)) (hb : b.reserved? = some tx) {s : Engine.Slot}
    (hs : s ∈ r.engines) (running : s.phase ≠ .closing) (gate : r.gateOpen = false → s.gated = false)
    (alone : ∀ y ∈ r.engines, y.id ≠ s.id → y.phase = .serving → y.key ≠ s.key)
    (own : ∀ i, b.engine? = some i → i = s.id) (free : ∀ a ∈ pre ++ post, a.engine? ≠ some s.id)
    (apart : ∀ a ∈ pre ++ post, ¬ r.Opens s.key a) :
    (((r.setSlot (s.serve tx)).addClient tx s.id).unreserve tx).Pending (pre ++ post) where
  distinct := nodup_setSlot P.distinct
  healthy := forall_setSlot ((P.healthy s hs).serve tx gate) fun y hy _ => P.healthy y hy
  serving := serving_setSlot P.serving fun _ => alone
  txs := txs_addClient P.txs (fun c hc => P.unbound tx (P.starting_mid hb) c hc) s.id
  bound := by
    refine List.forall_mem_append.2 ⟨bound_setSlot P.bound fun _ _ _ => rfl, ?_⟩
    rw [List.forall_mem_singleton]
    exact ⟨s.serve tx, mem_setSlot_self hs rfl, rfl, rfl⟩
  refs := forall_setSlot (by simp [setSlot, unreserve, addClient, List.countP_append, Engine.Slot.serve, P.refs s hs])
    fun y hy ne => by simp [setSlot, unreserve, addClient, List.countP_append, P.refs y hy, (Ne.symm ne : s.id ≠ y.id)]
  live := forall_setSlot (fun _ => Nat.succ_pos _) fun y hy _ => P.live y hy
  threads := by
    show r.threads = lentThreads ↑(r.setSlot (s.serve tx)).engines
    rw [lentThreads_setSlot (t := s.serve tx) P.distinct hs rfl (by simp [Engine.Slot.serve, running]) rfl]
    exact P.threads
  queues := by
    show r.queues = Multiset.map (fun x : Engine.Slot => x.queueId) ↑(r.setSlot (s.serve tx)).engines
    rw [map_setSlot (t := s.serve tx) _ P.distinct hs rfl rfl]
    exact P.queues
  instances := length_setSlot.symm ▸ P.instances
  starts := forall_setSlot (fun opening => absurd opening (by simp [Engine.Slot.serve])) fun y hy ne opening =>
    let ⟨tx', input', mem⟩ := P.starts y hy opening
    ⟨tx', input', mem_remove mem fun same => ne (own y.id (by rw [← same]; rfl))⟩
  stops := forall_setSlot (fun closing => absurd closing (by simp [Engine.Slot.serve])) fun y hy ne closing =>
    let ⟨tx', mem⟩ := P.stops y hy closing
    ⟨tx', mem_remove mem fun same => ne (own y.id (by rw [← same]; rfl))⟩
  waits := fun a ha => (P.waits a ((sublist_remove pre post _).subset ha)).transfer
    (fun tx' reserved hx => List.mem_filter.2 ⟨hx, bne_iff_ne.2 fun same => P.reserved_ne hb ha (same ▸ reserved)⟩)
    (fun z hz found _ => mem_setSlot_of_ne hz fun same => free a ha (same ▸ found))
    (fun z _ _ opens alone' s' hs' serving' => by
      rcases mem_setSlot hs' with rfl | ⟨old, -⟩
      · exact fun same => apart a ha (same ▸ opens)
      · exact alone' s' old serving')
  behind := by
    refine (P.behind.sublist (sublist_remove pre post _)).imp fun h => Behind.mono ?_ h
    exact keyed_setSlot hs rfl rfl
  perEngine := P.perEngine.sublist ((sublist_remove pre post _).filterMap _)
  perTx := P.perTx.sublist ((sublist_remove pre post _).filterMap _)
  reserved := fun x hx => P.reserved_remove (List.mem_of_mem_filter hx) fun same => by
    rw [hb] at same
    cases same
    simp [unreserve] at hx
  unbound := fun x hx c hc => by
    rcases List.mem_append.1 hc with old | new
    · exact P.unbound x (List.mem_of_mem_filter hx) c old
    · rw [List.mem_singleton.1 new]
      exact fun same => by simp [unreserve, ← same] at hx
  memory := forall_setSlot (p := fun y => y.Remembers (r.clients ++ [(tx, s.id)])) (P.memory s hs).serve
    fun y hy ne => (P.memory y hy).other ne

/-- Binding the transaction of a start waiting behind another to its key's serving engine. -/
theorem share (P : r.Pending (pre ++ .queued tx key input :: post)) {s : Engine.Slot} (hs : s ∈ r.engines)
    (serving : s.phase = .serving) :
    (((r.setSlot (s.serve tx)).addClient tx s.id).unreserve tx).Pending (pre ++ post) := by
  refine P.bindAt rfl hs (by simp [serving]) (fun closed => (P.healthy s hs).gate closed serving) ?_
    (fun _ none => by cases none) (fun a ha found => ?_) (fun a ha opens => ?_)
  · intro y hy ne serving' same
    exact ne (congrArg Engine.Slot.id (P.serving y hy s hs serving' serving same))
  · exact P.not_serving ((sublist_remove pre post _).subset ha) hs found serving
  · exact P.unserved ((sublist_remove pre post _).subset ha) opens hs serving rfl

/-- Binding the transaction of a start waiting for its preparation to its engine. -/
theorem bind (P : r.Pending (pre ++ .start tx s.id input :: post)) (hs : s ∈ r.engines)
    (gate : r.gateOpen = false → s.gated = false) :
    (((r.setSlot (s.serve tx)).addClient tx s.id).unreserve tx).Pending (pre ++ post) := by
  obtain ⟨-, z, hz, same, opening, alone⟩ := P.waits _ (List.mem_append_right _ (List.mem_cons_self ..))
  rw [P.eq_of_id hz hs same] at opening alone
  refine P.bindAt rfl hs (by simp [opening]) gate (fun y hy _ => alone y hy) (fun i found => ?_)
    (fun a ha => other_of_nodup P.perEngine rfl ha) (fun a ha => P.opens_once ⟨s, hs, rfl, rfl⟩ ha)
  cases found
  rfl

/-- Making the engine of a start waiting behind others, of a key none serves or starts before
it: the start then waits in place for its preparation. -/
theorem create (P : r.Pending (pre ++ .queued tx key input :: post)) {e : Engine}
    (fresh : e.Fresh key r.nextEngine) (unserved : ∀ y ∈ r.engines, y.phase = .serving → y.key ≠ key)
    (first : ∀ a ∈ pre, ¬ r.Claims key a) :
    (r.create e.slot).Pending (pre ++ .start tx e.id input :: post) := by
  have older : ∀ y ∈ r.engines, y.id ≠ e.id := fun y hy same =>
    Nat.lt_irrefl _ (fresh.id ▸ same ▸ (P.healthy y hy).below)
  -- the calls already waiting are about older engines
  have aged : ∀ a ∈ pre ++ post, a.engine? ≠ some e.id := fun a ha found =>
    Nat.lt_irrefl _ (fresh.id ▸ P.engine_below ((sublist_remove pre post _).subset ha) found)
  have opening : e.slot.phase = .opening := fresh.phase
  have idle : e.slot.phase ≠ .serving := by rw [opening]; decide
  have unclosed : e.slot.phase ≠ .closing := by rw [opening]; decide
  have new : ∀ y ∈ r.engines ++ [e.slot], y = e.slot ∨ y ∈ r.engines := fun y hy =>
    (List.mem_append.1 hy).symm.imp List.mem_singleton.1 id
  have moved : ∀ a ∈ pre ++ .queued tx key input :: post, a ≠ .queued tx key input →
      a ∈ pre ++ .start tx e.id input :: post := fun a ha ne =>
    (sublist_remove pre post _).subset (mem_remove ha ne)
  exact {
    distinct := (P.sound.create older fresh.quiet).distinct
    healthy := List.forall_mem_append.2 ⟨fun y hy => (P.healthy y hy).mono (Nat.le_succ _),
      List.forall_mem_singleton.2 (fresh.healthy _)⟩
    serving := fun s hs s' hs' serving serving' same => by
      rcases new s hs with rfl | old <;> rcases new s' hs' with rfl | old'
      · rfl
      · exact absurd serving idle
      · exact absurd serving' idle
      · exact P.serving s old s' old' serving serving' same
    txs := P.txs
    bound := fun c hc =>
      let ⟨y, hy, hid, serving⟩ := P.bound c hc
      ⟨y, List.mem_append_left _ hy, hid, serving⟩
    refs := List.forall_mem_append.2 ⟨P.refs, List.forall_mem_singleton.2 (by
      rw [show e.slot.refs = 0 from fresh.refs, eq_comm, List.countP_eq_zero]
      intro c hc same
      obtain ⟨y, hy, hid, -⟩ := P.bound c hc
      exact older y hy (hid.trans (beq_iff_eq.1 same)))⟩
    live := List.forall_mem_append.2 ⟨P.live, List.forall_mem_singleton.2 fun serving =>
      absurd serving idle⟩
    threads := by
      show e.slot.thread ::ₘ r.threads = lentThreads ↑(r.engines ++ [e.slot])
      rw [lend_coe, lentThreads_cons_of_ne unclosed, P.threads]
    queues := by
      show e.slot.queueId ::ₘ r.queues = Multiset.map (fun x : Engine.Slot => x.queueId) ↑(r.engines ++ [e.slot])
      rw [lend_coe, Multiset.map_cons, P.queues]
    instances := by
      show r.instances + 1 = (r.engines ++ [e.slot]).length
      rw [List.length_append, P.instances, List.length_singleton]
    starts := List.forall_mem_append.2 ⟨fun y hy opening' =>
      let ⟨tx', input', mem⟩ := P.starts y hy opening'
      ⟨tx', input', moved _ mem (by simp)⟩,
      List.forall_mem_singleton.2 fun _ => ⟨tx, input, List.mem_append_right _ (List.mem_cons_self ..)⟩⟩
    stops := List.forall_mem_append.2 ⟨fun y hy closing =>
      let ⟨tx', mem⟩ := P.stops y hy closing
      ⟨tx', moved _ mem (by simp)⟩,
      List.forall_mem_singleton.2 fun closing => absurd closing unclosed⟩
    waits := fun a ha => by
      by_cases isNew : a = .start tx e.id input
      · subst isNew
        refine ⟨P.starting_mid rfl, e.slot, List.mem_append_right _ (List.mem_singleton_self _), rfl, opening, ?_⟩
        intro s' hs' serving'
        rcases new s' hs' with rfl | old
        · exact absurd serving' idle
        · rw [show e.slot.key = key from fresh.key]
          exact unserved s' old serving'
      · refine (P.waits a ((sublist_remove pre post _).subset (mem_remove ha isNew))).transfer (fun _ _ h => h)
          (fun z hz _ _ => List.mem_append_left _ hz) fun _ _ _ _ alone s' hs' serving' => ?_
        rcases new s' hs' with rfl | old
        · exact absurd serving' idle
        · exact alone s' old serving'
    behind := by
      have key_of : ∀ k, (r.create e.slot).Opens k (.start tx e.id input) → k = key := by
        rintro k ⟨z, hz, same, rfl⟩
        rcases new z hz with rfl | old
        · exact fresh.key
        · exact absurd same (older z old)
      have aged₁ : ∀ a ∈ pre, a.engine? ≠ some e.id := fun a ha => aged a (List.mem_append_left _ ha)
      have aged₂ : ∀ a ∈ post, a.engine? ≠ some e.id := fun a ha => aged a (List.mem_append_right _ ha)
      obtain ⟨early, later, across⟩ := List.pairwise_append.1 P.behind
      obtain ⟨behindNew, late⟩ := List.pairwise_cons.1 later
      -- older calls keep their order; the new start comes after the starts of its key, as its
      -- reservation did
      refine List.pairwise_append.2 ⟨early.imp_of_mem fun ha hb h => h.create (aged₁ _ ha) (aged₁ _ hb),
        List.pairwise_cons.2 ⟨fun y hy k claims opens => ?_, late.imp_of_mem fun ha hb h =>
          h.create (aged₂ _ ha) (aged₂ _ hb)⟩, fun x hx y hy => ?_⟩
      · rw [key_of k claims] at opens
        exact behindNew y hy key rfl (opens_create (aged₂ y hy) opens)
      · rcases List.mem_cons.1 hy with rfl | hy
        · exact fun k claims opens => first x hx (key_of k opens ▸ claims_create (aged₁ x hx) claims)
        · exact (across x hx y (List.mem_cons_of_mem _ hy)).create (aged₁ x hx) (aged₂ y hy)
    perEngine := by
      have nodup := P.perEngine
      rw [List.filterMap_append, List.filterMap_cons_none (f := Background.engine?) rfl,
        ← List.filterMap_append] at nodup
      rw [List.filterMap_append, List.filterMap_cons_some (f := Background.engine?) rfl, List.nodup_middle,
        List.nodup_cons, ← List.filterMap_append]
      exact ⟨fun mem => let ⟨a, ha, found⟩ := List.mem_filterMap.1 mem; aged a ha found, nodup⟩
    perTx := by simpa only [List.filterMap_append, List.filterMap_cons, Background.reserved?] using P.perTx
    reserved := fun x hx => by
      simpa only [List.filterMap_append, List.filterMap_cons, Background.reserved?] using P.reserved x hx
    unbound := P.unbound
    memory := List.forall_mem_append.2 ⟨P.memory, List.forall_mem_singleton.2 (.fresh fresh.memory fun c hc same =>
      let ⟨y, hy, hid, _⟩ := P.bound c hc
      older y hy (hid.trans same))⟩ }

/-- Giving up a start waiting for its preparation: its engine is taken apart. -/
theorem discard {s : Engine.Slot} (P : r.Pending (pre ++ .start tx s.id input :: post)) (hs : s ∈ r.engines) :
    (((r.returnThread s.thread).dismantle s).unreserve tx).Pending (pre ++ post) := by
  obtain ⟨-, z, hz, same, opening, -⟩ := P.waits _ (List.mem_append_right _ (List.mem_cons_self ..))
  rw [P.eq_of_id hz hs same] at opening
  have ownEntry : ∀ y ∈ r.engines, y.id ≠ s.id → ∀ a : Background, a.engine? = some y.id →
      a ≠ .start tx s.id input := fun y _ ne a found isEntry => ne (by subst isEntry; exact (Option.some.inj found).symm)
  exact {
    distinct := nodup_dismantle P.distinct
    healthy := fun y hy => P.healthy y (mem_dismantle.1 hy).1
    serving := fun y hy y' hy' => P.serving y (mem_dismantle.1 hy).1 y' (mem_dismantle.1 hy').1
    txs := P.txs
    bound := fun c hc =>
      let ⟨y, hy, hid, serving⟩ := P.bound c hc
      ⟨y, mem_dismantle.2 ⟨hy, fun same => by rw [P.eq_of_id hy hs same, opening] at serving; cases serving⟩, hid,
        serving⟩
    refs := fun y hy => P.refs y (mem_dismantle.1 hy).1
    live := fun y hy => P.live y (mem_dismantle.1 hy).1
    threads := by
      show r.threads.erase s.thread = lentThreads ↑(r.drop s.id).engines
      rw [coe_drop P.distinct hs, lentThreads_erase_running (by simpa using hs) (by rw [opening]; decide), P.threads]
    queues := queues_dismantle (r := r.returnThread s.thread) P.distinct hs P.queues
    instances := instances_dismantle (r := r.returnThread s.thread) P.distinct hs (P.healthy s hs).loaded P.instances
    starts := fun y hy opening' =>
      let ⟨tx', input', mem⟩ := P.starts y (mem_dismantle.1 hy).1 opening'
      ⟨tx', input', mem_remove mem (ownEntry y (mem_dismantle.1 hy).1 (mem_dismantle.1 hy).2 _ rfl)⟩
    stops := fun y hy closing =>
      let ⟨tx', mem⟩ := P.stops y (mem_dismantle.1 hy).1 closing
      ⟨tx', mem_remove mem (ownEntry y (mem_dismantle.1 hy).1 (mem_dismantle.1 hy).2 _ rfl)⟩
    waits := fun a ha => (P.waits a ((sublist_remove pre post _).subset ha)).transfer
      (fun tx' reserved hx => List.mem_filter.2 ⟨hx, bne_iff_ne.2 fun same => P.reserved_ne rfl ha (same ▸ reserved)⟩)
      (fun z hz found _ => mem_dismantle.2 ⟨hz, fun same => other_of_nodup P.perEngine rfl ha (same ▸ found)⟩)
      (fun _ _ _ _ alone s' hs' => alone s' (mem_dismantle.1 hs').1)
    behind := (P.behind.sublist (sublist_remove pre post _)).imp fun h => Behind.mono keyed_dismantle h
    perEngine := P.perEngine.sublist ((sublist_remove pre post _).filterMap _)
    perTx := P.perTx.sublist ((sublist_remove pre post _).filterMap _)
    reserved := fun x hx => P.reserved_remove (List.mem_of_mem_filter hx) fun same => by
      cases same
      simp [unreserve] at hx
    unbound := fun x hx => P.unbound x (List.mem_of_mem_filter hx)
    memory := fun y hy => P.memory y (mem_dismantle.1 hy).1 }

/-- Finishing a stop that waited at the gate: its engine is taken apart. -/
theorem finish {s : Engine.Slot} (P : r.Pending (pre ++ .stop tx s.id :: post)) (hs : s ∈ r.engines) :
    (r.dismantle s).Pending (pre ++ post) := by
  obtain ⟨z, hz, same, closing⟩ := P.waits _ (List.mem_append_right _ (List.mem_cons_self ..))
  rw [P.eq_of_id hz hs same] at closing
  have ownEntry : ∀ y ∈ r.engines, y.id ≠ s.id → ∀ a : Background, a.engine? = some y.id →
      a ≠ .stop tx s.id := fun y _ ne a found isEntry => ne (by subst isEntry; exact (Option.some.inj found).symm)
  exact {
    distinct := nodup_dismantle P.distinct
    healthy := fun y hy => P.healthy y (mem_dismantle.1 hy).1
    serving := fun y hy y' hy' => P.serving y (mem_dismantle.1 hy).1 y' (mem_dismantle.1 hy').1
    txs := P.txs
    bound := fun c hc =>
      let ⟨y, hy, hid, serving⟩ := P.bound c hc
      ⟨y, mem_dismantle.2 ⟨hy, fun same => by rw [P.eq_of_id hy hs same, closing] at serving; cases serving⟩, hid,
        serving⟩
    refs := fun y hy => P.refs y (mem_dismantle.1 hy).1
    live := fun y hy => P.live y (mem_dismantle.1 hy).1
    threads := by
      show r.threads = lentThreads ↑(r.drop s.id).engines
      rw [coe_drop P.distinct hs, lentThreads_erase_closing (by simpa using hs) closing, P.threads]
    queues := queues_dismantle P.distinct hs P.queues
    instances := instances_dismantle P.distinct hs (P.healthy s hs).loaded P.instances
    starts := fun y hy opening =>
      let ⟨tx', input', mem⟩ := P.starts y (mem_dismantle.1 hy).1 opening
      ⟨tx', input', mem_remove mem (ownEntry y (mem_dismantle.1 hy).1 (mem_dismantle.1 hy).2 _ rfl)⟩
    stops := fun y hy closing' =>
      let ⟨tx', mem⟩ := P.stops y (mem_dismantle.1 hy).1 closing'
      ⟨tx', mem_remove mem (ownEntry y (mem_dismantle.1 hy).1 (mem_dismantle.1 hy).2 _ rfl)⟩
    waits := fun a ha => (P.waits a ((sublist_remove pre post _).subset ha)).transfer (fun _ _ h => h)
      (fun z hz found _ => mem_dismantle.2 ⟨hz, fun same => other_of_nodup P.perEngine rfl ha (same ▸ found)⟩)
      (fun _ _ _ _ alone s' hs' => alone s' (mem_dismantle.1 hs').1)
    behind := (P.behind.sublist (sublist_remove pre post _)).imp fun h => Behind.mono keyed_dismantle h
    perEngine := P.perEngine.sublist ((sublist_remove pre post _).filterMap _)
    perTx := P.perTx.sublist ((sublist_remove pre post _).filterMap _)
    reserved := fun x hx => P.reserved_remove hx (by simp [Background.reserved?])
    unbound := P.unbound
    memory := fun y hy => P.memory y (mem_dismantle.1 hy).1 }

/-- Giving up a start waiting behind another. -/
theorem abandon (P : r.Pending (pre ++ .queued tx key input :: post)) : (r.unreserve tx).Pending (pre ++ post) :=
  { P with
    starts := fun y hy opening =>
      let ⟨tx', input', mem⟩ := P.starts y hy opening
      ⟨tx', input', mem_remove mem (by simp)⟩
    stops := fun y hy closing =>
      let ⟨tx', mem⟩ := P.stops y hy closing
      ⟨tx', mem_remove mem (by simp)⟩
    waits := fun a ha => (P.waits a ((sublist_remove pre post _).subset ha)).transfer
      (fun tx' reserved hx => List.mem_filter.2 ⟨hx, bne_iff_ne.2 fun same => P.reserved_ne rfl ha (same ▸ reserved)⟩)
      (fun z hz _ _ => hz) (fun _ _ _ _ alone => alone)
    behind := P.behind.sublist (sublist_remove pre post _)
    perEngine := P.perEngine.sublist ((sublist_remove pre post _).filterMap _)
    perTx := P.perTx.sublist ((sublist_remove pre post _).filterMap _)
    reserved := fun x hx => P.reserved_remove (List.mem_of_mem_filter hx) fun same => by
      cases same
      simp [unreserve] at hx
    unbound := fun x hx => P.unbound x (List.mem_of_mem_filter hx) }

/-- Serial numbers spent on engines that were not made. -/
theorem advance (P : r.Pending w) {n : Nat} (le : r.nextEngine ≤ n) : { r with nextEngine := n }.Pending w :=
  { P with healthy := fun s hs => (P.healthy s hs).mono le }

theorem openGate (P : r.Pending w) : { r with gateOpen := true }.Pending w :=
  { P with healthy := fun s hs => { P.healthy s hs with gate := fun closed => by cases closed } }

theorem withWaiting (P : r.Pending w) (x : List Background) : { r with waiting := x }.Pending w := { P with }

/-- Unbinding a transaction from a serving engine that keeps others. -/
theorem release {s : Engine.Slot} (P : r.Pending w) (hs : s ∈ r.engines) (serving : s.phase = .serving)
    (bound : (tx, s.id) ∈ r.clients) (more : s.refs - 1 ≠ 0) :
    ((r.setSlot (s.release tx (s.refs - 1) s.phase)).removeClient tx).Pending w where
  distinct := nodup_setSlot P.distinct
  healthy := forall_setSlot ((P.healthy s hs).release tx _) fun y hy _ => P.healthy y hy
  serving := serving_setSlot P.serving fun _ y hy ne serving' same =>
    ne (by rw [P.serving y hy s hs serving' serving same, Engine.Slot.id_release])
  txs := P.txs.sublist (List.filter_sublist.map _)
  bound := bound_setSlot (fun c hc => P.bound c (List.mem_of_mem_filter hc)) fun _ _ _ => serving
  refs := forall_setSlot (by
      simp [removeClient, setSlot, Engine.Slot.release, countP_removeClient P.txs bound, P.refs s hs])
    fun y hy ne => by
      simp [removeClient, setSlot, countP_removeClient P.txs bound, P.refs y hy, (Ne.symm ne : s.id ≠ y.id)]
  live := forall_setSlot (fun _ => Nat.pos_of_ne_zero more) fun y hy _ => P.live y hy
  threads := by
    show r.threads = lentThreads ↑(r.setSlot (s.release tx (s.refs - 1) s.phase)).engines
    rw [lentThreads_setSlot (t := s.release tx (s.refs - 1) s.phase) P.distinct hs rfl Iff.rfl rfl]
    exact P.threads
  queues := by
    show r.queues = Multiset.map (fun x : Engine.Slot => x.queueId) ↑(r.setSlot (s.release tx (s.refs - 1) s.phase)).engines
    rw [map_setSlot (t := s.release tx (s.refs - 1) s.phase) _ P.distinct hs rfl rfl]
    exact P.queues
  instances := length_setSlot.symm ▸ P.instances
  starts := forall_setSlot (fun opening => absurd (serving ▸ opening : Phase.serving = .opening) (by decide))
    fun y hy _ => P.starts y hy
  stops := forall_setSlot (fun closing => absurd (serving ▸ closing : Phase.serving = .closing) (by decide))
    fun y hy _ => P.stops y hy
  waits := fun a ha => (P.waits a ha).transfer (fun _ _ h => h)
    (fun z hz _ other => mem_setSlot_of_ne hz fun same => other (P.eq_of_id hz hs same ▸ serving))
    (fun _ _ _ _ alone s' hs' serving' => by
      rcases mem_setSlot hs' with rfl | ⟨old, -⟩
      · exact alone s hs serving
      · exact alone s' old serving')
  behind := by
    refine P.behind.imp fun h => Behind.mono ?_ h
    exact keyed_setSlot hs rfl rfl
  perEngine := P.perEngine
  perTx := P.perTx
  reserved := P.reserved
  unbound := fun x hx c hc => P.unbound x hx c (List.mem_of_mem_filter hc)
  memory := forall_setSlot (p := fun y => y.Remembers (r.clients.filter (·.1 != tx))) ((P.memory s hs).release _ _)
    fun y hy ne => (P.memory y hy).unbind P.txs bound ne

theorem others_unbound {s : Engine.Slot} (P : r.Pending w) (hs : s ∈ r.engines) (bound : (tx, s.id) ∈ r.clients)
    (last : s.refs - 1 = 0) : ∀ c ∈ r.clients.filter (·.1 != tx), c.2 ≠ s.id := by
  have none := countP_removeClient P.txs bound s.id
  rw [if_pos rfl, ← P.refs s hs, last, List.countP_eq_zero] at none
  exact fun c hc same => none c hc (by simp [same])

/-- Unbinding the last transaction of an idle engine: it is taken down at once. -/
theorem destroy {s : Engine.Slot} (P : r.Pending w) (hs : s ∈ r.engines) (serving : s.phase = .serving)
    (bound : (tx, s.id) ∈ r.clients) (last : s.refs - 1 = 0) :
    (((r.removeClient tx).returnThread s.thread).dismantle s).Pending w where
  distinct := nodup_dismantle P.distinct
  healthy := fun y hy => P.healthy y (mem_dismantle.1 hy).1
  serving := fun y hy y' hy' => P.serving y (mem_dismantle.1 hy).1 y' (mem_dismantle.1 hy').1
  txs := P.txs.sublist (List.filter_sublist.map _)
  bound := fun c hc =>
    let ⟨y, hy, hid, serving'⟩ := P.bound c (List.mem_of_mem_filter hc)
    ⟨y, mem_dismantle.2 ⟨hy, fun same => P.others_unbound hs bound last c hc (hid ▸ same)⟩, hid, serving'⟩
  refs := fun y hy => by
    obtain ⟨old, ne⟩ := mem_dismantle.1 hy
    show y.refs = (r.clients.filter (·.1 != tx)).countP (·.2 == y.id)
    rw [countP_removeClient P.txs bound, if_neg (Ne.symm ne), Nat.sub_zero, P.refs y old]
  live := fun y hy => P.live y (mem_dismantle.1 hy).1
  threads := by
    show r.threads.erase s.thread = lentThreads ↑(r.drop s.id).engines
    rw [coe_drop P.distinct hs, lentThreads_erase_running (by simpa using hs) (by rw [serving]; decide), P.threads]
  queues := queues_dismantle (r := (r.removeClient tx).returnThread s.thread) P.distinct hs P.queues
  instances := instances_dismantle (r := (r.removeClient tx).returnThread s.thread) P.distinct hs
    (P.healthy s hs).loaded P.instances
  starts := fun y hy => P.starts y (mem_dismantle.1 hy).1
  stops := fun y hy => P.stops y (mem_dismantle.1 hy).1
  waits := fun a ha => (P.waits a ha).transfer (fun _ _ h => h)
    (fun z hz _ other => mem_dismantle.2 ⟨hz, fun same => other (P.eq_of_id hz hs same ▸ serving)⟩)
    (fun _ _ _ _ alone s' hs' => alone s' (mem_dismantle.1 hs').1)
  behind := P.behind.imp fun h => Behind.mono keyed_dismantle h
  perEngine := P.perEngine
  perTx := P.perTx
  reserved := P.reserved
  unbound := fun x hx c hc => P.unbound x hx c (List.mem_of_mem_filter hc)
  memory := fun y hy => (P.memory y (mem_dismantle.1 hy).1).unbind P.txs bound (mem_dismantle.1 hy).2

/-- Unbinding the last transaction of an engine held at the gate: it is being taken down,
its thread goes back, and the stop waits for the gate. -/
theorem close {s : Engine.Slot} (P : r.Pending w) (hs : s ∈ r.engines) (serving : s.phase = .serving)
    (bound : (tx, s.id) ∈ r.clients) (last : s.refs - 1 = 0) :
    ((((r.setSlot (s.release tx 0 .closing)).removeClient tx).returnThread
      s.thread).park (.stop tx s.id)).Pending (w ++ [.stop tx s.id]) := by
  have closing : (s.release tx 0 .closing).phase = .closing := rfl
  exact {
    distinct := nodup_setSlot P.distinct
    healthy := forall_setSlot (let h := P.healthy s hs; ⟨h.below, h.ready, h.loaded, rfl,
      fun _ serving' => absurd serving' (by rw [closing]; decide)⟩) fun y hy _ => P.healthy y hy
    serving := serving_setSlot P.serving fun serving' => absurd serving' (by rw [closing]; decide)
    txs := P.txs.sublist (List.filter_sublist.map _)
    bound := bound_setSlot (fun c hc => P.bound c (List.mem_of_mem_filter hc)) fun c hc same =>
      absurd same (P.others_unbound hs bound last c hc)
    refs := forall_setSlot (by
        show 0 = (r.clients.filter (·.1 != tx)).countP (·.2 == s.id)
        rw [countP_removeClient P.txs bound, if_pos rfl, ← P.refs s hs, last])
      fun y hy ne => by
        show y.refs = (r.clients.filter (·.1 != tx)).countP (·.2 == y.id)
        rw [countP_removeClient P.txs bound, if_neg (Ne.symm ne : s.id ≠ y.id), Nat.sub_zero, P.refs y hy]
    live := forall_setSlot (fun serving' => absurd serving' (by rw [closing]; decide)) fun y hy _ => P.live y hy
    threads := by
      show r.threads.erase s.thread = lentThreads ↑(r.setSlot (s.release tx 0 .closing)).engines
      rw [coe_setSlot (t := s.release tx 0 .closing) P.distinct hs rfl,
        lentThreads_cons_closing closing,
        lentThreads_erase_running (by simpa using hs) (by rw [serving]; decide), P.threads]
    queues := by
      show r.queues = Multiset.map (fun x : Engine.Slot => x.queueId) ↑(r.setSlot (s.release tx 0 .closing)).engines
      rw [map_setSlot (t := s.release tx 0 .closing) _ P.distinct hs rfl rfl]
      exact P.queues
    instances := length_setSlot.symm ▸ P.instances
    starts := forall_setSlot (fun opening => absurd opening (by rw [closing]; decide)) fun y hy _ opening =>
      let ⟨tx', input', mem⟩ := P.starts y hy opening
      ⟨tx', input', List.mem_append_left _ mem⟩
    stops := forall_setSlot (fun _ => ⟨tx, List.mem_append_right _ (List.mem_singleton_self _)⟩)
      fun y hy _ closing' =>
        let ⟨tx', mem⟩ := P.stops y hy closing'
        ⟨tx', List.mem_append_left _ mem⟩
    waits := List.forall_mem_append.2 ⟨fun a ha => (P.waits a ha).transfer (fun _ _ h => h)
      (fun z hz _ other => mem_setSlot_of_ne hz fun same => other (P.eq_of_id hz hs same ▸ serving))
      (fun _ _ _ _ alone s' hs' serving' => by
        rcases mem_setSlot hs' with rfl | ⟨old, -⟩
        · exact absurd serving' (by rw [closing]; decide)
        · exact alone s' old serving'),
      List.forall_mem_singleton.2 ⟨_, mem_setSlot_self hs rfl, rfl, closing⟩⟩
    behind := by
      refine List.pairwise_append.2 ⟨P.behind.imp fun h => Behind.mono ?_ h, List.pairwise_singleton _ _,
        fun _ _ b hb _ _ opens => ?_⟩
      · exact keyed_setSlot hs rfl rfl
      · rw [List.mem_singleton.1 hb] at opens
        exact opens
    perEngine := by
      rw [List.filterMap_append, List.filterMap_cons_some (f := Background.engine?) rfl, List.filterMap_nil]
      exact List.nodup_append.2 ⟨P.perEngine, List.nodup_singleton _, fun i hi j hj same => by
        obtain ⟨a, ha, found⟩ := List.mem_filterMap.1 hi
        rw [List.mem_singleton.1 hj] at same
        exact P.not_serving ha hs (same ▸ found) serving⟩
    perTx := by simpa only [List.filterMap_append, List.filterMap_cons, Background.reserved?, List.filterMap_nil,
      List.append_nil] using P.perTx
    reserved := fun x hx => List.mem_filterMap.2 (let ⟨a, ha, found⟩ := List.mem_filterMap.1 (P.reserved x hx);
      ⟨a, List.mem_append_left _ ha, found⟩)
    unbound := fun x hx c hc => P.unbound x hx c (List.mem_of_mem_filter hc)
    memory := forall_setSlot (p := fun y => y.Remembers (r.clients.filter (·.1 != tx))) ((P.memory s hs).release _ _)
      fun y hy ne => (P.memory y hy).unbind P.txs bound ne }

/-- Reserving a transaction neither bound nor reserved, its start waiting behind the others. -/
theorem reserve (P : r.Pending w) {tx : UInt64} (free : tx ∉ r.starting) (unbound : ∀ c ∈ r.clients, c.1 ≠ tx)
    (key : EngineKey) (input : Option Bytes) : (r.reserve tx).Pending (w ++ [.queued tx key input]) := by
  refine { P with
    starts := ?_, stops := ?_, waits := ?_, behind := ?_, perEngine := ?_, perTx := ?_,
    reserved := ?_, unbound := ?_ }
  · intro s hs opening
    obtain ⟨tx', input', mem⟩ := P.starts s hs opening
    exact ⟨tx', input', List.mem_append_left _ mem⟩
  · intro s hs closing
    obtain ⟨tx', mem⟩ := P.stops s hs closing
    exact ⟨tx', List.mem_append_left _ mem⟩
  · intro b hb
    rcases List.mem_append.1 hb with old | new
    · have waits := P.waits b old
      cases b with
      | start tx' eid input' => exact ⟨List.mem_append_left _ waits.1, waits.2⟩
      | stop tx' eid => exact waits
      | queued tx' key' input' => exact List.mem_append_left _ waits
    · rw [List.mem_singleton.1 new]
      exact List.mem_append_right _ (List.mem_singleton_self tx)
  · refine List.pairwise_append.2 ⟨P.behind, List.pairwise_singleton _ _, fun a _ b hb key _ opens => ?_⟩
    rw [List.mem_singleton.1 hb] at opens
    exact opens
  · simpa only [List.filterMap_append, List.filterMap_cons, Background.engine?, List.filterMap_nil,
      List.append_nil] using P.perEngine
  · simp only [List.filterMap_append, List.filterMap_cons, Background.reserved?, List.filterMap_nil]
    exact List.nodup_append.2 ⟨P.perTx, List.nodup_singleton _, fun a ha b hb same =>
      free ((List.mem_singleton.1 hb ▸ same) ▸ P.starting_of_reserved ha)⟩
  · intro x hx
    simp only [List.filterMap_append, List.filterMap_cons, Background.reserved?, List.filterMap_nil,
      List.mem_append, List.mem_singleton]
    rcases List.mem_append.1 hx with old | new
    · exact .inl (P.reserved x old)
    · exact .inr (List.mem_singleton.1 new)
  · intro x hx c hc
    rcases List.mem_append.1 hx with old | new
    · exact P.unbound x old c hc
    · rw [List.mem_singleton.1 new]
      exact unbound c hc

end Pending

end Registry

end InferenceBroker
