import InferenceBroker.Proofs.Dispatch.Direct

/-!
# Closing a dispatcher

A close stops every bound transaction in ascending order, then drops futures and listeners and
reports. Its loop is `stopEach` (`close_run`), a chain of stops along `StopsEngine`
(`StopsAll`). With nothing waiting at the gate and no worker held, each stop is refused by the
plugin or unbinds its transaction, the last taking its engine down (`stop_bound`); so afterwards
the bound transactions are those refused and the engines those serving them
(`Reachable.closes`). The report batches the refusals' failures, one per transaction
(`Failure.items_joined`), with a note when engines still run.
-/

namespace InferenceBroker

namespace Failure

/-- The failures one after another as a batch joins them. -/
def joined (fs : List Failure) : Option Failure := fs.foldl (fun acc f => append acc (some f)) none

def items : Option Failure → List Failure
  | none => []
  | some (several xs) => xs
  | some f => [f]

def single : Failure → Bool
  | several _ => false
  | _ => true

theorem items_append {f : Failure} (one : f.single = true) (acc : Option Failure) :
    items (append acc (some f)) = items acc ++ [f] := by
  cases f with
  | several xs => cases one
  | _ => rcases acc with _ | ⟨_ | _ | _ | _ | _⟩ <;> rfl

theorem items_foldl {fs : List Failure} (one : ∀ f ∈ fs, f.single = true) (acc : Option Failure) :
    items (fs.foldl (fun acc f => append acc (some f)) acc) = items acc ++ fs := by
  induction fs generalizing acc with
  | nil => simp
  | cons f fs ih =>
    rw [List.foldl_cons, ih (fun g hg => one g (List.mem_cons_of_mem _ hg)), items_append (one f (by simp))]
    simp

theorem items_joined {fs : List Failure} (one : ∀ f ∈ fs, f.single = true) : items (joined fs) = fs := by
  simpa [joined, items] using items_foldl one none

theorem append_some_isSome (acc : Option Failure) (f : Failure) : (append acc (some f)).isSome = true := by
  rcases acc with _ | ⟨_ | _ | _ | _ | _⟩ <;> cases f <;> rfl

theorem joined_eq_none {fs : List Failure} : joined fs = none ↔ fs = [] := by
  cases fs with
  | nil => simp [joined]
  | cons f fs =>
    simp only [joined, List.foldl_cons, reduceCtorEq, iff_false]
    -- once a failure is in, the batch stays some failure
    have kept : ∀ (gs : List Failure) (acc : Option Failure), acc.isSome = true →
        (gs.foldl (fun acc g => append acc (some g)) acc).isSome = true := by
      intro gs
      induction gs with
      | nil => exact fun _ h => h
      | cons g gs ih => exact fun acc _ => ih _ (append_some_isSome acc g)
    intro empty
    simpa [empty] using kept fs _ (append_some_isSome none f)

end Failure

namespace Ledger

/-- No worker holds a task in its plugin, and no two engines share a serial number. -/
def Unheld (l : Ledger) : Prop := (l.loads.map (·.id)).Nodup ∧ ∀ x ∈ l.loads, x.held = none

theorem Unheld.of_loads {l l' : Ledger} (h : l.Unheld) (same : l'.loads = l.loads) : l'.Unheld := by
  unfold Unheld
  rw [same]
  exact h

theorem Unheld.setLoad {l : Ledger} (h : l.Unheld) {y : Engine.Load} (free : y.held = none) : (l.setLoad y).Unheld := by
  refine ⟨(ids_setLoad y).symm ▸ h.1, fun z hz => ?_⟩
  rcases mem_setLoad hz with rfl | ⟨old, -⟩
  · exact free
  · exact h.2 z old

theorem Unheld.drop {l : Ledger} (h : l.Unheld) (i : Nat) : (l.drop i).Unheld :=
  ⟨h.1.sublist (List.filter_sublist.map _), fun z hz => h.2 z (List.mem_of_mem_filter hz)⟩

theorem Unheld.distinct {L : Type} {d : Dispatcher L} (h : d.ledger.Unheld) : d.Distinct := by
  unfold Dispatcher.Distinct
  rw [← Dispatcher.ids_ledger]
  exact h.1

theorem Unheld.held {L : Type} {d : Dispatcher L} (h : d.ledger.Unheld) {e : Engine} (he : e ∈ d.engines) :
    e.held = none :=
  h.2 e.load (List.mem_map_of_mem he)

end Ledger

namespace Registry

variable {r : Registry}

theorem Pending.all_serving (P : r.Pending []) {s : Engine.Slot} (hs : s ∈ r.engines) : s.phase = .serving := by
  cases phase : s.phase with
  | opening =>
    obtain ⟨_, _, mem⟩ := P.starts s hs phase
    cases mem
  | serving => rfl
  | closing =>
    obtain ⟨_, mem⟩ := P.stops s hs phase
    cases mem

theorem Pending.engine_iff_bound (P : r.Pending []) (eid : Nat) :
    (∃ s ∈ r.engines, s.id = eid) ↔ ∃ c ∈ r.clients, c.2 = eid := by
  constructor
  · rintro ⟨s, hs, rfl⟩
    -- a serving engine counts one transaction at least
    have live := P.live s hs (P.all_serving hs)
    rw [P.refs s hs, List.countP_pos_iff] at live
    obtain ⟨c, hc, same⟩ := live
    exact ⟨c, hc, by simpa using same⟩
  · rintro ⟨c, hc, rfl⟩
    obtain ⟨s, hs, hid, -⟩ := P.bound c hc
    exact ⟨s, hs, hid⟩

theorem Pending.card_threads (P : r.Pending []) : Multiset.card r.threads = r.engines.length := by
  rw [P.threads, lentThreads, Multiset.filter_eq_self.2 fun s hs => by
    rw [P.all_serving (Multiset.mem_coe.1 hs)]
    decide]
  simp

end Registry

namespace Dispatcher

variable {L : Type} {α β : Type}

section Unheld

/-- From a dispatcher where no worker is held, it reaches one where none is. -/
def Unholds (x : Act L α) : Prop := ∀ d : Dispatcher L, d.ledger.Unheld → (x.run d).2.ledger.Unheld

theorem Fixes.unholds {x : Act L α} (h : Fixes x) : Unholds x := fun d u => by
  rw [h d u.distinct]
  exact u

theorem Unholds.composes : Composes fun d d' : Dispatcher L => d.ledger.Unheld → d'.ledger.Unheld :=
  Composes.invariant _

theorem Unholds.bind {x : Act L α} {f : α → Act L β} (hx : Unholds x) (hf : ∀ a, Unholds (f a)) :
    Unholds (x >>= f) := Unholds.composes.bind hx hf

theorem Unholds.andThen {x : Act L α} {y : Act L β} (hx : Unholds x) (hy : Unholds y) :
    Unholds (x >>= fun _ => y) := hx.bind fun _ => hy

theorem unholds_of_loads {x : Act L α} (h : ∀ d : Dispatcher L, d.Distinct → (x.run d).2.ledger.loads = d.ledger.loads) :
    Unholds x := fun d u => u.of_loads (h d u.distinct)

theorem unholds_putEngine {e : Engine} (free : e.held = none) : Unholds (putEngine (L := L) e) := fun d u => by
  rw [ledger_putEngine]
  exact u.setLoad free

theorem unholds_dropEngine (eid : Nat) : Unholds (dropEngine (L := L) eid) := fun d u => by
  rw [ledger_dropEngine]
  exact u.drop eid

theorem unholds_record (ev : TaskEvent) : Unholds (record (L := L) ev) :=
  unholds_of_loads fun _ _ => rfl

theorem unholds_answer (ticket moment : Nat) (o : Outcome) : Unholds (answer (L := L) ticket moment o) :=
  unholds_of_loads fun _ _ => rfl

theorem unholds_deliver (eid moment : Nat) (event : Event) (resp : Response) :
    Unholds (deliver (L := L) eid moment event resp) :=
  unholds_of_loads fun d hd => by
    rw [ledger_deliver hd]
    split <;> simp

theorem unholds_forIn {xs : List α} {init : β} {f : α → β → Act L (ForInStep β)} (h : ∀ a b, Unholds (f a b)) :
    Unholds (forIn xs init f) := Unholds.composes.forIn fun a _ b => h a b

theorem unholds_dismantle (eid : Nat) : Unholds (dismantle (L := L) eid) := by
  intro d u
  rw [dismantle, run_bind, run_get]
  dsimp only
  split
  next e he =>
    have free : e.held = none := u.held (engine?_mem he).1
    refine ((unholds_putEngine ?_).andThen ((unholds_record _).andThen
      ((unholds_forIn fun t _ => ?_).bind fun _ => ?_))) d u
    · exact free
    · -- each task left fails, which leaves every load alone
      split
      · exact fixes_get.unholds.bind fun _ => (unholds_answer _ _ _).andThen (fixes_pure _).unholds
      · exact fixes_get.unholds.bind fun _ => (unholds_deliver _ _ _ _).andThen (fixes_pure _).unholds
    -- the queue goes back, the plugin is unloaded, and the engine is forgotten
    have finish : Unholds (returnQueue e.key e.queueId >>= fun _ => unloadPlugin e.key e.loaded .error >>= fun _ =>
        dropEngine (L := L) eid) :=
      (fixes_returnQueue _ _).unholds.andThen ((fixes_unloadPlugin _ _ _).unholds.andThen (unholds_dropEngine _))
    split
    · exact finish
    · exact (fixes_note _).unholds.andThen finish
  next => exact u

theorem unholds_destroyEngine (eid : Nat) : Unholds (destroyEngine (L := L) eid) := by
  intro d u
  rw [destroyEngine, run_bind, run_get]
  dsimp only
  split
  next e he =>
    have free : e.held = none := u.held (engine?_mem he).1
    rw [if_neg (by simp [free])]
    exact ((fixes_note _).unholds.andThen ((fixes_returnThread _ _).unholds.andThen
      ((unholds_dismantle _).andThen (fixes_pure _).unholds))) d u
  next => exact u

theorem unholds_stopEngine (tx : UInt64) (input : Option Bytes) : Unholds (stopEngine (L := L) tx input) := by
  intro d u
  rw [stopEngine, run_bind, run_get]
  dsimp only
  split
  · exact u
  next e found =>
    have he := engine?_of_lookup found
    rw [run_bind]
    have load := Engine.load_call e "release" fun p => p.release (e.refs == 1) tx
    generalize e.call "release" (fun p => p.release (e.refs == 1) tx) = c at load ⊢
    obtain ⟨r, e₁⟩ := c
    dsimp only at load ⊢
    have id₁ : e₁.id = e.id := congrArg Engine.Load.id load
    have free₁ : e₁.held = none := (congrArg Engine.Load.held load).trans (u.held (engine?_mem he).1)
    have u₁ : ((putEngine e₁).run d).2.ledger.Unheld := by
      rw [ledger_putEngine_same u.distinct (id₁ ▸ he) load]
      exact u
    cases r with
    | error err => exact u₁
    | ok _ =>
      dsimp only
      refine ((unholds_putEngine ?_).andThen ((Fixes.unholds ?_).andThen ?_)) _ u₁
      · exact free₁
      · exact fixes_modify fun _ => rfl
      split
      · refine (unholds_destroyEngine _).bind fun destroyed => ?_
        split
        · exact (fixes_note _).unholds.andThen (fixes_pure _).unholds
        · refine Unholds.andThen (Fixes.unholds (fixes_modify ?_)) (fixes_pure _).unholds
          exact fun _ => rfl
      · exact (fixes_pure _).unholds


end Unheld

def stopEach : List UInt64 → Act L (List (Option Lifecycle))
  | [] => pure []
  | tx :: txs => do
    let o ← stopEngine tx none
    let os ← stopEach txs
    pure (o :: os)

/-- The failures of stops that failed otherwise than for a transaction without engine. -/
def reported : List (Option Lifecycle) → List Failure
  | [] => []
  | some (.failed e) :: os => if e.isOf Failure.noSuchEngine then reported os else e :: reported os
  | _ :: os => reported os

/-- A loop stopping a transaction per turn and folding the result is the stops, then the fold. -/
theorem forIn_stopEngine {β : Type} (txs : List UInt64) (init : β) (step : β → Option Lifecycle → β)
    (f : UInt64 → β → Act L (ForInStep β))
    (body : ∀ tx acc, f tx acc = stopEngine tx none >>= fun o => pure (.yield (step acc o))) :
    forIn txs init f = stopEach txs >>= fun os => pure (os.foldl step init) := by
  induction txs generalizing init with
  | nil => simp [stopEach]
  | cons tx txs ih =>
    simp only [List.forIn_cons, body, stopEach, bind_assoc, pure_bind, ih, List.foldl_cons]

section Stops

inductive StopsAll : Dispatcher L → List UInt64 → List (Option Lifecycle) → Dispatcher L → Prop
  | nil (d : Dispatcher L) : StopsAll d [] [] d
  | cons {d d₁ d₂ : Dispatcher L} {tx : UInt64} {txs : List UInt64} {o : Option Lifecycle}
      {os : List (Option Lifecycle)} : StopsEngine d tx o d₁ → StopsAll d₁ txs os d₂ →
      StopsAll d (tx :: txs) (o :: os) d₂

theorem stopEach_spec (txs : List UInt64) {d : Dispatcher L} (P : d.registry.Consistent) :
    StopsAll d txs ((stopEach txs).run d).1 ((stopEach txs).run d).2 := by
  induction txs generalizing d with
  | nil => exact .nil d
  | cons tx txs ih =>
    have step := stopEngine_spec tx none P.sound
    simp only [stopEach, run_bind, run_pure]
    exact .cons step (ih (preserves_stopEngine tx none d P))

/-- The transaction stopped, or its release refused, the failure naming key and transaction. -/
inductive Stopped (tx : UInt64) : Option Lifecycle → Prop
  | stopped : Stopped tx (some .stopped)
  | refused (key : String) (cause : Failure) :
      Stopped tx (some (.failed (.within s!"release {key} for transaction {tx.toNat}" cause)))

def stopFailed : Option Lifecycle → Bool
  | some (.failed _) => true
  | _ => false

def failedOf (txs : List UInt64) (os : List (Option Lifecycle)) : List UInt64 :=
  ((txs.zip os).filter fun p => stopFailed p.2).map (·.1)

theorem mem_of_failedOf {txs : List UInt64} {os : List (Option Lifecycle)} {tx : UInt64} (h : tx ∈ failedOf txs os) :
    tx ∈ txs := by
  obtain ⟨p, hp, rfl⟩ := List.mem_map.1 h
  exact (List.of_mem_zip (List.mem_of_mem_filter hp)).1

theorem failedOf_cons (tx : UInt64) (txs : List UInt64) (o : Option Lifecycle) (os : List (Option Lifecycle)) :
    failedOf (tx :: txs) (o :: os) = if stopFailed o then tx :: failedOf txs os else failedOf txs os := by
  unfold failedOf
  cases failed : stopFailed o <;> simp [List.zip_cons_cons, failed]

theorem single_of_reported {txs : List UInt64} {os : List (Option Lifecycle)} (stopped : List.Forall₂ Stopped txs os) :
    ∀ f ∈ reported os, f.single = true := by
  induction stopped with
  | nil => simp [reported]
  | cons head _ ih =>
    cases head with
    | stopped => exact ih
    | refused key cause =>
      intro f hf
      simp only [reported] at hf
      split at hf
      · exact ih f hf
      · rcases List.mem_cons.1 hf with rfl | rest
        · rfl
        · exact ih f rest

theorem lookup_of_bound {w : List Background} {d : Dispatcher L} (P : d.registry.Pending w) {tx : UInt64}
    (bound : tx ∈ d.clients.map (·.1)) : ∃ e, d.lookup tx = .ok e := by
  obtain ⟨c, hc, rfl⟩ := List.mem_map.1 bound
  obtain ⟨s, hs, hid, -⟩ := P.bound c hc
  obtain ⟨e, found, rfl⟩ := engine?_of_slot P.sound.nodup hs
  have looked : d.clients.lookup c.1 = some e.id := by
    rw [show e.id = c.2 from hid]
    exact lookup_of_mem P.txs hc
  refine ⟨e, ?_⟩
  unfold lookup
  rw [looked, Option.bind_some, show d.engine? e.id = some e from found]

theorem stopEngine_release_refused {d : Dispatcher L} {tx : UInt64} {input : Option Bytes} {e : Engine}
    (found : d.lookup tx = .ok e) {cause : Failure}
    (refused : (e.call "release" fun p => p.release (e.refs == 1) tx).1 = .error cause) :
    ((stopEngine tx input).run d).1 =
      some (.failed (.within s!"release {e.key.render} for transaction {tx.toNat}" cause)) := by
  have key : (e.call "release" fun p => p.release (e.refs == 1) tx).2.key = e.key := by
    rcases Engine.call_engine e "release" (fun p => p.release (e.refs == 1) tx) with same | plugged
    · rw [same]
    · rw [plugged]
      rfl
  rw [stopEngine, run_bind, run_get]
  dsimp only
  rw [found]
  dsimp only
  rw [run_bind]
  generalize e.call "release" (fun p => p.release (e.refs == 1) tx) = c at refused key ⊢
  obtain ⟨r, e₁⟩ := c
  dsimp only at refused key ⊢
  subst refused
  rw [key]
  rfl

/-- With nothing waiting and no worker held: the release is refused and the transaction stays
bound, or it is unbound, the last of its engine taking it down at once; nothing waits after. -/
theorem stop_bound {d : Dispatcher L} (P : d.registry.Pending []) (quiet : d.waiting = []) (u : d.ledger.Unheld)
    {tx : UInt64} (bound : tx ∈ d.clients.map (·.1)) :
    ((stopEngine tx none).run d).2.registry.Pending [] ∧ ((stopEngine tx none).run d).2.waiting = [] ∧
      Stopped tx ((stopEngine tx none).run d).1 ∧
      ((stopEngine tx none).run d).2.clients =
        if stopFailed ((stopEngine tx none).run d).1 then d.clients else d.clients.filter (·.1 != tx) := by
  obtain ⟨e, found⟩ := lookup_of_bound P bound
  have consistent : d.registry.Consistent := by
    unfold Registry.Consistent
    rw [show d.registry.waiting = [] from quiet]
    exact P
  have P₁ := preserves_stopEngine tx none d consistent
  have spec := stopEngine_spec tx none P.sound
  have refusal := fun cause (h : (e.call "release" fun p => p.release (e.refs == 1) tx).1 = .error cause) =>
    (stopEngine_release_refused found h : ((stopEngine tx none).run d).1 = _)
  generalize (stopEngine tx none).run d = p at spec P₁ refusal ⊢
  obtain ⟨o, d'⟩ := p
  -- no call waits afterwards exactly when none was added to the registry's waiting calls
  have settled : ∀ r : Registry, d'.registry = r → r.waiting = [] →
      d'.registry.Pending [] ∧ d'.waiting = [] := by
    intro r reg waiting
    have none : d'.registry.waiting = [] := reg ▸ waiting
    refine ⟨?_, none⟩
    unfold Registry.Consistent at P₁
    rwa [none] at P₁
  dsimp only at refusal ⊢
  cases spec with
  | unbound looked _ =>
    rw [found] at looked
    cases looked
  | refused looked rejected reg =>
    rw [found] at looked
    cases looked
    obtain ⟨cause, rejected⟩ := rejected
    rw [refusal cause rejected] at reg ⊢
    exact ⟨(settled _ reg quiet).1, (settled _ reg quiet).2, .refused _ _, congrArg Registry.clients reg⟩
  | released looked _ _ reg =>
    refine ⟨(settled _ reg quiet).1, (settled _ reg quiet).2, .stopped, ?_⟩
    exact congrArg Registry.clients reg
  | destroyed looked _ _ _ reg =>
    refine ⟨(settled _ reg quiet).1, (settled _ reg quiet).2, .stopped, ?_⟩
    exact congrArg Registry.clients reg
  | waits looked _ _ held _ =>
    rw [found] at looked
    cases looked
    rw [u.held (engine?_mem (engine?_of_lookup found)).1] at held
    cases held

/-- Stops of distinct bound transactions: nothing waits afterwards, and the transactions still
bound are the others and those whose stop failed. -/
theorem stopEach_run {txs : List UInt64} (nodup : txs.Nodup) {d : Dispatcher L} (P : d.registry.Pending [])
    (quiet : d.waiting = []) (u : d.ledger.Unheld) (bound : ∀ tx ∈ txs, tx ∈ d.clients.map (·.1)) :
    ((stopEach txs).run d).2.registry.Pending [] ∧ ((stopEach txs).run d).2.waiting = [] ∧
      ((stopEach txs).run d).2.clients =
        d.clients.filter (fun c => c.1 ∉ txs ∨ c.1 ∈ failedOf txs ((stopEach txs).run d).1) ∧
      List.Forall₂ Stopped txs ((stopEach txs).run d).1 := by
  induction txs generalizing d with
  | nil => exact ⟨P, quiet, (List.filter_eq_self.2 fun c _ => by simp).symm, .nil⟩
  | cons tx txs ih =>
    rw [List.nodup_cons] at nodup
    obtain ⟨P₁, quiet₁, first, clients₁⟩ := stop_bound P quiet u (bound tx (by simp))
    have u₁ := unholds_stopEngine tx none d u
    -- the later transactions are still bound: only `tx` was unbound
    have bound₁ : ∀ t ∈ txs, t ∈ ((stopEngine tx none).run d).2.clients.map (·.1) := by
      intro t ht
      obtain ⟨c, hc, rfl⟩ := List.mem_map.1 (bound t (by simp [ht]))
      have other : c.1 ≠ tx := fun same => nodup.1 (same ▸ ht)
      refine List.mem_map.2 ⟨c, ?_, rfl⟩
      rw [clients₁]
      split
      · exact hc
      · exact List.mem_filter.2 ⟨hc, by simpa using other⟩
    obtain ⟨P₂, quiet₂, clients₂, rest⟩ := ih nodup.2 P₁ quiet₁ u₁ bound₁
    have run : (stopEach (tx :: txs)).run d = (((stopEngine tx none).run d).1 ::
        ((stopEach txs).run ((stopEngine tx none).run d).2).1, ((stopEach txs).run ((stopEngine tx none).run d).2).2) :=
      rfl
    rw [run]
    refine ⟨P₂, quiet₂, ?_, .cons first rest⟩
    rw [clients₂, clients₁]
    generalize ((stopEach txs).run ((stopEngine tx none).run d).2).1 = os at *
    generalize ((stopEngine tx none).run d).1 = o at *
    -- a client of `tx` is kept exactly when the stop of `tx` failed
    have outside : tx ∉ failedOf txs os := fun mem => nodup.1 (mem_of_failedOf mem)
    split
    · next failed =>
      apply List.filter_congr
      intro c _
      by_cases same : c.1 = tx
      · simp [same, nodup.1, failedOf_cons, failed]
      · simp [same, failedOf_cons, failed]
    · next failed =>
      rw [List.filter_filter]
      apply List.filter_congr
      intro c _
      by_cases same : c.1 = tx
      · simp [same, outside, failedOf_cons, failed]
      · simp [same, failedOf_cons, failed]

end Stops

theorem foldl_reported (os : List (Option Lifecycle)) (acc : Option Failure) :
    os.foldl (fun err o => match o with
      | some (.failed e) => if e.isOf Failure.noSuchEngine then err else Failure.append err (some e)
      | _ => err) acc = (reported os).foldl (fun acc f => Failure.append acc (some f)) acc := by
  induction os generalizing acc with
  | nil => rfl
  | cons o os ih =>
    rcases o with _ | ⟨_ | _ | e⟩
    · exact ih acc
    · exact ih acc
    · exact ih acc
    · by_cases matched : e.isOf Failure.noSuchEngine = true <;> simp [reported, matched, ih]

def keepFailure (err : Option Failure) : Option Lifecycle → Option Failure
  | some (.failed e) => if e.isOf Failure.noSuchEngine then err else Failure.append err (some e)
  | _ => err

theorem close_run (d : Dispatcher L) :
    (close.run d).1 = (if 0 < ((stopEach d.transactions).run d).2.threads.busy then
        Failure.append (Failure.joined (reported ((stopEach d.transactions).run d).1))
          (some (.note s!"{((stopEach d.transactions).run d).2.threads.busy} engines still running after close"))
      else Failure.joined (reported ((stopEach d.transactions).run d).1)) ∧
    (close.run d).2.registry = ((stopEach d.transactions).run d).2.registry ∧
    (close.run d).2.futures = ((stopEach d.transactions).run d).2.futures.close := by
  unfold close
  rw [run_bind, run_get]
  dsimp only
  rw [forIn_stopEngine _ _ keepFailure]
  · have loop : ((do let os ← stopEach d.transactions; pure (os.foldl keepFailure none)) : Act L _).run d =
        (((stopEach d.transactions).run d).1.foldl keepFailure none, ((stopEach d.transactions).run d).2) := rfl
    rw [run_bind, loop]
    rw [show ((stopEach d.transactions).run d).1.foldl keepFailure none =
      Failure.joined (reported ((stopEach d.transactions).run d).1) from foldl_reported _ _]
    generalize (stopEach d.transactions).run d = p
    obtain ⟨os, d₁⟩ := p
    generalize Failure.joined (reported os) = err
    dsimp only
    -- what follows the stops only drops the futures and writes to the journal
    by_cases dropped : d₁.futures.pending.length > 0 <;> by_cases busy : 0 < d₁.threads.busy <;>
      simp only [dropped, busy, gt_iff_lt, if_true, if_false, run_bind, run_get, run_modify, note] <;>
      split <;> exact ⟨rfl, rfl, rfl⟩
  · intro tx acc
    congr 1
    funext o
    rcases o with _ | ⟨_ | _ | e⟩
    · rfl
    · rfl
    · rfl
    · by_cases matched : e.isOf Failure.noSuchEngine = true <;> simp [keepFailure, matched]

section Close

theorem mem_transactions (d : Dispatcher L) (tx : UInt64) : tx ∈ d.transactions ↔ tx ∈ d.clients.map (·.1) :=
  (List.mergeSort_perm _ _).mem_iff

theorem transactions_ascending {d : Dispatcher L} (txs : (d.clients.map (·.1)).Nodup) :
    d.transactions.Pairwise (· < ·) := by
  have sorted := @List.pairwise_mergeSort _ (fun a b : UInt64 => decide (a ≤ b))
    (fun a b c hab hbc => by simp only [decide_eq_true_eq] at *; exact UInt64.le_trans hab hbc)
    (fun a b => by simpa using UInt64.le_total a b) (d.clients.map (·.1))
  have nodup := (List.mergeSort_perm (d.clients.map (·.1)) fun a b : UInt64 => decide (a ≤ b)).nodup_iff.2 txs
  refine (sorted.and nodup).imp fun {a b} ⟨le, ne⟩ => ?_
  have le' : a.toNat ≤ b.toNat := UInt64.le_iff_toNat_le.1 (of_decide_eq_true le)
  have ne' : a.toNat ≠ b.toNat := fun same => ne (UInt64.toNat_inj.1 same)
  exact UInt64.lt_iff_toNat_lt.2 (by omega)

/-- What a close does from `d`: its stops returned `os`, it reports `err`, it leaves `d₂`. -/
structure Closes (d : Dispatcher L) (os : List (Option Lifecycle)) (err : Option Failure) (d₂ : Dispatcher L) :
    Prop where
  /-- it stops the transactions bound when it starts, in ascending order, each once -/
  ascending : d.transactions.Pairwise (· < ·)
  bound : ∀ tx, tx ∈ d.transactions ↔ tx ∈ d.clients.map (·.1)
  stops : ∃ d₁, StopsAll d d.transactions os d₁ ∧ d₂.registry = d₁.registry
  /-- each stop is refused by the plugin's release or stops its transaction -/
  stopped : List.Forall₂ Stopped d.transactions os
  /-- the transactions whose release was refused stay bound, and no other -/
  clients : d₂.clients = d.clients.filter (·.1 ∈ failedOf d.transactions os)
  /-- the engines left are those serving them, each with its thread lent -/
  engines : ∀ eid, (∃ e ∈ d₂.engines, e.id = eid) ↔ ∃ c ∈ d₂.clients, c.2 = eid
  running : d₂.threads.busy = d₂.engines.length
  /-- the refusals' failures but those of a transaction without engine, one per transaction,
  with a note when engines still run -/
  report : err = if 0 < d₂.threads.busy then
      Failure.append (Failure.joined (reported os)) (some (.note s!"{d₂.threads.busy} engines still running after close"))
    else Failure.joined (reported os)
  items : Failure.items (Failure.joined (reported os)) = reported os
  fails : err.isSome ↔ reported os ≠ [] ∨ d₂.engines ≠ []
  /-- no future is pending and no listener is installed -/
  pending : d₂.futures.pending = []
  listeners : d₂.futures.listeners = []

/-- From every reachable dispatcher with nothing waiting at the gate and no worker held, a close
stops each bound transaction once in ascending order, leaves bound exactly those refused and
the engines serving them, reports the refusals, and drops every future and listener. -/
theorem Reachable.closes {d : Dispatcher L} (reach : d.Reachable) (quiet : d.waiting = [])
    (free : ∀ e ∈ d.engines, e.held = none) :
    Closes d ((stopEach d.transactions).run d).1 (close.run d).1 (close.run d).2 := by
  have consistent := reach.consistent
  have P : d.registry.Pending [] := by
    unfold Registry.Consistent at consistent
    rwa [show d.registry.waiting = [] from quiet] at consistent
  have chain := stopEach_spec d.transactions consistent
  have u : d.ledger.Unheld := by
    refine ⟨by rw [ids_ledger]; exact P.sound.nodup, fun x hx => ?_⟩
    obtain ⟨e, he, rfl⟩ := List.mem_map.1 hx
    exact free e he
  have ascending := transactions_ascending (d := d) P.txs
  obtain ⟨P₁, -, clients₁, stopped⟩ := stopEach_run ascending.nodup P quiet u fun tx h => (mem_transactions d tx).1 h
  obtain ⟨report, registry, futures⟩ := close_run d
  generalize (stopEach d.transactions).run d = p at *
  obtain ⟨os, d₁⟩ := p
  generalize close.run d = q at *
  obtain ⟨err, d'⟩ := q
  dsimp only at *
  have P' : d'.registry.Pending [] := registry ▸ P₁
  -- with every bound transaction stopped, a client stays only if its stop failed
  have clients : d'.clients = d.clients.filter (·.1 ∈ failedOf d.transactions os) := by
    rw [show d'.clients = d₁.clients from congrArg Registry.clients registry, clients₁]
    apply List.filter_congr
    intro c hc
    simp [(mem_transactions d c.1).2 (List.mem_map_of_mem hc)]
  have engines : ∀ eid, (∃ e ∈ d'.engines, e.id = eid) ↔ ∃ c ∈ d'.clients, c.2 = eid := fun eid => by
    have iff := P'.engine_iff_bound eid
    simp only [Dispatcher.registry, List.mem_map] at iff
    simpa [Engine.slot] using iff
  have running : d'.threads.busy = d'.engines.length := by
    have lent := P'.card_threads
    simpa [Dispatcher.registry, ThreadPool.busy] using lent
  have busy : d'.threads.busy = d₁.threads.busy := by
    have lent := congrArg (fun r : Registry => Multiset.card r.threads) registry
    simpa [Dispatcher.registry, ThreadPool.busy] using lent
  rw [← busy] at report
  -- the report fails exactly when a release was refused for another reason, or an engine runs
  have fails : err.isSome ↔ reported os ≠ [] ∨ d'.engines ≠ [] := by
    rw [report, running]
    by_cases empty : d'.engines = []
    · simp [empty, Option.isSome_iff_ne_none, Failure.joined_eq_none]
    · simp [List.length_pos_of_ne_nil empty, Failure.append_some_isSome, empty]
  exact ⟨ascending, mem_transactions d, ⟨d₁, chain, registry⟩, stopped, clients, engines, running, report,
    Failure.items_joined (single_of_reported stopped), fails, by rw [futures]; rfl, by rw [futures]; rfl⟩

/-- A close after transaction 7 started on the echo plugin. -/
theorem closes_echoStarted :
    echoStarted.waiting = [] ∧ (∀ e ∈ echoStarted.engines, e.held = none) ∧
      Closes echoStarted ((stopEach echoStarted.transactions).run echoStarted).1 (close.run echoStarted).1
        (close.run echoStarted).2 :=
  ⟨by decide, by decide, Reachable.closes echoStarted_reachable (by decide) (by decide)⟩

end Close

end Dispatcher

end InferenceBroker
