import InferenceBroker.Proofs.Future.Sequence

/-!
# Delivering responses, over every interleaving

A plugin's answer reaches its future in two steps: under the table's lock the future it names is
taken out with the event's status and the response attached (`FutureTable.take`); outside it,
the listener registered then for the response's transaction (or the future's, when the response
carries none) receives the future, and the response is detached (`FutureTable.hand`). Back to
back they are `FutureTable.respond` (`respond_halves`); between them other callers act
(`FutureFactory.Act`). One lemma says what every call does to a number (`used_apply`); from it,
for every table and interleaving (`FutureFactory.run_correlates`), a future is removed by exactly
the first response or release naming it, later ones fail with `no matching future` until the
number is handed out again, and a response reaches exactly the listener registered at its second
step, or fails with `no listener found`.
-/

namespace InferenceBroker

/-- A future once taken out: its number and transaction, status, and attached response. -/
structure Future where
  seq : Nat
  transactionId : UInt64
  status : FutureStatus := .pending
  response : Option Response := none
  deriving DecidableEq, Repr

namespace Future

def ofPending (f : PendingFuture) : Future := { seq := f.seq, transactionId := f.transactionId }

/-- Only the first attach has an effect. -/
def attach (f : Future) (status : FutureStatus) (r : Response) : Future :=
  if f.status = .pending then { f with status := status, response := some r } else f

/-- From now on only the listener holds the response. -/
def detach (f : Future) : Future := { f with response := none }

@[simp] theorem detach_response (f : Future) : f.detach.response = none := rfl

end Future

/-- A result is ok, every other event an error. -/
def Event.status (e : Event) : FutureStatus := if e.isResult then .ok else .error

theorem Event.status_eq_ok (e : Event) : e.status = .ok ↔ e = .result := by
  obtain ⟨code⟩ := e
  by_cases zero : code = 0 <;> simp [Event.status, Event.isResult, Event.result, zero]

theorem Event.status_eq_error {e : Event} (other : e ≠ .result) : e.status = .error := by
  unfold Event.status
  split
  next result => exact absurd ((Event.status_eq_ok e).1 (by simp [Event.status, result])) other
  next => rfl

namespace FutureTable

variable {L : Type}

/-- A response between the two steps: the event, the response, and the future taken out. -/
structure Completing where
  event : Event
  response : Response
  future : Future
  deriving DecidableEq, Repr

/-- The response's transaction, or the future's own when it carries none. -/
def Completing.route (d : Completing) : UInt64 :=
  if d.response.transactionId == 0 then d.future.transactionId else d.response.transactionId

/-- The first step, under the lock: the named future is taken out, counted completed, with the
event's status and the response attached. -/
def take (t : FutureTable L) (event : Event) (r : Response) : Option Future × FutureTable L :=
  let seq := r.requestId.toNat
  match t.pending.find? (·.seq == seq) with
  | none => (none, t)
  | some f =>
    (some ((Future.ofPending f).attach event.status r),
      { t with pending := t.pending.filter (·.seq != seq), completed := t.completed + 1 })

/-- The second step, outside the lock: the listener registered now receives the future, or the
answer is dropped for want of one; the future keeps no response. -/
def hand (t : FutureTable L) (d : Completing) : Except Failure (Reply L) × Future :=
  match t.listener? d.route with
  | none => (.error (.within s!"transaction {d.route.toNat}" Failure.noListenerFound), d.future.detach)
  | some l => (.ok ⟨l, d.future.seq, d.future.transactionId, d.future.status, d.response, 0⟩, d.future.detach)

def unmatched (seq : Nat) : Failure := .within s!"sequence {seq}" Failure.noMatchingFuture

theorem respond_halves (t : FutureTable L) (ev : Event) (r : Response) :
    t.respond ev (some r) = match t.take ev r with
      | (none, t') => (.error (unmatched r.requestId.toNat), t')
      | (some f, t') => ((t'.hand ⟨ev, r, f⟩).1, t') := by
  unfold respond take
  dsimp only
  cases found : t.pending.find? (·.seq == r.requestId.toNat) with
  | none => rfl
  | some f =>
    have named : f.seq = r.requestId.toNat := by simpa using List.find?_some found
    simp only [hand, Completing.route, Future.ofPending, Future.attach, listener?, if_true, named]
    cases t.listeners.lookup (if r.transactionId == 0 then f.transactionId else r.transactionId) <;> rfl

/-! ## One call on the table -/

/-- A response naming a pending number takes out one of its futures, status and response
attached, and removes them all. -/
theorem take_of_used {t : FutureTable L} {r : Response} (ev : Event) (pending : t.used r.requestId.toNat = true) :
    ∃ p ∈ t.pending, p.seq = r.requestId.toNat ∧
      t.take ev r = (some ((Future.ofPending p).attach ev.status r),
        { t with pending := t.pending.filter (·.seq != r.requestId.toNat), completed := t.completed + 1 }) := by
  unfold take
  dsimp only
  split
  next absent =>
    rw [List.find?_eq_none] at absent
    obtain ⟨p, mem, named⟩ := List.mem_map.1 (used_iff.1 pending)
    exact absurd (by simpa using named) (absent p mem)
  next p found =>
    exact ⟨p, List.mem_of_find?_eq_some found, by simpa using List.find?_some found, rfl⟩

theorem take_of_unused {t : FutureTable L} {r : Response} (ev : Event) (free : t.used r.requestId.toNat = false) :
    t.take ev r = (none, t) := by
  unfold take
  dsimp only
  split
  next => rfl
  next p found =>
    have named : p.seq = r.requestId.toNat := by simpa using List.find?_some found
    have := used_iff.2 (List.mem_map.2 ⟨p, List.mem_of_find?_eq_some found, named⟩)
    simp [free] at this

@[simp] theorem used_filter (t : FutureTable L) (s seq : Nat) (c : Nat) :
    ({ t with pending := t.pending.filter (·.seq != s), completed := c } : FutureTable L).used seq =
      (!(seq == s) && t.used seq) := by
  simp only [used, List.any_filter]
  by_cases same : seq = s
  · subst same
    simp
  · have other : (seq == s) = false := by simpa using same
    rw [other, Bool.not_false, Bool.true_and]
    congr 1
    funext f
    by_cases mine : f.seq = seq
    · simp [mine, same]
    · simp [mine]

theorem release_used {t : FutureTable L} {s : Nat} (pending : t.used s = true) :
    t.release s = .ok { t with pending := t.pending.filter (·.seq != s) } := by
  simp [release, pending]

theorem release_unused {t : FutureTable L} {s : Nat} (free : t.used s = false) :
    t.release s = .error (unmatched s) := by
  simp [release, free, unmatched]

theorem hand_spec (t : FutureTable L) (d : Completing) :
    (∀ l, t.listener? d.route = some l →
      (t.hand d).1 = .ok ⟨l, d.future.seq, d.future.transactionId, d.future.status, d.response, 0⟩) ∧
    (t.listener? d.route = none →
      (t.hand d).1 = .error (.within s!"transaction {d.route.toNat}" Failure.noListenerFound)) ∧
    (t.hand d).2 = d.future.detach := by
  unfold hand
  refine ⟨fun l listening => by rw [listening], fun none => by rw [none], ?_⟩
  split <;> rfl

end FutureTable

/-- A future table with the deliveries in flight between their steps, oldest first. -/
structure FutureFactory (L : Type) where
  table : FutureTable L
  inFlight : List FutureTable.Completing := []

namespace FutureFactory

open FutureTable

variable {L : Type}

/-- One call or delivery step: a create; the first step of a delivery (a missing response is
refused); the second step of the `i`-th in flight; a release; installing or removing a listener. -/
inductive Act (L : Type) where
  | create (tx : UInt64)
  | take (event : Event) (resp : Option Response)
  | hand (i : Nat)
  | release (seq : Nat)
  | register (tx : UInt64) (l : L)
  | unregister (tx : UInt64)

/-- A response whose request id it is, or a release of it. -/
def Act.names (s : Nat) : Act L → Bool
  | .take _ (some r) => s == r.requestId.toNat
  | .release seq => s == seq
  | _ => false

/-- A refused call leaves the factory as it was. -/
def apply (F : FutureFactory L) : Act L → FutureFactory L
  | .create tx => match F.table.create tx with
    | .ok (_, t) => { F with table := t }
    | .error _ => F
  | .take _ none => F
  | .take ev (some r) => match F.table.take ev r with
    | (some f, t) => ⟨t, F.inFlight ++ [⟨ev, r, f⟩]⟩
    | (none, _) => F
  | .hand i => { F with inFlight := F.inFlight.eraseIdx i }
  | .release seq => match F.table.release seq with
    | .ok t => { F with table := t }
    | .error _ => F
  | .register tx l => { F with table := F.table.register tx l }
  | .unregister tx => { F with table := (F.table.unregister tx).2 }

def run (F : FutureFactory L) (acts : List (Act L)) : FutureFactory L := acts.foldl apply F

def issued (F : FutureFactory L) : Act L → Option Nat
  | .create tx => match F.table.create tx with
    | .ok (s, _) => some s
    | .error _ => none
  | _ => none

def handedOut : FutureFactory L → List (Act L) → List Nat
  | _, [] => []
  | F, a :: as => (F.issued a).toList ++ handedOut (F.apply a) as

@[simp] theorem run_nil (F : FutureFactory L) : F.run [] = F := rfl

@[simp] theorem run_cons (F : FutureFactory L) (a : Act L) (as : List (Act L)) :
    F.run (a :: as) = (F.apply a).run as := rfl

/-! ## What a call does to a number -/

/-- A call that takes `x` out when pending, else leaves the table, leaves other numbers alone. -/
theorem used_removing {t t' : FutureTable L} {x : Nat}
    (removed : t.used x = true → ∀ s, t'.used s = (!(s == x) && t.used s))
    (kept : t.used x = false → t' = t) (s : Nat) : t'.used s = (!(s == x) && t.used s) := by
  cases pending : t.used x
  · rw [kept pending]
    by_cases same : s = x
    · subst same
      simp [pending]
    · simp [same]
  · exact removed pending s

/-- A call naming a number leaves nothing under it; a create handing it out makes it pending;
every other call keeps it. -/
theorem used_apply (F : FutureFactory L) (a : Act L) (s : Nat) :
    (F.apply a).table.used s = (!a.names s && (F.table.used s || F.issued a == some s)) := by
  cases a with
  | create tx =>
    simp only [apply, issued, Act.names, Bool.not_false, Bool.true_and]
    split
    next seq t created =>
      obtain ⟨-, -, rfl⟩ := create_eq_ok created
      simp [used, List.any_append]
    next => simp
  | take ev resp =>
    cases resp with
    | none => simp [apply, issued, Act.names]
    | some r =>
      have unissued : (none == some s) = false := rfl
      simp only [apply, issued, Act.names, unissued, Bool.or_false]
      refine used_removing (fun pending n => ?_) (fun free => ?_) s
      · obtain ⟨p, -, -, took⟩ := take_of_used ev pending
        rw [took]
        simp
      · rw [take_of_unused ev free]
  | hand i => simp [apply, issued, Act.names]
  | release seq =>
    have unissued : (none == some s) = false := rfl
    simp only [apply, issued, Act.names, unissued, Bool.or_false]
    refine used_removing (fun pending n => ?_) (fun free => ?_) s
    · rw [release_used pending]
      simp
    · rw [release_unused free]
  | register tx l => simp [apply, issued, Act.names, register, used]
  | unregister tx => simp [apply, issued, Act.names, unregister, used]

theorem used_run {F : FutureFactory L} {s : Nat} (acts : List (Act L)) (pending : F.table.used s = true)
    (unnamed : ∀ a ∈ acts, a.names s = false) : (F.run acts).table.used s = true := by
  induction acts generalizing F with
  | nil => exact pending
  | cons a as ih =>
    have kept : (F.apply a).table.used s = true := by
      rw [used_apply, unnamed a (List.mem_cons_self ..), pending]
      rfl
    exact ih kept fun b mem => unnamed b (List.mem_cons_of_mem _ mem)

theorem unused_run {F : FutureFactory L} {s : Nat} (acts : List (Act L)) (free : F.table.used s = false)
    (unissued : s ∉ handedOut F acts) : (F.run acts).table.used s = false := by
  induction acts generalizing F with
  | nil => exact free
  | cons a as ih =>
    simp only [handedOut, List.mem_append, Option.mem_toList, not_or] at unissued
    have stays : (F.apply a).table.used s = false := by
      rw [used_apply, free, Bool.false_or]
      simp [unissued.1]
    exact ih stays unissued.2

theorem apply_unused {F : FutureFactory L} {s : Nat} {a : Act L} (free : F.table.used s = false)
    (named : a.names s = true) : F.apply a = F := by
  cases a with
  | take ev resp =>
    cases resp with
    | none => rfl
    | some r =>
      have same : s = r.requestId.toNat := by simpa [Act.names] using named
      simp only [apply, take_of_unused ev (same ▸ free)]
  | release seq =>
    have same : s = seq := by simpa [Act.names] using named
    simp only [apply, ← same, release_unused free]
  | _ => simp [Act.names] at named

/-! ## Deliveries in flight -/

/-- The future has the number the response names, the event's status and the response. -/
structure Taken (d : Completing) : Prop where
  seq_eq : d.future.seq = d.response.requestId.toNat
  status_eq : d.future.status = d.event.status
  attached : d.future.response = some d.response

theorem taken_take {t t' : FutureTable L} {ev : Event} {r : Response} {f : Future}
    (took : t.take ev r = (some f, t')) : Taken ⟨ev, r, f⟩ := by
  by_cases pending : t.used r.requestId.toNat = true
  · obtain ⟨p, -, named, found⟩ := take_of_used ev pending
    rw [found] at took
    cases took
    exact ⟨by simp [Future.ofPending, Future.attach, named], by simp [Future.ofPending, Future.attach],
      by simp [Future.ofPending, Future.attach]⟩
  · rw [take_of_unused ev (by simpa using pending)] at took
    cases took

theorem taken_apply {F : FutureFactory L} (a : Act L) (taken : ∀ d ∈ F.inFlight, Taken d) :
    ∀ d ∈ (F.apply a).inFlight, Taken d := by
  cases a with
  | take ev resp =>
    cases resp with
    | none => exact taken
    | some r =>
      simp only [apply]
      split
      next f t took =>
        intro d mem
        rcases List.mem_append.1 mem with old | new
        · exact taken d old
        · rw [List.mem_singleton.1 new]
          exact taken_take took
      next => exact taken
  | hand i => exact fun d mem => taken d ((List.eraseIdx_sublist _ i).subset mem)
  | create tx =>
    simp only [apply]
    split <;> exact taken
  | release seq =>
    simp only [apply]
    split <;> exact taken
  | register tx l => exact taken
  | unregister tx => exact taken

theorem taken_run {F : FutureFactory L} (acts : List (Act L)) (taken : ∀ d ∈ F.inFlight, Taken d) :
    ∀ d ∈ (F.run acts).inFlight, Taken d := by
  induction acts generalizing F with
  | nil => exact taken
  | cons a as ih => exact ih (taken_apply a taken)

/-! ## The contract -/

/-- How a factory correlates responses with futures from now on, for every number `s`: a pending
number stays so through calls not naming it, and a call naming it removes its futures (a release
succeeds, a response takes one out and goes in flight); a free number stays so until handed out,
and a call naming it changes nothing and fails with `no matching future`; a delivery in flight
carries its event's status and its second step hands the future to the listener registered then,
or fails with `no listener found`, the future keeping no response. -/
structure Correlates (F : FutureFactory L) : Prop where
  kept : ∀ s acts, F.table.used s = true → (∀ a ∈ acts, a.names s = false) → (F.run acts).table.used s = true
  removed : ∀ s, F.table.used s = true →
    (∀ a, a.names s = true → (F.apply a).table.used s = false) ∧ (∃ t, F.table.release s = .ok t) ∧
    ∀ ev r, r.requestId.toNat = s → ∃ p ∈ F.table.pending, ∃ f t, p.seq = s ∧ F.table.take ev r = (some f, t) ∧
      f = (Future.ofPending p).attach ev.status r ∧ (F.apply (.take ev (some r))).inFlight = F.inFlight ++ [⟨ev, r, f⟩]
  free : ∀ s acts, F.table.used s = false → s ∉ handedOut F acts → (F.run acts).table.used s = false
  refused : ∀ s, F.table.used s = false →
    (∀ a, a.names s = true → F.apply a = F) ∧ F.table.release s = .error (unmatched s) ∧
    ∀ ev r, r.requestId.toNat = s → F.table.respond ev (some r) = (.error (unmatched s), F.table)
  delivered : ∀ d ∈ F.inFlight, (d.future.status = .ok ↔ d.event = .result) ∧
    (d.event ≠ .result → d.future.status = .error) ∧ d.future.seq = d.response.requestId.toNat ∧
    (∀ l, F.table.listener? d.route = some l →
      (F.table.hand d).1 = .ok ⟨l, d.future.seq, d.future.transactionId, d.future.status, d.response, 0⟩) ∧
    (F.table.listener? d.route = none →
      (F.table.hand d).1 = .error (.within s!"transaction {d.route.toNat}" Failure.noListenerFound)) ∧
    (F.table.hand d).2.response = none

theorem Correlates.of_taken {F : FutureFactory L} (taken : ∀ d ∈ F.inFlight, Taken d) : F.Correlates := by
  refine ⟨fun s acts => used_run acts, fun s pending => ⟨fun a named => ?_, ⟨_, release_used pending⟩, ?_⟩,
    fun s acts => unused_run acts, fun s free => ⟨fun a => apply_unused free, release_unused free, ?_⟩,
    fun d mem => ?_⟩
  · rw [used_apply, named]
    rfl
  · intro ev r named
    obtain ⟨p, mem, seq, took⟩ := take_of_used ev (named ▸ pending)
    exact ⟨p, mem, _, _, named ▸ seq, took, rfl, by simp only [apply, took]⟩
  · intro ev r named
    rw [respond_halves, take_of_unused ev (named ▸ free), named]
  · obtain ⟨seq, status, -⟩ := taken d mem
    obtain ⟨listened, unheard, detached⟩ := hand_spec F.table d
    refine ⟨by rw [status, Event.status_eq_ok], fun other => by rw [status, Event.status_eq_error other], seq,
      listened, unheard, by rw [detached, Future.detach_response]⟩

/-- From any table with nothing in flight, at every point of every interleaving. -/
theorem run_correlates (t : FutureTable L) (acts : List (Act L)) :
    (({ table := t } : FutureFactory L).run acts).Correlates :=
  Correlates.of_taken (taken_run acts fun _ none => absurd none List.not_mem_nil)

/-- A listener installed between the two steps receives the delivery. -/
example :
    (fun F : FutureFactory Nat => F.inFlight.map fun d =>
        ((F.table.hand d).1.toOption.map (·.listener), (F.table.hand d).2.response))
      (({ table := { capacity := 1, maxSeq := 1, pending := [⟨1, 7⟩] } } : FutureFactory Nat).run
        [.take .result (some { requestId := 1 }), .register 7 3]) = [(some 3, none)] := by
  decide

end FutureFactory

end InferenceBroker
