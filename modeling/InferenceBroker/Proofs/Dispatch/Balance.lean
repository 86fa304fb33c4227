import Mathlib.Data.List.Flatten
import InferenceBroker.Proofs.Dispatch.Ledger

/-!
# The bookkeeping invariant

A balanced ledger accounts for every task and future: each queue accepted exactly what its
worker took, then what its teardown failed, then what it holds (`flow`), a torn-down engine
accepting nothing after (`settled`); tickets held are below the next; the futures' cursor stays
in `1..maxSeq`, pending numbers are distinct, and pending, completed and dropped futures number
the asynchronous tasks accepted (`counted`); while closing dropped none, every waited-for task
has a pending future of its own (`awaited`). Each way a step changes the ledger keeps it
balanced under a condition the step meets.
-/

namespace InferenceBroker

namespace Ledger

variable {l : Ledger} {i : Nat} {x y : Engine.Load} {t : Task}

/-- Every waited-for task has its own pending future, and a held worker's events answer its task. -/
structure Awaited (l : Ledger) : Prop where
  distinct : (l.awaiting.map (·.future.seq)).Nodup
  pending : ∀ u ∈ l.awaiting, u.future ∈ l.pending
  addressed : ∀ z ∈ l.loads, ∀ h ∈ z.held, Addressed h.1.request h.2

def Drained (l : Ledger) (i : Nat) : Prop := ∃ left, .drained i left ∈ l.events

structure Balanced (l : Ledger) : Prop where
  distinct : (l.loads.map (·.id)).Nodup
  fresh : ∀ j ∈ l.loads.map (·.id), j < l.nextEngine
  logged : ∀ ev ∈ l.events, ev.engine < l.nextEngine
  /-- each queue accepted what its worker took, then what its teardown failed, then what it holds -/
  flow : ∀ i, l.accepted i = l.taken i ++ l.aborted i ++ l.queued i
  sealed : ∀ i, l.Drained i → ∀ z ∈ l.loads, z.id = i → z.state = .draining ∧ z.queued = []
  settled : ∀ i left newer older, l.events = newer ++ .drained i left :: older →
    ∀ ev ∈ newer, ev.acceptedBy i = none
  tickets : ∀ j u, .accepted j u ∈ l.events → ∀ k ∈ u.ticket, k < l.nextTicket
  answered : ∀ k ∈ l.answered, k < l.nextTicket
  sized : l.capacity ≤ l.maxSeq ∧ 1 ≤ l.nextSeq ∧ l.nextSeq ≤ l.maxSeq
  bounded : l.maxSeq = maxSequence
  unique : (l.pending.map (·.seq)).Nodup
  /-- the futures pending, completed and dropped are as many as the asynchronous tasks accepted -/
  counted : l.pending.length + l.completed + l.dropped = l.acceptedAsync.length
  awaited : l.dropped = 0 → l.Awaited

section Views

theorem aborted_eq_nil (h : ¬ l.Drained i) : l.aborted i = [] := by
  refine List.flatMap_eq_nil_iff.2 fun ev hev => ?_
  cases ev with
  | drained j left =>
    simp only [TaskEvent.abortedBy]
    split
    next same => exact absurd ⟨left, same ▸ List.mem_reverse.1 hev⟩ h
    next => rfl
  | accepted => rfl
  | taken => rfl

theorem drained_record {ev : TaskEvent} (h : (l.record ev).Drained i) : l.Drained i ∨ ∃ left, ev = .drained i left := by
  obtain ⟨left, mem⟩ := h
  rcases List.mem_cons.1 mem with same | old
  · exact .inr ⟨left, same.symm⟩
  · exact .inl ⟨left, old⟩

theorem settled_record
    (settled : ∀ i left newer older, l.events = newer ++ .drained i left :: older → ∀ ev ∈ newer, ev.acceptedBy i = none)
    {ev : TaskEvent} (late : ∀ i, l.Drained i → ev.acceptedBy i = none) :
    ∀ i left newer older, (l.record ev).events = newer ++ .drained i left :: older → ∀ ev' ∈ newer, ev'.acceptedBy i = none := by
  intro i left newer older split ev' mem
  cases newer with
  | nil => cases mem
  | cons e newer =>
    simp only [record, List.cons_append, List.cons.injEq] at split
    obtain ⟨rfl, rest⟩ := split
    rcases List.mem_cons.1 mem with rfl | old
    · exact late i ⟨left, rest ▸ List.mem_append_right _ (List.mem_cons_self ..)⟩
    · exact settled i left newer older rest ev' old

theorem mem_events_of_accepted (h : t ∈ l.accepted i) : .accepted i t ∈ l.events := by
  obtain ⟨ev, hev, found⟩ := List.mem_filterMap.1 h
  cases ev with
  | accepted j u =>
    simp only [TaskEvent.acceptedBy] at found
    split at found
    next same =>
      cases found
      exact same ▸ List.mem_reverse.1 hev
    next => cases found
  | taken => cases found
  | drained => cases found

theorem Balanced.accepted_of_queued (b : l.Balanced) (h : t ∈ l.queued i) : .accepted i t ∈ l.events :=
  mem_events_of_accepted (b.flow i ▸ List.mem_append_right _ h)

@[simp] theorem loads_respond (seq : Nat) : (l.respond seq).loads = l.loads := by
  unfold Ledger.respond
  split <;> rfl

@[simp] theorem dropped_respond (seq : Nat) : (l.respond seq).dropped = l.dropped := by
  unfold Ledger.respond
  split <;> rfl

@[simp] theorem events_respond (seq : Nat) : (l.respond seq).events = l.events := by
  unfold Ledger.respond
  split <;> rfl

@[simp] theorem nextTicket_respond (seq : Nat) : (l.respond seq).nextTicket = l.nextTicket := by
  unfold Ledger.respond
  split <;> rfl

@[simp] theorem awaiting_respond (seq : Nat) : (l.respond seq).awaiting = l.awaiting := by
  rw [awaiting, loads_respond]
  rfl

theorem respond_of_mem {seq : Nat} (found : seq ∈ l.pending.map (·.seq)) :
    l.respond seq = { l with pending := l.pending.filter (·.seq != seq), completed := l.completed + 1 } :=
  if_pos found

theorem respond_of_not_mem {seq : Nat} (absent : seq ∉ l.pending.map (·.seq)) : l.respond seq = l :=
  if_neg absent

theorem queued_drop (j : Nat) : (l.drop i).queued j = if j = i then [] else l.queued j := by
  unfold queued drop
  rw [List.filter_filter]
  split
  next here =>
    subst here
    rw [List.filter_eq_nil_iff.2 fun z _ => by simp]
    rfl
  next other =>
    congr 1
    exact List.filter_congr fun z _ => by
      by_cases h : z.id = j <;> simp [h, other]

theorem setLoad_mem (distinct : (l.loads.map (·.id)).Nodup) (hx : x ∈ l.loads) : l.setLoad x = l := by
  unfold setLoad
  congr 1
  refine (List.map_congr_left fun z hz => ?_).trans (List.map_id' l.loads)
  split
  next same => exact (List.inj_on_of_nodup_map distinct hx hz (beq_iff_eq.1 same).symm)
  next => rfl

theorem queued_addEngine (j : Nat) : l.addEngine.queued j = l.queued j := by
  simp only [queued, addEngine, List.filter_append, List.flatMap_append, List.filter_singleton]
  cases l.nextEngine == j <;> simp

theorem ids_addEngine : l.addEngine.loads.map (·.id) = l.loads.map (·.id) ++ [l.nextEngine] := by
  simp [addEngine]

theorem awaiting_addEngine : l.addEngine.awaiting = l.awaiting := by
  simp [awaiting, addEngine, Engine.Load.awaiting]

/-- Unless closing dropped futures, its future is pending and owned by no waiting task. -/
def InFlight (l : Ledger) (t : Task) : Prop :=
  l.dropped = 0 → t.future ∈ l.pending ∧ ∀ u ∈ l.awaiting, u.future.seq ≠ t.future.seq

end Views

section Awaiting

variable (distinct : (l.loads.map (·.id)).Nodup) (hx : x ∈ l.loads) (same : y.id = x.id)
include distinct hx same

theorem awaiting_setLoad :
    ∃ pre post, l.awaiting = pre ++ x.awaiting ++ post ∧ (l.setLoad y).awaiting = pre ++ y.awaiting ++ post := by
  obtain ⟨pre, post, split⟩ := List.append_of_mem hx
  have outside := ids_ne_of_split distinct split
  exact ⟨_, _, awaiting_split split, awaiting_split (setLoad_split split outside same)⟩

theorem Awaited.setLoad_sublist (a : l.Awaited) (sub : y.awaiting.Sublist x.awaiting)
    (held : y.held = x.held ∨ y.held = none) : (l.setLoad y).Awaited := by
  obtain ⟨pre, post, before, after⟩ := awaiting_setLoad distinct hx same
  have fewer : (l.setLoad y).awaiting.Sublist l.awaiting := by
    rw [before, after]
    exact (sub.append_left pre).append_right post
  refine ⟨a.distinct.sublist (fewer.map _), fun u hu => a.pending u (fewer.subset hu), fun z hz h hh => ?_⟩
  rcases mem_setLoad hz with rfl | ⟨old, -⟩
  · rcases held with kept | cleared
    · exact a.addressed x hx h (kept ▸ hh)
    · simp [cleared] at hh
  · exact a.addressed z old h hh

/-- A load stored with one more waiting task, whose future is pending and owned by no other. -/
theorem Awaited.setLoad_append (a : l.Awaited) {P : List PendingFuture} (wider : ∀ f ∈ l.pending, f ∈ P)
    (grow : y.awaiting.Perm (x.awaiting ++ [t])) (owned : t.future ∈ P)
    (free : ∀ u ∈ l.awaiting, u.future.seq ≠ t.future.seq)
    (held : ∀ h ∈ y.held, Addressed h.1.request h.2 ∨ h ∈ x.held) :
    ({ l with pending := P }.setLoad y).Awaited := by
  obtain ⟨pre, post, before, after⟩ := awaiting_setLoad distinct hx same
  have moved : ({ l with pending := P }.setLoad y).awaiting.Perm (l.awaiting ++ [t]) := by
    show (l.setLoad y).awaiting.Perm _
    rw [before, after]
    refine ((grow.append_left pre).append_right post).trans ?_
    simp only [List.append_assoc]
    exact List.Perm.append_left pre (List.Perm.append_left _ List.perm_append_comm)
  refine ⟨?_, fun u hu => ?_, fun z hz h hh => ?_⟩
  · rw [(moved.map (·.future.seq)).nodup_iff, List.map_append, List.nodup_append]
    exact ⟨a.distinct, List.nodup_singleton _, fun s hs s' hs' => by
      obtain ⟨u, hu, rfl⟩ := List.mem_map.1 hs
      have single : s' = t.future.seq := by simpa using hs'
      rw [single]
      exact free u hu⟩
  · rcases List.mem_append.1 (moved.subset hu) with old | new
    · exact wider _ (a.pending u old)
    · rw [List.mem_singleton.1 new]
      exact owned
  · rcases mem_setLoad hz with rfl | ⟨old, -⟩
    · rcases held h hh with direct | kept
      · exact direct
      · exact a.addressed x hx h kept
    · exact a.addressed z old h hh

theorem Awaited.free_of_removed (a : l.Awaited) {R : List Task} (split : x.awaiting.Perm (y.awaiting ++ R)) :
    ∀ u ∈ R, ∀ w ∈ (l.setLoad y).awaiting, w.future.seq ≠ u.future.seq := by
  obtain ⟨pre, post, before, after⟩ := awaiting_setLoad distinct hx same
  have apart : (l.awaiting.map (·.future.seq)).Perm (((pre ++ y.awaiting ++ post) ++ R).map (·.future.seq)) := by
    refine List.Perm.map _ ?_
    rw [before]
    refine ((split.append_left pre).append_right post).trans ?_
    simp only [List.append_assoc]
    exact List.Perm.append_left pre (List.Perm.append_left _ List.perm_append_comm)
  have disjoint := (List.nodup_append.1 (List.map_append ▸ apart.nodup_iff.1 a.distinct)).2.2
  intro u hu w hw same
  rw [after] at hw
  exact disjoint _ (List.mem_map_of_mem hw) _ (List.mem_map_of_mem hu) same

end Awaiting

theorem Awaited.respond (a : l.Awaited) {seq : Nat} (free : ∀ u ∈ l.awaiting, u.future.seq ≠ seq) :
    (l.respond seq).Awaited := by
  unfold Ledger.respond
  split
  · refine ⟨a.distinct, fun u hu => List.mem_filter.2 ⟨a.pending u hu, ?_⟩, a.addressed⟩
    simpa using free u hu
  · exact a

theorem Awaited.of_eq {l' : Ledger} (a : l.Awaited) (loads : l'.loads = l.loads) (pending : l'.pending = l.pending) :
    l'.Awaited := by
  have same : l'.awaiting = l.awaiting := by rw [awaiting, awaiting, loads]
  exact ⟨same ▸ a.distinct, fun u hu => pending ▸ a.pending u (same ▸ hu), loads ▸ a.addressed⟩

theorem Awaited.record (a : l.Awaited) (ev : TaskEvent) : (l.record ev).Awaited := a.of_eq rfl rfl

section Steps

variable (b : l.Balanced)
include b

theorem Balanced.undrained_of_queued (hx : x ∈ l.loads) (busy : x.queued ≠ []) : ¬ l.Drained x.id :=
  fun drained => busy (b.sealed x.id drained x hx rfl).2

theorem Balanced.undrained_of_ready (hx : x ∈ l.loads) (ready : x.state = .ready) : ¬ l.Drained x.id :=
  fun drained => by
    have draining := (b.sealed x.id drained x hx rfl).1
    rw [ready] at draining
    cases draining

theorem Balanced.take (hx : x ∈ l.loads) {rest : List Task} (queue : x.queued = t :: rest) :
    ((l.setLoad { x with queued := rest }).record (.taken x.id t)).Balanced := by
  have undrained := b.undrained_of_queued hx (by simp [queue])
  have before : l.accepted x.id = l.taken x.id ++ t :: rest := by
    rw [b.flow, aborted_eq_nil undrained, queued_of_mem b.distinct hx, queue, List.append_nil]
  have ids := ids_setLoad (l := l) { x with queued := rest }
  refine {
    distinct := ids ▸ b.distinct
    fresh := fun j hj => b.fresh j (ids ▸ hj)
    logged := List.forall_mem_cons.2 ⟨b.fresh _ (List.mem_map_of_mem hx), b.logged⟩
    flow := fun i => ?_
    sealed := fun i drained z hz same => ?_
    settled := settled_record b.settled fun _ _ => rfl
    tickets := fun j u mem => b.tickets j u ((List.mem_cons.1 mem).resolve_left (by simp))
    answered := b.answered
    sized := b.sized
    bounded := b.bounded
    unique := b.unique
    counted := by
      rw [acceptedAsync_record, acceptedAsync_setLoad, TaskEvent.acceptedAsync_taken, Option.toList_none,
        List.append_nil]
      exact b.counted
    awaited := fun undropped => ((b.awaited undropped).setLoad_sublist (y := { x with queued := rest }) b.distinct hx rfl
      ?_ (.inl rfl)).record _ }
  · simp only [accepted_record, taken_record, aborted_record, queued_record, accepted_setLoad, taken_setLoad,
      aborted_setLoad, queued_setLoad (y := { x with queued := rest }) b.distinct hx rfl, TaskEvent.acceptedBy,
      TaskEvent.takenBy, TaskEvent.abortedBy]
    by_cases here : x.id = i
    · subst here
      simp [before, aborted_eq_nil undrained]
    · simpa [here] using b.flow i
  · rcases drained_record drained with old | ⟨left, bad⟩
    · rcases mem_setLoad hz with rfl | ⟨kept, -⟩
      · exact absurd (same ▸ old) undrained
      · exact b.sealed i old z kept same
    · cases bad
  · simp only [Engine.Load.awaiting, queue]
    refine List.Sublist.append_right ?_ _
    rw [List.filter_cons]
    split
    · exact List.sublist_cons_self _ _
    · exact List.Sublist.refl _

theorem Balanced.take_inFlight (hx : x ∈ l.loads) {rest : List Task} (queue : x.queued = t :: rest)
    (async : t.async = true) : ((l.setLoad { x with queued := rest }).record (.taken x.id t)).InFlight t := by
  intro undropped
  have a := b.awaited undropped
  have split : x.awaiting.Perm (({ x with queued := rest } : Engine.Load).awaiting ++ [t]) := by
    simp only [Engine.Load.awaiting, queue, List.filter_cons, async, if_true, List.cons_append]
    exact (List.perm_append_singleton t _).symm
  have waiting : t ∈ l.awaiting :=
    List.mem_flatMap.2 ⟨x, hx, split.symm.subset (List.mem_append_right _ (List.mem_singleton_self t))⟩
  exact ⟨a.pending t waiting,
    a.free_of_removed (y := { x with queued := rest }) b.distinct hx rfl split t (List.mem_singleton_self t)⟩

theorem Balanced.respond {seq : Nat} (free : l.dropped = 0 → ∀ u ∈ l.awaiting, u.future.seq ≠ seq) :
    (l.respond seq).Balanced := by
  by_cases found : seq ∈ l.pending.map (·.seq)
  · have awaited := fun undropped => (b.awaited undropped).respond (free undropped)
    rw [respond_of_mem found] at awaited ⊢
    have removed := FutureTable.length_filter_seq b.unique found
    exact { b with
      unique := b.unique.sublist ((List.filter_sublist (l := l.pending)).map _)
      counted := by
        have counted := b.counted
        show (l.pending.filter _).length + (l.completed + 1) + l.dropped = l.acceptedAsync.length
        omega
      awaited := awaited }
  · rw [respond_of_not_mem found]
    exact b

theorem Balanced.setLoad_tasks (hx : x ∈ l.loads) (same : y.id = x.id) (queue : y.queued = x.queued)
    (state : y.state = x.state) (awaited : l.dropped = 0 → (l.setLoad y).Awaited) : (l.setLoad y).Balanced := by
  have ids := ids_setLoad (l := l) y
  refine { b with
    distinct := ids ▸ b.distinct
    fresh := fun j hj => b.fresh j (ids ▸ hj)
    flow := fun i => ?_
    sealed := fun i drained z hz hid => ?_
    awaited := awaited }
  · rw [accepted_setLoad, taken_setLoad, aborted_setLoad, queued_setLoad b.distinct hx same, b.flow]
    split
    next here => rw [queue, ← here, queued_of_mem b.distinct hx]
    next => rfl
  · rcases mem_setLoad hz with rfl | ⟨kept, -⟩
    · rw [queue, state]
      exact b.sealed i drained x hx (same ▸ hid)
    · exact b.sealed i drained z kept hid

/-- A worker held at the gate with its task, whose future is pending and owned by no waiting
task, and with events answering it. -/
theorem Balanced.hold (hx : x ∈ l.loads) (idle : x.held = none) {events : List (Event × Response)}
    (ready : l.dropped = 0 → t.future ∈ l.pending ∧ (∀ u ∈ l.awaiting, u.future.seq ≠ t.future.seq) ∧
      Addressed t.request events) :
    (l.setLoad { x with held := some (t, events) }).Balanced := by
  refine b.setLoad_tasks hx rfl rfl rfl fun undropped => ?_
  obtain ⟨owned, free, addressed⟩ := ready undropped
  have grow : ({ x with held := some (t, events) } : Engine.Load).awaiting.Perm (x.awaiting ++ [t]) := by
    simp [Engine.Load.awaiting, idle]
  refine (b.awaited undropped).setLoad_append (y := { x with held := some (t, events) }) b.distinct hx rfl
    (fun f hf => hf) grow owned free fun h hh => ?_
  simp only [Option.mem_def, Option.some.injEq] at hh
  subst hh
  exact .inl addressed

theorem Balanced.unhold (hx : x ∈ l.loads) : (l.setLoad { x with held := none }).Balanced :=
  b.setLoad_tasks hx rfl rfl rfl fun undropped =>
    (b.awaited undropped).setLoad_sublist (y := { x with held := none }) b.distinct hx rfl
      (by simp [Engine.Load.awaiting]) (.inr rfl)

theorem Balanced.unhold_inFlight (hx : x ∈ l.loads) {events : List (Event × Response)}
    (held : x.held = some (t, events)) :
    (l.setLoad { x with held := none }).InFlight t ∧ (l.dropped = 0 → Addressed t.request events) := by
  refine ⟨fun undropped => ?_, fun undropped => (b.awaited undropped).addressed x hx (t, events) held⟩
  have a := b.awaited undropped
  have split : x.awaiting.Perm (({ x with held := none } : Engine.Load).awaiting ++ [t]) := by
    simp [Engine.Load.awaiting, held]
  have waiting : t ∈ l.awaiting :=
    List.mem_flatMap.2 ⟨x, hx, split.symm.subset (List.mem_append_right _ (List.mem_singleton_self t))⟩
  exact ⟨a.pending t waiting,
    a.free_of_removed (y := { x with held := none }) b.distinct hx rfl split t (List.mem_singleton_self t)⟩

theorem Balanced.accept_tasks (hx : x ∈ l.loads) (ready : x.state = .ready) (i : Nat) :
    ((l.setLoad { x with queued := x.queued ++ [t] }).record (.accepted x.id t)).accepted i =
      ((l.setLoad { x with queued := x.queued ++ [t] }).record (.accepted x.id t)).taken i ++
        ((l.setLoad { x with queued := x.queued ++ [t] }).record (.accepted x.id t)).aborted i ++
        ((l.setLoad { x with queued := x.queued ++ [t] }).record (.accepted x.id t)).queued i := by
  simp only [accepted_record, taken_record, aborted_record, queued_record, accepted_setLoad, taken_setLoad,
    aborted_setLoad, queued_setLoad (y := { x with queued := x.queued ++ [t] }) b.distinct hx rfl,
    TaskEvent.takenBy_accepted, TaskEvent.abortedBy_accepted, TaskEvent.acceptedBy, Option.toList_none,
    List.append_nil]
  by_cases here : x.id = i
  · subst here
    rw [b.flow, aborted_eq_nil (b.undrained_of_ready hx ready), queued_of_mem b.distinct hx]
    simp
  · simpa [here] using b.flow i

theorem Balanced.accept_sealed (hx : x ∈ l.loads) (ready : x.state = .ready) (i : Nat)
    (drained : ((l.setLoad { x with queued := x.queued ++ [t] }).record (.accepted x.id t)).Drained i) :
    ∀ z ∈ ((l.setLoad { x with queued := x.queued ++ [t] }).record (.accepted x.id t)).loads, z.id = i →
      z.state = .draining ∧ z.queued = [] := by
  rcases drained_record drained with old | ⟨left, bad⟩
  · intro z hz same
    rcases mem_setLoad hz with rfl | ⟨kept, -⟩
    · exact absurd (same ▸ old) (b.undrained_of_ready hx ready)
    · exact b.sealed i old z kept same
  · cases bad

theorem Balanced.accept_settled (hx : x ∈ l.loads) (ready : x.state = .ready) :
    ∀ i, l.Drained i → (TaskEvent.accepted x.id t).acceptedBy i = none := by
  intro i drained
  simp only [TaskEvent.acceptedBy]
  split
  next here => exact absurd (here ▸ drained) (b.undrained_of_ready hx ready)
  next => rfl

theorem Balanced.accept (hx : x ∈ l.loads) (ready : x.state = .ready) (direct : t.async = false)
    (ticket : ∀ k ∈ t.ticket, k < l.nextTicket) :
    ((l.setLoad { x with queued := x.queued ++ [t] }).record (.accepted x.id t)).Balanced := by
  have ids := ids_setLoad (l := l) { x with queued := x.queued ++ [t] }
  refine {
    distinct := ids ▸ b.distinct
    fresh := fun j hj => b.fresh j (ids ▸ hj)
    logged := List.forall_mem_cons.2 ⟨b.fresh _ (List.mem_map_of_mem hx), b.logged⟩
    flow := b.accept_tasks hx ready
    sealed := b.accept_sealed hx ready
    settled := settled_record b.settled (b.accept_settled hx ready)
    tickets := fun j u mem k hk => ?_
    answered := b.answered
    sized := b.sized
    bounded := b.bounded
    unique := b.unique
    counted := by
      rw [acceptedAsync_record, acceptedAsync_setLoad]
      dsimp only [record, setLoad]
      simpa [TaskEvent.acceptedAsync, direct] using b.counted
    awaited := fun undropped => ((b.awaited undropped).setLoad_sublist (y := { x with queued := x.queued ++ [t] })
      b.distinct hx rfl (by simp [Engine.Load.awaiting, direct]) (.inl rfl)).record _ }
  rcases List.mem_cons.1 mem with same | old
  · cases same
    exact ticket k hk
  · exact b.tickets j u old k hk

theorem Balanced.withTicket {n : Nat} (le : l.nextTicket ≤ n) : { l with nextTicket := n }.Balanced :=
  { b with
    tickets := fun j u mem k hk => Nat.lt_of_lt_of_le (b.tickets j u mem k hk) le
    answered := fun k hk => Nat.lt_of_lt_of_le (b.answered k hk) le
    awaited := fun undropped => (b.awaited undropped).of_eq rfl rfl }

/-- A ready queue accepts an asynchronous task whose future takes a number no pending one has. -/
theorem Balanced.acceptAsync (hx : x ∈ l.loads) (ready : x.state = .ready) (async : t.async = true)
    (unused : t.future.seq ∉ l.pending.map (·.seq)) {n : Nat} (cursor : 1 ≤ n ∧ n ≤ l.maxSeq) :
    (({ l with pending := l.pending ++ [t.future], nextSeq := n }.setLoad { x with queued := x.queued ++ [t] }).record
      (.accepted x.id t)).Balanced := by
  have ids := ids_setLoad (l := l) { x with queued := x.queued ++ [t] }
  refine {
    distinct := ids ▸ b.distinct
    fresh := fun j hj => b.fresh j (ids ▸ hj)
    logged := List.forall_mem_cons.2 ⟨b.fresh _ (List.mem_map_of_mem hx), b.logged⟩
    flow := b.accept_tasks hx ready
    sealed := b.accept_sealed hx ready
    settled := settled_record b.settled (b.accept_settled hx ready)
    tickets := fun j u mem k hk => ?_
    answered := b.answered
    sized := ⟨b.sized.1, cursor⟩
    bounded := b.bounded
    unique := ?_
    counted := ?_
    awaited := fun undropped => ?_ }
  · rcases List.mem_cons.1 mem with same | old
    · cases same
      simp [Task.async] at async
      simp [async] at hk
    · exact b.tickets j u old k hk
  · show ((l.pending ++ [t.future]).map (·.seq)).Nodup
    rw [List.map_append, List.nodup_append]
    exact ⟨b.unique, List.nodup_singleton _, fun s hs s' hs' same => by
      rw [List.mem_singleton.1 hs'] at same
      exact unused (by rw [← show s = t.future.seq from same]; exact hs)⟩
  · rw [acceptedAsync_record, acceptedAsync_setLoad]
    show (l.pending ++ [t.future]).length + l.completed + l.dropped =
      (l.acceptedAsync ++ (TaskEvent.accepted x.id t).acceptedAsync.toList).length
    simp only [TaskEvent.acceptedAsync, async, if_true, Option.toList_some, List.length_append, List.length_singleton]
    have counted := b.counted
    omega
  · have grow : ({ x with queued := x.queued ++ [t] } : Engine.Load).awaiting.Perm (x.awaiting ++ [t]) := by
      simp only [Engine.Load.awaiting, List.filter_append, List.filter_singleton, async, cond_true,
        List.append_assoc]
      exact List.Perm.append_left _ List.perm_append_comm
    have a := b.awaited undropped
    refine ((a.setLoad_append (y := { x with queued := x.queued ++ [t] }) b.distinct hx rfl
      (P := l.pending ++ [t.future]) (fun f hf => List.mem_append_left _ hf) grow
      (List.mem_append_right _ (List.mem_singleton_self _)) (fun u hu same => ?_) fun h hh => .inr hh).record
      (.accepted x.id t)).of_eq rfl rfl
    exact unused (same ▸ List.mem_map_of_mem (a.pending u hu))

theorem Balanced.drain (hx : x ∈ l.loads) :
    ((l.setLoad { x with state := .draining, queued := [] }).record (.drained x.id x.queued)).Balanced := by
  have ids := ids_setLoad (l := l) { x with state := .draining, queued := [] }
  refine {
    distinct := ids ▸ b.distinct
    fresh := fun j hj => b.fresh j (ids ▸ hj)
    logged := List.forall_mem_cons.2 ⟨b.fresh _ (List.mem_map_of_mem hx), b.logged⟩
    flow := fun i => ?_
    sealed := fun i drained z hz same => ?_
    settled := settled_record b.settled fun _ _ => rfl
    tickets := fun j u mem => b.tickets j u ((List.mem_cons.1 mem).resolve_left (by simp))
    answered := b.answered
    sized := b.sized
    bounded := b.bounded
    unique := b.unique
    counted := by
      rw [acceptedAsync_record, acceptedAsync_setLoad, TaskEvent.acceptedAsync_drained, Option.toList_none,
        List.append_nil]
      exact b.counted
    awaited := fun undropped => ((b.awaited undropped).setLoad_sublist
      (y := { x with state := .draining, queued := [] }) b.distinct hx rfl
      (by simp only [Engine.Load.awaiting, List.filter_nil, List.nil_append]; exact List.sublist_append_right _ _)
      (.inl rfl)).record _ }
  · simp only [accepted_record, taken_record, aborted_record, queued_record, accepted_setLoad, taken_setLoad,
      aborted_setLoad, queued_setLoad (y := { x with state := .draining, queued := [] }) b.distinct hx rfl,
      TaskEvent.acceptedBy_drained, TaskEvent.takenBy_drained, TaskEvent.abortedBy, Option.toList_none,
      List.append_nil]
    by_cases here : x.id = i
    · subst here
      rw [b.flow, queued_of_mem b.distinct hx]
      simp
    · simpa [here] using b.flow i
  · rcases mem_setLoad hz with rfl | ⟨kept, other⟩
    · exact ⟨rfl, rfl⟩
    · rcases drained_record drained with old | ⟨left, fresh⟩
      · exact b.sealed i old z kept same
      · cases fresh
        exact absurd same other

theorem Balanced.drop (empty : ∀ z ∈ l.loads, z.id = i → z.queued = []) : (l.drop i).Balanced := by
  have kept : (l.drop i).loads.Sublist l.loads := List.filter_sublist
  have none : l.queued i = [] := List.flatMap_eq_nil_iff.2 fun z hz => by
    rw [List.mem_filter, beq_iff_eq] at hz
    exact empty z hz.1 hz.2
  refine {
    distinct := b.distinct.sublist (kept.map _)
    fresh := fun j hj => b.fresh j ((kept.map _).subset hj)
    logged := b.logged
    flow := fun j => ?_
    sealed := fun j drained z hz same => b.sealed j drained z (kept.subset hz) same
    settled := b.settled
    tickets := b.tickets
    answered := b.answered
    sized := b.sized
    bounded := b.bounded
    unique := b.unique
    counted := b.counted
    awaited := fun undropped => ?_ }
  · show l.accepted j = l.taken j ++ l.aborted j ++ (l.drop i).queued j
    rw [queued_drop, b.flow]
    split
    next here => rw [here, none]
    next => rfl
  · have a := b.awaited undropped
    have fewer : (l.drop i).awaiting.Sublist l.awaiting := kept.flatMap _
    exact ⟨a.distinct.sublist (fewer.map _), fun u hu => a.pending u (fewer.subset hu),
      fun z hz => a.addressed z (kept.subset hz)⟩

theorem Balanced.addEngine : l.addEngine.Balanced := by
  have unused : l.nextEngine ∉ l.loads.map (·.id) := fun mem => Nat.lt_irrefl _ (b.fresh _ mem)
  refine {
    distinct := ?_
    fresh := fun j hj => ?_
    logged := fun ev hev => Nat.lt_succ_of_lt (b.logged ev hev)
    flow := fun j => by rw [queued_addEngine]; exact b.flow j
    sealed := fun j drained z hz same => ?_
    settled := b.settled
    tickets := b.tickets
    answered := b.answered
    sized := b.sized
    bounded := b.bounded
    unique := b.unique
    counted := b.counted
    awaited := fun undropped => ?_ }
  · rw [ids_addEngine]
    exact List.nodup_append.2 ⟨b.distinct, List.nodup_singleton _, fun a ha c hc same => by
      rw [List.mem_singleton.1 hc] at same
      exact unused (same ▸ ha)⟩
  · rw [ids_addEngine, List.mem_append, List.mem_singleton] at hj
    rcases hj with old | rfl
    · exact Nat.lt_succ_of_lt (b.fresh j old)
    · exact Nat.lt_succ_self _
  · rcases List.mem_append.1 hz with old | new
    · exact b.sealed j drained z old same
    · obtain ⟨left, mem⟩ := drained
      rw [List.mem_singleton.1 new] at same
      exact absurd (b.logged _ mem) (by simp [TaskEvent.engine, ← same])
  · have a := b.awaited undropped
    refine ⟨by rw [awaiting_addEngine]; exact a.distinct, fun u hu => a.pending u (by rwa [awaiting_addEngine] at hu),
      fun z hz h hh => ?_⟩
    rcases List.mem_append.1 hz with old | new
    · exact a.addressed z old h hh
    · rw [List.mem_singleton.1 new] at hh
      cases hh

theorem Balanced.withEngine {n : Nat} (le : l.nextEngine ≤ n) : { l with nextEngine := n }.Balanced :=
  { b with
    fresh := fun j hj => Nat.lt_of_lt_of_le (b.fresh j hj) le
    logged := fun ev hev => Nat.lt_of_lt_of_le (b.logged ev hev) le
    awaited := fun undropped => (b.awaited undropped).of_eq rfl rfl }

theorem Balanced.answer {k : Nat} (lt : k < l.nextTicket) : { l with answered := k :: l.answered }.Balanced :=
  { b with
    answered := List.forall_mem_cons.2 ⟨lt, b.answered⟩
    awaited := fun undropped => (b.awaited undropped).of_eq rfl rfl }

theorem Balanced.withAnswered {A : List Nat} (fewer : ∀ k ∈ A, k ∈ l.answered) : { l with answered := A }.Balanced :=
  { b with
    answered := fun k hk => b.answered k (fewer k hk)
    awaited := fun undropped => (b.awaited undropped).of_eq rfl rfl }

theorem Balanced.withCursor {n : Nat} (cursor : 1 ≤ n ∧ n ≤ l.maxSeq) : { l with nextSeq := n }.Balanced :=
  { b with
    sized := ⟨b.sized.1, cursor⟩
    awaited := fun undropped => (b.awaited undropped).of_eq rfl rfl }

theorem Balanced.close : { l with pending := [], dropped := l.dropped + l.pending.length }.Balanced := by
  refine { b with
    unique := List.nodup_nil
    counted := by
      have counted := b.counted
      show 0 + l.completed + (l.dropped + l.pending.length) = l.acceptedAsync.length
      omega
    awaited := fun undropped => ?_ }
  have nothing : l.dropped = 0 ∧ l.pending = [] := by
    have : l.dropped + l.pending.length = 0 := undropped
    exact ⟨by omega, List.eq_nil_of_length_eq_zero (by omega)⟩
  exact (b.awaited nothing.1).of_eq rfl nothing.2.symm

end Steps

end Ledger

end InferenceBroker
