import Mathlib
import InferenceBroker.Proofs.Dispatch.Direct

/-!
# Every asynchronous request is answered once

A future is answered from three places: the worker running its task (the plugin's events, or
one error event when it fails or panics), a worker held at the gate when the gate opens, and an
engine's teardown (one error event per asynchronous task left queued). The table arbitrates:
the first response naming the future completes and removes it, later ones are dropped.

So in every reachable dispatcher whose futures closing did not drop, each waited-for task owns
a pending future alone under its number, and each way of answering settles its futures: one
answered by an event is no longer pending and its listener, if any, gets exactly one reply with
the first event; other numbers are left alone; one answered by no event stays pending. What the
futures show of one number is its *view*: its pending futures and the replies naming it.
-/

namespace InferenceBroker

namespace FutureTable

variable {L : Type}

/-- The pending futures of number `seq` and the replies naming it. -/
def view (t : FutureTable L) (replies : List (Reply L)) (seq : Nat) : List PendingFuture × List (Reply L) :=
  (t.pending.filter (·.seq == seq), replies.filter (·.seq == seq))

/-- The reply the listener of `f`'s transaction, if any, receives when `event` completes `f`. -/
def replyTo (t : FutureTable L) (f : PendingFuture) (moment : Nat) (event : Event) (r : Response) :
    Option (Reply L) :=
  (t.listener? f.transactionId).map fun l =>
    { listener := l, seq := f.seq, transactionId := f.transactionId,
      status := if event.isResult then .ok else .error, response := r, moment := moment }

/-- The view of `f` once `events` answered it: with none, as it was; else not pending, with one
reply in front for its transaction's listener, if any, carrying the first event. -/
def answered (t : FutureTable L) (replies : List (Reply L)) (f : PendingFuture) (moment : Nat) :
    List (Event × Response) → List PendingFuture × List (Reply L)
  | [] => t.view replies f.seq
  | (ev, r) :: _ => ([], (t.replyTo f moment ev r).toList ++ (t.view replies f.seq).2)

/-- One response posted: the table answers it, and a listener's reply goes in front. -/
def post (moment : Nat) (s : FutureTable L × List (Reply L)) (ev : Event × Response) :
    FutureTable L × List (Reply L) :=
  match s.1.respond ev.1 (some ev.2) with
  | (.ok reply, t) => (t, { reply with moment := moment } :: s.2)
  | (.error _, t) => (t, s.2)

/-- Each names `f`'s number and carries its transaction, or none. -/
def AddressedTo (f : PendingFuture) (events : List (Event × Response)) : Prop :=
  ∀ ev ∈ events, ev.2.requestId.toNat = f.seq ∧ (ev.2.transactionId = f.transactionId ∨ ev.2.transactionId = 0)

theorem filter_seq_of_mem {l : List PendingFuture} (nodup : (l.map (·.seq)).Nodup) {f : PendingFuture}
    (hf : f ∈ l) : l.filter (·.seq == f.seq) = [f] := by
  induction l with
  | nil => cases hf
  | cons x xs ih =>
    rw [List.map_cons, List.nodup_cons] at nodup
    rcases List.mem_cons.1 hf with rfl | later
    · rw [List.filter_cons_of_pos (by simp), List.filter_eq_nil_iff.2 fun y hy same =>
        nodup.1 (by rw [← beq_iff_eq.1 same]; exact List.mem_map_of_mem hy)]
    · have other : ¬ (x.seq == f.seq) = true := fun same =>
        nodup.1 (by rw [beq_iff_eq.1 same]; exact List.mem_map_of_mem later)
      rw [List.filter_cons, if_neg other, ih nodup.2 later]

theorem post_fst (moment : Nat) (s : FutureTable L × List (Reply L)) (ev : Event × Response) :
    (post moment s ev).1 = (s.1.respond ev.1 (some ev.2)).2 := by
  unfold post
  split
  all_goals next answer => rw [answer]

@[simp] theorem listeners_respond (t : FutureTable L) (event : Event) (resp : Option Response) :
    (t.respond event resp).2.listeners = t.listeners := by
  unfold respond
  split
  · rfl
  · dsimp only
    split
    · rfl
    · split <;> rfl

@[simp] theorem listeners_post (moment : Nat) (s : FutureTable L × List (Reply L)) (ev : Event × Response) :
    (post moment s ev).1.listeners = s.1.listeners := by
  rw [post_fst, listeners_respond]

theorem listeners_foldl_post (moment : Nat) (events : List (Event × Response)) (s : FutureTable L × List (Reply L)) :
    (events.foldl (post moment) s).1.listeners = s.1.listeners := by
  induction events generalizing s with
  | nil => rfl
  | cons ev events ih => rw [List.foldl_cons, ih, listeners_post]

theorem post_missing {s : FutureTable L × List (Reply L)} {ev : Event} {r : Response} (moment : Nat)
    (missing : s.1.pending.find? (·.seq == r.requestId.toNat) = none) : post moment s (ev, r) = s := by
  unfold post respond
  dsimp only
  rw [missing]

/-- A response whose number has pending future `f` removes that number's futures, counts one
completed, and the listener of its transaction (or `f`'s) gets a reply. -/
theorem post_found {s : FutureTable L × List (Reply L)} {ev : Event} {r : Response} {f : PendingFuture}
    (moment : Nat) (found : s.1.pending.find? (·.seq == r.requestId.toNat) = some f) :
    post moment s (ev, r) =
      ({ s.1 with pending := s.1.pending.filter (·.seq != r.requestId.toNat), completed := s.1.completed + 1 },
        ((s.1.listener? (if r.transactionId == 0 then f.transactionId else r.transactionId)).map fun l =>
          ({ listener := l, seq := r.requestId.toNat, transactionId := f.transactionId,
             status := if ev.isResult then .ok else .error, response := r, moment := moment } : Reply L)).toList ++
          s.2) := by
  unfold post respond
  dsimp only
  rw [found]
  dsimp only
  cases s.1.listener? (if r.transactionId == 0 then f.transactionId else r.transactionId) <;> rfl

theorem post_absent {s : FutureTable L × List (Reply L)} {ev : Event × Response} (moment : Nat)
    (absent : s.1.pending.filter (·.seq == ev.2.requestId.toNat) = []) : post moment s ev = s := by
  obtain ⟨ev, r⟩ := ev
  exact post_missing moment (by rw [← List.head?_filter]; exact congrArg List.head? absent)

theorem foldl_post_absent {s : FutureTable L × List (Reply L)} (moment seq : Nat)
    (absent : s.1.pending.filter (·.seq == seq) = []) {events : List (Event × Response)}
    (named : ∀ ev ∈ events, ev.2.requestId.toNat = seq) : events.foldl (post moment) s = s := by
  induction events with
  | nil => rfl
  | cons ev events ih =>
    rw [List.foldl_cons, post_absent moment (by rw [named ev (List.mem_cons_self ..)]; exact absent)]
    exact ih fun e he => named e (List.mem_cons_of_mem _ he)

theorem view_post_other {s : FutureTable L × List (Reply L)} {ev : Event × Response} (moment : Nat) {seq : Nat}
    (other : ev.2.requestId.toNat ≠ seq) : (post moment s ev).1.view (post moment s ev).2 seq = s.1.view s.2 seq := by
  obtain ⟨ev, r⟩ := ev
  rcases found : s.1.pending.find? (·.seq == r.requestId.toNat) with _ | f
  · rw [post_missing moment found]
  · rw [post_found moment found]
    -- the table takes away the futures of the response's number only, and the reply names it
    refine Prod.ext ?_ ?_
    · show (s.1.pending.filter (·.seq != r.requestId.toNat)).filter (·.seq == seq) = s.1.pending.filter (·.seq == seq)
      rw [List.filter_filter]
      refine List.filter_congr fun x _ => ?_
      by_cases same : x.seq = seq
      · simp [same, Ne.symm other]
      · simp [same]
    · show (_ ++ s.2).filter (·.seq == seq) = s.2.filter (·.seq == seq)
      rw [List.filter_append]
      cases s.1.listener? (if r.transactionId == 0 then f.transactionId else r.transactionId) <;> simp [other]

theorem view_post_first {s : FutureTable L × List (Reply L)} {f : PendingFuture} {ev : Event} {r : Response}
    (moment : Nat) (alone : s.1.pending.filter (·.seq == f.seq) = [f]) (addressed : AddressedTo f [(ev, r)]) :
    (post moment s (ev, r)).1.view (post moment s (ev, r)).2 f.seq = s.1.answered s.2 f moment [(ev, r)] := by
  obtain ⟨named, carried⟩ := addressed (ev, r) (List.mem_singleton_self _)
  have found : s.1.pending.find? (·.seq == r.requestId.toNat) = some f := by
    rw [named, ← List.head?_filter, alone]
    rfl
  -- the reply goes to the listener of `f`'s transaction, whether the response names it or none
  rw [post_found moment found, routed_transaction carried, named]
  refine Prod.ext ?_ ?_
  · show (s.1.pending.filter (·.seq != f.seq)).filter (·.seq == f.seq) = []
    rw [List.filter_filter]
    exact List.filter_eq_nil_iff.2 fun x _ => by simp
  · show (_ ++ s.2).filter (·.seq == f.seq) = (s.1.replyTo f moment ev r).toList ++ s.2.filter (·.seq == f.seq)
    rw [List.filter_append]
    unfold replyTo
    cases s.1.listener? f.transactionId <;> simp

/-- Responses addressed to `f`, pending alone under its number, answer it once and leave
every other number's view. -/
theorem view_foldl_post {s : FutureTable L × List (Reply L)} {f : PendingFuture} (moment : Nat)
    (alone : s.1.pending.filter (·.seq == f.seq) = [f]) {events : List (Event × Response)}
    (addressed : AddressedTo f events) (seq : Nat) :
    (events.foldl (post moment) s).1.view (events.foldl (post moment) s).2 seq =
      if seq = f.seq then s.1.answered s.2 f moment events else s.1.view s.2 seq := by
  cases events with
  | nil =>
    split
    next same => rw [same]; rfl
    next => rfl
  | cons ev rest =>
    obtain ⟨ev, r⟩ := ev
    have first := view_post_first moment alone fun e he => addressed e (by
      rw [List.mem_singleton] at he
      exact he ▸ List.mem_cons_self ..)
    -- after the first response nothing of the number is pending, so the rest are dropped
    have emptied : (post moment s (ev, r)).1.pending.filter (·.seq == f.seq) = [] := congrArg Prod.fst first
    rw [List.foldl_cons, foldl_post_absent moment f.seq emptied fun e he => (addressed e (List.mem_cons_of_mem _ he)).1]
    split
    next same =>
      rw [same]
      exact first
    next other =>
      exact view_post_other moment (by rw [(addressed (ev, r) (List.mem_cons_self ..)).1]; exact Ne.symm other)

theorem answered_congr {t t' : FutureTable L} {rs rs' : List (Reply L)} {f : PendingFuture} (moment : Nat)
    (listeners : t'.listeners = t.listeners) (same : t'.view rs' f.seq = t.view rs f.seq)
    (events : List (Event × Response)) : t'.answered rs' f moment events = t.answered rs f moment events := by
  cases events with
  | nil => exact same
  | cons ev rest => simp only [answered, replyTo, listener?, listeners, same]

theorem view_foldl_answers (moment : Nat) :
    ∀ (answers : List (PendingFuture × List (Event × Response))) (s : FutureTable L × List (Reply L)),
      (answers.map (·.1.seq)).Nodup → (∀ a ∈ answers, s.1.pending.filter (·.seq == a.1.seq) = [a.1]) →
      (∀ a ∈ answers, AddressedTo a.1 a.2) → ∀ seq,
      ((answers.flatMap (·.2)).foldl (post moment) s).1.view ((answers.flatMap (·.2)).foldl (post moment) s).2 seq =
        match answers.find? (·.1.seq == seq) with
        | none => s.1.view s.2 seq
        | some a => s.1.answered s.2 a.1 moment a.2
  | [], _, _, _, _, _ => rfl
  | a :: rest, s, distinct, alone, addressed, seq => by
    rw [List.map_cons, List.nodup_cons] at distinct
    have head := view_foldl_post moment (alone a (List.mem_cons_self ..)) (addressed a (List.mem_cons_self ..))
    -- the first future's responses leave the others' numbers as they were
    have kept : ∀ b ∈ rest, (a.2.foldl (post moment) s).1.view (a.2.foldl (post moment) s).2 b.1.seq =
        s.1.view s.2 b.1.seq := fun b hb => by
      rw [head, if_neg fun same => distinct.1 (by rw [← same]; exact List.mem_map_of_mem hb)]
    have tail := view_foldl_answers moment rest (a.2.foldl (post moment) s) distinct.2
      (fun b hb => (congrArg Prod.fst (kept b hb)).trans (alone b (List.mem_cons_of_mem _ hb)))
      (fun b hb => addressed b (List.mem_cons_of_mem _ hb)) seq
    rw [List.flatMap_cons, List.foldl_append, tail, List.find?_cons]
    by_cases same : seq = a.1.seq
    · -- no later future shares the first one's number
      have none : rest.find? (·.1.seq == seq) = none := List.find?_eq_none.2 fun b hb hseq =>
        distinct.1 (by rw [← same, ← beq_iff_eq.1 hseq]; exact List.mem_map_of_mem hb)
      have hit : (a.1.seq == seq) = true := by simp [same]
      simp only [hit, none, head, if_pos same]
    · have miss : (a.1.seq == seq) = false := by simp [Ne.symm same]
      simp only [miss]
      rcases found : rest.find? (·.1.seq == seq) with _ | b
      · simp only [found, head, if_neg same]
      · have hb := List.mem_of_find?_eq_some found
        rw [found]
        exact answered_congr moment (listeners_foldl_post _ _ _) (kept b hb) _

end FutureTable

namespace Engine

/-- What `e`'s worker reports for the asynchronous task it starts at `start`: the plugin's
events (none while waiting at the closed gate), or one error event on failure or panic, with
the moment of the report. -/
def asyncReport (e : Engine) (gateOpen : Bool) (t : Task) (start : Nat) : List (Event × Response) × Nat :=
  match (e.plugin.asyncProcess t.request).1 with
  | .done (.gated events) => (if gateOpen then events else [], start)
  | .done delivery =>
    (delivery.events, match delivery with
      | .later after _ => start + after.nanos.toNat
      | _ => start)
  | .failed err => ([(.error, Response.failure t.request (some err))], start)
  | .panicked msg => ([(.error, Response.failure t.request (some (e.panicked msg)))], start)

theorem asyncReport_addressed (e : Engine) (gateOpen : Bool) (t : Task) (start : Nat) :
    Addressed t.request (e.asyncReport gateOpen t start).1 := by
  unfold asyncReport
  split
  next events done =>
    split
    · exact Plugin.asyncProcess_addressed e.plugin t.request done
    · exact fun _ none => nomatch none
  next delivery _ done => exact Plugin.asyncProcess_addressed e.plugin t.request done
  next err _ => exact addressed_failure t.request _ _
  next msg _ => exact addressed_failure t.request _ _

/-- The teardown's answer to an asynchronous task left queued: one error event. -/
def abortEvents (e : Engine) (t : Task) : List (Event × Response) :=
  [(.error, Response.failure t.request (some e.stopped))]

end Engine

theorem Addressed.to_future {t : Task} {events : List (Event × Response)} (h : Addressed t.request events) :
    FutureTable.AddressedTo t.future events := fun ev hev =>
  ⟨Addressed.seq h ev hev, (h ev hev).2⟩

namespace Dispatcher

variable {L : Type} {α β : Type}

open FutureTable

section Posts

def posts (d : Dispatcher L) : FutureTable L × List (Reply L) := (d.futures, d.replies)

def Unposted (x : Act L α) : Prop := ∀ d : Dispatcher L, (x.run d).2.posts = d.posts

theorem Unposted.composes : Composes fun d d' : Dispatcher L => d'.posts = d.posts where
  refl _ := rfl
  trans h₁ h₂ := h₂.trans h₁

theorem Unposted.bind {x : Act L α} {f : α → Act L β} (hx : Unposted x) (hf : ∀ a, Unposted (f a)) :
    Unposted (x >>= f) := Unposted.composes.bind hx hf

theorem Unposted.andThen {x : Act L α} {y : Act L β} (hx : Unposted x) (hy : Unposted y) :
    Unposted (x >>= fun _ => y) := hx.bind fun _ => hy

theorem unposted_modify {f : Dispatcher L → Dispatcher L} (h : ∀ d, (f d).posts = d.posts) :
    Unposted (modify f) := fun d => h d

theorem unposted_putEngine (e : Engine) : Unposted (putEngine (L := L) e) := unposted_modify fun _ => rfl

theorem unposted_note (e : Entry) : Unposted (note (L := L) e) := unposted_modify fun _ => rfl

theorem unposted_failOn (eid : Nat) : Unposted (failOn (L := L) eid) :=
  Unposted.composes.failOn eid fun d _ _ => unposted_putEngine _ d

theorem unposted_unless {c : Bool} {x : Act L PUnit} {k : PUnit → Act L β} (hx : Unposted x)
    (hk : ∀ a, Unposted (k a)) : Unposted (if c = true then k ⟨⟩ else x >>= k) :=
  Unposted.composes.unless hx hk

theorem unposted_dropEngine (eid : Nat) : Unposted (dropEngine (L := L) eid) := unposted_modify fun _ => rfl

theorem unposted_returnQueue (key : EngineKey) (queue : Nat) : Unposted (returnQueue (L := L) key queue) :=
  Unposted.composes.returnQueue key queue (fun _ _ => rfl) unposted_note

theorem unposted_unloadPlugin (key : EngineKey) (ld : Loaded) (level : LogLevel) :
    Unposted (unloadPlugin (L := L) key ld level) :=
  Unposted.composes.unloadPlugin key ld level (fun _ => rfl) unposted_note

theorem unposted_finishOn (eid : Nat) : Unposted (finishOn (L := L) eid) :=
  Unposted.composes.finishOn eid fun d _ _ => unposted_putEngine _ d

theorem ids_putEngine (e : Engine) (d : Dispatcher L) :
    ((putEngine e).run d).2.engines.map (·.id) = d.engines.map (·.id) := by
  rw [← ids_ledger, ← ids_ledger, ledger_putEngine, Ledger.ids_setLoad]

theorem isSome_engine?_of_ids {d d' : Dispatcher L} (h : d'.engines.map (·.id) = d.engines.map (·.id)) (j : Nat) :
    (d'.engine? j).isSome = (d.engine? j).isSome := by
  rw [Bool.eq_iff_iff, isSome_engine?, isSome_engine?, ids_ledger, ids_ledger, h]

theorem ids_failOn (eid : Nat) (d : Dispatcher L) :
    ((failOn eid).run d).2.engines.map (·.id) = d.engines.map (·.id) := by
  simp only [failOn, run_bind, run_get]
  split
  · exact ids_putEngine _ d
  · rfl

theorem posts_deliver {d : Dispatcher L} {eid : Nat} (he : (d.engine? eid).isSome) (moment : Nat) (event : Event)
    (resp : Response) :
    ((deliver eid moment event resp).run d).2.posts = post moment d.posts (event, resp) ∧
      ((deliver eid moment event resp).run d).2.engines.map (·.id) = d.engines.map (·.id) ∧
      ((deliver eid moment event resp).run d).2.now = d.now := by
  unfold deliver
  erw [run_unless]
  -- counting the failure touches neither the futures, the serial numbers nor the clock
  generalize hd₁ : (if event.isResult = true then d else ((failOn eid).run d).2) = d₁
  have kept : d₁.posts = d.posts ∧ d₁.engines.map (·.id) = d.engines.map (·.id) ∧ d₁.now = d.now := by
    rw [← hd₁]
    split
    · exact ⟨rfl, rfl, rfl⟩
    · refine ⟨unposted_failOn eid d, ids_failOn eid d, ?_⟩
      simp only [failOn, run_bind, run_get]
      split <;> rfl
  obtain ⟨posts₁, ids₁, clock₁⟩ := kept
  rw [← posts₁, ← ids₁, ← clock₁]
  rw [← isSome_engine?_of_ids ids₁] at he
  simp only [run_bind, run_get]
  split
  next e found =>
    rw [run_bind, run_set]
    unfold post posts
    rcases hr : d₁.futures.respond event (some resp) with ⟨r, t⟩
    cases r with
    | ok reply => exact ⟨rfl, rfl, rfl⟩
    | error err => exact ⟨rfl, rfl, rfl⟩
  next missing =>
    obtain ⟨e, found⟩ := Option.isSome_iff_exists.1 he
    exact (missing e found).elim

theorem posts_deliverAll {eid : Nat} (moment : Nat) :
    ∀ (events : List (Event × Response)) (d : Dispatcher L), (d.engine? eid).isSome →
      ((deliverAll eid moment events).run d).2.posts = events.foldl (post moment) d.posts ∧
        ((deliverAll eid moment events).run d).2.engines.map (·.id) = d.engines.map (·.id)
  | [], _, _ => ⟨rfl, rfl⟩
  | ev :: events, d, he => by
    obtain ⟨posted, ids, -⟩ := posts_deliver he moment ev.1 ev.2
    have rest := posts_deliverAll moment events _ ((isSome_engine?_of_ids ids eid).trans he)
    have cons : deliverAll (L := L) eid moment (ev :: events) =
        (deliver eid moment ev.1 ev.2 >>= fun _ => deliverAll eid moment events) := rfl
    rw [cons, run_bind, rest.1, rest.2, posted, ids]
    exact ⟨rfl, rfl⟩

/-- A loop whose steps all go on, keep `Q` and post by `g` posts by `g` along the list. -/
theorem posts_forIn {xs : List α} {f : α → PUnit → Act L (ForInStep PUnit)} (Q : Dispatcher L → Prop)
    (g : FutureTable L × List (Reply L) → α → FutureTable L × List (Reply L))
    (step : ∀ a ∈ xs, ∀ d : Dispatcher L, Q d →
      ((f a ⟨⟩).run d).1 = .yield ⟨⟩ ∧ Q ((f a ⟨⟩).run d).2 ∧ ((f a ⟨⟩).run d).2.posts = g d.posts a) :
    ∀ d : Dispatcher L, Q d → Q ((forIn xs ⟨⟩ f).run d).2 ∧ ((forIn xs ⟨⟩ f).run d).2.posts = xs.foldl g d.posts := by
  induction xs with
  | nil => exact fun d h => ⟨h, rfl⟩
  | cons a xs ih =>
    intro d h
    obtain ⟨yields, kept, posted⟩ := step a (List.mem_cons_self ..) d h
    simp only [List.forIn_cons]
    rw [run_bind, yields, List.foldl_cons, ← posted]
    exact ih (fun c hc => step c (List.mem_cons_of_mem a hc)) _ kept

theorem posts_deliverAll_finish {d : Dispatcher L} {eid : Nat} (he : (d.engine? eid).isSome) (moment : Nat)
    (events : List (Event × Response)) :
    ((deliverAll eid moment events >>= fun _ => finishOn (L := L) eid).run d).2.posts = events.foldl (post moment) d.posts := by
  rw [run_bind, unposted_finishOn, (posts_deliverAll moment events d he).1]

theorem posts_runAsync {d : Dispatcher L} {e : Engine} (he : d.engine? e.id = some e) (t : Task) (start : Nat) :
    ((runAsync e t start).run d).2.posts =
      (e.asyncReport d.gateOpen t start).1.foldl (post (e.asyncReport d.gateOpen t start).2) d.posts := by
  unfold runAsync Engine.asyncReport
  split
  next c p hc =>
    have call : (e.plugin.asyncProcess t.request).1 = c := by rw [hc]
    -- storing the engine back keeps its serial number, the futures, the replies and the gate
    have present : ∀ e' : Engine, (((putEngine e').run d).2.engine? (e.withPlugin p).id).isSome := fun e' => by
      rw [isSome_engine?_of_ids (ids_putEngine e' d)]
      exact Option.isSome_iff_exists.2 ⟨e, he⟩
    have gate : ∀ e' : Engine, ((putEngine (L := L) e').run d).2.gateOpen = d.gateOpen := fun _ => rfl
    rw [call, run_bind]
    cases c with
    | done delivery =>
      cases delivery with
      | gated events =>
        dsimp only
        rw [run_bind, run_get]
        dsimp only
        rw [gate]
        by_cases opened : d.gateOpen = true
        · rw [if_pos opened, if_pos opened, posts_deliverAll_finish (present _), unposted_putEngine]
        · rw [if_neg opened, if_neg opened, unposted_putEngine, unposted_putEngine]
          rfl
      | now events =>
        dsimp only [Delivery.events]
        rw [posts_deliverAll_finish (present _), unposted_putEngine]
      | later after events =>
        dsimp only [Delivery.events]
        rw [posts_deliverAll_finish (present _), unposted_putEngine]
    | failed err =>
      dsimp only
      rw [run_bind, unposted_finishOn, (posts_deliver (present _) _ _ _).1, unposted_putEngine]
      rfl
    | panicked msg =>
      dsimp only
      rw [run_bind, run_bind, run_bind, unposted_finishOn]
      -- the panic is journalled and the engine failed first, which changes no serial number
      have failed : ∀ (j : Nat) (d₁ : Dispatcher L), (((failOn j).run d₁).2.engine? j).isSome = (d₁.engine? j).isSome :=
        fun j d₁ => isSome_engine?_of_ids (ids_failOn j d₁) j
      rw [(posts_deliver (by rw [failed]; exact present _) _ _ _).1, unposted_failOn, unposted_note,
        unposted_putEngine]
      rfl

theorem posts_runTask {d : Dispatcher L} {eid : Nat} {e : Engine} (he : d.engine? eid = some e) {t : Task}
    (async : t.async) (start : Nat) :
    ((runTask eid t start).run d).2.posts =
      (e.asyncReport d.gateOpen t start).1.foldl (post (e.asyncReport d.gateOpen t start).2) d.posts := by
  have found : d.engine? e.id = some e := (engine?_mem he).2 ▸ he
  have untaken : t.ticket = none := by simpa [Task.async] using async
  simp only [runTask, run_bind, run_get, he, untaken]
  exact posts_runAsync found t start

/-- A free worker, neither held nor closing, that takes an asynchronous task posts its report. -/
theorem posts_workUntil {d : Dispatcher L} {eid horizon : Nat} {e : Engine} (he : d.engine? eid = some e)
    (free : e.held = none) (opened : e.phase ≠ .closing) (due : e.freeAt ≤ horizon) {t : Task}
    {q : BoundedQueue Task} (taken : e.queue.take? = some (t, q)) (async : t.async) :
    ((workUntil eid horizon 1).run d).2.posts =
      (e.asyncReport d.gateOpen t (max e.freeAt t.enqueued)).1.foldl
        (post (e.asyncReport d.gateOpen t (max e.freeAt t.enqueued)).2) d.posts := by
  have found : d.engine? ({ e with queue := q } : Engine).id = some e := (engine?_mem he).2 ▸ he
  have idle : (e.held.isSome || e.phase == .closing || decide (e.freeAt > horizon)) = false := by
    simp [free, opened, due]
  simp only [workUntil, run_bind, run_get, he, idle, Bool.false_eq_true, if_false, taken]
  -- the worker stores its queue without the task and records it, which posts nothing
  have stored : ((record (.taken eid t)).run ((putEngine { e with queue := q }).run d).2).2.engine? eid =
      some { e with queue := q } := (engine?_mem he).2 ▸ engine?_putEngine found
  rw [run_pure, posts_runTask stored async]
  rfl

theorem posts_release {d : Dispatcher L} {eid : Nat} {e : Engine} (he : d.engine? eid = some e) {t : Task}
    {events : List (Event × Response)} (held : e.held = some (t, events)) :
    ((release eid).run d).2.posts = events.foldl (post d.now) d.posts := by
  have present : (((putEngine { e with held := none }).run d).2.engine? eid).isSome :=
    (isSome_engine?_of_ids (ids_putEngine _ d) eid).trans (Option.isSome_iff_exists.2 ⟨e, he⟩)
  simp only [release, run_bind, run_get, he, held]
  rw [unposted_finishOn, (posts_deliverAll _ events _ present).1]
  rfl

/-- One error event for each asynchronous task left queued, in order. -/
theorem posts_dismantle {d : Dispatcher L} {eid : Nat} {e : Engine} (he : d.engine? eid = some e) :
    ((dismantle eid).run d).2.posts =
      ((e.queue.items.filter Task.async).flatMap e.abortEvents).foldl (post d.now) d.posts := by
  simp only [dismantle, run_bind, run_get, he]
  -- after the loop, the note and the return of the engine's resources post nothing
  rw [unposted_unless (unposted_note _) fun _ => (unposted_returnQueue _ _).andThen
      ((unposted_unloadPlugin _ _ _).andThen (unposted_dropEngine _))]
  -- each turn of the loop keeps the clock and the engine, and posts the error of an
  -- asynchronous task
  rw [(posts_forIn (fun d' : Dispatcher L => d'.now = d.now ∧ (d'.engine? eid).isSome)
      (fun p u => if u.async = true then (e.abortEvents u).foldl (post d.now) p else p) ?step _
      ⟨?clock, ?present⟩).2]
  · rw [List.foldl_flatMap, List.foldl_filter]
    rfl
  case clock => rfl
  case present => exact (isSome_engine?_of_ids (ids_putEngine _ d) eid).trans (Option.isSome_iff_exists.2 ⟨e, he⟩)
  case step =>
    rintro u _ d' ⟨clock, present⟩
    cases ticket : u.ticket with
    | some k =>
      -- a direct task gets its answer, which posts nothing
      have sync : u.async = false := by simp [Task.async, ticket]
      refine ⟨rfl, ⟨clock, present⟩, ?_⟩
      simp only [sync, Bool.false_eq_true, if_false]
      rfl
    | none =>
      have async : u.async = true := by simp [Task.async, ticket]
      obtain ⟨posted, ids, clock'⟩ := posts_deliver present d'.now .error (Response.failure u.request (some e.stopped))
      refine ⟨rfl, ⟨clock'.trans clock, (isSome_engine?_of_ids ids eid).trans present⟩, ?_⟩
      show ((deliver eid d'.now .error _).run d').2.posts = _
      rw [posted, clock]
      simp only [async, if_true]
      rfl

/-- From `d` to `d'` each future of `answers` is answered by its events at `moment`; other
numbers are left as they were. -/
structure Settles (answers : List (PendingFuture × List (Event × Response))) (moment : Nat)
    (d d' : Dispatcher L) : Prop where
  answered : ∀ a ∈ answers, d'.futures.view d'.replies a.1.seq = d.futures.answered d.replies a.1 moment a.2
  untouched : ∀ seq, seq ∉ answers.map (·.1.seq) → d'.futures.view d'.replies seq = d.futures.view d.replies seq

theorem settles_of_posts {answers : List (PendingFuture × List (Event × Response))} {moment : Nat}
    {d d' : Dispatcher L} (posted : d'.posts = (answers.flatMap (·.2)).foldl (post moment) d.posts)
    (distinct : (answers.map (·.1.seq)).Nodup) (alone : ∀ a ∈ answers, d.futures.pending.filter (·.seq == a.1.seq) = [a.1])
    (addressed : ∀ a ∈ answers, AddressedTo a.1 a.2) : Settles answers moment d d' := by
  have view : ∀ seq, d'.futures.view d'.replies seq = match answers.find? (·.1.seq == seq) with
      | none => d.futures.view d.replies seq
      | some a => d.futures.answered d.replies a.1 moment a.2 := fun seq => by
    have := view_foldl_answers moment answers d.posts distinct alone addressed seq
    rwa [← posted] at this
  constructor
  · intro a ha
    have candidate : (answers.find? (·.1.seq == a.1.seq)).isSome := List.find?_isSome.2 ⟨a, ha, by simp⟩
    obtain ⟨b, found⟩ := Option.isSome_iff_exists.1 candidate
    have key : b.1.seq = a.1.seq := by simpa using List.find?_some found
    have same : b = a := List.inj_on_of_nodup_map distinct (List.mem_of_find?_eq_some found) ha key
    rw [view, found, same]
  · intro seq miss
    have none : answers.find? (·.1.seq == seq) = none := List.find?_eq_none.2 fun b hb same =>
      miss (by rw [← beq_iff_eq.1 same]; exact List.mem_map_of_mem hb)
    rw [view, none]

end Posts

section Answering

variable {d : Dispatcher L}

theorem awaiting_sublist {e : Engine} (he : e ∈ d.engines) : e.load.awaiting.Sublist d.ledger.awaiting := by
  obtain ⟨pre, post, split⟩ := List.append_of_mem (List.mem_map_of_mem (f := Engine.load) he)
  rw [Ledger.awaiting_split (l := d.ledger) split]
  exact (List.sublist_append_right _ _).trans (List.sublist_append_left _ _)

/-- While closing dropped none, every waited-for task owns a pending future alone. -/
theorem alone_of_awaiting (b : d.ledger.Balanced) (undropped : d.futures.dropped = 0) {u : Task}
    (hu : u ∈ d.ledger.awaiting) : d.futures.pending.filter (·.seq == u.future.seq) = [u.future] :=
  filter_seq_of_mem b.unique ((b.awaited undropped).pending u hu)

theorem settles_waiting (b : d.ledger.Balanced) (undropped : d.futures.dropped = 0) {u : Task}
    (hu : u ∈ d.ledger.awaiting) {events : List (Event × Response)} (addressed : Addressed u.request events)
    {moment : Nat} {d' : Dispatcher L} (posted : d'.posts = events.foldl (post moment) d.posts) :
    Settles [(u.future, events)] moment d d' :=
  settles_of_posts (by rw [posted, List.flatMap_singleton]) (List.nodup_singleton _)
    (fun a ha => by rw [List.mem_singleton.1 ha]; exact alone_of_awaiting b undropped hu)
    (fun a ha => by rw [List.mem_singleton.1 ha]; exact addressed.to_future)

theorem settles_workUntil (b : d.ledger.Balanced) (undropped : d.futures.dropped = 0) {eid horizon : Nat}
    {e : Engine} (he : d.engine? eid = some e) (free : e.held = none) (opened : e.phase ≠ .closing)
    (due : e.freeAt ≤ horizon) {t : Task} {q : BoundedQueue Task} (taken : e.queue.take? = some (t, q))
    (async : t.async) :
    Settles [(t.future, (e.asyncReport d.gateOpen t (max e.freeAt t.enqueued)).1)]
      (e.asyncReport d.gateOpen t (max e.freeAt t.enqueued)).2 d ((workUntil eid horizon 1).run d).2 := by
  have queued : t ∈ e.queue.items.filter Task.async :=
    List.mem_filter.2 ⟨BoundedQueue.items_of_take? taken ▸ List.mem_cons_self .., async⟩
  have waiting : t ∈ d.ledger.awaiting := (awaiting_sublist (engine?_mem he).1).subset (List.mem_append_left _ queued)
  exact settles_waiting b undropped waiting (e.asyncReport_addressed _ _ _)
    (posts_workUntil he free opened due taken async)

theorem settles_release (b : d.ledger.Balanced) (undropped : d.futures.dropped = 0) {eid : Nat} {e : Engine}
    (he : d.engine? eid = some e) {t : Task} {events : List (Event × Response)} (held : e.held = some (t, events)) :
    Settles [(t.future, events)] d.now d ((release eid).run d).2 := by
  have mem := (engine?_mem he).1
  have waiting : t ∈ d.ledger.awaiting :=
    (awaiting_sublist mem).subset (List.mem_append_right _ (by simp [Engine.load, held]))
  exact settles_waiting b undropped waiting
    ((b.awaited undropped).addressed e.load (List.mem_map_of_mem mem) (t, events) held) (posts_release he held)

theorem settles_dismantle (b : d.ledger.Balanced) (undropped : d.futures.dropped = 0) {eid : Nat} {e : Engine}
    (he : d.engine? eid = some e) :
    Settles ((e.queue.items.filter Task.async).map fun u => (u.future, e.abortEvents u)) d.now d
      ((dismantle eid).run d).2 := by
  have sub : (e.queue.items.filter Task.async).Sublist d.ledger.awaiting :=
    (List.sublist_append_left _ _).trans (awaiting_sublist (engine?_mem he).1)
  have seqs : (((e.queue.items.filter Task.async).map fun u => (u.future, e.abortEvents u)).map (·.1.seq)) =
      (e.queue.items.filter Task.async).map (·.future.seq) := by
    rw [List.map_map]
    rfl
  refine settles_of_posts (by rw [posts_dismantle he, List.flatMap_map]) ?_ ?_ ?_
  · rw [seqs]
    exact (b.awaited undropped).distinct.sublist (sub.map _)
  · intro a ha
    obtain ⟨u, hu, rfl⟩ := List.mem_map.1 ha
    exact alone_of_awaiting b undropped (sub.subset hu)
  · intro a ha
    obtain ⟨u, -, rfl⟩ := List.mem_map.1 ha
    exact (addressed_failure u.request _ _).to_future

end Answering

/-- Every waited-for task owns a pending future alone under its number; a worker taking an
asynchronous task, a held worker let go and a teardown each settle the futures they answer;
and pending, completed and dropped futures number the asynchronous tasks accepted. -/
structure AnswersOnce (d : Dispatcher L) : Prop where
  owned : ∀ u ∈ d.ledger.awaiting, d.futures.pending.filter (·.seq == u.future.seq) = [u.future]
  worked : ∀ {eid horizon : Nat} {e : Engine} {t : Task} {q : BoundedQueue Task},
    d.engine? eid = some e → e.held = none → e.phase ≠ .closing → e.freeAt ≤ horizon →
    e.queue.take? = some (t, q) → t.async →
    Settles [(t.future, (e.asyncReport d.gateOpen t (max e.freeAt t.enqueued)).1)]
      (e.asyncReport d.gateOpen t (max e.freeAt t.enqueued)).2 d ((workUntil eid horizon 1).run d).2
  released : ∀ {eid : Nat} {e : Engine} {t : Task} {events : List (Event × Response)},
    d.engine? eid = some e → e.held = some (t, events) →
    Settles [(t.future, events)] d.now d ((release eid).run d).2
  aborted : ∀ {eid : Nat} {e : Engine}, d.engine? eid = some e →
    Settles ((e.queue.items.filter Task.async).map fun u => (u.future, e.abortEvents u)) d.now d
      ((dismantle eid).run d).2
  counted : d.futures.pending.length + d.futures.completed + d.futures.dropped = d.ledger.acceptedAsync.length

/-- While closing dropped no future, each asynchronous request is answered once. -/
theorem Reachable.answers_once {d : Dispatcher L} (h : d.Reachable) (undropped : d.futures.dropped = 0) :
    d.AnswersOnce := by
  have b := h.balanced
  exact ⟨fun _ hu => alone_of_awaiting b undropped hu,
    fun he free opened due taken async => settles_workUntil b undropped he free opened due taken async,
    fun he held => settles_release b undropped he held, fun he => settles_dismantle b undropped he, b.counted⟩

theorem answers_once_echoStarted : echoStarted.futures.dropped = 0 ∧ echoStarted.AnswersOnce :=
  ⟨by decide, Reachable.answers_once echoStarted_reachable (by decide)⟩

end Dispatcher

end InferenceBroker
