import Mathlib
import InferenceBroker.Proofs.Transport.Exchange
import InferenceBroker.Proofs.Dispatch.Workers

/-!
# Requests and their answers on a client transport

A client transport may have many requests in flight over many connections while the servers
write back whatever frames they like. Its records of frames written (`sent`), read
(`received`) and notifications handed on (`handled`) show it kept them straight (`Correlated`):
request ids are the requests counted from one, so distinct and nonzero until 2^64 requests
(`Correlated.ids_distinct`); an answer is the data of a frame read on the request's connection
with its id, no notification (`Correlated.answered`); the notifications read, and only they,
reach the handler in order (`Correlated.noticed`). A request writes at most one frame whatever
the retries, as an attempt is retried only where nothing was written (`Network.issue_cases`).
Every network step keeps this (`Network.Step`, `Network.correlation`).
-/

namespace InferenceBroker

namespace ClientTransport

/-- The notifications among frames read, oldest first. -/
def notices (rs : List (Nat × Frame)) : List (UInt64 × Bytes) :=
  rs.filterMap fun r => if r.2.channel = Frame.notifyChannel then some (r.2.channel, r.2.data) else none

@[simp] theorem notices_nil : notices [] = [] := rfl

@[simp] theorem notices_append (rs qs : List (Nat × Frame)) : notices (rs ++ qs) = notices rs ++ notices qs :=
  List.filterMap_append

theorem notices_notify {serial : Nat} {f : Frame} (notify : f.channel = Frame.notifyChannel) :
    notices [(serial, f)] = [(f.channel, f.data)] := by
  simp [notices, notify]

theorem notices_call {serial : Nat} {f : Frame} (call : f.channel ≠ Frame.notifyChannel) :
    notices [(serial, f)] = [] := by
  simp [notices, call]

/-- Request ids are their numbers in the count, from one; every waiting request was written on
its connection; an answer came in a frame read there with its id, no notification; and the
notifications handed on or queued are those read when it listens, none otherwise. -/
structure Correlated (t : ClientTransport) : Prop where
  counted : ∃ ks : List Nat, ks.Pairwise (· < ·) ∧ (∀ k ∈ ks, 0 < k ∧ k ≤ t.lastRequest) ∧
    t.sent.map (·.2.requestId) = ks.map UInt64.ofNat
  written : ∀ w ∈ t.waiting, ∃ f, (w.conn, f) ∈ t.sent ∧ f.requestId = w.id
  answered : ∀ w ∈ t.waiting, ∀ d, w.result = some (.ok d) →
    ∃ f, (w.conn, f) ∈ t.received ∧ f.channel ≠ Frame.notifyChannel ∧ f.requestId = w.id ∧ f.data = d
  noticed : t.handled ++ t.notes = if t.listens then notices t.received else []

variable {t u : ClientTransport}

theorem correlated_fresh (family : Family) (listens : Bool) :
    ({ family := family, listens := listens } : ClientTransport).Correlated where
  counted := ⟨[], by simp, by simp, rfl⟩
  written := by simp
  answered := by simp
  noticed := by cases listens <;> rfl

/-- Depends only on the records, request count, waiting requests, queued notifications and
whether it listens. -/
theorem Correlated.of_records (h : t.Correlated) (last : u.lastRequest = t.lastRequest)
    (sent : u.sent = t.sent) (waiting : u.waiting = t.waiting) (received : u.received = t.received)
    (notes : u.notes = t.notes) (handled : u.handled = t.handled) (listens : u.listens = t.listens) :
    u.Correlated := by
  constructor
  · rw [last, sent]; exact h.counted
  · rw [waiting, sent]; exact h.written
  · rw [waiting, received]; exact h.answered
  · rw [handled, notes, listens, received]; exact h.noticed

theorem Correlated.note (h : t.Correlated) (e : Entry) : (t.note e).Correlated :=
  h.of_records rfl rfl rfl rfl rfl rfl rfl

theorem Correlated.putConn (h : t.Correlated) (c : Outgoing) : (t.putConn c).Correlated :=
  h.of_records rfl rfl rfl rfl rfl rfl rfl

theorem Correlated.failWaiting (h : t.Correlated) (serial : Nat) (e : Failure) :
    (t.failWaiting serial e).Correlated := by
  refine ⟨h.counted, ?_, ?_, h.noticed⟩
  · intro w' failed
    obtain ⟨w, mem, rfl⟩ := List.mem_map.1 failed
    obtain ⟨f, sent, id⟩ := h.written w mem
    exact ⟨f, by split <;> exact ⟨sent, id⟩⟩
  · intro w' failed d res
    obtain ⟨w, mem, rfl⟩ := List.mem_map.1 failed
    by_cases hit : (w.conn == serial && w.result.isNone) = true
    · simp [hit] at res
    · rw [if_neg hit] at res ⊢
      exact h.answered w mem d res

theorem Correlated.forget (h : t.Correlated) (id : UInt64) : (t.forget id).Correlated := by
  refine ⟨h.counted, fun w mem => h.written w (List.mem_filter.1 mem).1,
    fun w mem => h.answered w (List.mem_filter.1 mem).1, h.noticed⟩

theorem Correlated.answered_append (h : t.Correlated) (rs : List (Nat × Frame)) :
    ∀ w ∈ t.waiting, ∀ d, w.result = some (.ok d) →
      ∃ f, (w.conn, f) ∈ t.received ++ rs ∧ f.channel ≠ Frame.notifyChannel ∧ f.requestId = w.id ∧ f.data = d := by
  intro w mem d res
  obtain ⟨f, got, rest⟩ := h.answered w mem d res
  exact ⟨f, List.mem_append_left _ got, rest⟩

theorem Correlated.receive_notify (h : t.Correlated) (serial : Nat) {f : Frame}
    (notify : f.channel = Frame.notifyChannel) : (t.receive serial f).Correlated := by
  by_cases listens : t.listens
  · have eq : t.receive serial f =
        { t with notes := t.notes ++ [(f.channel, f.data)], received := t.received ++ [(serial, f)] } := by
      simp [receive, notify, listens]
    rw [eq]
    refine ⟨h.counted, h.written, h.answered_append _, ?_⟩
    simp [← List.append_assoc, h.noticed, listens, notices_notify notify]
  · have eq : t.receive serial f = { t with received := t.received ++ [(serial, f)] } := by
      simp [receive, notify, listens]
    rw [eq]
    refine ⟨h.counted, h.written, h.answered_append _, ?_⟩
    simp [h.noticed, listens]

theorem Correlated.receive_call (h : t.Correlated) (serial : Nat) {f : Frame}
    (call : f.channel ≠ Frame.notifyChannel) : (t.receive serial f).Correlated := by
  have noticed : t.handled ++ t.notes = if t.listens then notices (t.received ++ [(serial, f)]) else [] := by
    simp [h.noticed, notices_call call]
  rw [Network.receive_call call]
  unfold deliver
  split
  · refine ⟨h.counted, ?_, ?_, noticed⟩
    · intro w' delivered
      obtain ⟨w, mem, rfl⟩ := List.mem_map.1 delivered
      obtain ⟨g, sent, id⟩ := h.written w mem
      exact ⟨g, by split <;> exact ⟨sent, id⟩⟩
    · intro w' delivered d res
      obtain ⟨w, mem, rfl⟩ := List.mem_map.1 delivered
      by_cases hit : (w.conn == serial && w.id == f.requestId && w.result.isNone) = true
      · rw [if_pos hit] at res ⊢
        simp only [Bool.and_eq_true, beq_iff_eq] at hit
        simp only [Option.some.injEq, Except.ok.injEq] at res
        exact ⟨f, by simp [hit.1.1], call, hit.1.2.symm, res⟩
      · rw [if_neg hit] at res ⊢
        exact h.answered_append _ w mem d res
  · exact ⟨h.counted, h.written, h.answered_append _, noticed⟩

theorem Correlated.receive (h : t.Correlated) (serial : Nat) (f : Frame) : (t.receive serial f).Correlated := by
  by_cases notify : f.channel = Frame.notifyChannel
  · exact h.receive_notify serial notify
  · exact h.receive_call serial notify

/-- Below 2^64 requests, ids written are distinct and none is the zero of pushed frames. -/
theorem Correlated.ids_distinct (h : t.Correlated) (bound : t.lastRequest < UInt64.size) :
    (t.sent.map (·.2.requestId)).Nodup ∧ ∀ e ∈ t.sent, e.2.requestId ≠ 0 := by
  obtain ⟨ks, rising, range, ids⟩ := h.counted
  have exact : ∀ k ∈ ks, (UInt64.ofNat k).toNat = k := fun k mem =>
    UInt64.toNat_ofNat_of_lt' (by have := range k mem; omega)
  constructor
  · rw [ids]
    refine List.Nodup.map_on ?_ (rising.imp Nat.ne_of_lt)
    intro a ma b mb same
    rw [← exact a ma, ← exact b mb, same]
  · intro e mem zero
    obtain ⟨k, mk, hk⟩ := List.mem_map.1 (ids ▸ List.mem_map_of_mem (f := fun e : Nat × Frame => e.2.requestId) mem)
    have := exact k mk
    rw [hk, zero] at this
    have := (range k mk).1
    simp at *
    omega

theorem Correlated.count (h : t.Correlated) (turn : Nat) :
    ({ t with lastRequest := t.lastRequest + 1, turn } : ClientTransport).Correlated := by
  obtain ⟨ks, rising, range, ids⟩ := h.counted
  refine ⟨⟨ks, rising, fun k mem => ?_, ids⟩, h.written, h.answered, h.noticed⟩
  have := range k mem
  exact ⟨this.1, by simp; omega⟩

theorem Correlated.write (h : t.Correlated) (c : Outgoing) (channel : UInt64) (data : Bytes) (turn : Nat) :
    ({ (Network.issued t c channel data).2 with turn } : ClientTransport).Correlated := by
  obtain ⟨ks, rising, range, ids⟩ := h.counted
  refine ⟨⟨ks ++ [t.lastRequest + 1], ?_, ?_, ?_⟩, ?_, ?_, h.noticed⟩
  · refine List.pairwise_append.2 ⟨rising, by simp, ?_⟩
    intro a mem b new
    have := range a mem
    simp at new
    omega
  · intro k mem
    rcases List.mem_append.1 mem with old | new
    · have := range k old
      exact ⟨this.1, by simp [Network.issued]; omega⟩
    · simp at new
      simp [Network.issued, new]
  · simp [Network.issued, ids]
  · intro w mem
    rcases List.mem_append.1 mem with old | new
    · obtain ⟨f, sent, id⟩ := h.written w old
      exact ⟨f, List.mem_append_left _ sent, id⟩
    · rw [List.mem_singleton.1 new]
      exact ⟨_, List.mem_append_right _ (List.mem_singleton_self _), rfl⟩
  · intro w mem d res
    rcases List.mem_append.1 mem with old | new
    · exact h.answered w old d res
    · rw [List.mem_singleton.1 new] at res
      cases res

end ClientTransport

namespace Network

variable {σ : Type} {svc : Service σ} {n n' : Network σ} {name : String} {t : ClientTransport}

/-! ## What leaves the client transports alone -/

theorem clients_emit {conn : Nat} {f : Frame} (emitted : n.emit conn f = .ok n') : n'.clients = n.clients := by
  unfold emit at emitted
  split at emitted
  · split at emitted
    · cases emitted; rfl
    · cases emitted
  · cases emitted

@[simp] theorem applyPushes_clients (ps : List Push) : (n.applyPushes ps).clients = n.clients := by
  induction ps generalizing n with
  | nil => rfl
  | cons p ps ih =>
    show (applyPushes ps ((n.emit p.conn ⟨UInt64.ofNat p.channel, 0, p.data⟩).toOption.getD n)).clients = _
    rw [ih]
    cases emitted : n.emit p.conn ⟨UInt64.ofNat p.channel, 0, p.data⟩ with
    | error e => rfl
    | ok n' => exact clients_emit emitted

@[simp] theorem respond_clients (conn : Nat) (f : Frame) (data : Bytes) :
    (n.respond conn f data).clients = n.clients := by
  unfold respond
  split
  · rename_i n' emitted; exact (clients_emit emitted : n'.clients = _)
  · rfl

@[simp] theorem stopReading_clients (c : Accepted) (why : Option Frame.End) :
    (n.stopReading c why).clients = n.clients := by
  simp only [stopReading]
  split <;> (try split) <;> rfl

theorem clients_serveStep {c : Accepted} (served : n.serveStep svc c = some n') : n'.clients = n.clients := by
  unfold serveStep at served
  split at served
  · split at served
    · cases served
    · split at served
      · simp only at served
        split at served <;> (cases served; simp)
      · cases served
      · cases served; simp
      · cases served; simp
  · split at served
    · cases served; simp [cut]
    · cases served

@[simp] theorem foldl_modifyLink_clients (id : Nat) (frames : List Frame) (m : Network σ) :
    (frames.foldl (fun n fr => n.modifyLink id (Link.sendDown fr)) m).clients = m.clients :=
  List.foldlRecOn (motive := fun k : Network σ => k.clients = m.clients) frames _ rfl fun _ same _ _ => same

theorem clients_peerStep {id : Nat} (stepped : n.peerStep id = some n') : n'.clients = n.clients := by
  unfold peerStep at stepped
  split at stepped
  · cases stepped
  · split at stepped
    · simp only at stepped
      split at stepped <;> (cases stepped; simp [cut])
    · cases stepped
    · cases stepped; simp [cut]

theorem clients_dialAs {family : Family} {addr : String} {id : Nat} (dialed : n.dialAs family addr = .ok (id, n')) :
    n'.clients = n.clients := by
  unfold dialAs at dialed
  split at dialed
  · split at dialed <;> cases dialed
  · split at dialed
    · cases dialed
    · split at dialed
      · simp only at dialed
        split at dialed <;> (cases dialed; rfl)
      · cases dialed; rfl
      · split at dialed <;> simp only at dialed <;> split at dialed <;> cases dialed

/-! ## Client transports of a network -/

def Correlated (n : Network σ) : Prop := ∀ p ∈ n.clients, p.2.Correlated

theorem Correlated.of_clients (h : n.Correlated) (same : n'.clients = n.clients) : n'.Correlated :=
  fun p mem => h p (same ▸ mem)

theorem Correlated.client (h : n.Correlated) (found : n.client? name = some t) : t.Correlated :=
  h (name, t) (Dispatcher.mem_of_lookup found)

theorem Correlated.putClient (h : n.Correlated) (ht : t.Correlated) : (n.putClient name t).Correlated := by
  unfold Network.putClient
  split
  · intro p put
    obtain ⟨⟨k, c⟩, old, rfl⟩ := List.mem_map.1 put
    show (if (k == name) = true then (k, t) else (k, c)).2.Correlated
    by_cases hit : (k == name) = true
    · rw [if_pos hit]; exact ht
    · rw [if_neg hit]; exact h _ old
  · intro p mem
    rcases List.mem_append.1 mem with old | new
    · exact h p old
    · rw [List.mem_singleton.1 new]
      exact ht

theorem lookup_map_put {β : Type} (cs : List (String × β)) (name : String) (t : β)
    (present : (cs.any fun p => p.1 == name) = true) :
    (cs.map fun p => if p.1 = name then (p.1, t) else (p.1, p.2)).lookup name = some t := by
  induction cs with
  | nil => cases present
  | cons p cs ih =>
    obtain ⟨k, c⟩ := p
    by_cases same : k = name
    · subst same
      simp
    · have differ : (name == k) = false := by simpa using Ne.symm same
      have other : (k == name) = false := by simpa using same
      simp only [List.any_cons, other, Bool.false_or] at present
      simp only [List.map_cons, if_neg same, List.lookup_cons, differ]
      exact ih present

theorem lookup_append_put {β : Type} (cs : List (String × β)) (name : String) (t : β)
    (absent : ¬(cs.any fun p => p.1 == name) = true) : (cs ++ [(name, t)]).lookup name = some t := by
  induction cs with
  | nil => simp
  | cons p cs ih =>
    obtain ⟨k, c⟩ := p
    simp only [List.any_cons, Bool.or_eq_true, beq_iff_eq, not_or] at absent
    have differ : (name == k) = false := by simpa using Ne.symm absent.1
    simp only [List.cons_append, List.lookup, differ]
    exact ih absent.2

@[simp] theorem client?_putClient_self (name : String) (t : ClientTransport) :
    (n.putClient name t).client? name = some t := by
  unfold Network.putClient client?
  split
  · rename_i present
    simpa using lookup_map_put n.clients name t present
  · rename_i absent
    exact lookup_append_put n.clients name t absent

/-! ## What the network does on its own -/

/-- A client connection's reader hands a frame on, or fails the requests waiting on a
connection whose stream ended. -/
theorem Correlated.readStep (h : n.Correlated) (ht : t.Correlated) {c : Outgoing}
    (stepped : n.readStep name t c = some n') : n'.Correlated := by
  unfold Network.readStep at stepped
  split at stepped
  · cases stepped
  · split at stepped
    · cases stepped
    · split at stepped
      · cases stepped
        exact (h.of_clients (modifyLink_clients _ _)).putClient (ht.receive _ _)
      · cases stepped
      · split at stepped
        · cases stepped
          exact h.putClient ((ht.failWaiting _ _).putConn _)
        · simp only at stepped
          split at stepped
          · rename_i dialed
            cases stepped
            exact (h.of_clients ((clients_dialAs dialed).trans rfl)).putClient (((ht.note _).failWaiting _ _).putConn _)
          · cases stepped
            exact (h.of_clients (modifyLink_clients _ _)).putClient
              ((((ht.note _).failWaiting _ _).note _).putConn _)

theorem tries_keeps {α : Type} (P : Network σ → Prop) {step : α → Network σ → Option (Network σ)}
    (keeps : ∀ x n n', step x n = some n' → P n → P n') (xs : List α) {acc : Network σ × Bool}
    (start : P acc.1) : P (tries xs step acc).1 := by
  induction xs generalizing acc with
  | nil => exact start
  | cons x xs ih =>
    obtain ⟨m, moved⟩ := acc
    rw [tries_cons]
    apply ih
    split
    · rename_i m' stepped
      exact keeps x m m' stepped start
    · exact start

/-- In a round the server's, the peer's and the client readers each act once; the server and
the peer leave the client transports alone. -/
theorem Correlated.round (h : n.Correlated) (moved : n.round svc = some n') : n'.Correlated := by
  unfold Network.round at moved
  dsimp only at moved
  split at moved
  · cases moved
    refine tries_keeps Correlated ?read _ (tries_keeps Correlated ?peer _ (tries_keeps Correlated ?serve _ h))
    case serve =>
      intro id m m' served hm
      split at served
      · exact hm.of_clients (clients_serveStep served)
      · cases served
    case peer =>
      intro id m m' stepped hm
      exact hm.of_clients (clients_peerStep stepped)
    case read =>
      intro ⟨name, serial⟩ m m' stepped hm
      split at stepped
      · rename_i t found
        split at stepped
        · exact hm.readStep (hm.client found) stepped
        · cases stepped
      · cases stepped
  · cases moved

theorem Correlated.settleWithin (h : n.Correlated) (k : Nat) : (n.settleWithin svc k).Correlated := by
  induction k generalizing n with
  | zero => exact h
  | succ k ih =>
    unfold settleWithin
    split
    · rename_i n' moved
      exact ih (h.round moved)
    · exact h

theorem Correlated.settle (h : n.Correlated) : (n.settle svc).Correlated := h.settleWithin _

/-! ## Writing a request -/

theorem pick_cases (t : ClientTransport) :
    ∃ turn, t.pick.2 = { t with turn } ∧ ∀ c, t.pick.1 = some c → c ∈ t.conns := by
  unfold ClientTransport.pick
  split
  · exact ⟨t.turn, rfl, by simp⟩
  · rename_i c only
    exact ⟨t.turn, rfl, by simp [only]⟩
  · exact ⟨t.turn + 1, rfl, fun c got => List.mem_of_getElem? got⟩

/-- The attempts stop at the first connection with a socket, where the request is written
once; attempts without a socket write nothing, so the turn alone may move. -/
theorem attempt_cases (channel : UInt64) (data : Bytes) (id : UInt64) (k : Nat) (last : Option Failure)
    (t : ClientTransport) :
    (∃ e turn, issue.attempt channel data id k last t = (.error e, { t with turn }, none)) ∨
    ∃ c l turn, c ∈ t.conns ∧ c.link = some l ∧ issue.attempt channel data id k last t =
      (.ok id, { t with turn, waiting := t.waiting ++ [{ id, conn := c.serial }],
                           sent := t.sent ++ [(c.serial, ⟨channel, id, data⟩)] }, some l) := by
  induction k generalizing last t with
  | zero => exact .inl ⟨_, t.turn, rfl⟩
  | succ k ih =>
    obtain ⟨turn, picked, chosen⟩ := pick_cases t
    unfold issue.attempt
    split
    · exact .inl ⟨_, t.turn, rfl⟩
    · split
      · rename_i t' none_left
        rw [none_left] at picked
        subst picked
        exact .inl ⟨_, turn, rfl⟩
      · rename_i c t' some_left
        rw [some_left] at picked chosen
        subst picked
        have mem := chosen c rfl
        split
        · rcases ih (some (.note s!"connection to {c.endpoint} is closed")) { t with turn } with
            ⟨e, turn', failed⟩ | ⟨c', l, turn', mem', dialed, written⟩
          · exact .inl ⟨e, turn', failed⟩
          · exact .inr ⟨c', l, turn', mem', dialed, written⟩
        · rename_i l dialed
          exact .inr ⟨c, l, turn, mem, dialed, rfl⟩

/-- With no transport under the name nothing happens; else the transport counts a request,
whose id is the count, and writes its frame on exactly one connection with a socket, or
nothing at all. -/
theorem issue_cases (n : Network σ) (name : String) (channel : UInt64) (data : Bytes) :
    (n.client? name = none ∧ n.issue name channel data = (.error (.note "no active connections available"), n)) ∨
    ∃ t, n.client? name = some t ∧
      ((∃ e turn, n.issue name channel data =
          (.error e, n.putClient name { t with lastRequest := t.lastRequest + 1, turn })) ∨
        ∃ c l turn, c ∈ t.conns ∧ c.link = some l ∧ n.issue name channel data =
          (.ok (issued t c channel data).1,
            (n.putClient name { (issued t c channel data).2 with turn }).modifyLink l
              (Link.sendUp (Frame.encode ⟨channel, (issued t c channel data).1, data⟩)))) := by
  unfold issue
  split
  · rename_i absent
    exact .inl ⟨absent, rfl⟩
  · rename_i t found
    refine .inr ⟨t, found, ?_⟩
    dsimp only
    rcases attempt_cases channel data (UInt64.ofNat (t.lastRequest + 1))
        ({ t with lastRequest := t.lastRequest + 1 } : ClientTransport).attempts none
        { t with lastRequest := t.lastRequest + 1 } with ⟨e, turn, failed⟩ | ⟨c, l, turn, mem, dialed, written⟩
    · rw [failed]
      exact .inl ⟨e, turn, rfl⟩
    · rw [written]
      exact .inr ⟨c, l, turn, mem, dialed, rfl⟩

theorem Correlated.issue (h : n.Correlated) (name : String) (channel : UInt64) (data : Bytes) :
    (n.issue name channel data).2.Correlated := by
  rcases issue_cases n name channel data with ⟨-, issued⟩ | ⟨t, found, ⟨e, turn, failed⟩ | ⟨c, l, turn, -, -, written⟩⟩
  · rw [issued]; exact h
  · rw [failed]; exact h.putClient ((h.client found).count turn)
  · rw [written]
    exact (h.putClient ((h.client found).write c channel data turn)).of_clients (modifyLink_clients _ _)

/-! ## What callers do -/

theorem Correlated.await (h : n.Correlated) (svc : Service σ) (name : String) (id : UInt64) :
    (n.await svc name id).2.Correlated := by
  have settled : (n.settle svc).Correlated := h.settle
  unfold Network.await
  dsimp only
  split
  · exact settled
  · rename_i t found
    split <;> exact settled.putClient ((settled.client found).forget id)

theorem Correlated.closeConnections (h : n.Correlated) (name : String) : (n.closeConnections name).Correlated := by
  unfold Network.closeConnections
  split
  · exact h
  · rename_i t found
    dsimp only
    have failed : (t.conns.foldl (fun t c => t.failWaiting c.serial ClientTransport.connectionClosed) t).Correlated :=
      List.foldlRecOn (motive := ClientTransport.Correlated) _ _ (h.client found) fun u hu c _ => hu.failWaiting _ _
    refine Correlated.putClient ?_ (failed.of_records rfl rfl rfl rfl rfl rfl rfl)
    refine h.of_clients (List.foldlRecOn (motive := fun k : Network σ => k.clients = n.clients) _ _ rfl ?_)
    intro k same c _
    split <;> exact same

theorem Correlated.connect (h : n.Correlated) (name : String) (s : ClientSettings) :
    (n.connect name s).2.Correlated := by
  have current : ((n.client? name).getD { family := n.family }).Correlated := by
    cases found : n.client? name with
    | none => exact ClientTransport.correlated_fresh n.family false
    | some t => exact h.client found
  unfold Network.connect
  dsimp only
  split
  · exact h.putClient current
  · have closed := h.closeConnections name
    have renewed : ((((n.closeConnections name).client? name).getD
        ((n.client? name).getD { family := n.family })).Correlated) := by
      cases found : (n.closeConnections name).client? name with
      | none => exact current
      | some t => exact closed.client found
    -- dialing adds connections to the transport, or a journal entry, and leaves the other
    -- client transports alone
    generalize dialing : List.foldl _ _ s.endpoints = r
    have kept : r.1.Correlated ∧ r.2.Correlated := by
      rw [← dialing]
      refine List.foldlRecOn (motive := fun p : ClientTransport × Network σ => p.1.Correlated ∧ p.2.Correlated)
        _ _ ⟨renewed.of_records rfl rfl rfl rfl rfl rfl rfl, closed⟩ ?_
      intro p hp e _
      refine List.foldlRecOn (motive := fun p : ClientTransport × Network σ => p.1.Correlated ∧ p.2.Correlated)
        _ _ hp ?_
      intro q hq i _
      split
      · rename_i id m dialed
        exact ⟨hq.1.of_records rfl rfl rfl rfl rfl rfl rfl, hq.2.of_clients (clients_dialAs dialed)⟩
      · exact ⟨hq.1.note _, hq.2⟩
    split
    · exact kept.2.putClient kept.1
    · exact kept.2.putClient (kept.1.note _)

theorem Correlated.closeClient (h : n.Correlated) (name : String) : (n.closeClient name).Correlated := by
  have closed := h.closeConnections name
  unfold Network.closeClient
  dsimp only
  split
  · rename_i t found
    exact closed.putClient ((closed.client found).of_records rfl rfl rfl rfl rfl rfl rfl)
  · exact closed

theorem Correlated.takeNotes (h : n.Correlated) (name : String) : (n.takeNotes name).2.Correlated := by
  unfold Network.takeNotes
  split
  · rename_i t found
    have ht := h.client found
    refine h.putClient ⟨ht.counted, ht.written, ht.answered, ?_⟩
    simpa using ht.noticed
  · exact h

/-! ## Every network reached -/

/-- A caller creates a client transport, connects it, writes a request, awaits its answer,
takes notifications or closes it; the network settles; or anything leaving the client
transports alone, such as servers and peers writing whatever frames they like. -/
inductive Step : Network σ → Network σ → Prop
  | create (n : Network σ) (name : String) (listens : Bool) :
      Step n (n.putClient name { family := n.family, listens := listens })
  | connect (n : Network σ) (name : String) (s : ClientSettings) : Step n (n.connect name s).2
  | issue (n : Network σ) (name : String) (channel : UInt64) (data : Bytes) : Step n (n.issue name channel data).2
  | await (n : Network σ) (svc : Service σ) (name : String) (id : UInt64) : Step n (n.await svc name id).2
  | takeNotes (n : Network σ) (name : String) : Step n (n.takeNotes name).2
  | closeClient (n : Network σ) (name : String) : Step n (n.closeClient name)
  | settle (n : Network σ) (svc : Service σ) : Step n (n.settle svc)
  | other (n n' : Network σ) (same : n'.clients = n.clients) : Step n n'

/-- The networks reached from one without client transports. -/
inductive Reachable : Network σ → Prop
  | start (n : Network σ) (empty : n.clients = []) : Reachable n
  | step {n n' : Network σ} : Reachable n → Step n n' → Reachable n'

theorem Correlated.step (h : n.Correlated) (s : Step n n') : n'.Correlated := by
  cases s with
  | create name listens => exact h.putClient (ClientTransport.correlated_fresh _ listens)
  | connect name s => exact h.connect name s
  | issue name channel data => exact h.issue name channel data
  | await svc name id => exact h.await svc name id
  | takeNotes name => exact h.takeNotes name
  | closeClient name => exact h.closeClient name
  | settle svc => exact h.settle
  | other _ same => exact h.of_clients same

theorem Reachable.correlated (reach : n.Reachable) : n.Correlated := by
  induction reach with
  | start n empty =>
    intro p mem
    simp [empty] at mem
  | step _ s ih => exact ih.step s

/-! ## Requests and their answers -/

/-- The answer `d` of request `id` on transport `name` came in a frame read on its connection,
carrying its id, no notification. -/
def Answered (n : Network σ) (name : String) (id : UInt64) (d : Bytes) : Prop :=
  ∃ t serial f, n.client? name = some t ∧ (∃ g, (serial, g) ∈ t.sent ∧ g.requestId = id) ∧
    (serial, f) ∈ t.received ∧ f.channel ≠ Frame.notifyChannel ∧ f.requestId = id ∧ f.data = d

theorem Correlated.await_answered {id : UInt64} {d : Bytes} (h : n.Correlated)
    (answered : n.await svc name id = (.ok d, n')) : n'.Answered name id d := by
  have settled : (n.settle svc).Correlated := h.settle
  unfold Network.await at answered
  dsimp only at answered
  split at answered
  · cases answered
  · rename_i t found
    split at answered
    · rename_i r outcome
      simp only [Prod.mk.injEq] at answered
      obtain ⟨rfl, rfl⟩ := answered
      obtain ⟨w, first, res⟩ := Option.bind_eq_some_iff.1 outcome
      have mem := List.mem_of_find?_eq_some first
      have wid : w.id = id := by simpa using List.find?_some first
      have ht := settled.client found
      obtain ⟨g, sent, gid⟩ := ht.written w mem
      obtain ⟨f, got, call, fid, fdata⟩ := ht.answered w mem d res
      exact ⟨t.forget id, w.conn, f, client?_putClient_self _ _, ⟨g, sent, gid.trans wid⟩, got, call,
        fid.trans wid, fdata⟩
    · cases answered

/-- On failure no connection carries anything new and no request is recorded written; on
success, under the id that counts it, exactly one connection carries its frame, recorded once. -/
structure WritesOnce (n : Network σ) (name : String) (channel : UInt64) (data : Bytes) : Prop where
  failed : ∀ e n', n.issue name channel data = (.error e, n') →
    n'.links = n.links ∧ (n'.client? name).map (·.sent) = (n.client? name).map (·.sent)
  written : ∀ id n', n.issue name channel data = (.ok id, n') → ∃ t serial l,
    n.client? name = some t ∧ id = UInt64.ofNat (t.lastRequest + 1) ∧
    n'.links = (n.modifyLink l (Link.sendUp (Frame.encode ⟨channel, id, data⟩))).links ∧
    (n'.client? name).map (·.sent) = some (t.sent ++ [(serial, ⟨channel, id, data⟩)])

theorem writesOnce (n : Network σ) (name : String) (channel : UInt64) (data : Bytes) :
    n.WritesOnce name channel data := by
  rcases issue_cases n name channel data with
    ⟨-, issued⟩ | ⟨t, found, ⟨e, turn, failed⟩ | ⟨c, l, turn, -, -, written⟩⟩
  · refine ⟨fun e n' eq => ?_, fun id n' eq => ?_⟩
    · rw [issued] at eq
      cases eq
      exact ⟨rfl, rfl⟩
    · rw [issued] at eq
      cases eq
  · refine ⟨fun e' n' eq => ?_, fun id n' eq => ?_⟩
    · rw [failed] at eq
      cases eq
      simp [found]
    · rw [failed] at eq
      cases eq
  · refine ⟨fun e' n' eq => ?_, fun id n' eq => ?_⟩
    · rw [written] at eq
      cases eq
    · rw [written] at eq
      cases eq
      refine ⟨t, c.serial, l, found, rfl, by simp [modifyLink], ?_⟩
      show ((n.putClient name _).client? name).map _ = _
      simp [issued]

structure Correlates (n : Network σ) : Prop where
  distinct : ∀ name t, n.client? name = some t → t.lastRequest < UInt64.size →
    (t.sent.map (·.2.requestId)).Nodup ∧ ∀ e ∈ t.sent, e.2.requestId ≠ 0
  once : ∀ name channel data, n.WritesOnce name channel data
  answers : ∀ svc name id d n', n.await svc name id = (.ok d, n') → n'.Answered name id d
  noticed : ∀ name t, n.client? name = some t →
    t.handled ++ t.notes = if t.listens then ClientTransport.notices t.received else []

/-- Whatever the servers write back: written ids are distinct and nonzero until 2^64 requests;
a request writes at most one frame whatever the retries; an answer came in a frame of its own
id on its connection, no notification; and the notifications read, only they, go to the
handler in order. -/
theorem correlation (reach : n.Reachable) : n.Correlates := by
  have h := reach.correlated
  exact ⟨fun name t found bound => (h.client found).ids_distinct bound,
    fun name channel data => writesOnce n name channel data,
    fun svc name id d n' answered => h.await_answered answered,
    fun name t found => (h.client found).noticed⟩

/-- A server and one client transport created on it that listens for notifications. -/
theorem correlation_created :
    (({ family := .unix, dir := {}, server := { family := .unix, workers := 1 }, service := () } : Network Unit).putClient
      "c" { family := .unix, listens := true }).Reachable ∧
    (({ family := .unix, dir := {}, server := { family := .unix, workers := 1 }, service := () } : Network Unit).putClient
      "c" { family := .unix, listens := true }).Correlates :=
  have reach := Reachable.step (Reachable.start _ rfl) (Step.create _ "c" true)
  ⟨reach, correlation reach⟩

end Network

end InferenceBroker
