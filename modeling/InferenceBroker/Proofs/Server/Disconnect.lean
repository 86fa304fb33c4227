import InferenceBroker.Proofs.Dispatch.Bindings
import InferenceBroker.Server.Broker

/-!
# What a connection holds, and what its disconnect releases

For every connection the broker keeps a session of the transactions its requests bound and
those it listens to. It records bare transaction numbers, so it holds what the connection's
own requests last said of each, whatever others did since (`Tracks`, `handleAll_tracks`).

A disconnect forgets the session and releases what it holds in ascending order
(`disconnect_eq`): every listener of its listened transactions goes, whichever connection's it
is by then; each of its transactions is stopped, ending unbound unless the journal reports the
stop failed (`release_spec`). `disconnect_releases` puts these together over every run;
`disconnect_takes_other_holdings` removes another connection's listener and binding.
-/

namespace InferenceBroker

namespace Broker

variable {α β : Type}

section Run

theorem run_bind (x : StateM Broker α) (f : α → StateM Broker β) (b : Broker) :
    (x >>= f).run b = (f (x.run b).1).run (x.run b).2 := rfl

theorem run_get (b : Broker) : (get : StateM Broker Broker).run b = (b, b) := rfl

theorem run_pure (a : α) (b : Broker) : (pure a : StateM Broker α).run b = (a, b) := rfl

theorem run_lift (a : Act Nat α) (b : Broker) :
    (lift a).run b = ((a.run b.dispatcher).1, { b with dispatcher := (a.run b.dispatcher).2 }) := rfl

theorem run_discard (x : StateM Broker α) (b : Broker) : ((discard x).run b).2 = (x.run b).2 := rfl

end Run

section Sessions

def bound (b : Broker) (tx : UInt64) : Bool := (b.dispatcher.clients.lookup tx).isSome

/-- The session of a connection; one without holds nothing. -/
def session (b : Broker) (conn : Nat) : Session := (b.sessions.lookup conn).getD {}

theorem session_updateSession (conn : Nat) (f : Session → Session) (b : Broker) (c : Nat) :
    ((updateSession conn f).run b).2.session c = if c = conn then f (b.session conn) else b.session c := by
  show (((conn, f (b.session conn)) :: b.sessions.filter (·.1 != conn)).lookup c).getD {} = _
  split
  next same => rw [same, List.lookup_cons_self]; rfl
  next other =>
    rw [List.lookup_cons, beq_false_of_ne other, Dispatcher.lookup_filter_ne _ other]
    rfl

@[simp] theorem dispatcher_updateSession (conn : Nat) (f : Session → Session) (b : Broker) :
    ((updateSession conn f).run b).2.dispatcher = b.dispatcher := rfl


end Sessions

end Broker

/-- What a request said of a transaction: held it (`some true`), let it go (`some false`), or
nothing; `mark` applies it to the transactions held. -/
def Session.mark (tx : UInt64) : Option Bool → List UInt64 → List UInt64
  | some true, l => Broker.remember tx l
  | some false, l => l.filter (· != tx)
  | none, l => l

namespace Session

@[simp] theorem mark_none (tx : UInt64) (l : List UInt64) : mark tx none l = l := rfl

theorem contains_mark (tx t : UInt64) (u : Option Bool) (l : List UInt64) :
    (mark tx u l).contains t = if t = tx then u.getD (l.contains t) else l.contains t := by
  rcases u with _ | _ | _
  · simp
  · by_cases h : t = tx <;> simp [mark, h]
  · by_cases held : l.contains tx
    · have kept : mark tx (some true) l = l := if_pos held
      rw [kept]
      by_cases h : t = tx <;> simp_all
    · have added : mark tx (some true) l = l ++ [tx] := if_neg held
      rw [added]
      by_cases h : t = tx <;> simp [h]

theorem nodup_mark (tx : UInt64) (u : Option Bool) {l : List UInt64} (h : l.Nodup) : (mark tx u l).Nodup := by
  rcases u with _ | _ | _
  · exact h
  · exact h.filter _
  · show (Broker.remember tx l).Nodup
    unfold Broker.remember
    split
    · exact h
    · next absent => exact h.append (List.nodup_singleton tx) (List.disjoint_singleton.2 (by simpa using absent))

end Session

/-- A request as far as holdings go: the connection, the request its bytes decoded to (none
off the call channel or undecodable), and whether its transaction was bound before and after. -/
structure Handled where
  conn : Nat
  request : Option Message
  boundBefore : Bool
  boundAfter : Bool

namespace Handled

def tx (h : Handled) : UInt64 := (h.request.map (·.transactionId)).getD 0

/-- A registration installs its connection's listener, an unregistration removes it. -/
def listening (h : Handled) : Option Bool :=
  match h.request with
  | none => none
  | some m =>
    match m.kind.val.toNat with
    | 10 => some true
    | 11 => some false
    | _ => none

/-- A start that bound its transaction, or a stop that unbound it. -/
def binding (h : Handled) : Option Bool :=
  match h.request with
  | none => none
  | some m =>
    match m.kind.val.toNat with
    | 3 => if !h.boundBefore && h.boundAfter then some true else none
    | 4 => if h.boundBefore && !h.boundAfter then some false else none
    | _ => none

end Handled

/-- What the latest of `c`'s requests about `t` said by `f`, history latest first; `false` when
none did. -/
def latest (f : Handled → Option Bool) (c : Nat) (t : UInt64) : List Handled → Bool
  | [] => false
  | h :: hs => if h.conn = c ∧ h.tx = t then (f h).getD (latest f c t hs) else latest f c t hs

def Session.take (s : Session) (h : Handled) : Session :=
  { txs := mark h.tx h.binding s.txs, listeners := mark h.tx h.listening s.listeners }

namespace Handled

variable {c : Nat} {m : Message} {before after : Bool}

theorem listening_register (kind : m.kind.val.toNat = 10) : listening ⟨c, some m, before, after⟩ = some true := by
  simp [listening, kind]

theorem listening_unregister (kind : m.kind.val.toNat = 11) : listening ⟨c, some m, before, after⟩ = some false := by
  simp [listening, kind]

theorem binding_start (kind : m.kind.val.toNat = 3) :
    binding ⟨c, some m, before, after⟩ = if !before && after then some true else none := by
  simp [binding, kind]

theorem binding_stop (kind : m.kind.val.toNat = 4) :
    binding ⟨c, some m, before, after⟩ = if before && !after then some false else none := by
  simp [binding, kind]

theorem listening_other (other : m.kind.val.toNat ≠ 10 ∧ m.kind.val.toNat ≠ 11) :
    listening ⟨c, some m, before, after⟩ = none := by
  simp only [listening]
  split <;> simp_all

theorem binding_other (other : m.kind.val.toNat ≠ 3 ∧ m.kind.val.toNat ≠ 4) :
    binding ⟨c, some m, before, after⟩ = none := by
  simp only [binding]
  split <;> simp_all

/-- A request of any kind but start, stop and the two listener kinds neither binds nor listens. -/
theorem quiet_other
    (other : m.kind.val.toNat ≠ 3 ∧ m.kind.val.toNat ≠ 4 ∧ m.kind.val.toNat ≠ 10 ∧ m.kind.val.toNat ≠ 11) :
    listening ⟨c, some m, before, after⟩ = none ∧ binding ⟨c, some m, before, after⟩ = none :=
  ⟨listening_other ⟨other.2.2.1, other.2.2.2⟩, binding_other ⟨other.1, other.2.1⟩⟩

end Handled

namespace Session

theorem take_silent (s : Session) {h : Handled} (listening : h.listening = none) (binding : h.binding = none) :
    s.take h = s := by
  simp [take, listening, binding]

theorem take_binding (s : Session) {h : Handled} (listening : h.listening = none) :
    s.take h = { s with txs := mark h.tx h.binding s.txs } := by
  simp [take, listening]

theorem take_listening (s : Session) {h : Handled} (binding : h.binding = none) :
    s.take h = { s with listeners := mark h.tx h.listening s.listeners } := by
  simp [take, binding]

end Session

namespace Broker

def request? (b : Broker) (channel : Nat) (data : Bytes) : Option Message :=
  if channel != callChannel then none else (b.format.decode data).toOption

/-- Hands the broker bytes sent on a channel, recording the request in front of the history. -/
def handleOne (s : List Handled × Broker) (r : Nat × Nat × Bytes) : List Handled × Broker :=
  let b' := ((handle r.1 r.2.1 r.2.2).run s.2).2
  let m := s.2.request? r.2.1 r.2.2
  let tx := (m.map (·.transactionId)).getD 0
  (⟨r.1, m, s.2.bound tx, b'.bound tx⟩ :: s.1, b')

/-- The history, latest first, and the broker after. -/
def handleAll (b : Broker) (rs : List (Nat × Nat × Bytes)) : List Handled × Broker :=
  rs.foldl handleOne ([], b)

section Step

variable {b : Broker}

theorem step_quiet {b' : Broker} {conn : Nat} {h : Handled} (P : b'.dispatcher.registry.Consistent)
    (sessions : b'.sessions = b.sessions) (listening : h.listening = none) (binding : h.binding = none) :
    b'.dispatcher.registry.Consistent ∧
      ∀ c, b'.session c = if c = conn then (b.session conn).take h else b.session c := by
  refine ⟨P, fun c => ?_⟩
  rw [Session.take_silent _ listening binding]
  unfold session
  rw [sessions]
  split
  next same => rw [same]
  next => rfl

theorem step_update {b₁ : Broker} {conn : Nat} {f : Session → Session} {h : Handled}
    (P : b₁.dispatcher.registry.Consistent) (sessions : b₁.sessions = b.sessions)
    (took : f (b.session conn) = (b.session conn).take h) :
    ((updateSession conn f).run b₁).2.dispatcher.registry.Consistent ∧
      ∀ c, ((updateSession conn f).run b₁).2.session c =
        if c = conn then (b.session conn).take h else b.session c := by
  refine ⟨P, fun c => ?_⟩
  have same : b₁.session = b.session := by
    funext c
    unfold session
    rw [sessions]
  rw [session_updateSession, same, took]

theorem step_lift {x : Act Nat α} (keeps : Dispatcher.Keeps x) (P : b.dispatcher.registry.Consistent)
    (k : α → StateM Broker Message) (answered : ∀ a b₁, ((k a).run b₁).2 = b₁) {conn : Nat} {h : Handled}
    (quiet : h.listening = none ∧ h.binding = none) :
    ((lift x >>= k).run b).2.dispatcher.registry.Consistent ∧
      ∀ c, ((lift x >>= k).run b).2.session c = if c = conn then (b.session conn).take h else b.session c := by
  rw [run_bind, run_lift, answered]
  exact step_quiet ((keeps b.dispatcher P.sound).symm ▸ P) rfl quiet.1 quiet.2

/-- Answering keeps the registry consistent; the requester's session records what the request
said of its transaction, every other stays. -/
theorem answer_step (P : b.dispatcher.registry.Consistent) (conn : Nat) (m : Message) :
    ((answer conn m).run b).2.dispatcher.registry.Consistent ∧
      ∀ c, ((answer conn m).run b).2.session c =
        if c = conn then
          (b.session conn).take ⟨conn, some m, b.bound m.transactionId, ((answer conn m).run b).2.bound m.transactionId⟩
        else b.session c := by
  unfold answer
  split
  next kind =>
    -- a start: the session holds the transaction when the start bound it
    have silent : ∀ x y, Handled.listening ⟨conn, some m, x, y⟩ = none :=
      fun _ _ => Handled.listening_other ⟨by omega, by omega⟩
    rw [run_bind, run_lift]
    have binds := Dispatcher.start_binds P m.transactionId m.key m.value
    have kept := Dispatcher.preserves_start m.transactionId m.key m.value b.dispatcher P
    generalize (Dispatcher.start m.transactionId m.key m.value).run b.dispatcher = r at binds kept
    obtain ⟨o, d'⟩ := r
    dsimp only at binds kept ⊢
    by_cases started : ∃ out, o = some (.started out)
    · obtain ⟨before, after⟩ := binds.1 started
      obtain ⟨out, rfl⟩ := started
      rw [run_bind, run_pure]
      dsimp only
      refine step_update ?_ rfl ?_
      · exact kept
      rw [Session.take_binding _ (silent _ _), Handled.binding_start kind]
      simp [bound, Handled.tx, before, after]
      rfl
    · have unbound : (!b.bound m.transactionId && ({ b with dispatcher := d' } : Broker).bound m.transactionId) = false := by
        simp only [bound]
        cases hb : (b.dispatcher.clients.lookup m.transactionId).isSome <;>
          cases ha : (d'.clients.lookup m.transactionId).isSome <;> simp_all
      split
      next out => exact (started ⟨out, rfl⟩).elim
      all_goals
        rw [run_pure]
        refine step_quiet kept rfl (silent _ _) ?_
        rw [Handled.binding_start kind, unbound]
        rfl
  next kind =>
    -- a stop: the session lets the transaction go unless the stop failed
    have silent : ∀ x y, Handled.listening ⟨conn, some m, x, y⟩ = none :=
      fun _ _ => Handled.listening_other ⟨by omega, by omega⟩
    rw [run_bind, run_lift]
    have unbinds := Dispatcher.stop_unbinds P.sound m.transactionId m.value
    have kept := Dispatcher.preserves_stop m.transactionId m.value b.dispatcher P
    generalize (Dispatcher.stop m.transactionId m.value).run b.dispatcher = r at unbinds kept
    obtain ⟨o, d'⟩ := r
    dsimp only at unbinds kept ⊢
    split
    next err =>
      have stayed : (b.bound m.transactionId && !({ b with dispatcher := d' } : Broker).bound m.transactionId) = false := by
        have failed : ¬ ((b.dispatcher.clients.lookup m.transactionId).isSome = true ∧
            (d'.clients.lookup m.transactionId).isSome = false) := fun unbound => unbinds.2 unbound err rfl
        simp only [bound]
        cases hb : (b.dispatcher.clients.lookup m.transactionId).isSome <;>
          cases ha : (d'.clients.lookup m.transactionId).isSome <;> simp_all
      rw [run_pure]
      refine step_quiet kept rfl (silent _ _) ?_
      rw [Handled.binding_stop kind, stayed]
      rfl
    next unfailed =>
      obtain ⟨before, after⟩ := unbinds.1 unfailed
      rw [run_bind, run_pure]
      dsimp only
      refine step_update ?_ rfl ?_
      · exact kept
      rw [Session.take_binding _ (silent _ _), Handled.binding_stop kind]
      simp [bound, Handled.tx, before, after]
      rfl
  next kind =>
    exact step_lift (Dispatcher.keeps_syncExecute _) P _ (fun _ _ => by split <;> rfl) (Handled.quiet_other (by omega))
  next kind =>
    exact step_lift (Dispatcher.keeps_asyncExecute _) P _ (fun _ _ => by split <;> rfl) (Handled.quiet_other (by omega))
  next kind =>
    exact step_lift (Dispatcher.keeps_setOption _ _ _) P _ (fun _ _ => by split <;> rfl) (Handled.quiet_other (by omega))
  next kind =>
    exact step_lift (Dispatcher.keeps_getOption _ _) P _ (fun _ _ => by split <;> rfl) (Handled.quiet_other (by omega))
  next kind =>
    -- a registration always installs the connection as the listener
    have still : ∀ x y, Handled.binding ⟨conn, some m, x, y⟩ = none :=
      fun _ _ => Handled.binding_other ⟨by omega, by omega⟩
    rw [run_bind, run_lift]
    rw [show (Dispatcher.registerListener m.transactionId (some conn)).run b.dispatcher =
      (.ok (), { b.dispatcher with futures := b.dispatcher.futures.register m.transactionId conn }) from rfl]
    dsimp only
    rw [run_bind, run_pure]
    dsimp only
    refine step_update ?_ rfl ?_
    · exact P
    rw [Session.take_listening _ (still _ _), Handled.listening_register kind]
    rfl
  next kind =>
    -- an unregistration always lets the listener go
    have still : ∀ x y, Handled.binding ⟨conn, some m, x, y⟩ = none :=
      fun _ _ => Handled.binding_other ⟨by omega, by omega⟩
    rw [run_bind, run_lift, run_bind, run_pure]
    dsimp only
    refine step_update ?_ rfl ?_
    · exact P
    rw [Session.take_listening _ (still _ _), Handled.listening_unregister kind]
    rfl
  next kind =>
    rw [run_bind, run_get, run_pure]
    exact (Handled.quiet_other (by omega)).elim (step_quiet P rfl)
  next =>
    -- the other kinds are known here only as failed matches, which omega takes one goal at a time
    rw [run_pure]
    exact (Handled.quiet_other ⟨by omega, by omega, by omega, by omega⟩).elim (step_quiet P rfl)

def answerBytes (b : Broker) (conn channel : Nat) (data : Bytes) : Broker :=
  match b.request? channel data with
  | some m => ((answer conn m).run b).2
  | none => b

/-- What follows the answer writes at most a journal entry. -/
theorem handle_answers (conn channel : Nat) (data : Bytes) (b : Broker) :
    ((handle conn channel data).run b).2.sessions = (b.answerBytes conn channel data).sessions ∧
      ((handle conn channel data).run b).2.dispatcher.registry = (b.answerBytes conn channel data).dispatcher.registry := by
  unfold handle answerBytes request?
  rw [run_bind, run_get]
  dsimp only
  -- what follows the answer only encodes it, and perhaps notes that it could not
  by_cases other : (channel != callChannel) = true
  · rw [if_pos other, if_pos other, run_bind, run_pure]
    dsimp only
    split <;> exact ⟨rfl, rfl⟩
  · rw [if_neg other, if_neg other]
    cases decoded : b.format.decode data with
    | error e =>
      dsimp only [Except.toOption]
      rw [run_bind, run_pure]
      dsimp only
      split <;> exact ⟨rfl, rfl⟩
    | ok m =>
      dsimp only [Except.toOption]
      rw [run_bind]
      split <;> exact ⟨rfl, rfl⟩

theorem handle_step (P : b.dispatcher.registry.Consistent) (conn channel : Nat) (data : Bytes) :
    ((handle conn channel data).run b).2.dispatcher.registry.Consistent ∧
      ∀ c, ((handle conn channel data).run b).2.session c =
        if c = conn then
          (b.session conn).take ⟨conn, b.request? channel data,
            b.bound ((b.request? channel data).map (·.transactionId) |>.getD 0),
            ((handle conn channel data).run b).2.bound ((b.request? channel data).map (·.transactionId) |>.getD 0)⟩
        else b.session c := by
  obtain ⟨sessions, registry⟩ := handle_answers conn channel data b
  have session : ((handle conn channel data).run b).2.session = (b.answerBytes conn channel data).session := by
    funext c
    unfold Broker.session
    rw [sessions]
  have bound : ((handle conn channel data).run b).2.bound = (b.answerBytes conn channel data).bound := by
    funext tx
    unfold Broker.bound
    rw [show ((handle conn channel data).run b).2.dispatcher.clients = _ from congrArg Registry.clients registry]
    rfl
  rw [registry, session, bound]
  unfold answerBytes
  cases b.request? channel data with
  | none => exact step_quiet P rfl rfl rfl
  | some m => exact answer_step P conn m

end Step

/-- Every connection's listeners and transactions are, without repeats, those its latest
request about them said it holds; and the registry is consistent. -/
structure Tracks (hs : List Handled) (b : Broker) : Prop where
  consistent : b.dispatcher.registry.Consistent
  listeners : ∀ c t, (b.session c).listeners.contains t = latest Handled.listening c t hs
  txs : ∀ c t, (b.session c).txs.contains t = latest Handled.binding c t hs
  distinctListeners : ∀ c, (b.session c).listeners.Nodup
  distinctTxs : ∀ c, (b.session c).txs.Nodup

theorem tracks_nil {b : Broker} (fresh : b.sessions = []) (P : b.dispatcher.registry.Consistent) :
    Tracks [] b := by
  have empty : ∀ c, b.session c = {} := fun c => by
    unfold session
    rw [fresh]
    rfl
  refine ⟨P, fun c t => ?_, fun c t => ?_, fun c => ?_, fun c => ?_⟩ <;> rw [empty] <;> first | rfl | exact List.nodup_nil

theorem contains_mark_latest {f : Handled → Option Bool} {c : Nat} {hs : List Handled} {l : List UInt64}
    (tracked : ∀ t, l.contains t = latest f c t hs) {h : Handled} (own : h.conn = c) (t : UInt64) :
    (Session.mark h.tx (f h) l).contains t = latest f c t (h :: hs) := by
  rw [Session.contains_mark, latest, tracked]
  by_cases same : t = h.tx
  · rw [if_pos same, if_pos ⟨own, same.symm⟩]
  · rw [if_neg same, if_neg fun said => same said.2.symm]

theorem Tracks.step {hs : List Handled} {b : Broker} (tracks : Tracks hs b) (r : Nat × Nat × Bytes) :
    Tracks (handleOne (hs, b) r).1 (handleOne (hs, b) r).2 := by
  obtain ⟨conn, channel, data⟩ := r
  obtain ⟨consistent, sessions⟩ := handle_step tracks.consistent conn channel data
  refine ⟨consistent, fun c t => ?_, fun c t => ?_, fun c => ?_, fun c => ?_⟩ <;>
    dsimp only [handleOne] <;> rw [sessions] <;> split
  · next same =>
    subst same
    exact contains_mark_latest (tracks.listeners c) rfl t
  · next other =>
    rw [latest, if_neg fun said => other said.1.symm, tracks.listeners]
  · next same =>
    subst same
    exact contains_mark_latest (tracks.txs c) rfl t
  · next other =>
    rw [latest, if_neg fun said => other said.1.symm, tracks.txs]
  · exact Session.nodup_mark _ _ (tracks.distinctListeners conn)
  · exact tracks.distinctListeners c
  · exact Session.nodup_mark _ _ (tracks.distinctTxs conn)
  · exact tracks.distinctTxs c

theorem handleAll_tracks {b : Broker} (fresh : b.sessions = []) (P : b.dispatcher.registry.Consistent)
    (rs : List (Nat × Nat × Bytes)) : Tracks (b.handleAll rs).1 (b.handleAll rs).2 := by
  unfold handleAll
  -- the run is a fold of single requests, each keeping the sessions in step
  suffices run : ∀ (s : List Handled × Broker), Tracks s.1 s.2 → Tracks (rs.foldl handleOne s).1 (rs.foldl handleOne s).2 from
    run ([], b) (tracks_nil fresh P)
  induction rs with
  | nil => exact fun _ tracks => tracks
  | cons r rs ih => exact fun s tracks => ih _ (tracks.step r)

section Release

def stopFailed (addr : String) (tx : UInt64) (e : Failure) : Entry :=
  Entry.warn source s!"failed to stop transaction {tx.toNat} of {addr}: {e.message}"

theorem disconnect_eq (c : Nat) (addr : String) (b : Broker) :
    (disconnect c addr).run b =
      (release addr ((b.session c).listeners.mergeSort fun x y => x ≤ y)
        ((b.session c).txs.mergeSort fun x y => x ≤ y)).run { b with sessions := b.sessions.filter (·.1 != c) } := by
  unfold disconnect session
  rw [run_bind, run_get]
  dsimp only
  cases held : b.sessions.lookup c with
  | none =>
    -- a connection without a session holds nothing: forgetting it changes nothing
    have kept : b.sessions.filter (·.1 != c) = b.sessions :=
      List.filter_eq_self.2 fun p hp => by
        rw [bne_comm]
        exact List.lookup_eq_none_iff.1 held p hp
    dsimp only
    rw [kept, Option.getD_none, List.mergeSort_nil]
    rfl
  | some s => rfl

theorem unregisterAll (L : List UInt64) (b : Broker) :
    ((L.forM fun tx => discard <| lift (Dispatcher.unregisterListener tx)).run b).2.sessions = b.sessions ∧
      ((L.forM fun tx => discard <| lift (Dispatcher.unregisterListener tx)).run b).2.dispatcher.registry =
        b.dispatcher.registry ∧
      ((L.forM fun tx => discard <| lift (Dispatcher.unregisterListener tx)).run b).2.dispatcher.journal =
        b.dispatcher.journal ∧
      ∀ t, ((L.forM fun tx => discard <| lift (Dispatcher.unregisterListener tx)).run b).2.dispatcher.futures.listener? t =
        if t ∈ L then none else b.dispatcher.futures.listener? t := by
  induction L generalizing b with
  | nil => exact ⟨rfl, rfl, rfl, fun t => (if_neg List.not_mem_nil).symm⟩
  | cons a L ih =>
    rw [List.forM_eq_forM, List.forM_cons, run_bind, run_discard, run_lift]
    obtain ⟨sessions, registry, journal, listeners⟩ := ih { b with dispatcher := ((Dispatcher.unregisterListener a).run b.dispatcher).2 }
    refine ⟨sessions, registry, journal, fun t => (listeners t).trans ?_⟩
    show (if t ∈ L then none else ((Dispatcher.unregisterListener a).run b.dispatcher).2.futures.listener? t) = _
    rw [Dispatcher.listener?_unregisterListener]
    by_cases same : t = a <;> simp [same]

/-- Sessions and listeners stay, the journal only grows, the registry stays consistent, other
bindings stay, and the transaction ends unbound unless the journal reports the stop failed. -/
theorem stopLeft_step (addr : String) (tx : UInt64) {b : Broker} (P : b.dispatcher.registry.Consistent) :
    ((stopLeft addr tx).run b).2.sessions = b.sessions ∧
      Dispatcher.Extends b.dispatcher ((stopLeft addr tx).run b).2.dispatcher ∧
      ((stopLeft addr tx).run b).2.dispatcher.registry.Consistent ∧
      (∀ t, t ≠ tx → ((stopLeft addr tx).run b).2.bound t = b.bound t) ∧
      (((stopLeft addr tx).run b).2.bound tx = false ∨
        ∃ e, stopFailed addr tx e ∈ ((stopLeft addr tx).run b).2.dispatcher.journal) := by
  unfold stopLeft
  rw [run_bind, run_lift]
  have changed := Dispatcher.clients_stop P.sound tx none
  have extended := Dispatcher.extending_stop (L := Nat) tx none b.dispatcher
  have kept := Dispatcher.preserves_stop tx none b.dispatcher P
  generalize (Dispatcher.stop tx none).run b.dispatcher = r at changed extended kept
  obtain ⟨o, d'⟩ := r
  dsimp only at changed extended kept ⊢
  split
  next e =>
    -- a failed stop changes no binding, and is reported
    have same : d'.clients = b.dispatcher.clients := by
      rcases changed with ⟨-, same⟩ | ⟨unfailed, -, -⟩
      · exact same
      · exact (unfailed e rfl).elim
    refine ⟨rfl, extended.trans ⟨rfl, List.suffix_cons _ _⟩, kept, fun t _ => ?_, .inr ⟨e, List.mem_cons_self ..⟩⟩
    show (d'.clients.lookup t).isSome = _
    rw [same]
    rfl
  next unfailed =>
    have unbound : d'.clients = b.dispatcher.clients.filter (·.1 != tx) := by
      rcases changed with ⟨⟨e, failed⟩, -⟩ | ⟨-, -, unbound⟩
      · exact (unfailed e failed).elim
      · exact unbound
    refine ⟨rfl, extended, kept, fun t other => ?_, .inl ?_⟩
    · show (d'.clients.lookup t).isSome = _
      rw [unbound, Dispatcher.lookup_filter_ne _ other]
      rfl
    · show (d'.clients.lookup tx).isSome = _
      rw [unbound, Dispatcher.lookup_filter_self]
      rfl

theorem stopAll (addr : String) (T : List UInt64) {b : Broker} (P : b.dispatcher.registry.Consistent) :
    ((T.forM (stopLeft addr)).run b).2.sessions = b.sessions ∧
      Dispatcher.Extends b.dispatcher ((T.forM (stopLeft addr)).run b).2.dispatcher ∧
      (∀ t, t ∉ T → ((T.forM (stopLeft addr)).run b).2.bound t = b.bound t) ∧
      (∀ t ∈ T, ((T.forM (stopLeft addr)).run b).2.bound t = false ∨
        ∃ e, stopFailed addr t e ∈ ((T.forM (stopLeft addr)).run b).2.dispatcher.journal) := by
  induction T generalizing b with
  | nil => exact ⟨rfl, .refl _, fun _ _ => rfl, fun _ absent => absurd absent List.not_mem_nil⟩
  | cons a T ih =>
    rw [List.forM_eq_forM, List.forM_cons, run_bind, ← List.forM_eq_forM]
    obtain ⟨sessions₁, extends₁, P₁, others₁, own₁⟩ := stopLeft_step addr a P
    obtain ⟨sessions₂, extends₂, others₂, own₂⟩ := ih P₁
    refine ⟨sessions₂.trans sessions₁, extends₁.trans extends₂, fun t absent => ?_, fun t present => ?_⟩
    · rw [List.mem_cons, not_or] at absent
      exact (others₂ t absent.2).trans (others₁ t absent.1)
    · rcases List.mem_cons.1 present with rfl | later
      · by_cases again : t ∈ T
        · exact own₂ t again
        -- stopped only once: what the first stop left stands, and its report stays in the journal
        · rw [others₂ t again]
          rcases own₁ with unbound | ⟨e, reported⟩
          · exact .inl unbound
          · exact .inr ⟨e, extends₂.journal.subset reported⟩
      · exact own₂ t later

theorem bound_of_registry {b b' : Broker} (same : b'.dispatcher.registry = b.dispatcher.registry) (t : UInt64) :
    b'.bound t = b.bound t := by
  unfold bound
  rw [show b'.dispatcher.clients = b.dispatcher.clients from congrArg Registry.clients same]

/-- The listeners of `L` go and others stay, the transactions of `T` end unbound or reported,
other bindings stay, and the sessions stay. -/
theorem release_spec (addr : String) (L T : List UInt64) {b : Broker} (P : b.dispatcher.registry.Consistent) :
    ((release addr L T).run b).2.sessions = b.sessions ∧
      (∀ t, ((release addr L T).run b).2.dispatcher.futures.listener? t =
        if t ∈ L then none else b.dispatcher.futures.listener? t) ∧
      (∀ t, t ∉ T → ((release addr L T).run b).2.bound t = b.bound t) ∧
      (∀ t ∈ T, ((release addr L T).run b).2.bound t = false ∨
        ∃ e, stopFailed addr t e ∈ ((release addr L T).run b).2.dispatcher.journal) := by
  unfold release
  split
  next nothing =>
    obtain ⟨rfl, rfl⟩ : L = [] ∧ T = [] := by simpa using nothing
    exact ⟨rfl, fun t => (if_neg List.not_mem_nil).symm, fun _ _ => rfl, fun _ absent => absurd absent List.not_mem_nil⟩
  next =>
    rw [run_bind, run_bind]
    -- the announcement only writes the journal
    generalize noted : ((note _).run b).2 = b₁
    have sessions₁ : b₁.sessions = b.sessions := by rw [← noted]; rfl
    have registry₁ : b₁.dispatcher.registry = b.dispatcher.registry := by rw [← noted]; rfl
    have futures₁ : b₁.dispatcher.futures = b.dispatcher.futures := by rw [← noted]; rfl
    obtain ⟨sessions₂, registry₂, -, listeners₂⟩ := unregisterAll L b₁
    generalize ((L.forM fun tx => discard <| lift (Dispatcher.unregisterListener tx)).run b₁).2 = b₂ at sessions₂ registry₂ listeners₂ ⊢
    obtain ⟨sessions₃, extends₃, others₃, own₃⟩ := stopAll addr T (b := b₂) ((registry₂.trans registry₁) ▸ P)
    refine ⟨sessions₃.trans (sessions₂.trans sessions₁), fun t => ?_, fun t absent => ?_, own₃⟩
    · calc _ = b₂.dispatcher.futures.listener? t := congrArg (List.lookup t) extends₃.listeners
        _ = _ := listeners₂ t
        _ = _ := by rw [futures₁]
    · exact (others₃ t absent).trans ((bound_of_registry registry₂ t).trans (bound_of_registry registry₁ t))

end Release

/-- After any run from a broker with no sessions and a consistent registry, a disconnect
forgets the session, removes the listener of every transaction the connection's latest
request registered (whoever's it is by then) and no other, and stops every transaction its
latest start or stop bound, each ending unbound unless the journal reports the stop failed;
other bindings stay. -/
theorem disconnect_releases {b₀ : Broker} (fresh : b₀.sessions = []) (P : b₀.dispatcher.registry.Consistent)
    (rs : List (Nat × Nat × Bytes)) (c : Nat) (addr : String) :
    ((disconnect c addr).run (b₀.handleAll rs).2).2.sessions = (b₀.handleAll rs).2.sessions.filter (·.1 != c) ∧
      (∀ t, ((disconnect c addr).run (b₀.handleAll rs).2).2.dispatcher.futures.listener? t =
        if latest Handled.listening c t (b₀.handleAll rs).1 then none
        else (b₀.handleAll rs).2.dispatcher.futures.listener? t) ∧
      (∀ t, latest Handled.binding c t (b₀.handleAll rs).1 = false →
        ((disconnect c addr).run (b₀.handleAll rs).2).2.bound t = (b₀.handleAll rs).2.bound t) ∧
      (∀ t, latest Handled.binding c t (b₀.handleAll rs).1 = true →
        ((disconnect c addr).run (b₀.handleAll rs).2).2.bound t = false ∨
          ∃ e, stopFailed addr t e ∈ ((disconnect c addr).run (b₀.handleAll rs).2).2.dispatcher.journal) := by
  have tracks := handleAll_tracks fresh P rs
  generalize (b₀.handleAll rs).1 = hs at tracks ⊢
  generalize (b₀.handleAll rs).2 = b at tracks ⊢
  -- what the session holds is what the history says, in any order
  have listed : ∀ t, t ∈ (b.session c).listeners.mergeSort (fun x y => x ≤ y) ↔ latest Handled.listening c t hs := by
    intro t
    rw [List.mem_mergeSort, ← List.contains_iff_mem, tracks.listeners]
  have bound : ∀ t, t ∈ (b.session c).txs.mergeSort (fun x y => x ≤ y) ↔ latest Handled.binding c t hs := by
    intro t
    rw [List.mem_mergeSort, ← List.contains_iff_mem, tracks.txs]
  rw [disconnect_eq]
  obtain ⟨sessions, listeners, others, own⟩ :=
    release_spec addr _ _ (b := { b with sessions := b.sessions.filter (·.1 != c) }) tracks.consistent
  refine ⟨sessions, fun t => ?_, fun t unbound => ?_, fun t held => own t ((bound t).2 held)⟩
  · rw [listeners]
    simp only [listed]
  · exact others t fun present => by simp [(bound t).1 present] at unbound

/-- Two connections of an echo broker: both listen to 5, then the first starts 6, the second
stops and restarts it. -/
def sharedRequests : List (Nat × Nat × Bytes) :=
  ([(1, { kind := MessageType.registerListener, transactionId := 5 }),
    (2, { kind := MessageType.registerListener, transactionId := 5 }),
    (1, { kind := MessageType.startEngine, transactionId := 6, algorithmId := [0x65, 0x63, 0x68, 0x6f], version := 1 }),
    (2, { kind := MessageType.stopEngine, transactionId := 6 }),
    (2, { kind := MessageType.startEngine, transactionId := 6, algorithmId := [0x65, 0x63, 0x68, 0x6f], version := 1 })] :
      List (Nat × Message)).map fun r => (r.1, callChannel, (Format.binary.encode r.2).toOption.getD [])

theorem disconnect_releases_shared :
    (ofLoader {} .binary Dispatcher.echoLoader).sessions = [] ∧
      (ofLoader {} .binary Dispatcher.echoLoader).dispatcher.registry.Consistent ∧
      (((disconnect 1 "").run ((ofLoader {} .binary Dispatcher.echoLoader).handleAll sharedRequests).2).2.sessions =
          ((ofLoader {} .binary Dispatcher.echoLoader).handleAll sharedRequests).2.sessions.filter (·.1 != 1) ∧
        (∀ t, ((disconnect 1 "").run ((ofLoader {} .binary Dispatcher.echoLoader).handleAll sharedRequests).2).2.dispatcher.futures.listener? t =
          if latest Handled.listening 1 t ((ofLoader {} .binary Dispatcher.echoLoader).handleAll sharedRequests).1 then none
          else ((ofLoader {} .binary Dispatcher.echoLoader).handleAll sharedRequests).2.dispatcher.futures.listener? t) ∧
        (∀ t, latest Handled.binding 1 t ((ofLoader {} .binary Dispatcher.echoLoader).handleAll sharedRequests).1 = false →
          ((disconnect 1 "").run ((ofLoader {} .binary Dispatcher.echoLoader).handleAll sharedRequests).2).2.bound t =
            ((ofLoader {} .binary Dispatcher.echoLoader).handleAll sharedRequests).2.bound t) ∧
        (∀ t, latest Handled.binding 1 t ((ofLoader {} .binary Dispatcher.echoLoader).handleAll sharedRequests).1 = true →
          ((disconnect 1 "").run ((ofLoader {} .binary Dispatcher.echoLoader).handleAll sharedRequests).2).2.bound t = false ∨
            ∃ e, stopFailed "" t e ∈
              ((disconnect 1 "").run ((ofLoader {} .binary Dispatcher.echoLoader).handleAll sharedRequests).2).2.dispatcher.journal)) :=
  ⟨rfl, Dispatcher.consistent_make (L := Nat) {} Dispatcher.echoLoader,
    disconnect_releases rfl (Dispatcher.consistent_make (L := Nat) {} Dispatcher.echoLoader) sharedRequests 1 ""⟩

/-- After the shared requests the second connection's listener of 5 and binding of 6 stand;
yet the first connection's disconnect removes both. -/
theorem disconnect_takes_other_holdings :
    ((ofLoader {} .binary Dispatcher.echoLoader).handleAll sharedRequests).2.dispatcher.futures.listener? 5 = some 2 ∧
      latest Handled.listening 2 5 ((ofLoader {} .binary Dispatcher.echoLoader).handleAll sharedRequests).1 = true ∧
      ((ofLoader {} .binary Dispatcher.echoLoader).handleAll sharedRequests).2.bound 6 = true ∧
      latest Handled.binding 2 6 ((ofLoader {} .binary Dispatcher.echoLoader).handleAll sharedRequests).1 = true ∧
      ((disconnect 1 "").run ((ofLoader {} .binary Dispatcher.echoLoader).handleAll sharedRequests).2).2.dispatcher.futures.listener? 5 = none ∧
      ((disconnect 1 "").run ((ofLoader {} .binary Dispatcher.echoLoader).handleAll sharedRequests).2).2.bound 6 = false := by
  decide +kernel

end Broker

end InferenceBroker
