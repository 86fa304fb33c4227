import Mathlib
import InferenceBroker.Proofs.Transport.Settling

/-!
# Closing the server

`Network.shutdown` closes the server, settles the network, releases and answers held requests,
and settles again; it returns only after every accepted connection ended
(`Running.shutdown_ends`). A closed server stays closed (`Act.keeps_closed`), and releasing
leaves nothing held (`release_idle`). A closed server holding nothing drains (`Draining`): a
connection finds its end closed and stops reading, then runs its close handler and ends. So one
round stops every reader (`Draining.round_stops`) and the next ends every connection
(`Draining.round_ends`).
-/

namespace InferenceBroker

namespace Network

variable {σ : Type} {svc : Service σ} {n n' : Network σ} {c : Accepted}

/-! ## A closed server stays closed -/

@[simp] theorem served_closed (i : Nat) (e : Served) : (n.served i e).server.closed = n.server.closed := rfl

@[simp] theorem dropConn_closed (t : ServerTransport) (i : Nat) : (t.dropConn i).closed = t.closed := rfl

@[simp] theorem respond_closed (i : Nat) (f : Frame) (data : Bytes) :
    (n.respond i f data).server.closed = n.server.closed := by
  unfold Network.respond
  split
  · rename_i m emitted
    show m.server.closed = _
    rw [emit_server emitted]
  · rfl

@[simp] theorem stopReading_closed (c : Accepted) (why : Option Frame.End) :
    (n.stopReading c why).server.closed = n.server.closed := by
  unfold Network.stopReading
  dsimp only
  split <;> (try split) <;> rfl

theorem serveStep_closed (served : n.serveStep svc c = some n') : n'.server.closed = n.server.closed := by
  rcases serveStep_cases served with ⟨f, l, d, -, -, -, -, rfl⟩ | ⟨f, l, -, -, -, -, rfl⟩ |
    ⟨why, -, rfl⟩ | ⟨-, -, -, ps, s, rfl⟩ <;> simp

@[simp] theorem resumeHeld_closed (i : Nat) (f : Frame) :
    (n.resumeHeld svc i f).server.closed = n.server.closed := respond_closed _ _ _

theorem releaseConn_closed (c : Accepted) : (n.releaseConn svc c).server.closed = n.server.closed := by
  have answered := List.foldlRecOn (motive := fun m : Network σ => m.server.closed = n.server.closed)
    c.held (Network.resumeHeld svc c.id) (b := n) rfl fun m same _ _ => by rw [resumeHeld_closed, same]
  unfold Network.releaseConn
  dsimp only
  split
  · exact answered
  · exact answered

theorem release_closed : (n.release svc).server.closed = n.server.closed :=
  List.foldlRecOn (motive := fun m : Network σ => m.server.closed = n.server.closed) _ _ rfl
    fun m same c _ => by rw [releaseConn_closed, same]

theorem dialAs_server {family : Family} {addr : String} {id : Nat}
    (dialed : n.dialAs family addr = .ok (id, n')) : n'.server = n.server ∨ n.server.closed = false := by
  unfold dialAs at dialed
  split at dialed
  · split at dialed <;> cases dialed
  · split at dialed
    · cases dialed
    · split at dialed
      · simp only at dialed
        split at dialed
        · cases dialed; exact .inl rfl
        · rename_i running
          exact .inr (by simpa [openLink] using running)
      · cases dialed; exact .inl rfl
      · split at dialed <;> simp only at dialed <;> split at dialed <;> cases dialed

theorem listen_closed : n.listen.2.server.closed = n.server.closed := by
  unfold Network.listen
  split
  · rfl
  · split
    · rfl
    · rename_i k m bound
      obtain ⟨server, -⟩ := bind_ok bound
      split
      · rw [server]
      · show m.server.closed = _
        rw [server]

theorem closeServer_closed : n.closeServer.2.server.closed = true := by
  unfold Network.closeServer
  split
  · assumption
  · rfl

theorem Act.keeps_closed (a : Act n n') (closed : n.server.closed = true) : n'.server.closed = true := by
  cases a with
  | dialer => exact closed
  | dial dialed =>
    rcases dialAs_server dialed with same | running
    · rw [same]; exact closed
    · rw [closed] at running; cases running
  | serve svc found served => rw [serveStep_closed served]; exact closed
  | release => rw [release_closed]; exact closed
  | push emitted => rw [emit_server emitted]; exact closed
  | peer _ stepped => rw [peerStep_server stepped]; exact closed
  | listen => rw [listen_closed]; exact closed
  | close => exact closeServer_closed
  | other server => rw [server]; exact closed

theorem Acts.keeps_closed (acts : Acts n n') (closed : n.server.closed = true) : n'.server.closed = true := by
  induction acts with
  | refl => exact closed
  | tail _ a ih => exact a.keeps_closed ih

/-! ## Releasing frees every worker -/

theorem conn?_none {t : ServerTransport} {i : Nat} (missing : t.conn? i = none) : ∀ c ∈ t.conns, c.id ≠ i := by
  intro c mem same
  have := List.find?_eq_none.1 missing c mem
  simp [same] at this

theorem releaseConn_conns (c : Accepted) :
    ∀ d ∈ (n.releaseConn svc c).server.conns, (d.id = c.id ∧ d.held = []) ∨ (d ∈ n.server.conns ∧ d.id ≠ c.id) := by
  have answered := List.foldlRecOn (motive := fun m : Network σ => m.server.conns = n.server.conns)
    c.held (Network.resumeHeld svc c.id) (b := n) rfl fun m same _ _ => by rw [resumeHeld_conns, same]
  unfold Network.releaseConn
  dsimp only
  split
  · rename_i c' found
    obtain ⟨-, same⟩ := ServerTransport.conn?_mem found
    intro d mem
    rcases ServerTransport.mem_putConn mem with rfl | ⟨old, differ⟩
    · exact .inl ⟨same, rfl⟩
    · exact .inr ⟨answered ▸ old, same ▸ differ⟩
  · rename_i missing
    intro d mem
    exact .inr ⟨answered ▸ mem, conn?_none missing d mem⟩

theorem release_idle : ∀ c ∈ (n.release svc).server.conns, c.held = [] := by
  unfold Network.release
  -- the connections released so far hold nothing; the others keep their records
  suffices each : ∀ (cs : List Accepted) (m : Network σ),
      (∀ d ∈ m.server.conns, d.id ∈ cs.map (·.id) ∨ d.held = []) →
      ∀ d ∈ (cs.foldl (Network.releaseConn svc) m).server.conns, d.held = [] from
    each _ _ fun d mem => .inl (List.mem_map_of_mem mem)
  intro cs
  induction cs with
  | nil =>
    intro m start d mem
    simpa using start d mem
  | cons c cs ih =>
    intro m start
    refine ih _ fun d mem => ?_
    rcases releaseConn_conns c d mem with ⟨-, idle⟩ | ⟨old, differ⟩
    · exact .inr idle
    · rcases start d old with listed | idle
      · simp only [List.map_cons, List.mem_cons] at listed
        exact .inl (listed.resolve_left differ)
      · exact .inr idle

/-! ## A closed server drains -/

structure Draining (n : Network σ) : Prop where
  orderly : n.Orderly (·.held)
  closed : n.server.closed = true
  idle : ∀ c ∈ n.server.conns, c.held = []

theorem Draining.serveStep (h : n.Draining) (svc : Service σ) (mem : c ∈ n.server.conns) :
    (c.reading = true ∧ n.serveStep svc c = some (n.stopReading c none)) ∨
    (c.reading = false ∧ ∃ n', n.serveStep svc c = some n' ∧
      n'.server.conns = n.server.conns.filter (·.id != c.id)) := by
  have serving := h.orderly.serving c mem
  have cut := serving.cut h.closed
  have idle := h.idle c mem
  cases reading : c.reading
  · right
    refine ⟨rfl, ?_⟩
    unfold Network.serveStep
    simp only [reading, idle, serving.outboxOpen]
    exact ⟨_, rfl, by simp [ServerTransport.dropConn]⟩
  · left
    refine ⟨rfl, ?_⟩
    unfold Network.serveStep
    simp [reading, ServerTransport.hasWorker, idle, h.orderly.workers, Link.takeUp, cut]

theorem listen_conns : n.listen.2.server.conns = n.server.conns := by
  unfold Network.listen
  split
  · rfl
  · split
    · rfl
    · rename_i k m bound
      obtain ⟨server, -⟩ := bind_ok bound
      split
      · rw [server]
      · show m.server.conns = _
        rw [server]

theorem closeServer_conns : n.closeServer.2.server.conns = n.server.conns := by
  unfold Network.closeServer
  split
  · rfl
  · dsimp only
    -- closing the connections' accepting ends leaves the server alone
    have cuts : ∀ (cs : List Accepted) (m : Network σ),
        (cs.foldl (fun n c => n.cut c.link) m).server = m.server := fun cs m =>
      List.foldlRecOn (motive := fun k : Network σ => k.server = m.server) cs _ rfl fun _ same _ _ => same
    split
    · rw [cuts]; rfl
    · rw [cuts]

theorem Draining.act (h : n.Draining) (a : Act n n') : n'.Draining := by
  refine ⟨h.orderly.act a, a.keeps_closed h.closed, ?_⟩
  cases a with
  | dialer => exact h.idle
  | dial dialed =>
    rcases dialAs_server dialed with same | running
    · rw [same]; exact h.idle
    · rw [h.closed] at running; cases running
  | @serve _ svc c found served =>
    obtain ⟨mem, -⟩ := ServerTransport.conn?_mem found
    intro d hd
    rcases h.serveStep svc mem with ⟨-, stopped⟩ | ⟨-, m, ended, conns⟩
    · rw [stopped] at served
      cases served
      rw [stopReading_conns] at hd
      rcases ServerTransport.mem_putConn hd with rfl | ⟨old, -⟩
      · exact h.idle c mem
      · exact h.idle d old
    · rw [ended] at served
      cases served
      rw [conns] at hd
      exact h.idle d (List.mem_of_mem_filter hd)
  | release => exact release_idle
  | push emitted => rw [emit_server emitted]; exact h.idle
  | peer _ stepped => rw [peerStep_server stepped]; exact h.idle
  | listen => rw [listen_conns]; exact h.idle
  | close => rw [closeServer_conns]; exact h.idle
  | other server => rw [server]; exact h.idle

theorem Draining.acts (h : n.Draining) (acts : Acts n n') : n'.Draining := by
  induction acts with
  | refl => exact h
  | tail _ a ih => exact ih.act a

/-! ## Rounds of a draining server -/

/-- Participants taking turns keep an invariant that may depend on those still to come. -/
theorem tries_invariant {α : Type} (P : List α → Network σ → Prop) {step : α → Network σ → Option (Network σ)}
    (stepped : ∀ x xs m m', step x m = some m' → P (x :: xs) m → P xs m')
    (rested : ∀ x xs m, step x m = none → P (x :: xs) m → P xs m) :
    ∀ (xs : List α) (acc : Network σ × Bool), P xs acc.1 → P [] (tries xs step acc).1
  | [], _, start => start
  | x :: xs, (m, moved), start => by
    rw [tries_cons]
    apply tries_invariant P stepped rested xs
    split
    · rename_i m' went
      exact stepped x xs m m' went start
    · rename_i rest
      exact rested x xs m rest start

theorem tries_moved {α : Type} {step : α → Network σ → Option (Network σ)} :
    ∀ (xs : List α) (acc : Network σ × Bool), acc.2 = true → (tries xs step acc).2 = true
  | [], _, moved => moved
  | x :: xs, (m, b), moved => by
    rw [tries_cons]
    split
    · exact tries_moved xs _ rfl
    · exact tries_moved xs _ moved

theorem tries_cons_some {α : Type} {step : α → Network σ → Option (Network σ)} {x : α} {m m' : Network σ}
    (went : step x m = some m') (xs : List α) (b : Bool) : (tries (x :: xs) step (m, b)).2 = true := by
  rw [tries_cons, went]
  exact tries_moved xs _ rfl

/-- A dial to a closed server is refused. -/
theorem readStep_server {name : String} {t : ClientTransport} {c : Outgoing} (closed : n.server.closed = true)
    (stepped : n.readStep name t c = some n') : n'.server = n.server := by
  unfold Network.readStep at stepped
  split at stepped
  · cases stepped
  · split at stepped
    · cases stepped
    · split at stepped
      · cases stepped; simp
      · cases stepped
      · split at stepped
        · cases stepped; simp
        · simp only at stepped
          split at stepped
          · rename_i dialed
            cases stepped
            rcases dialAs_server dialed with same | running
            · simp [same, hangUp]
            · simp [hangUp, closed] at running
          · cases stepped; simp [hangUp]

/-- The peer's and the clients' turns leave a closed server alone, so a round keeps what the
accepted connections' turn keeps. -/
theorem Draining.round_keeps (h : n.Draining) (P : List Nat → Network σ → Prop)
    (stepped : ∀ id ids m c m', m.Draining → m.server.conn? id = some c → m.serveStep svc c = some m' →
      P (id :: ids) m → P ids m')
    (rested : ∀ id ids m, m.Draining → m.server.conn? id = none → P (id :: ids) m → P ids m)
    (start : P (n.server.conns.map (·.id)) n) (moved : n.round svc = some n') :
    ∃ m, P [] m ∧ m.Draining ∧ n'.server = m.server := by
  unfold Network.round at moved
  dsimp only at moved
  split at moved
  · cases moved
    generalize served : tries (n.server.conns.map (·.id)) _ (n, false) = s
    have turn : P [] s.1 ∧ s.1.Draining := by
      rw [← served]
      refine (tries_invariant (fun ids m => P ids m ∧ m.Draining) ?_ ?_ _ _ ⟨start, h⟩)
      · intro id ids m m' went ⟨held, hm⟩
        split at went
        · rename_i c found
          obtain ⟨-, rfl⟩ := ServerTransport.conn?_mem found
          exact ⟨stepped _ ids m c m' hm found went held, hm.act (.serve svc found went)⟩
        · cases went
      · intro id ids m rest ⟨held, hm⟩
        split at rest
        · rename_i c found
          obtain ⟨mem, rfl⟩ := ServerTransport.conn?_mem found
          rcases hm.serveStep svc mem with ⟨-, went⟩ | ⟨-, _, went, -⟩ <;> rw [went] at rest <;> cases rest
        · rename_i missing
          exact ⟨rested id ids m hm missing held, hm⟩
    -- the peer's and the clients' turns leave the server as the connections left it
    generalize peered : tries ((n.peer.map (·.links)).getD []) _ s = p
    have peers : p.1.server = s.1.server := by
      rw [← peered]
      exact tries_keeps (fun m => m.server = s.1.server)
        (fun _ m m' went same => (peerStep_server went).trans same) _ rfl
    refine ⟨s.1, turn.1, turn.2, ?_⟩
    refine tries_keeps (fun m => m.server = s.1.server) ?_ _ peers
    intro ⟨name, serial⟩ m m' went same
    have closed : m.server.closed = true := by rw [same]; exact turn.2.closed
    split at went
    · split at went
      · exact (readStep_server closed went).trans same
      · cases went
    · cases went
  · cases moved

theorem Draining.round_moves (h : n.Draining) (busy : n.server.conns ≠ []) : n.round svc ≠ none := by
  obtain ⟨c, cs, conns⟩ := List.exists_cons_of_ne_nil busy
  have mem : c ∈ n.server.conns := by rw [conns]; exact List.mem_cons_self ..
  have found := h.orderly.conn?_of_mem mem
  obtain ⟨m, went⟩ : ∃ m, n.serveStep svc c = some m := by
    rcases h.serveStep svc mem with ⟨-, went⟩ | ⟨-, m, went, -⟩
    · exact ⟨_, went⟩
    · exact ⟨m, went⟩
  unfold Network.round
  dsimp only
  rw [conns, List.map_cons]
  -- the first connection moves, so the round has moved whatever the others do
  generalize served : tries (c.id :: cs.map (·.id)) _ (n, false) = s
  have first : s.2 = true := by
    rw [← served]
    exact tries_cons_some (by simp only [found]; exact went) _ _
  rw [if_pos (tries_moved _ _ (tries_moved _ _ first))]
  simp

/-- Every connection left is another that was there, or this one, stopped. -/
theorem Draining.serveStep_left {i : Nat} (h : n.Draining) (found : n.server.conn? i = some c)
    (went : n.serveStep svc c = some n') :
    ∀ d ∈ n'.server.conns, (d ∈ n.server.conns ∧ d.id ≠ i) ∨ (c.reading = true ∧ d.reading = false) := by
  obtain ⟨mem, rfl⟩ := ServerTransport.conn?_mem found
  intro d hd
  rcases h.serveStep svc mem with ⟨reading, stop⟩ | ⟨-, m, ended, conns⟩
  · rw [stop] at went
    cases went
    rw [stopReading_conns] at hd
    rcases ServerTransport.mem_putConn hd with rfl | ⟨old, differ⟩
    · exact .inr ⟨reading, rfl⟩
    · exact .inl ⟨old, differ⟩
  · rw [ended] at went
    cases went
    rw [conns, List.mem_filter] at hd
    exact .inl ⟨hd.1, by simpa using hd.2⟩

theorem Draining.round_stops (h : n.Draining) (moved : n.round svc = some n') :
    ∀ c ∈ n'.server.conns, c.reading = false := by
  -- the connections still to take their turn may read; those that took it do not
  have stepped : ∀ (i : Nat) (ids : List Nat) (m : Network σ) (c : Accepted) (m' : Network σ), m.Draining →
      m.server.conn? i = some c → m.serveStep svc c = some m' →
      (∀ d ∈ m.server.conns, d.id ∈ i :: ids ∨ d.reading = false) →
      ∀ d ∈ m'.server.conns, d.id ∈ ids ∨ d.reading = false := by
    intro i ids m c m' hm found went pending d hd
    rcases hm.serveStep_left found went d hd with ⟨old, differ⟩ | ⟨-, quiet⟩
    · exact (pending d old).imp (fun listed => (List.mem_cons.1 listed).resolve_left differ) id
    · exact .inr quiet
  have rested : ∀ (i : Nat) (ids : List Nat) (m : Network σ), m.Draining → m.server.conn? i = none →
      (∀ d ∈ m.server.conns, d.id ∈ i :: ids ∨ d.reading = false) →
      ∀ d ∈ m.server.conns, d.id ∈ ids ∨ d.reading = false := by
    intro i ids m _ missing pending d hd
    exact (pending d hd).imp (fun listed => (List.mem_cons.1 listed).resolve_left (conn?_none missing d hd)) id
  obtain ⟨m, stopped, -, same⟩ :=
    h.round_keeps (fun ids m => ∀ d ∈ m.server.conns, d.id ∈ ids ∨ d.reading = false) stepped rested
      (fun c mem => .inl (List.mem_map_of_mem mem)) moved
  intro c mem
  rw [same] at mem
  simpa using stopped c mem

theorem Draining.round_ends (h : n.Draining) (stopped : ∀ c ∈ n.server.conns, c.reading = false)
    (moved : n.round svc = some n') : n'.server.conns = [] := by
  -- the connections still to take their turn are stopped; those that took it are gone
  have stepped : ∀ (i : Nat) (ids : List Nat) (m : Network σ) (c : Accepted) (m' : Network σ), m.Draining →
      m.server.conn? i = some c → m.serveStep svc c = some m' →
      (∀ d ∈ m.server.conns, d.id ∈ i :: ids ∧ d.reading = false) →
      ∀ d ∈ m'.server.conns, d.id ∈ ids ∧ d.reading = false := by
    intro i ids m c m' hm found went pending d hd
    rcases hm.serveStep_left found went d hd with ⟨old, differ⟩ | ⟨reading, -⟩
    · obtain ⟨listed, quiet⟩ := pending d old
      exact ⟨(List.mem_cons.1 listed).resolve_left differ, quiet⟩
    · -- the connection acting had stopped reading, as every connection had
      rw [(pending c (ServerTransport.conn?_mem found).1).2] at reading
      cases reading
  have rested : ∀ (i : Nat) (ids : List Nat) (m : Network σ), m.Draining → m.server.conn? i = none →
      (∀ d ∈ m.server.conns, d.id ∈ i :: ids ∧ d.reading = false) →
      ∀ d ∈ m.server.conns, d.id ∈ ids ∧ d.reading = false := by
    intro i ids m _ missing pending d hd
    obtain ⟨listed, quiet⟩ := pending d hd
    exact ⟨(List.mem_cons.1 listed).resolve_left (conn?_none missing d hd), quiet⟩
  obtain ⟨m, ended, -, same⟩ :=
    h.round_keeps (fun ids m => ∀ d ∈ m.server.conns, d.id ∈ ids ∧ d.reading = false) stepped rested
      (fun c mem => ⟨List.mem_map_of_mem mem, stopped c mem⟩) moved
  rw [same, List.eq_nil_iff_forall_not_mem]
  intro c mem
  simpa using (ended c mem).1

theorem Draining.settleWithin_empty (h : n.Draining) (empty : n.server.conns = []) (k : Nat) :
    (n.settleWithin svc k).server.conns = [] := by
  induction k generalizing n with
  | zero => exact empty
  | succ k ih =>
    unfold settleWithin
    split
    · rename_i m moved
      exact ih (h.acts (h.orderly.acts_round moved)) (h.round_ends (by simp [empty]) moved)
    · exact empty

theorem Draining.settleWithin_stopped (h : n.Draining) (stopped : ∀ c ∈ n.server.conns, c.reading = false)
    (k : Nat) : (n.settleWithin svc (k + 1)).server.conns = [] := by
  unfold settleWithin
  split
  · rename_i m moved
    exact (h.acts (h.orderly.acts_round moved)).settleWithin_empty (h.round_ends stopped moved) k
  · rename_i rests
    by_contra busy
    exact h.round_moves busy rests

theorem Draining.settleWithin_ends (h : n.Draining) (k : Nat) : (n.settleWithin svc (k + 2)).server.conns = [] := by
  unfold settleWithin
  split
  · rename_i m moved
    exact (h.acts (h.orderly.acts_round moved)).settleWithin_stopped (h.round_stops moved) k
  · rename_i rests
    by_contra busy
    exact h.round_moves busy rests

theorem Draining.settle_ends (h : n.Draining) : (n.settle svc).server.conns = [] := h.settleWithin_ends 99998

theorem Running.shutdown_ends (run : n.Running) : (n.shutdown svc).2.server.conns = [] := by
  show (((n.closeServer.2.settle svc).release svc).settle svc).server.conns = []
  have closed : Acts n n.closeServer.2 := (Act.close n).acts
  have after : Acts n.closeServer.2 ((n.closeServer.2.settle svc).release svc) :=
    (run.acts closed).acts_settle.tail (Act.release _ svc)
  have draining : ((n.closeServer.2.settle svc).release svc).Draining :=
    ⟨(run.acts (closed.trans after)).orderly, after.keeps_closed closeServer_closed, release_idle⟩
  exact draining.settle_ends

end Network

end InferenceBroker
