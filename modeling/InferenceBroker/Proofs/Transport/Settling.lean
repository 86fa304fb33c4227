import InferenceBroker.Proofs.Transport.Serving
import Mathlib.Logic.Relation

/-!
# Settling is a run of actions

Everything the network does is built from the actions of `Network.Act`: a round lets every
accepted connection, every connection of the scripted peer and every client reader act once
(`Orderly.acts_round`), settling is rounds one after another (`Running.acts_settle`), and the
operations of the client transports are dials, writes, reads and hang-ups of their dialing ends
together with changes of their own records (`acts_connect`, `acts_issue`, `Running.acts_send`,
...). Closing the server and waiting for its connections is actions too
(`Running.acts_shutdown`), so every theorem about running networks covers the networks these
operations reach.

Within a round no accepted connection is opened before the peer's turn, so the connections the
peer acts on are still none of theirs; this is what makes the peer's turn an action.
-/

namespace InferenceBroker

namespace Network

variable {σ : Type} {svc : Service σ} {n n' : Network σ}

/-- Actions one after another. -/
def Acts : Network σ → Network σ → Prop := Relation.ReflTransGen Act

theorem Acts.refl (n : Network σ) : Acts n n := Relation.ReflTransGen.refl

theorem Act.acts (a : Act n n') : Acts n n' := Relation.ReflTransGen.single a

theorem Acts.trans {m : Network σ} (first : Acts n m) (second : Acts m n') : Acts n n' :=
  Relation.ReflTransGen.trans first second

theorem Acts.tail {m : Network σ} (first : Acts n m) (a : Act m n') : Acts n n' :=
  Relation.ReflTransGen.tail first a

theorem Running.acts (run : n.Running) (acts : Acts n n') : n'.Running := by
  induction acts with
  | refl => exact run
  | tail _ a ih => exact ih.act a

@[simp] theorem putClient_nextLink (name : String) (t : ClientTransport) :
    (n.putClient name t).nextLink = n.nextLink := by
  unfold putClient; split <;> rfl

/-- A client transport changing its own records. -/
theorem Act.client (n : Network σ) (name : String) (t : ClientTransport) : Act n (n.putClient name t) :=
  .other (by simp) (by simp) (by simp) (by simp)

theorem Act.hangUp (n : Network σ) (id : Nat) : Act n (n.hangUp id) :=
  .dialer n id _ (Link.dialed_hangUp _)

theorem Act.write (n : Network σ) (id : Nat) (bs : Bytes) : Act n (n.modifyLink id (Link.sendUp bs)) :=
  .dialer n id _ (Link.dialed_sendUp _ bs)

theorem Act.read (n : Network σ) (id : Nat) : Act n (n.modifyLink id fun _ => (n.link id).takeDown.2) :=
  .dialer n id _ (Link.dialed_takeDown _)

/-- A reader of a client connection acts by actions of the network. -/
theorem acts_readStep {name : String} {t : ClientTransport} {c : Outgoing}
    (stepped : n.readStep name t c = some n') : Acts n n' := by
  unfold Network.readStep at stepped
  split at stepped
  · cases stepped
  · rename_i id _
    split at stepped
    · cases stepped
    · split at stepped
      · rename_i f l taken
        cases stepped
        have took : l = (n.link id).takeDown.2 := by rw [taken]
        subst took
        exact (Act.read n id).acts.tail (Act.client _ _ _)
      · cases stepped
      · split at stepped
        · cases stepped; exact (Act.client _ _ _).acts
        · simp only at stepped
          split at stepped
          · rename_i dialed
            cases stepped
            exact ((Act.hangUp n id).acts.tail (.dial dialed)).tail (Act.client _ _ _)
          · cases stepped
            exact (Act.hangUp n id).acts.tail (Act.client _ _ _)

/-- Participants taking turns keep what the step of each participant of the list keeps. -/
theorem tries_keeps_mem {α : Type} (P : Network σ → Prop) {step : α → Network σ → Option (Network σ)}
    (xs : List α) (keeps : ∀ x ∈ xs, ∀ n n', step x n = some n' → P n → P n') {acc : Network σ × Bool}
    (start : P acc.1) : P (tries xs step acc).1 := by
  induction xs generalizing acc with
  | nil => exact start
  | cons x xs ih =>
    obtain ⟨m, moved⟩ := acc
    rw [tries_cons]
    apply ih fun y mem => keeps y (List.mem_cons_of_mem x mem)
    split
    · rename_i m' stepped
      exact keeps x (List.mem_cons_self ..) m m' stepped start
    · exact start

theorem peerStep_server {id : Nat} (stepped : n.peerStep id = some n') : n'.server = n.server := by
  unfold peerStep at stepped
  split at stepped
  · cases stepped
  · rename_i p _
    split at stepped
    · rename_i f l _
      simp only at stepped
      have kept := List.foldlRecOn (motive := fun m : Network σ => m.server = n.server)
        (p.react f).1 (fun m fr => m.modifyLink id (Link.sendDown fr)) (b := { n.modifyLink id (fun _ => l) with peer := some (p.react f).2.2 }) rfl
        fun m same _ _ => same
      split at stepped <;> (cases stepped; exact kept)
    · cases stepped
    · cases stepped; rfl

@[simp] theorem served_conns (i : Nat) (e : Served) : (n.served i e).server.conns = n.server.conns := rfl

@[simp] theorem stopReading_conns (c : Accepted) (why : Option Frame.End) :
    (n.stopReading c why).server.conns = (n.server.putConn { c with reading := false }).conns := by
  unfold Network.stopReading
  dsimp only
  split <;> (try split) <;> rfl

theorem links_putConn {t : ServerTransport} {c : Accepted} (known : ∃ e ∈ t.conns, e.link = c.link) :
    ∀ d ∈ (t.putConn c).conns, ∃ e ∈ t.conns, e.link = d.link := by
  intro d mem
  rcases ServerTransport.mem_putConn mem with rfl | ⟨old, -⟩
  · exact known
  · exact ⟨d, old, rfl⟩

/-- An action of an accepted connection opens no connection: every accepted connection after it
uses a connection one used before. -/
theorem serveStep_links {c : Accepted} (found : n.server.conn? c.id = some c)
    (served : n.serveStep svc c = some n') : ∀ d ∈ n'.server.conns, ∃ e ∈ n.server.conns, e.link = d.link := by
  have known : ∃ e ∈ n.server.conns, e.link = c.link := ⟨c, (ServerTransport.conn?_mem found).1, rfl⟩
  rcases serveStep_cases served with ⟨f, l, d, -, -, -, -, rfl⟩ | ⟨f, l, -, -, -, -, rfl⟩ |
    ⟨why, -, rfl⟩ | ⟨-, -, -, ps, s, rfl⟩
  · intro d mem
    exact ⟨d, by simpa using mem, rfl⟩
  · -- the connection's record, now holding the request, replaces its old one
    simp only [conn?_of_conns (handled_conns svc c f l) found, Option.getD_some]
    intro d mem
    rcases ServerTransport.mem_putConn mem with rfl | ⟨old, -⟩
    · exact known
    · exact ⟨d, by simpa using old, rfl⟩
  · rw [stopReading_conns]; exact links_putConn known
  · intro d mem
    simp only [served_conns, applyPushes_conns, ServerTransport.dropConn, List.mem_filter] at mem
    exact ⟨d, by simpa using mem.1, rfl⟩

/-- A round is actions of the network, one participant after another. -/
theorem Orderly.acts_round (h : n.Orderly (·.held)) (moved : n.round svc = some n') : Acts n n' := by
  unfold Network.round at moved
  dsimp only at moved
  split at moved
  · cases moved
    -- no accepted connection is opened before the peer's turn, so the peer's connections are still
    -- none of theirs
    refine tries_keeps (Acts n) ?read _ (tries_keeps_mem
      (fun m => Acts n m ∧ ∀ d ∈ m.server.conns, ∃ e ∈ n.server.conns, e.link = d.link) _ ?peer
      (tries_keeps (fun m => Acts n m ∧ ∀ d ∈ m.server.conns, ∃ e ∈ n.server.conns, e.link = d.link) ?serve _
        ⟨Acts.refl n, fun d mem => ⟨d, mem, rfl⟩⟩)).1
    case serve =>
      intro id m m' stepped ⟨acts, known⟩
      split at stepped
      · rename_i c found
        obtain ⟨-, same⟩ := ServerTransport.conn?_mem found
        subst same
        refine ⟨acts.tail (.serve svc found stepped), fun d mem => ?_⟩
        obtain ⟨e, old, link⟩ := serveStep_links found stepped d mem
        obtain ⟨e', older, link'⟩ := known e old
        exact ⟨e', older, link'.trans link⟩
      · cases stepped
    case peer =>
      intro id listed m m' stepped ⟨acts, known⟩
      have unused : ∀ c ∈ m.server.conns, c.link ≠ id := by
        intro c mem same
        obtain ⟨e, old, link⟩ := known c mem
        cases found : n.peer with
        | none => simp [found] at listed
        | some p =>
          simp only [found, Option.map_some, Option.getD_some] at listed
          exact h.apart p found e old (by rw [link, same]; exact listed)
      refine ⟨acts.tail (.peer unused stepped), fun d mem => known d ?_⟩
      rw [← peerStep_server stepped]; exact mem
    case read =>
      intro ⟨name, serial⟩ m m' stepped acts
      split at stepped
      · split at stepped
        · exact acts.trans (acts_readStep stepped)
        · cases stepped
      · cases stepped
  · cases moved

theorem Running.acts_settleWithin (run : n.Running) (k : Nat) : Acts n (n.settleWithin svc k) := by
  induction k generalizing n with
  | zero => exact Acts.refl n
  | succ k ih =>
    unfold settleWithin
    split
    · rename_i n' moved
      have step := run.orderly.acts_round moved
      exact step.trans (ih (run.acts step))
    · exact Acts.refl n

theorem Running.acts_settle (run : n.Running) : Acts n (n.settle svc) := run.acts_settleWithin _

/-! ## The operations of the transports -/

theorem acts_closeConnections (name : String) : Acts n (n.closeConnections name) := by
  unfold closeConnections
  split
  · exact Acts.refl n
  · rename_i t _
    refine (List.foldlRecOn (motive := Acts n) t.conns _ (Acts.refl n) fun m acts c _ => ?_).tail
      (Act.client _ _ _)
    split
    · exact acts.tail (Act.hangUp _ _)
    · exact acts

theorem acts_connect (name : String) (s : ClientSettings) : Acts n (n.connect name s).2 := by
  unfold connect
  dsimp only
  split
  · exact (Act.client _ _ _).acts
  · -- every dial is an action; the transport's own records change at the end
    generalize dials : List.foldl _ _ s.endpoints = p
    have dialed : Acts n p.2 := by
      rw [← dials]
      refine List.foldlRecOn (motive := fun p : ClientTransport × Network σ => Acts n p.2) _ _
        (acts_closeConnections name) fun p acts e _ => ?_
      refine List.foldlRecOn (motive := fun p : ClientTransport × Network σ => Acts n p.2) _ _ acts
        fun q acts i _ => ?_
      split
      · rename_i dialed; exact acts.tail (.dial dialed)
      · exact acts
    obtain ⟨t, m⟩ := p
    split <;> exact dialed.tail (Act.client _ _ _)

theorem acts_issue (name : String) (channel : UInt64) (data : Bytes) : Acts n (n.issue name channel data).2 := by
  unfold issue
  split
  · exact Acts.refl n
  · dsimp only
    split
    · exact (Act.client _ _ _).acts.tail (Act.write _ _ _)
    · exact (Act.client _ _ _).acts

theorem Running.acts_await (run : n.Running) (name : String) (id : UInt64) : Acts n (n.await svc name id).2 := by
  unfold await
  dsimp only
  split
  · exact run.acts_settle
  · split <;> exact run.acts_settle.tail (Act.client _ _ _)

theorem Running.acts_send (run : n.Running) (name : String) (channel : UInt64) (data : Bytes) :
    Acts n (n.send svc name channel data).2 := by
  unfold send
  have issued := acts_issue (n := n) name channel data
  split
  · rename_i id m same
    rw [same] at issued
    exact issued.trans ((run.acts issued).acts_await name id)
  · rename_i e m same
    rw [same] at issued
    exact issued.trans (run.acts issued).acts_settle

/-- Closing the server and waiting for its connections to end is actions of the network. -/
theorem Running.acts_shutdown (run : n.Running) : Acts n (n.shutdown svc).2 := by
  show Acts n (((n.closeServer.2.settle svc).release svc).settle svc)
  have closed : Acts n n.closeServer.2 := (Act.close n).acts
  have settled : Acts n (n.closeServer.2.settle svc) := closed.trans (run.acts closed).acts_settle
  have released : Acts n ((n.closeServer.2.settle svc).release svc) := settled.tail (Act.release _ svc)
  exact released.trans (run.acts released).acts_settle

end Network

end InferenceBroker
