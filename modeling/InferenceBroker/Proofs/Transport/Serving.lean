import InferenceBroker.Proofs.Transport.Records

/-!
# Serving the accepted connections

`Network.Orderly` is the invariant of a server transport and the connections around it. Every
accepted connection is served (`Network.Serving`): its client's bytes are the requests handed
to the handler, in order and whole, then the bytes not read yet; each call has one answer on
its channel and request id or is outstanding; the frames written are those queued on its
outbox while both ends are open; at most `workers` requests are held. A connection that ended
ran its close handler once, last, after every call had its answer (`Served.Ended`).

Each operation has its preservation lemma, `Network.Act` gathers them, and every network
reached from a pristine one is in order (`Running.orderly`). While a connection acts, more
requests are outstanding than it holds, so the invariant takes the outstanding requests as a
parameter, `(·.held)` between actions.
-/

namespace InferenceBroker

namespace Network

variable {σ : Type} {n n' : Network σ} {c d : Accepted} {out : Accepted → List Frame} {o : List Frame}

open Served

/-! ## The invariant -/

/-- A connection the server serves, `outstanding` being the calls with no answer yet: its
client's bytes are the requests read so far then those not read; answers and outstanding
requests match the calls one for one; every call carries at most `maxData` bytes; the frames
written are those queued while both ends are open, then a beginning of them; the close handler
has not run and the outbox is open; at most `workers` requests are held; and once the server
closed, its end is closed. -/
structure Serving (n : Network σ) (c : Accepted) (outstanding : List Frame) : Prop where
  stream : (n.link c.link).wrote =
    (calls (n.server.events c.id)).flatMap Frame.encode ++ (n.link c.link).up
  sized : ∀ f ∈ calls (n.server.events c.id), f.data.length ≤ Frame.maxData
  answered : ((calls (n.server.events c.id)).map Frame.key).Perm
    ((replies (n.server.events c.id)).map Frame.key ++ outstanding.map Frame.key)
  outbox : (n.link c.link).written <+: queued (n.server.events c.id)
  flushed : (n.link c.link).acceptorOpen = true → (n.link c.link).dialerOpen = true →
    (n.link c.link).written = queued (n.server.events c.id)
  going : Served.close ∉ n.server.events c.id
  outboxOpen : c.outboxOpen = true
  workers : c.held.length ≤ n.server.workers
  cut : n.server.closed = true → (n.link c.link).acceptorOpen = false

/-- The server transport and its connections, `outstanding` giving each accepted connection's
unanswered requests. Accepted connections have distinct numbers below the next one and links
of their own, unused by the peer; every accepted connection is served; every other number
belongs to a connection that ended or to none; every connection delivers its frames in order. -/
structure Orderly (n : Network σ) (outstanding : Accepted → List Frame) : Prop where
  workers : 0 < n.server.workers
  ids : (n.server.conns.map (·.id)).Nodup
  below : ∀ c ∈ n.server.conns, c.id < n.server.nextId
  logged : ∀ p ∈ n.server.log, p.1 < n.server.nextId
  fresh : ∀ id, n.nextLink ≤ id → n.links.lookup id = none
  own : (n.server.conns.map (·.link)).Nodup
  present : ∀ c ∈ n.server.conns, (n.links.lookup c.link).isSome
  apart : ∀ p, n.peer = some p → ∀ c ∈ n.server.conns, c.link ∉ p.links
  peerFresh : ∀ p, n.peer = some p → ∀ id ∈ p.links, id < n.nextLink
  serving : ∀ c ∈ n.server.conns, n.Serving c (outstanding c)
  ended : ∀ i, i ∉ n.server.conns.map (·.id) → Ended (n.server.events i)
  fifo : ∀ id, (n.link id).down <:+ (n.link id).written

theorem Serving.of_eq (h : n.Serving c o) (link : n'.link c.link = n.link c.link)
    (events : n'.server.events c.id = n.server.events c.id) (workers : n'.server.workers = n.server.workers)
    (closed : n'.server.closed = n.server.closed) : n'.Serving c o := by
  obtain ⟨stream, sized, answered, outbox, flushed, going, outboxOpen, held, cut⟩ := h
  simp only [← link, ← events, ← workers, ← closed] at *
  exact ⟨stream, sized, answered, outbox, flushed, going, outboxOpen, held, cut⟩

/-- The order depends only on the server's connections, numbers, record, workers and closing,
on the links and on the peer's links. -/
theorem Orderly.of_eq (h : n.Orderly out) (conns : n'.server.conns = n.server.conns)
    (nextId : n'.server.nextId = n.server.nextId) (log : n'.server.log = n.server.log)
    (workers : n'.server.workers = n.server.workers) (closed : n'.server.closed = n.server.closed)
    (links : n'.links = n.links) (next : n'.nextLink = n.nextLink) (peer : n'.peer = n.peer) :
    n'.Orderly out := by
  have link : n'.link = n.link := by funext id; simp [Network.link, links]
  have events : n'.server.events = n.server.events := ServerTransport.events_of_log log
  obtain ⟨hw, ids, below, logged, fresh, own, present, apart, peerFresh, serving, ended, fifo⟩ := h
  refine ⟨workers ▸ hw, conns ▸ ids, conns ▸ nextId ▸ below, log ▸ nextId ▸ logged, links ▸ next ▸ fresh,
    conns ▸ own, conns ▸ links ▸ present, conns ▸ peer ▸ apart, next ▸ peer ▸ peerFresh,
    fun c mem => (serving c (conns ▸ mem)).of_eq (by rw [link]) (by rw [events]) workers closed,
    conns ▸ events ▸ ended, link ▸ fifo⟩

theorem Orderly.congr {out' : Accepted → List Frame} (h : n.Orderly out)
    (same : ∀ c ∈ n.server.conns, out' c = out c) : n.Orderly out' :=
  { h with serving := fun c mem => same c mem ▸ h.serving c mem }

theorem Orderly.eq_of_id (h : n.Orderly out) (hc : c ∈ n.server.conns) (hd : d ∈ n.server.conns)
    (same : d.id = c.id) : d = c :=
  List.inj_on_of_nodup_map h.ids hd hc same

theorem Orderly.eq_of_link (h : n.Orderly out) (hc : c ∈ n.server.conns) (hd : d ∈ n.server.conns)
    (same : d.link = c.link) : d = c :=
  List.inj_on_of_nodup_map h.own hd hc same

theorem Orderly.conn?_of_mem (h : n.Orderly out) (mem : c ∈ n.server.conns) : n.server.conn? c.id = some c := by
  have present : (n.server.conn? c.id).isSome := List.find?_isSome.2 ⟨c, mem, beq_self_eq_true _⟩
  obtain ⟨d, found⟩ := Option.isSome_iff_exists.1 present
  obtain ⟨old, same⟩ := ServerTransport.conn?_mem found
  rw [found, h.eq_of_id mem old same]

theorem Orderly.serving_at {extra : List Frame}
    (h : n.Orderly (fun d => if d.id = c.id then d.held ++ extra else d.held))
    (mem : c ∈ n.server.conns) : n.Serving c (c.held ++ extra) := by
  simpa using h.serving c mem

/-! ## Changing one connection -/

theorem Serving.dialed (h : n.Serving c o) (moved : Link.Dialed (n.link c.link) (n'.link c.link))
    (server : n'.server = n.server) : n'.Serving c o := by
  obtain ⟨bs, wrote, up⟩ := moved.stream
  refine ⟨?_, server ▸ h.sized, server ▸ h.answered, ?_, ?_, server ▸ h.going, h.outboxOpen,
    server ▸ h.workers, ?_⟩
  · rw [wrote, up, h.stream, server, List.append_assoc]
  · rw [moved.written, server]; exact h.outbox
  · intro acceptor dialer
    rw [moved.written, server]
    exact h.flushed (moved.acceptor ▸ acceptor) (moved.dialer dialer)
  · rw [moved.acceptor, server]; exact h.cut

/-- Changing one connection keeps the order once its accepted connection, if any, is still
served and it still delivers in order. -/
theorem Orderly.modifyLink (h : n.Orderly out) (id : Nat) (g : Link → Link)
    (serving : ∀ c ∈ n.server.conns, c.link = id → (n.modifyLink id g).Serving c (out c))
    (fifo : ((n.modifyLink id g).link id).down <:+ ((n.modifyLink id g).link id).written) :
    (n.modifyLink id g).Orderly out := by
  refine ⟨h.workers, h.ids, h.below, h.logged, ?_, h.own, ?_, h.apart, h.peerFresh, ?_, h.ended, ?_⟩
  · intro j big
    rw [← Option.not_isSome_iff_eq_none, isSome_lookup_modifyLink, h.fresh j big]
    simp
  · intro c mem
    rw [isSome_lookup_modifyLink]; exact h.present c mem
  · intro c mem
    by_cases same : c.link = id
    · exact serving c mem same
    · exact (h.serving c mem).of_eq (link_modifyLink_ne g same) rfl rfl rfl
  · intro j
    by_cases same : j = id
    · subst same; exact fifo
    · rw [link_modifyLink_ne g same]; exact h.fifo j

theorem Orderly.dialed (h : n.Orderly out) (id : Nat) (g : Link → Link)
    (moved : Link.Dialed (n.link id) (g (n.link id))) : (n.modifyLink id g).Orderly out := by
  -- the connection after the dialer's action, when it was there at all
  have after : Link.Dialed (n.link id) ((n.modifyLink id g).link id) := by
    rcases link_modifyLink_cases (n := n) id g with changed | same
    · rw [changed]; exact moved
    · rw [same]; exact Link.Dialed.rfl _
  refine h.modifyLink id g (fun c mem same => ?_) ?_
  · subst same; exact (h.serving c mem).dialed after rfl
  · rw [after.written]; exact after.down.trans (h.fifo id)

/-- A change to a connection no accepted connection uses, still delivering in order. -/
theorem Orderly.elsewhere (h : n.Orderly out) (id : Nat) (g : Link → Link)
    (unused : ∀ c ∈ n.server.conns, c.link ≠ id)
    (fifo : ((n.modifyLink id g).link id).down <:+ ((n.modifyLink id g).link id).written) :
    (n.modifyLink id g).Orderly out :=
  h.modifyLink id g (fun c mem same => absurd same (unused c mem)) fifo

theorem Orderly.elsewhere' (h : n.Orderly out) (id : Nat) {g : Link → Link}
    (unused : ∀ c ∈ n.server.conns, c.link ≠ id)
    (keeps : ∀ k : Link, k.down <:+ k.written → (g k).down <:+ (g k).written) :
    (n.modifyLink id g).Orderly out := by
  refine h.elsewhere id g unused ?_
  rcases link_modifyLink_cases (n := n) id g with changed | same
  · rw [changed]; exact keeps _ (h.fifo id)
  · rw [same]; exact h.fifo id

theorem Serving.cutLink (h : n.Serving c o) (link : n'.link c.link = { n.link c.link with acceptorOpen := false })
    (server : n'.server = n.server) : n'.Serving c o := by
  refine ⟨?_, server ▸ h.sized, server ▸ h.answered, ?_, ?_, server ▸ h.going, h.outboxOpen,
    server ▸ h.workers, ?_⟩
  · rw [link, server]; exact h.stream
  · rw [link, server]; exact h.outbox
  · rw [link]; simp
  · rw [link]; simp

theorem Orderly.cut (h : n.Orderly out) (id : Nat) : (n.cut id).Orderly out := by
  unfold Network.cut
  refine h.modifyLink id _ (fun c mem same => ?_) ?_
  · subst same
    rcases link_cut (n := n) c.link c.link with kept | cut
    · exact (h.serving c mem).of_eq kept rfl rfl rfl
    · exact (h.serving c mem).cutLink cut rfl
  · rcases link_cut (n := n) id id with kept | cut
    · exact kept ▸ h.fifo id
    · exact cut ▸ h.fifo id

/-! ## The actions of an accepted connection -/

/-- An action on one served connection, recording one of its events and changing at most its
own link, once it is still served and delivers in order. -/
theorem Orderly.touch {out' : Accepted → List Frame} {e : Served} (h : n.Orderly out) (mem : c ∈ n.server.conns)
    (server : n'.server = n.server.record c.id e)
    (lookups : ∀ j, (n'.links.lookup j).isSome = (n.links.lookup j).isSome)
    (others : ∀ j, j ≠ c.link → n'.link j = n.link j)
    (next : n'.nextLink = n.nextLink) (peer : n'.peer = n.peer)
    (serving : n'.Serving c (out' c)) (kept : ∀ d ∈ n.server.conns, d.id ≠ c.id → out' d = out d)
    (fifo : (n'.link c.link).down <:+ (n'.link c.link).written) : n'.Orderly out' := by
  have conns : n'.server.conns = n.server.conns := by rw [server]; rfl
  refine ⟨by rw [server]; exact h.workers, conns ▸ h.ids, ?_, ?_, ?_, conns ▸ h.own, ?_, ?_, ?_, ?_, ?_, ?_⟩
  · rw [conns, server]; exact h.below
  · intro p logged
    simp only [server, ServerTransport.record, List.mem_append, List.mem_singleton] at logged ⊢
    rcases logged with old | rfl
    · exact h.logged p old
    · exact h.below c mem
  · intro j big
    have none := h.fresh j (next ▸ big)
    rw [← Option.not_isSome_iff_eq_none, lookups, none]
    simp
  · intro d hd
    rw [lookups]; exact h.present d (conns ▸ hd)
  · rw [peer, conns]; exact h.apart
  · rw [peer, next]; exact h.peerFresh
  · intro d hd
    rw [conns] at hd
    by_cases same : d.id = c.id
    · obtain rfl := h.eq_of_id mem hd same
      exact serving
    · have differ : d.link ≠ c.link := fun links => same (by rw [h.eq_of_link mem hd links])
      rw [kept d hd same]
      exact (h.serving d hd).of_eq (others _ differ) (by simp [server, same]) (by rw [server]; rfl)
        (by rw [server]; rfl)
  · intro j gone
    rw [conns] at gone
    have differ : j ≠ c.id := fun same => gone (by subst same; exact List.mem_map_of_mem mem)
    simpa [server, differ] using h.ended j gone
  · intro j
    by_cases same : j = c.link
    · subst same; exact fifo
    · rw [others j same]; exact h.fifo j

theorem Serving.sent {f : Frame} (h : n.Serving c o) (link : n'.link c.link = (n.link c.link).sendDown f)
    (events : n'.server.events c.id = n.server.events c.id ++ [.sent f])
    (workers : n'.server.workers = n.server.workers) (closed : n'.server.closed = n.server.closed) :
    n'.Serving c o := by
  refine ⟨?_, ?_, ?_, ?_, ?_, ?_, h.outboxOpen, workers ▸ h.workers, ?_⟩
  · simpa [link, events] using h.stream
  · simpa [events] using h.sized
  · simpa [events] using h.answered
  · rw [link, events, queued_append]
    rcases Link.sendDown_cases f (n.link c.link) with ⟨-, written, acceptor, dialer⟩ | ⟨-, written, -⟩
    · rw [written, h.flushed acceptor dialer, queued_singleton]
      exact List.prefix_refl _
    · rw [written]
      exact h.outbox.trans (List.prefix_append _ _)
  · rw [link, events, Link.sendDown_acceptorOpen, Link.sendDown_dialerOpen]
    intro acceptor dialer
    rcases Link.sendDown_cases f (n.link c.link) with ⟨-, written, -⟩ | ⟨-, -, closed⟩
    · rw [written, h.flushed acceptor dialer]; simp
    · simp_all
  · simpa [events] using h.going
  · rw [link, closed, Link.sendDown_acceptorOpen]; exact h.cut

theorem Orderly.emit {i : Nat} {f : Frame} (h : n.Orderly out) (emitted : n.emit i f = .ok n') :
    n'.Orderly out := by
  obtain ⟨c, found, -, rfl⟩ := emit_ok emitted
  obtain ⟨mem, rfl⟩ := ServerTransport.conn?_mem found
  have present := h.present c mem
  have link := link_modifyLink_of_isSome (Link.sendDown f) present
  refine h.touch mem rfl (fun j => isSome_lookup_modifyLink _ j _) (fun j => link_modifyLink_ne _) rfl rfl
    ((h.serving c mem).sent link (by simp [served]) rfl rfl) (fun _ _ _ => rfl) ?_
  rw [link_served, link]
  obtain ⟨t, joined⟩ := h.fifo c.link
  rcases Link.sendDown_cases f (n.link c.link) with ⟨down, written, -⟩ | ⟨down, written, -⟩
  · rw [down, written, ← joined]; exact ⟨t, by simp⟩
  · rw [down, written]; exact ⟨t, joined⟩

theorem Orderly.applyPushes (h : n.Orderly out) (ps : List Push) : (n.applyPushes ps).Orderly out := by
  induction ps generalizing n with
  | nil => exact h
  | cons p ps ih =>
    apply ih
    show ((n.emit p.conn _).toOption.getD n).Orderly out
    cases emitted : n.emit p.conn ⟨UInt64.ofNat p.channel, 0, p.data⟩ with
    | error e => exact h
    | ok n' => exact h.emit emitted

theorem Orderly.noteServer (h : n.Orderly out) (e : Entry) : (n.noteServer e).Orderly out :=
  h.of_eq rfl rfl rfl rfl rfl rfl rfl rfl

theorem Orderly.withService (h : n.Orderly out) (s : σ) : ({ n with service := s } : Network σ).Orderly out :=
  h.of_eq rfl rfl rfl rfl rfl rfl rfl rfl

theorem Serving.replied {r : Frame} {rest : List Frame} (h : n.Serving c o)
    (split : (o.map Frame.key).Perm (r.key :: rest.map Frame.key))
    (link : n'.link c.link = n.link c.link)
    (events : n'.server.events c.id = n.server.events c.id ++ [.reply r])
    (workers : n'.server.workers = n.server.workers) (closed : n'.server.closed = n.server.closed) :
    n'.Serving c rest := by
  refine ⟨?_, ?_, ?_, ?_, ?_, ?_, h.outboxOpen, workers ▸ h.workers, ?_⟩
  · simpa [link, events] using h.stream
  · simpa [events] using h.sized
  · rw [events, calls_append, replies_append]
    simp only [calls_singleton, replies_singleton, callOf, replyOf, Option.toList, List.append_nil,
      List.map_append]
    exact h.answered.trans ((List.Perm.append_left _ split).trans (by simp))
  · simpa [link, events] using h.outbox
  · simpa [link, events] using h.flushed
  · simpa [events] using h.going
  · rw [link, closed]; exact h.cut

theorem Orderly.respond {i : Nat} {f : Frame} (h : n.Orderly out) (found : n.server.conn? i = some c)
    (rest : List Frame) (split : ((out c).map Frame.key).Perm (f.key :: rest.map Frame.key)) (data : Bytes) : (n.respond i f data).Orderly (fun e => if e.id = i then rest else out e) := by
  obtain ⟨mem, rfl⟩ := ServerTransport.conn?_mem found
  have emitted := emit_of_found ⟨f.channel, f.requestId, data⟩ found (h.serving c mem).outboxOpen
  have queued := h.emit emitted
  unfold Network.respond
  rw [emitted]
  refine queued.touch mem rfl (fun _ => rfl) (fun _ _ => rfl) rfl rfl ?_ (fun e _ differ => if_neg differ)
    (queued.fifo _)
  rw [if_pos rfl]
  have answer : ((out c).map Frame.key).Perm (Frame.key ⟨f.channel, f.requestId, data⟩ :: rest.map Frame.key) :=
    split
  exact (queued.serving c mem).replied answer rfl (by simp [served]) rfl rfl

theorem Serving.called {f : Frame} {rest : Bytes} (h : n.Serving c o)
    (read : Frame.read (n.link c.link).up = .ok (f, rest))
    (link : n'.link c.link = { n.link c.link with up := rest })
    (events : n'.server.events c.id = n.server.events c.id ++ [.call f])
    (workers : n'.server.workers = n.server.workers) (closed : n'.server.closed = n.server.closed) :
    n'.Serving c (o ++ [f]) := by
  refine ⟨?_, ?_, ?_, ?_, ?_, ?_, h.outboxOpen, workers ▸ h.workers, ?_⟩
  · rw [link, events]
    show (n.link c.link).wrote = _
    rw [h.stream, (Frame.read_ok read).1]
    simp
  · rw [events, calls_append, calls_singleton]
    intro g mem
    rcases List.mem_append.1 mem with old | new
    · exact h.sized g old
    · simp only [callOf, Option.toList, List.mem_singleton] at new
      exact new ▸ (Frame.read_ok read).2
  · rw [events]
    simpa using h.answered.append_right [f.key]
  · simpa [link, events] using h.outbox
  · simpa [link, events] using h.flushed
  · simpa [events] using h.going
  · rw [link, closed]; exact h.cut

theorem Orderly.call {f : Frame} {l : Link} (h : n.Orderly out) (mem : c ∈ n.server.conns)
    (taken : (n.link c.link).takeUp = (.frame f, l)) :
    ((n.modifyLink c.link fun _ => l).served c.id (.call f)).Orderly
      (fun d => if d.id = c.id then out d ++ [f] else out d) := by
  obtain ⟨rest, read, rfl⟩ := Link.takeUp_frame taken
  have link := link_modifyLink_of_isSome (fun _ => { n.link c.link with up := rest }) (h.present c mem)
  refine h.touch mem rfl (fun j => by rw [served_links, isSome_lookup_modifyLink])
    (fun j differ => by rw [link_served, link_modifyLink_ne _ differ]) rfl rfl ?_ (fun e _ differ => if_neg differ) ?_
  · rw [if_pos rfl]
    exact (h.serving c mem).called read link (by simp [served]) rfl rfl
  · rw [link_served, link]; exact h.fifo c.link

/-- Served whatever its record says besides its number, link, outbox state and held count. -/
theorem Serving.ofRecord {c' : Accepted} (h : n.Serving c o) (id : c'.id = c.id) (link : c'.link = c.link)
    (opened : c'.outboxOpen = c.outboxOpen) (fits : c'.held.length ≤ n.server.workers) : n.Serving c' o := by
  obtain ⟨stream, sized, answered, outbox, flushed, going, outboxOpen, -, cut⟩ := h
  rw [← id, ← link] at *
  exact ⟨stream, sized, answered, outbox, flushed, going, opened ▸ outboxOpen, fits, cut⟩

theorem Orderly.putConn {c' : Accepted} {out' : Accepted → List Frame} (h : n.Orderly out)
    (mem : c ∈ n.server.conns) (id : c'.id = c.id) (link : c'.link = c.link)
    (serving : n.Serving c' (out' c')) (kept : ∀ d ∈ n.server.conns, d.id ≠ c.id → out' d = out d) :
    ({ n with server := n.server.putConn c' } : Network σ).Orderly out' := by
  have replaced : ∀ d ∈ (n.server.putConn c').conns, d = c' ∨ (d ∈ n.server.conns ∧ d.id ≠ c.id) := by
    intro d hd
    rw [← id]; exact ServerTransport.mem_putConn hd
  have links : (n.server.putConn c').conns.map (·.link) = n.server.conns.map (·.link) := by
    simp only [ServerTransport.putConn, List.map_map]
    apply List.map_congr_left
    intro d hd
    by_cases same : d.id = c'.id
    · obtain rfl := h.eq_of_id mem hd (id ▸ same)
      simp [same, link]
    · simp [same]
  refine ⟨h.workers, by simpa using h.ids, ?_, h.logged, h.fresh, by simpa [links] using h.own, ?_, ?_,
    h.peerFresh, ?_, by simpa [ServerTransport.events] using h.ended, h.fifo⟩
  · intro d hd
    rcases replaced d hd with rfl | ⟨old, -⟩
    · rw [id]; exact h.below c mem
    · exact h.below d old
  · intro d hd
    rcases replaced d hd with rfl | ⟨old, -⟩
    · rw [link]; exact h.present c mem
    · exact h.present d old
  · intro p found d hd
    rcases replaced d hd with rfl | ⟨old, -⟩
    · rw [link]; exact h.apart p found c mem
    · exact h.apart p found d old
  · intro d hd
    rcases replaced d hd with rfl | ⟨old, differ⟩
    · exact serving.of_eq rfl rfl rfl rfl
    · rw [kept d old differ]; exact (h.serving d old).of_eq rfl rfl rfl rfl

/-- A connection whose reader stopped and which holds nothing ends, its close event last. -/
theorem Orderly.drop (h : n.Orderly (·.held)) (mem : c ∈ n.server.conns) (empty : c.held = []) :
    ({ n with server := (n.server.record c.id .close).dropConn c.id } : Network σ).Orderly (·.held) := by
  have kept : ∀ d ∈ (n.server.record c.id .close).dropConn c.id |>.conns, d ∈ n.server.conns ∧ d.id ≠ c.id := by
    intro d hd
    simp only [ServerTransport.dropConn, ServerTransport.record, List.mem_filter, bne_iff_ne, ne_eq] at hd
    exact hd
  refine ⟨h.workers, ?_, fun d hd => h.below d (kept d hd).1, ?_, h.fresh, ?_,
    fun d hd => h.present d (kept d hd).1, fun p found d hd => h.apart p found d (kept d hd).1,
    h.peerFresh, ?_, ?_, h.fifo⟩
  · exact ((List.filter_sublist).map _).nodup h.ids
  · intro p logged
    simp only [ServerTransport.dropConn, ServerTransport.record, List.mem_append, List.mem_singleton] at logged
    rcases logged with old | rfl
    · exact h.logged p old
    · exact h.below c mem
  · exact ((List.filter_sublist).map _).nodup h.own
  · intro d hd
    obtain ⟨old, differ⟩ := kept d hd
    exact (h.serving d old).of_eq rfl (by simp [differ]) rfl rfl
  · intro j gone
    simp only [ServerTransport.events_dropConn, ServerTransport.events_record]
    by_cases same : j = c.id
    · subst same
      have serving := h.serving c mem
      rw [if_pos rfl]
      refine .inr ⟨_, rfl, serving.going, ?_⟩
      simpa [empty] using serving.answered
    · rw [if_neg same]
      refine h.ended j fun ids => gone ?_
      obtain ⟨d, hd, rfl⟩ := List.mem_map.1 ids
      exact List.mem_map_of_mem (List.mem_filter.2 ⟨hd, by simpa using same⟩)

theorem Orderly.stopReading (h : n.Orderly (·.held)) (mem : c ∈ n.server.conns) (why : Option Frame.End) :
    (n.stopReading c why).Orderly (·.held) := by
  have stopped : ({ n with server := n.server.putConn { c with reading := false } } : Network σ).Orderly (·.held) :=
    h.putConn mem rfl rfl ((h.serving c mem).ofRecord rfl rfl rfl (h.serving c mem).workers) (fun _ _ _ => rfl)
  unfold Network.stopReading
  dsimp only
  split <;> (try split) <;> first | exact stopped | exact stopped.noteServer _

theorem Orderly.handled (h : n.Orderly out) (svc : Service σ) (mem : c ∈ n.server.conns) {f : Frame} {l : Link}
    (taken : (n.link c.link).takeUp = (.frame f, l)) :
    (n.handled svc c f l).Orderly (fun d => if d.id = c.id then out d ++ [f] else out d) ∧
      (n.handled svc c f l).server.conns = n.server.conns :=
  ⟨((h.call mem taken).withService _).applyPushes _, handled_conns svc c f l⟩

/-- One action of a served connection: reading a request and answering or holding it,
stopping the reader, or running the close handler and ending. -/
theorem Orderly.serveStep {svc : Service σ} (h : n.Orderly (·.held)) (found : n.server.conn? c.id = some c)
    (served : n.serveStep svc c = some n') : n'.Orderly (·.held) := by
  obtain ⟨mem, -⟩ := ServerTransport.conn?_mem found
  rcases serveStep_cases served with ⟨f, l, d, -, -, taken, -, rfl⟩ | ⟨f, l, -, free, taken, -, rfl⟩ |
    ⟨why, -, rfl⟩ | ⟨-, idle, -, ps, s, rfl⟩
  · -- answered at once: the request is no longer outstanding
    obtain ⟨pushed, conns⟩ := h.handled svc mem taken
    have mem' : c ∈ (n.handled svc c f l).server.conns := conns ▸ mem
    refine (pushed.respond (pushed.conn?_of_mem mem') c.held (by simp) d).congr fun e he => ?_
    by_cases same : e.id = c.id
    · have e_c : e = c := pushed.eq_of_id mem' (by simpa using he) same
      simp [e_c]
    · simp [same]
  · -- held: the request stays outstanding and takes a worker
    obtain ⟨pushed, conns⟩ := h.handled svc mem taken
    have mem' : c ∈ (n.handled svc c f l).server.conns := conns ▸ mem
    have fits : (c.held ++ [f]).length ≤ (n.handled svc c f l).server.workers := by
      simp only [ServerTransport.hasWorker, decide_eq_true_eq] at free
      simp only [handled_workers, List.length_append, List.length_singleton]
      omega
    simp only [pushed.conn?_of_mem mem', Option.getD_some]
    exact pushed.putConn mem' rfl rfl ((pushed.serving_at mem').ofRecord rfl rfl rfl fits)
      fun e _ differ => by simp [differ]
  · exact h.stopReading mem _
  · exact (((h.withService _).applyPushes _).cut c.link).drop (by simpa using mem) idle

/-! ## Releasing the held requests -/

theorem Orderly.resumeHeld (svc : Service σ) {f : Frame} {rest : List Frame}
    (h : n.Orderly (fun d => if d.id = c.id then f :: rest else d.held)) (mem : c ∈ n.server.conns) :
    (n.resumeHeld svc c.id f).Orderly (fun d => if d.id = c.id then rest else d.held) := by
  unfold Network.resumeHeld
  cases svc.resume c.id f n.service with
  | mk d s =>
    refine ((h.withService s).respond (h.conn?_of_mem mem) rest (by simp) d).congr fun e _ => ?_
    by_cases same : e.id = c.id <;> simp [same]

theorem Orderly.resumeAll (svc : Service σ) (c : Accepted) : ∀ (hs : List Frame) {m : Network σ},
    m.Orderly (fun d => if d.id = c.id then hs else d.held) → c ∈ m.server.conns →
    (hs.foldl (Network.resumeHeld svc c.id) m).Orderly (fun d => if d.id = c.id then [] else d.held) ∧
      (hs.foldl (Network.resumeHeld svc c.id) m).server.conns = m.server.conns
  | [], _, h, _ => ⟨h, rfl⟩
  | _ :: rest, _, h, mem => by
    obtain ⟨done, conns⟩ := Orderly.resumeAll svc c rest (h.resumeHeld svc mem) (by simpa using mem)
    exact ⟨done, conns.trans (by simp)⟩

theorem Orderly.releaseConn (svc : Service σ) (h : n.Orderly (·.held)) (mem : c ∈ n.server.conns) :
    (n.releaseConn svc c).Orderly (·.held) ∧
      ∀ d ∈ n.server.conns, d.id ≠ c.id → d ∈ (n.releaseConn svc c).server.conns := by
  have start : n.Orderly (fun d => if d.id = c.id then c.held else d.held) :=
    h.congr fun d hd => by
      by_cases same : d.id = c.id
      · simp [h.eq_of_id mem hd same]
      · simp [same]
  obtain ⟨answered, conns⟩ := Orderly.resumeAll svc c c.held start mem
  have mem' : c ∈ (c.held.foldl (Network.resumeHeld svc c.id) n).server.conns := conns ▸ mem
  unfold Network.releaseConn
  dsimp only
  rw [answered.conn?_of_mem mem']
  refine ⟨answered.putConn mem' rfl rfl ?_ fun d _ differ => by simp [differ], fun d hd differ => ?_⟩
  · have serving := answered.serving c mem'
    simp only [if_pos] at serving
    exact serving.ofRecord rfl rfl rfl (Nat.zero_le _)
  · exact ServerTransport.mem_putConn_of_ne (conns ▸ hd) differ

theorem Orderly.release (h : n.Orderly (·.held)) (svc : Service σ) : (n.release svc).Orderly (·.held) := by
  unfold Network.release
  -- the connections are released in turn; those not yet released keep their records
  suffices each : ∀ (cs : List Accepted) (m : Network σ), m.Orderly (·.held) → (cs.map (·.id)).Nodup →
      (∀ c ∈ cs, c ∈ m.server.conns) → (cs.foldl (Network.releaseConn svc) m).Orderly (·.held) from
    each _ _ h h.ids fun _ mem => mem
  intro cs
  induction cs with
  | nil => intro m hm _ _; exact hm
  | cons c cs ih =>
    intro m hm ids mem
    obtain ⟨released, kept⟩ := hm.releaseConn svc (mem c (List.mem_cons_self ..))
    obtain ⟨fresh, ids⟩ := List.nodup_cons.1 ids
    refine ih _ released ids fun d hd => kept d (mem d (List.mem_cons_of_mem _ hd)) fun same => fresh ?_
    have listed : d.id ∈ cs.map (·.id) := List.mem_map_of_mem hd
    rwa [same] at listed

/-! ## Closing the server -/

theorem Orderly.cutAll : ∀ (cs : List Accepted) {n : Network σ}, n.Orderly out →
    (∀ c ∈ cs, (n.links.lookup c.link).isSome) →
    (cs.foldl (fun n c => n.cut c.link) n).Orderly out ∧
      (cs.foldl (fun n c => n.cut c.link) n).server = n.server ∧
      (∀ j, (n.link j).acceptorOpen = false → ((cs.foldl (fun n c => n.cut c.link) n).link j).acceptorOpen = false) ∧
      ∀ c ∈ cs, ((cs.foldl (fun n c => n.cut c.link) n).link c.link).acceptorOpen = false
  | [], _, h, _ => ⟨h, rfl, fun _ closed => closed, fun _ mem => absurd mem List.not_mem_nil⟩
  | c :: cs, _, h, present => by
    obtain ⟨cut, server, stays, closed⟩ := Orderly.cutAll cs (h.cut c.link) fun d mem => by
      simpa [Network.cut] using present d (List.mem_cons_of_mem c mem)
    refine ⟨cut, server, fun j was => stays j (acceptorOpen_cut was), ?_⟩
    intro d mem
    rcases List.mem_cons.1 mem with rfl | later
    · exact stays _ (acceptorOpen_cut_self (present d (List.mem_cons_self ..)))
    · exact closed d later

theorem Orderly.closed (h : n.Orderly out) (cut : ∀ c ∈ n.server.conns, (n.link c.link).acceptorOpen = false) :
    ({ n with server := { n.server with closed := true, serving := false } } : Network σ).Orderly out := by
  refine ⟨h.workers, h.ids, h.below, h.logged, h.fresh, h.own, h.present, h.apart, h.peerFresh,
    fun c mem => ?_, h.ended, h.fifo⟩
  obtain ⟨stream, sized, answered, outbox, flushed, going, outboxOpen, held, -⟩ := h.serving c mem
  exact ⟨stream, sized, answered, outbox, flushed, going, outboxOpen, held, fun _ => cut c mem⟩

theorem Orderly.shut (h : n.Orderly out) :
    (let m := n.server.conns.foldl (fun n c => n.cut c.link) n
     ({ m with server := { m.server with closed := true, serving := false } } : Network σ)).Orderly out := by
  obtain ⟨cut, server, -, closed⟩ := h.cutAll n.server.conns h.present
  exact cut.closed fun c mem => closed c (by rw [server] at mem; exact mem)

theorem Orderly.closeServer (h : n.Orderly out) : n.closeServer.2.Orderly out := by
  unfold Network.closeServer
  split
  · exact h
  · dsimp only
    split
    · rename_i k _
      have unlisted : (n.unregister k).Orderly out := h.of_eq rfl rfl rfl rfl rfl rfl rfl rfl
      exact unlisted.shut
    · exact h.shut

/-! ## Dialing, the scripted peer and listening -/

/-- The new connection is empty, under a number no accepted connection and no peer uses. -/
theorem Orderly.openLink (h : n.Orderly out) : n.openLink.2.Orderly out := by
  have unused := h.fresh n.nextLink le_rfl
  have lookup : ∀ j, n.openLink.2.links.lookup j = if j = n.nextLink then some {} else n.links.lookup j :=
    fun j => lookup_append_fresh j {} unused
  have old : ∀ j, (n.links.lookup j).isSome → n.openLink.2.link j = n.link j := by
    intro j present
    have differ : j ≠ n.nextLink := by rintro rfl; simp [unused] at present
    simp [Network.link, lookup, differ]
  refine ⟨h.workers, h.ids, h.below, h.logged, ?_, h.own, ?_, h.apart, ?_, ?_, h.ended, ?_⟩
  · intro j big
    have differ : j ≠ n.nextLink := by simp [Network.openLink] at big; omega
    rw [lookup, if_neg differ, h.fresh j (by simp [Network.openLink] at big; omega)]
  · intro c mem
    have present := h.present c mem
    have differ : c.link ≠ n.nextLink := by intro same; rw [same, unused] at present; simp at present
    rw [lookup, if_neg differ]; exact present
  · intro p found j mem
    have below := h.peerFresh p found j mem
    simp [Network.openLink]; omega
  · intro c mem
    exact (h.serving c mem).of_eq (old _ (h.present c mem)) rfl rfl rfl
  · intro j
    by_cases same : j = n.nextLink
    · simp [Network.link, lookup, same]
    · cases present : (n.links.lookup j).isSome
      · have none : n.links.lookup j = none := by simpa using present
        simp [Network.link, lookup, same, none]
      · rw [old j present]; exact h.fifo j

theorem Orderly.link_ne_next (h : n.Orderly out) (mem : c ∈ n.server.conns) : c.link ≠ n.nextLink := by
  intro same
  have present := h.present c mem
  rw [same, h.fresh n.nextLink le_rfl] at present
  simp at present

theorem Orderly.lookup_openLink (h : n.Orderly out) : n.openLink.2.links.lookup n.nextLink = some {} := by
  rw [show n.openLink.2.links = n.links ++ [(n.nextLink, {})] from rfl,
    lookup_append_fresh _ _ (h.fresh n.nextLink le_rfl), if_pos rfl]

theorem Orderly.accept (h : n.Orderly (·.held)) {id : Nat} (present : (n.links.lookup id).isSome)
    (empty : n.link id = {}) (unused : ∀ c ∈ n.server.conns, c.link ≠ id)
    (apart : ∀ p, n.peer = some p → id ∉ p.links) (opened : n.server.closed = false) :
    ({ n with server := (n.server.accept id).2 } : Network σ).Orderly (·.held) := by
  have newer : ∀ c ∈ n.server.conns, c.id ≠ n.server.nextId := fun c mem => Nat.ne_of_lt (h.below c mem)
  have cases : ∀ c ∈ (n.server.accept id).2.conns, c ∈ n.server.conns ∨ c = { id := n.server.nextId, link := id } := by
    intro c mem
    simpa [ServerTransport.accept] using mem
  refine ⟨h.workers, ?_, ?_, ?_, h.fresh, ?_, ?_, ?_, h.peerFresh, ?_, ?_, h.fifo⟩
  · simpa [ServerTransport.accept, List.nodup_append] using ⟨h.ids, newer⟩
  · intro c mem
    rcases cases c mem with old | rfl
    · exact Nat.lt_succ_of_lt (h.below c old)
    · exact Nat.lt_succ_self _
  · intro p logged
    exact Nat.lt_succ_of_lt (h.logged p logged)
  · simpa [ServerTransport.accept, List.nodup_append] using ⟨h.own, fun c mem same => unused c mem same⟩
  · intro c mem
    rcases cases c mem with old | rfl
    · exact h.present c old
    · exact present
  · intro p found c mem
    rcases cases c mem with old | rfl
    · exact h.apart p found c old
    · exact apart p found
  · intro c mem
    rcases cases c mem with old | rfl
    · exact (h.serving c old).of_eq rfl (by simp) rfl rfl
    · have none : (n.server.accept id).2.events n.server.nextId = [] := by
        simpa using ServerTransport.events_unused h.logged
      have link : ({ n with server := (n.server.accept id).2 } : Network σ).link id = {} := empty
      refine ⟨?_, ?_, ?_, ?_, ?_, ?_, rfl, Nat.zero_le _, fun closed => absurd closed (by simp [ServerTransport.accept, opened])⟩
      all_goals simp [link, none]
  · intro j gone
    simp only [ServerTransport.events_accept]
    exact h.ended j fun listed => gone (by simp [ServerTransport.accept]; exact .inl (List.mem_map.1 listed))

theorem Orderly.joinPeer (h : n.Orderly out) {id : Nat} (unused : ∀ c ∈ n.server.conns, c.link ≠ id)
    (below : id < n.nextLink) :
    ({ n with peer := n.peer.map fun p => { p with links := p.links ++ [id] } } : Network σ).Orderly out := by
  refine ⟨h.workers, h.ids, h.below, h.logged, h.fresh, h.own, h.present, ?_, ?_,
    fun c mem => (h.serving c mem).of_eq rfl rfl rfl rfl, h.ended, h.fifo⟩
  · intro q found c mem linked
    cases known : n.peer with
    | none => simp [known] at found
    | some p =>
      simp only [known, Option.map_some, Option.some.injEq] at found
      subst found
      rcases List.mem_append.1 linked with old | new
      · exact h.apart p known c mem old
      · exact unused c mem (List.mem_singleton.1 new)
  · intro q found j mem
    cases known : n.peer with
    | none => simp [known] at found
    | some p =>
      simp only [known, Option.map_some, Option.some.injEq] at found
      subst found
      rcases List.mem_append.1 mem with old | new
      · exact h.peerFresh p known j old
      · rw [List.mem_singleton.1 new]; exact below

theorem Orderly.dialAs (h : n.Orderly (·.held)) {family : Family} {addr : String} {id : Nat}
    (dialed : n.dialAs family addr = .ok (id, n')) : n'.Orderly (·.held) := by
  have opened := h.openLink
  unfold Network.dialAs at dialed
  split at dialed
  · split at dialed <;> cases dialed
  · split at dialed
    · cases dialed
    · split at dialed
      · simp only at dialed
        split at dialed
        · cases dialed; exact opened.cut _
        · rename_i running
          cases dialed
          refine opened.accept (by simp [h.lookup_openLink]) ?_ (fun c mem => h.link_ne_next mem) ?_ (by simpa using running)
          · simp [Network.link, h.lookup_openLink]
          · intro p found linked
            exact absurd (h.peerFresh p found _ linked) (Nat.lt_irrefl _)
      · cases dialed
        exact opened.joinPeer (fun c mem => h.link_ne_next mem) (Nat.lt_succ_self _)
      · split at dialed <;> simp only at dialed <;> split at dialed <;> cases dialed

theorem Orderly.withPeer {p : ScriptedPeer} (h : n.Orderly out) (found : n.peer = some p) (q : ScriptedPeer)
    (sub : ∀ j ∈ q.links, j ∈ p.links) : ({ n with peer := some q } : Network σ).Orderly out := by
  refine ⟨h.workers, h.ids, h.below, h.logged, h.fresh, h.own, h.present, ?_, ?_,
    fun c mem => (h.serving c mem).of_eq rfl rfl rfl rfl, h.ended, h.fifo⟩
  · intro q same c mem linked
    cases same
    exact h.apart p found c mem (sub _ linked)
  · intro q same j mem
    cases same
    exact h.peerFresh p found j (sub j mem)

theorem Orderly.peerStep (h : n.Orderly out) {id : Nat} (unused : ∀ c ∈ n.server.conns, c.link ≠ id)
    (stepped : n.peerStep id = some n') : n'.Orderly out := by
  unfold Network.peerStep at stepped
  split at stepped
  · cases stepped
  · rename_i p found
    have dropped : ∀ q : ScriptedPeer,
        ∀ j ∈ ({ q with links := q.links.filter (· != id) } : ScriptedPeer).links, j ∈ q.links :=
      fun q j mem => List.mem_of_mem_filter mem
    split at stepped
    · rename_i f l taken
      simp only at stepped
      have read : (n.modifyLink id fun _ => l).Orderly out := by
        have took : l = (n.link id).takeUp.2 := by rw [taken]
        subst took
        refine h.elsewhere id _ unused ?_
        rcases link_modifyLink_cases (n := n) id (fun _ => (n.link id).takeUp.2) with changed | same
        · rw [changed]; exact Link.fifo_takeUp (h.fifo id)
        · rw [same]; exact h.fifo id
      have reacted := read.withPeer found (p.react f).2.2 (by simp)
      -- the peer's answers go out one frame after another on its own connection
      have wrote := List.foldlRecOn (motive := fun m : Network σ =>
          m.Orderly out ∧ m.server = n.server ∧ m.peer = some (p.react f).2.2) (p.react f).1 _
        ⟨reacted, rfl, rfl⟩ fun m ⟨hm, server, peer⟩ fr _ =>
          ⟨hm.elsewhere' id (fun c mem => unused c (server ▸ mem)) fun k hk => Link.fifo_sendDown fr hk,
            server, peer⟩
      obtain ⟨hm, -, peer⟩ := wrote
      split at stepped
      · cases stepped
        exact (hm.cut id).withPeer peer _ (dropped _)
      · cases stepped
        exact hm
    · cases stepped
    · cases stepped
      exact (h.cut id).withPeer found _ (dropped p)

theorem Orderly.listen (h : n.Orderly out) : n.listen.2.Orderly out := by
  unfold Network.listen
  split
  · exact h
  · split
    · exact h
    · rename_i k m bound
      obtain ⟨server, links, next, peer⟩ := bind_ok bound
      have hm : m.Orderly out := h.of_eq (by rw [server]) (by rw [server]) (by rw [server]) (by rw [server])
        (by rw [server]) links next peer
      split
      · exact hm
      · exact hm.of_eq rfl rfl rfl rfl rfl rfl rfl rfl

/-! ## Every action -/

/-- One action around a server transport: a dialer writes, reads or closes its end; anybody
dials; an accepted connection acts; held requests are released; the server listens or
closes; the service pushes a frame; the scripted peer acts on its own connections; or
anything leaving server, connections and peer alone. -/
inductive Act : Network σ → Network σ → Prop
  | dialer (n : Network σ) (id : Nat) (g : Link → Link) (moved : Link.Dialed (n.link id) (g (n.link id))) :
      Act n (n.modifyLink id g)
  | dial {n n' : Network σ} {family : Family} {addr : String} {id : Nat}
      (dialed : n.dialAs family addr = .ok (id, n')) : Act n n'
  | serve {n n' : Network σ} (svc : Service σ) {c : Accepted} (found : n.server.conn? c.id = some c)
      (served : n.serveStep svc c = some n') : Act n n'
  | release (n : Network σ) (svc : Service σ) : Act n (n.release svc)
  | push {n n' : Network σ} {conn : Nat} {f : Frame} (emitted : n.emit conn f = .ok n') : Act n n'
  | peer {n n' : Network σ} {id : Nat} (unused : ∀ c ∈ n.server.conns, c.link ≠ id)
      (stepped : n.peerStep id = some n') : Act n n'
  | listen (n : Network σ) : Act n n.listen.2
  | close (n : Network σ) : Act n n.closeServer.2
  | other {n n' : Network σ} (server : n'.server = n.server) (links : n'.links = n.links)
      (next : n'.nextLink = n.nextLink) (peer : n'.peer = n.peer) : Act n n'

theorem Orderly.act (h : n.Orderly (·.held)) (a : Act n n') : n'.Orderly (·.held) := by
  cases a with
  | dialer id g moved => exact h.dialed id g moved
  | dial dialed => exact h.dialAs dialed
  | serve svc found served => exact h.serveStep found served
  | release svc => exact h.release svc
  | push emitted => exact h.emit emitted
  | peer unused stepped => exact h.peerStep unused stepped
  | listen => exact h.listen
  | close => exact h.closeServer
  | other server links next peer =>
    exact h.of_eq (by rw [server]) (by rw [server]) (by rw [server]) (by rw [server]) (by rw [server])
      links next peer

/-- A server that accepted and recorded nothing, no connection open, a worker per connection. -/
structure Pristine (n : Network σ) : Prop where
  conns : n.server.conns = []
  log : n.server.log = []
  links : n.links = []
  peer : ∀ p, n.peer = some p → p.links = []
  workers : 0 < n.server.workers

theorem Pristine.orderly (fresh : n.Pristine) : n.Orderly (·.held) := by
  have link : ∀ id, n.link id = {} := fun id => by simp [Network.link, fresh.links]
  refine ⟨fresh.workers, by simp [fresh.conns], by simp [fresh.conns], by simp [fresh.log], ?_, by simp [fresh.conns],
    by simp [fresh.conns], by simp [fresh.conns], ?_, by simp [fresh.conns], ?_, ?_⟩
  · intro id _; simp [fresh.links]
  · intro p found id mem; simp [fresh.peer p found] at mem
  · intro i _; exact .inl (by simp [ServerTransport.events, fresh.log])
  · intro id; simp [link id]

inductive Running : Network σ → Prop
  | start {n : Network σ} (fresh : n.Pristine) : Running n
  | act {n n' : Network σ} : Running n → Act n n' → Running n'

theorem Running.orderly (run : n.Running) : n.Orderly (·.held) := by
  induction run with
  | start fresh => exact fresh.orderly
  | act _ a ih => exact ih.act a

end Network

end InferenceBroker
