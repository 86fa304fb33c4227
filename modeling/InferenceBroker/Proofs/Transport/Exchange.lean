import InferenceBroker.Transport.Network

/-!
# One request across the network

A client transport connected to the server's only connection sends a request and waits. When
the service answers at once and pushes nothing, the network settles in two rounds: the server
reads and answers, the client reads the answer; then nobody moves. The caller gets the service's
answer byte for byte, and the network rests around the same connection (`send_wired`). The
states of the exchange are `Network.Wired`, taken one step at a time by the lemmas below.
-/

namespace InferenceBroker

namespace Frame

theorem takeFull_append {n : Nat} {bs : Bytes} (rest : Bytes) (len : bs.length = n) :
    takeFull n (bs ++ rest) = .ok (bs, rest) := by
  simp [takeFull, ← len]

/-- A frame whose data fits reads back whole from its bytes, whatever follows. -/
theorem read_encode (f : Frame) (rest : Bytes) (small : f.data.length ≤ maxData) :
    read (f.encode ++ rest) = .ok (f, rest) := by
  have fits : f.data.length < Nat.pow 256 4 := Nat.lt_of_le_of_lt small (by decide)
  -- the header is the channel, the request id and the length, each at its fixed width
  generalize hc : Bytes.beBytes 8 f.channel.toNat = channel
  generalize hr : Bytes.beBytes 8 f.requestId.toNat = requestId
  generalize hl : Bytes.beBytes 4 f.data.length = length
  have header : f.encode ++ rest = (channel ++ requestId ++ length) ++ (f.data ++ rest) := by
    simp [encode, hc, hr, hl]
  have sizes : channel.length = 8 ∧ requestId.length = 8 ∧ length.length = 4 := by
    simp [← hc, ← hr, ← hl]
  have first : (channel ++ requestId ++ length).take 8 = channel := by
    rw [List.append_assoc, List.take_left' sizes.1]
  have second : ((channel ++ requestId ++ length).drop 8).take 8 = requestId := by
    rw [List.append_assoc, List.drop_left' sizes.1, List.take_left' sizes.2.1]
  have third : (channel ++ requestId ++ length).drop 16 = length :=
    List.drop_left' (by simp [sizes.1, sizes.2.1])
  have taken : takeFull 20 (f.encode ++ rest) = .ok (channel ++ requestId ++ length, f.data ++ rest) := by
    rw [header, takeFull_append _ (by simp [sizes.1, sizes.2.1, sizes.2.2])]
  have values : UInt64.ofNat (Bytes.beValue channel) = f.channel ∧ UInt64.ofNat (Bytes.beValue requestId) = f.requestId ∧
      Bytes.beValue length = f.data.length := by
    refine ⟨?_, ?_, ?_⟩
    · simp [← hc, Bytes.beValue_beBytes]
    · simp [← hr, Bytes.beValue_beBytes]
    · rw [← hl, Bytes.beValue_beBytes, Nat.mod_eq_of_lt fits]
  simp only [read, taken, bind, Except.bind, first, second, third, values]
  by_cases empty : f.data.length = 0
  · obtain ⟨c, r, d⟩ := f
    simp_all [pure, Except.pure]
  · have data : takeFull f.data.length (f.data ++ rest) = .ok (f.data, rest) := takeFull_append rest rfl
    simp [empty, Nat.not_lt.2 small, data, pure, Except.pure]

theorem read_nil : read [] = .error .eof := rfl

end Frame

namespace Network

variable {σ : Type} {svc : Service σ} {n : Network σ}

/-! ## Small facts about the network's operations -/

@[simp] theorem modifyLink_server (l : Nat) (g : Link → Link) : (n.modifyLink l g).server = n.server := rfl
@[simp] theorem modifyLink_clients (l : Nat) (g : Link → Link) : (n.modifyLink l g).clients = n.clients := rfl
@[simp] theorem modifyLink_peer (l : Nat) (g : Link → Link) : (n.modifyLink l g).peer = n.peer := rfl
@[simp] theorem modifyLink_service (l : Nat) (g : Link → Link) : (n.modifyLink l g).service = n.service := rfl

theorem lookup_modifyLink (l : Nat) (g : Link → Link) :
    (n.modifyLink l g).links.lookup l = (n.links.lookup l).map g := by
  simp only [modifyLink]
  induction n.links with
  | nil => rfl
  | cons p ps ih =>
    obtain ⟨i, k⟩ := p
    by_cases same : i = l
    · subst same
      simp
    · have differ : (l == i) = false := by simpa using Ne.symm same
      simp only [beq_iff_eq] at ih
      simp [List.lookup_cons, differ, ih, same]

theorem link_of_lookup {l : Nat} {k : Link} (found : n.links.lookup l = some k) : n.link l = k := by
  simp [link, found]

theorem client?_of_clients {name : String} {t : ClientTransport} (only : n.clients = [(name, t)]) :
    n.client? name = some t := by
  simp [client?, only]

theorem clients_putClient {name : String} {t₀ t : ClientTransport} (only : n.clients = [(name, t₀)]) :
    (n.putClient name t).clients = [(name, t)] := by
  simp [putClient, only]

theorem putClient_self {name : String} {t : ClientTransport} (only : n.clients = [(name, t)]) :
    n.putClient name t = n := by
  simp only [putClient, only, List.any_cons, beq_self_eq_true, Bool.true_or, if_true, List.map_cons,
    if_true, List.map_nil]
  rw [← only]

@[simp] theorem putClient_server (name : String) (t : ClientTransport) : (n.putClient name t).server = n.server := by
  unfold putClient; split <;> rfl
@[simp] theorem putClient_links (name : String) (t : ClientTransport) : (n.putClient name t).links = n.links := by
  unfold putClient; split <;> rfl
@[simp] theorem putClient_peer (name : String) (t : ClientTransport) : (n.putClient name t).peer = n.peer := by
  unfold putClient; split <;> rfl
@[simp] theorem putClient_service (name : String) (t : ClientTransport) :
    (n.putClient name t).service = n.service := by
  unfold putClient; split <;> rfl

@[simp] theorem served_clients (i : Nat) (e : Served) : (n.served i e).clients = n.clients := rfl
@[simp] theorem served_links (i : Nat) (e : Served) : (n.served i e).links = n.links := rfl
@[simp] theorem served_peer (i : Nat) (e : Served) : (n.served i e).peer = n.peer := rfl
@[simp] theorem served_service (i : Nat) (e : Served) : (n.served i e).service = n.service := rfl

@[simp] theorem applyPushes_nil : n.applyPushes [] = n := rfl

theorem service_emit {conn : Nat} {f : Frame} {n' : Network σ} (emitted : n.emit conn f = .ok n') :
    n'.service = n.service := by
  unfold emit at emitted
  split at emitted
  · split at emitted
    · cases emitted; rfl
    · cases emitted
  · cases emitted

@[simp] theorem respond_service (conn : Nat) (f : Frame) (data : Bytes) :
    (n.respond conn f data).service = n.service := by
  unfold respond
  split
  · rename_i n' emitted; exact (service_emit emitted : n'.service = _)
  · rfl

theorem attempts_pos (t : ClientTransport) : 0 < t.attempts := by
  simp only [ClientTransport.attempts]
  omega

end Network

/-! ## The states of one exchange -/

def Link.Carries (k : Link) (up : Bytes) (down : List Frame) : Prop :=
  k.up = up ∧ k.down = down ∧ k.dialerOpen = true ∧ k.acceptorOpen = true

theorem Link.Carries.sendUp {k : Link} {up : Bytes} {down : List Frame} (h : k.Carries up down) (bs : Bytes) :
    (k.sendUp bs).Carries (up ++ bs) down := by
  obtain ⟨u, d, o₁, o₂⟩ := h
  simp [Link.sendUp, Link.Carries, u, d, o₁, o₂]

theorem Link.Carries.sendDown {k : Link} {up : Bytes} {down : List Frame} (h : k.Carries up down) (f : Frame) :
    (k.sendDown f).Carries up (down ++ [f]) := by
  obtain ⟨u, d, o₁, o₂⟩ := h
  simp [Link.sendDown, Link.Carries, u, d, o₁, o₂]

/-- The client transport `t` under `name` holds the one connection `c`, reading link `l`; the
server holds one connection `conn` on that link with a worker for it; no scripted peer. The
link carries `up` to the server and `down` to the client, both ends open. -/
structure Network.Wired {σ : Type} (n : Network σ) (name : String) (t : ClientTransport) (c : Outgoing)
    (conn l : Nat) (up : Bytes) (down : List Frame) : Prop where
  peer : n.peer = none
  link : ∃ k, n.links.lookup l = some k ∧ k.Carries up down
  clients : n.clients = [(name, t)]
  conns : t.conns = [c]
  dialed : c.link = some l
  reading : c.reading = true
  running : t.stopping = false
  quiet : t.notes = []
  server : n.server.conns = [{ id := conn, link := l }]
  workers : 0 < n.server.workers

namespace Network

variable {σ : Type} {svc : Service σ} {n : Network σ} {name : String} {t : ClientTransport} {c : Outgoing}
  {conn l : Nat}

def issued (t : ClientTransport) (c : Outgoing) (channel : UInt64) (data : Bytes) : UInt64 × ClientTransport :=
  (UInt64.ofNat (t.lastRequest + 1),
    { t with lastRequest := t.lastRequest + 1,
             waiting := t.waiting ++ [{ id := UInt64.ofNat (t.lastRequest + 1), conn := c.serial }],
             sent := t.sent ++ [(c.serial, ⟨channel, UInt64.ofNat (t.lastRequest + 1), data⟩)] })

theorem attempt_single (channel : UInt64) (data : Bytes) (id : UInt64) (k : Nat) (last : Option Failure)
    {t : ClientTransport} {c : Outgoing} (running : t.stopping = false) (conns : t.conns = [c])
    (dialed : c.link = some l) :
    issue.attempt channel data id (k + 1) last t =
      (.ok id, { t with waiting := t.waiting ++ [{ id, conn := c.serial }],
                        sent := t.sent ++ [(c.serial, ⟨channel, id, data⟩)] }, some l) := by
  simp [issue.attempt, running, ClientTransport.pick_single c t conns, dialed]

theorem conn?_wired {up : Bytes} {down : List Frame} (w : n.Wired name t c conn l up down) :
    n.server.conn? conn = some { id := conn, link := l } := by
  simp [ServerTransport.conn?, w.server]

theorem Wired.putClient {u : ClientTransport} {up : Bytes} {down : List Frame} (w : n.Wired name t c conn l up down)
    (conns : u.conns = t.conns) (running : u.stopping = t.stopping) (quiet : u.notes = t.notes) :
    (n.putClient name u).Wired name u c conn l up down :=
  ⟨by simp [w.peer], by simpa using w.link, clients_putClient w.clients, conns ▸ w.conns, w.dialed, w.reading,
    running ▸ w.running, quiet ▸ w.quiet, by simp [w.server], by simp [w.workers]⟩

theorem Wired.modifyLink {up up' : Bytes} {down down' : List Frame} {g : Link → Link}
    (w : n.Wired name t c conn l up down) (carries : ∀ k, k.Carries up down → (g k).Carries up' down') :
    (n.modifyLink l g).Wired name t c conn l up' down' := by
  obtain ⟨k, found, hk⟩ := w.link
  exact ⟨w.peer, ⟨g k, by rw [lookup_modifyLink, found]; rfl, carries k hk⟩, w.clients, w.conns, w.dialed,
    w.reading, w.running, w.quiet, w.server, w.workers⟩

theorem Wired.served {up : Bytes} {down : List Frame} (w : n.Wired name t c conn l up down) (i : Nat)
    (e : Served) : (n.served i e).Wired name t c conn l up down :=
  ⟨w.peer, w.link, w.clients, w.conns, w.dialed, w.reading, w.running, w.quiet, w.server, w.workers⟩

theorem Wired.withService {up : Bytes} {down : List Frame} (w : n.Wired name t c conn l up down) (s : σ) :
    ({ n with service := s } : Network σ).Wired name t c conn l up down :=
  ⟨w.peer, w.link, w.clients, w.conns, w.dialed, w.reading, w.running, w.quiet, w.server, w.workers⟩

theorem issue_wired (w : n.Wired name t c conn l [] []) (channel : UInt64) (data : Bytes) :
    n.issue name channel data =
      (.ok (issued t c channel data).1, (n.putClient name (issued t c channel data).2).modifyLink l
        (Link.sendUp (Frame.encode ⟨channel, (issued t c channel data).1, data⟩))) ∧
    ((n.putClient name (issued t c channel data).2).modifyLink l (Link.sendUp (Frame.encode ⟨channel, (issued t c channel data).1, data⟩))).Wired
      name (issued t c channel data).2 c conn l (Frame.encode ⟨channel, (issued t c channel data).1, data⟩) [] := by
  obtain ⟨k, hk⟩ := Nat.exists_eq_add_of_lt (attempts_pos { t with lastRequest := t.lastRequest + 1 })
  constructor
  · simp only [issue, client?_of_clients w.clients]
    rw [Nat.zero_add] at hk
    rw [hk, attempt_single _ _ _ _ _ (t := { t with lastRequest := t.lastRequest + 1 }) w.running w.conns w.dialed]
    rfl
  · have w₁ := w.putClient (u := (issued t c channel data).2) rfl rfl rfl
    exact w₁.modifyLink fun k carries => by
      simpa using carries.sendUp (Frame.encode ⟨channel, (issued t c channel data).1, data⟩)

theorem Wired.respond {ds : List Frame} (w : n.Wired name t c conn l [] ds) (f : Frame) (d : Bytes) :
    (n.respond conn f d).Wired name t c conn l [] (ds ++ [⟨f.channel, f.requestId, d⟩]) := by
  have emitted : n.emit conn ⟨f.channel, f.requestId, d⟩ =
      .ok ((n.modifyLink l (Link.sendDown ⟨f.channel, f.requestId, d⟩)).served conn (.sent ⟨f.channel, f.requestId, d⟩)) := by
    simp [emit, conn?_wired w]
  simp only [Network.respond, emitted]
  exact ((w.modifyLink fun k carries => carries.sendDown _).served _ _).served _ _

/-- The server reads the request the link carries and queues the service's answer, when it
answers at once and pushes nothing. -/
theorem serveStep_wired {f : Frame} {d : Bytes} {s : σ} (w : n.Wired name t c conn l f.encode [])
    (small : f.data.length ≤ Frame.maxData) (answered : svc.answer conn f.channel f.data n.service = (.reply d, [], s)) :
    ∃ n', n.serveStep svc { id := conn, link := l } = some n' ∧
      n'.Wired name t c conn l [] [⟨f.channel, f.requestId, d⟩] ∧ n'.service = s := by
  obtain ⟨k, found, up, down, dialer, acceptor⟩ := w.link
  have taken : (n.link l).takeUp = (.frame f, { k with up := [] }) := by
    have read := Frame.read_encode f [] small
    rw [List.append_nil] at read
    simp [link_of_lookup found, Link.takeUp, acceptor, up, read]
  have w₁ : ((n.modifyLink l fun _ => { k with up := [] }).served conn (.call f)).Wired name t c conn l [] [] :=
    (w.modifyLink (g := fun _ => { k with up := [] }) fun _ _ => ⟨rfl, down, dialer, acceptor⟩).served _ _
  refine ⟨_, ?_, (w₁.withService s).respond f d, by simp⟩
  simp only [serveStep, ServerTransport.hasWorker, List.length_nil, w.workers, decide_true, Bool.not_true,
    Bool.false_eq_true, if_false, if_true, taken]
  simp [served, answered]

@[simp] theorem deliver_conns (serial : Nat) (f : Frame) : (t.deliver serial f).conns = t.conns := by
  unfold ClientTransport.deliver; split <;> rfl
@[simp] theorem deliver_stopping (serial : Nat) (f : Frame) : (t.deliver serial f).stopping = t.stopping := by
  unfold ClientTransport.deliver; split <;> rfl
@[simp] theorem deliver_notes (serial : Nat) (f : Frame) : (t.deliver serial f).notes = t.notes := by
  unfold ClientTransport.deliver; split <;> rfl

@[simp] theorem deliver_received (serial : Nat) (f : Frame) : (t.deliver serial f).received = t.received := by
  unfold ClientTransport.deliver; split <;> rfl

@[simp] theorem receive_conns (serial : Nat) (f : Frame) : (t.receive serial f).conns = t.conns := by
  unfold ClientTransport.receive
  split
  · split <;> rfl
  · simp
@[simp] theorem receive_stopping (serial : Nat) (f : Frame) : (t.receive serial f).stopping = t.stopping := by
  unfold ClientTransport.receive
  split
  · split <;> rfl
  · simp

theorem receive_call {serial : Nat} {f : Frame} (call : f.channel ≠ Frame.notifyChannel) :
    t.receive serial f = { t.deliver serial f with received := t.received ++ [(serial, f)] } := by
  simp [ClientTransport.receive, call]

theorem readStep_wired {fr : Frame} (w : n.Wired name t c conn l [] [fr])
    (call : fr.channel ≠ Frame.notifyChannel) :
    ∃ n', n.readStep name t c = some n' ∧ n'.Wired name (t.receive c.serial fr) c conn l [] [] ∧
      n'.service = n.service := by
  obtain ⟨k, found, up, down, dialer, acceptor⟩ := w.link
  have taken : (n.link l).takeDown = (.frame fr, { k with down := [] }) := by
    simp [link_of_lookup found, Link.takeDown, dialer, down]
  have moved : (n.modifyLink l fun _ => { k with down := [] }).Wired name t c conn l [] [] :=
    w.modifyLink (g := fun _ => { k with down := [] }) fun _ _ => ⟨up, rfl, dialer, acceptor⟩
  refine ⟨_, ?_, moved.putClient (by simp) (by simp) (by simp [receive_call call]), by simp⟩
  simp [readStep, w.dialed, w.reading, taken]

theorem round_answers {f : Frame} {d : Bytes} {s : σ} (w : n.Wired name t c conn l f.encode [])
    (small : f.data.length ≤ Frame.maxData) (call : f.channel ≠ Frame.notifyChannel)
    (answered : svc.answer conn f.channel f.data n.service = (.reply d, [], s)) :
    ∃ n', n.round svc = some n' ∧ n'.Wired name (t.receive c.serial ⟨f.channel, f.requestId, d⟩) c conn l [] [] ∧
      n'.service = s := by
  obtain ⟨n₁, served, w₁, service₁⟩ := serveStep_wired w small answered
  obtain ⟨n₂, read, w₂, service₂⟩ := readStep_wired w₁ call
  refine ⟨n₂, ?_, w₂, service₂.trans service₁⟩
  simp [round, tries, w.server, conn?_wired w, served, w.peer, w.clients, w.conns, client?_of_clients w₁.clients, read]

theorem round_rests (w : n.Wired name t c conn l [] []) : n.round svc = none := by
  obtain ⟨k, found, up, down, dialer, acceptor⟩ := w.link
  have up : (n.link l).takeUp = (.waiting, k) := by
    simp [link_of_lookup found, Link.takeUp, acceptor, up, dialer, Frame.read_nil]
  have down : (n.link l).takeDown = (.waiting, k) := by
    simp [link_of_lookup found, Link.takeDown, dialer, down, acceptor]
  simp [round, tries, w.server, conn?_wired w, serveStep, ServerTransport.hasWorker, up, w.peer, w.clients,
    w.conns, client?_of_clients w.clients, readStep, w.dialed, w.reading, down]

theorem settleWithin_step {k : Nat} {n' : Network σ} (moved : n.round svc = some n') :
    n.settleWithin svc (k + 1) = n'.settleWithin svc k := by
  simp [settleWithin, moved]

theorem settleWithin_rest {k : Nat} (rests : n.round svc = none) : n.settleWithin svc (k + 1) = n := by
  simp [settleWithin, rests]

theorem settle_answers {f : Frame} {d : Bytes} {s : σ} (w : n.Wired name t c conn l f.encode [])
    (small : f.data.length ≤ Frame.maxData) (call : f.channel ≠ Frame.notifyChannel)
    (answered : svc.answer conn f.channel f.data n.service = (.reply d, [], s)) :
    (n.settle svc).Wired name (t.receive c.serial ⟨f.channel, f.requestId, d⟩) c conn l [] [] ∧
      (n.settle svc).service = s := by
  obtain ⟨n', moved, w', service'⟩ := round_answers w small call answered
  have settled : n.settle svc = n' := by
    rw [settle, settleWithin_step moved, settleWithin_rest (round_rests w')]
  exact settled ▸ ⟨w', service'⟩

/-- One more request id used, and the request's frame and answer recorded. -/
def exchanged (t : ClientTransport) (c : Outgoing) (channel : UInt64) (data out : Bytes) : ClientTransport :=
  { t with lastRequest := t.lastRequest + 1,
           sent := t.sent ++ [(c.serial, ⟨channel, UInt64.ofNat (t.lastRequest + 1), data⟩)],
           received := t.received ++ [(c.serial, ⟨channel, UInt64.ofNat (t.lastRequest + 1), out⟩)] }

theorem issued_answered (channel : UInt64) (out : Bytes) (idle : t.waiting = [])
    (call : channel ≠ Frame.notifyChannel) :
    ((issued t c channel data).2.receive c.serial ⟨channel, (issued t c channel data).1, out⟩).outcome?
        (issued t c channel data).1 = some (.ok out) ∧
      ((issued t c channel data).2.receive c.serial ⟨channel, (issued t c channel data).1, out⟩).forget
        (issued t c channel data).1 = exchanged t c channel data out := by
  rw [receive_call call]
  obtain ⟨family, settings, conns, nextSerial, turn, lastRequest, stopping, listens, notes, waiting, journal, sent,
    received, handled⟩ := t
  subst idle
  simp [issued, exchanged, ClientTransport.deliver, ClientTransport.outcome?, ClientTransport.forget]

/-- A request the service answers at once, pushing nothing, returns its answer and leaves the
network at rest around the same connection. -/
theorem send_wired {channel : UInt64} {data out : Bytes} {s : σ} (w : n.Wired name t c conn l [] [])
    (idle : t.waiting = []) (small : data.length ≤ Frame.maxData) (call : channel ≠ Frame.notifyChannel)
    (answered : svc.answer conn channel data n.service = (.reply out, [], s)) :
    ∃ n', n.send svc name channel data = (.ok out, n') ∧
      n'.Wired name (exchanged t c channel data out) c conn l [] [] ∧ n'.service = s := by
  obtain ⟨issue_eq, w₁⟩ := issue_wired w channel data
  obtain ⟨w₂, service₂⟩ := settle_answers (d := out) (s := s) w₁ small call (by simpa using answered)
  obtain ⟨outcome, forgotten⟩ := issued_answered (c := c) channel out idle call
  have w₃ := w₂.putClient
    (u := ((issued t c channel data).2.receive c.serial ⟨channel, (issued t c channel data).1, out⟩).forget
      (issued t c channel data).1)
    (by simp [ClientTransport.forget]) (by simp [ClientTransport.forget])
    (by simp [ClientTransport.forget, receive_call (f := ⟨channel, (issued t c channel data).1, out⟩) call])
  rw [forgotten] at w₃
  refine ⟨_, ?_, w₃, by simpa using service₂⟩
  simp [send, issue_eq, await, client?_of_clients w₂.clients, outcome, forgotten]

theorem takeNotes_wired {up : Bytes} {down : List Frame} (w : n.Wired name t c conn l up down) :
    n.takeNotes name = ([], n) := by
  have quiet : { t with notes := [], handled := t.handled ++ t.notes } = t := by
    have none : t.notes = [] := w.quiet
    obtain ⟨family, settings, conns, nextSerial, turn, lastRequest, stopping, listens, notes, waiting, journal, sent,
      received, handled⟩ := t
    simp only at none
    simp [none]
  simp only [takeNotes, client?_of_clients w.clients]
  rw [quiet, putClient_self w.clients, w.quiet]

end Network

end InferenceBroker
