import InferenceBroker.Proofs.Transport.Closing

/-!
# The service of each accepted connection

What a server transport guarantees each accepted connection at every moment of any run
(`Running.serves`): the handler is called with the client's requests in order, each once and
whole (`Frame.prefix_of_flatMap_encode`); a request read whole calls the handler at the
connection's next action once a worker is free, an immediate answer queued on its channel and
request id (`Orderly.serveStep_request`); at most `workers` handlers run, and every call has
one answer or still runs; queued frames are written in order while both ends are open; an ended
connection ran its close handler once, last; closing the server waits for every connection.
-/

namespace InferenceBroker

namespace Frame

/-- Frames of at most `maxData` bytes are told apart by their bytes. -/
theorem prefix_of_flatMap_encode {as bs : List Frame} (sa : ∀ f ∈ as, f.data.length ≤ maxData)
    (sb : ∀ f ∈ bs, f.data.length ≤ maxData) (pre : as.flatMap encode <+: bs.flatMap encode) : as <+: bs := by
  induction as generalizing bs with
  | nil => exact List.nil_prefix
  | cons g as ih =>
    cases bs with
    | nil =>
      -- a frame has a header, so its bytes begin no empty stream
      have := pre.length_le
      simp [encode_eq] at this
    | cons f bs =>
      obtain ⟨t, joined⟩ := pre
      simp only [List.flatMap_cons, List.append_assoc] at joined
      have left := read_encode g (as.flatMap encode ++ t) (sa g (List.mem_cons_self ..))
      have right := read_encode f (bs.flatMap encode) (sb f (List.mem_cons_self ..))
      rw [joined, right] at left
      obtain ⟨rfl, rest⟩ := Prod.mk.inj (Except.ok.inj left)
      exact (List.prefix_cons_inj _).2 (ih (fun f hf => sa f (List.mem_cons_of_mem _ hf))
        (fun f hf => sb f (List.mem_cons_of_mem _ hf)) ⟨t, rest.symm⟩)

end Frame

namespace Served

def pushedTo (conn : Nat) (ps : List Push) : List Served :=
  (ps.filter (·.conn == conn)).map fun p => .sent ⟨UInt64.ofNat p.channel, 0, p.data⟩

/-- The call, the frames the handler pushed to the connection, and an immediate answer queued
on the request's channel and id. -/
def request (conn : Nat) (f : Frame) : Answer → List Push → List Served
  | .reply d, ps => .call f :: pushedTo conn ps ++
      [.sent ⟨f.channel, f.requestId, d⟩, .reply ⟨f.channel, f.requestId, d⟩]
  | .hold, ps => .call f :: pushedTo conn ps

@[simp] theorem pushedTo_nil (conn : Nat) : pushedTo conn [] = [] := rfl

theorem pushedTo_cons (conn : Nat) (p : Push) (ps : List Push) :
    pushedTo conn (p :: ps) =
      (if p.conn = conn then [.sent ⟨UInt64.ofNat p.channel, 0, p.data⟩] else []) ++ pushedTo conn ps := by
  by_cases same : p.conn = conn <;> simp [pushedTo, same]

end Served

namespace Network

variable {σ : Type} {n n' : Network σ} {c : Accepted} {out : Accepted → List Frame}

open Served

/-! ## What one request records -/

theorem events_served (i : Nat) (e : Served) (j : Nat) :
    (n.served i e).server.events j = if j = i then n.server.events j ++ [e] else n.server.events j := by
  simp [Network.served]

theorem emit_events {i : Nat} {f : Frame} (emitted : n.emit i f = .ok n') (j : Nat) :
    n'.server.events j = if j = i then n.server.events j ++ [.sent f] else n.server.events j := by
  obtain ⟨c, -, -, rfl⟩ := emit_ok emitted
  rw [events_served]
  rfl

/-- A handler's pushes queue exactly those meant for a served connection, whose outbox is open. -/
theorem Orderly.applyPushes_events (h : n.Orderly out) (mem : c ∈ n.server.conns) (ps : List Push) :
    (n.applyPushes ps).server.events c.id = n.server.events c.id ++ pushedTo c.id ps := by
  induction ps generalizing n with
  | nil => simp [Network.applyPushes]
  | cons p ps ih =>
    show (((n.emit p.conn _).toOption.getD n).applyPushes ps).server.events c.id = _
    rw [pushedTo_cons]
    cases emitted : n.emit p.conn ⟨UInt64.ofNat p.channel, 0, p.data⟩ with
    | error e =>
      have other : p.conn ≠ c.id := fun same => by
        rw [same, emit_of_found _ (h.conn?_of_mem mem) (h.serving c mem).outboxOpen] at emitted
        cases emitted
      simp only [Except.toOption, Option.getD_none]
      rw [ih h mem]
      simp [other]
    | ok m =>
      have mem' : c ∈ m.server.conns := by rw [emit_server emitted]; exact mem
      simp only [Except.toOption, Option.getD_some]
      rw [ih (h.emit emitted) mem', emit_events emitted]
      by_cases same : c.id = p.conn
      · simp [same]
      · simp [same, Ne.symm same]

theorem respond_events {i : Nat} {f : Frame} {data : Bytes} (found : n.server.conn? i = some c)
    (opened : c.outboxOpen = true) :
    (n.respond i f data).server.events i =
      n.server.events i ++ [.sent ⟨f.channel, f.requestId, data⟩, .reply ⟨f.channel, f.requestId, data⟩] := by
  unfold Network.respond
  rw [emit_of_found _ found opened]
  simp [events_served]

/-- A request sent whole, on a connection still reading with a worker free, calls the handler
with its channel and payload at the next action: the call is recorded, then the handler's
pushes, then an immediate answer with the request's channel and id. -/
theorem Orderly.serveStep_request (h : n.Orderly (·.held)) (svc : Service σ) (mem : c ∈ n.server.conns)
    (reading : c.reading = true) (free : c.held.length < n.server.workers)
    (opened : (n.link c.link).acceptorOpen = true) {f : Frame} {rest : Bytes}
    (read : Frame.read (n.link c.link).up = .ok (f, rest)) {a : Answer} {ps : List Push} {s : σ}
    (answer : svc.answer c.id f.channel f.data n.service = (a, ps, s)) :
    ∃ n', n.serveStep svc c = some n' ∧ n'.server.events c.id = n.server.events c.id ++ request c.id f a ps := by
  have taken : (n.link c.link).takeUp = (.frame f, { n.link c.link with up := rest }) := by
    simp [Link.takeUp, opened, read]
  have called := h.call mem taken
  have worker : n.server.hasWorker c = true := by simpa [ServerTransport.hasWorker] using free
  -- the handler is a field of the service: name it, so that its answer can be rewritten
  obtain ⟨handler, resume, closing⟩ := svc
  have answered : handler c.id f.channel f.data n.service = (a, ps, s) := answer
  have service : ∀ (m : Network σ) i e, (m.served i e).service = m.service := fun _ _ _ => rfl
  have service' : ∀ (m : Network σ) i g, (m.modifyLink i g).service = m.service := fun _ _ _ => rfl
  unfold Network.serveStep
  simp only [reading, if_true, worker, Bool.not_true, Bool.false_eq_true, if_false, taken, service, service',
    answered]
  have pushed := (called.withService s).applyPushes ps
  have queued := (called.withService s).applyPushes_events mem ps
  have found := pushed.conn?_of_mem (by simpa using mem)
  cases a with
  | reply d =>
    refine ⟨_, rfl, ?_⟩
    rw [respond_events found (h.serving c mem).outboxOpen, queued]
    simp [events_served, request]
  | hold =>
    refine ⟨_, rfl, ?_⟩
    simp only [ServerTransport.events_putConn]
    rw [queued]
    simp [events_served, request]

/-! ## The service of every connection -/

structure Serves (n : Network σ) : Prop where
  /-- The handler got the client's requests in order, each once. -/
  sent : ∀ c ∈ n.server.conns, ∀ fs : List Frame, (∀ f ∈ fs, f.data.length ≤ Frame.maxData) →
    (n.link c.link).wrote <+: fs.flatMap Frame.encode → calls (n.server.events c.id) <+: fs
  /-- A request sent whole calls the handler at the next action once a worker is free. -/
  handles : ∀ (svc : Service σ), ∀ c ∈ n.server.conns, c.reading = true → c.held.length < n.server.workers →
    (n.link c.link).acceptorOpen = true → ∀ {buf rest left : Bytes} {f : Frame} {a : Answer} {ps : List Push} {s : σ},
    Frame.readInto buf (n.link c.link).up = .ok (f, rest, left) →
    svc.answer c.id f.channel f.data n.service = (a, ps, s) →
    ∃ n', n.serveStep svc c = some n' ∧ n'.server.events c.id = n.server.events c.id ++ request c.id f a ps
  workers : ∀ c ∈ n.server.conns, c.held.length ≤ n.server.workers
  /-- Every call has one answer with its channel and request id, or its handler still runs. -/
  answered : ∀ c ∈ n.server.conns, ((calls (n.server.events c.id)).map Frame.key).Perm
    ((replies (n.server.events c.id)).map Frame.key ++ c.held.map Frame.key)
  /-- The frames written are those queued, in order: all while both ends are open. -/
  written : ∀ c ∈ n.server.conns, (n.link c.link).written <+: queued (n.server.events c.id) ∧
    ((n.link c.link).acceptorOpen = true → (n.link c.link).dialerOpen = true →
      (n.link c.link).written = queued (n.server.events c.id))
  delivers : ∀ id, (n.link id).down <:+ (n.link id).written
  going : ∀ c ∈ n.server.conns, Served.close ∉ n.server.events c.id
  /-- An ended connection ran its close handler once, last, after every handler returned. -/
  ended : ∀ i, i ∉ n.server.conns.map (·.id) → Ended (n.server.events i)
  closes : ∀ svc : Service σ, (n.shutdown svc).2.server.conns = [] ∧
    ∀ i, Ended ((n.shutdown svc).2.server.events i)

theorem Running.serves (run : n.Running) : n.Serves := by
  have h := run.orderly
  refine ⟨fun c mem fs small begun => ?_, fun svc c mem reading free opened buf rest left f a ps s read answer => ?_,
    fun c mem => (h.serving c mem).workers, fun c mem => (h.serving c mem).answered,
    fun c mem => ⟨(h.serving c mem).outbox, (h.serving c mem).flushed⟩, h.fifo,
    fun c mem => (h.serving c mem).going, h.ended, fun svc => ?_⟩
  · -- the bytes of the calls begin what the client wrote, so the calls begin what it sent
    have serving := h.serving c mem
    rw [serving.stream] at begun
    exact Frame.prefix_of_flatMap_encode serving.sized small ((List.prefix_append _ _).trans begun)
  · have whole : Frame.read (n.link c.link).up = .ok (f, rest) := by
      rw [← Frame.readInto_read buf, read]
      rfl
    exact h.serveStep_request svc mem reading free opened whole answer
  · have closed : (n.shutdown svc).2.server.conns = [] := run.shutdown_ends
    refine ⟨closed, fun i => ((run.acts run.acts_shutdown).orderly).ended i ?_⟩
    simp [closed]

/-- A server of one worker per connection that accepted nothing yet. -/
theorem serves_fresh :
    ({ family := .unix, dir := {}, server := { family := .unix, workers := 1 }, service := () } : Network Unit).Serves :=
  Running.serves (.start ⟨rfl, rfl, rfl, by simp, by decide⟩)

end Network

end InferenceBroker
