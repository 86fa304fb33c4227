import InferenceBroker.Proofs.Server.Service
import InferenceBroker.Proofs.Transport.Exchange
import InferenceBroker.Remote.Client

/-!
# A client over the network calls the dispatcher

A broker client talking binary over one connection calls the broker's dispatcher: every
start, request, option write or read, and first stop of a session gives the caller what the
operation returns on the server's dispatcher, which goes through the same states as a
dispatcher the calls reach in process (`runRemote_refines`). The caller sees values byte for
byte, a failure as one status with code and text, a start's failure under `start engine <key>`,
and a direct response not ok as that failure (`ClientCall.Returned.result`), for every run
whose requests fit a frame and whose answers fit a message (`ClientCall.Returned.carried`).
The proof goes one call at a time (`remote_step`): the request crosses in one exchange
(`Network.send_wired`), the broker answers with the operation's outcome
(`Broker.service_answer`), the client reads it back (`invoke_linked`); `Linked` carries over.
-/

namespace InferenceBroker

/-- The failure a receiver rebuilds from a failure's code and text. -/
def Failure.flat (e : Failure) : Failure := .status e.code e.message

/-- Its code is not ok and its text fits a length prefix. -/
def Failure.sendable (e : Failure) : Bool := e.code != Code.ok && decide (e.message.utf8ByteSize < 2 ^ 32)

/-- A start with a transaction id of the client's choosing, or a call on one of its sessions
by place. -/
inductive ClientCall where
  | start (tx : UInt64) (key : EngineKey) (input : Option Bytes)
  | sync (session : Nat) (req : Option Request)
  | async (session : Nat) (req : Option Request)
  | setOption (session : Nat) (optionType : Int32) (value : Option Bytes)
  | getOption (session : Nat) (optionType : Int32) (input : Option Bytes)
  | stop (session : Nat) (input : Option Bytes)

namespace ClientCall

inductive Result where
  | started (output : Option Bytes)
  | response (r : Response)
  | queued (seq : UInt64)
  | done
  | value (v : Option Bytes)
  | failed (e : Failure)
  | noSession

inductive Returned where
  | start (key : EngineKey) (o : Option Lifecycle)
  | stop (o : Option Lifecycle)
  | sync (r : Except Failure (Option Response))
  | async (r : Except Failure (Nat × Request))
  | setOption (r : Except Failure Unit)
  | getOption (r : Except Failure (Option Bytes))
  | noSession

namespace Returned

/-- What a caller across the wire sees: failures as code and text, a start's under the `start
engine <key>` lead, a direct response not ok as its failure; a waiting start reads as a start
without output, a direct request with no response as an empty one. -/
def result : Returned → Result
  | start _ (some (.started out)) => .started out
  | start key (some (.failed e)) => .failed (.within s!"start engine {key.render}" e.flat)
  | start _ _ => .started none
  | stop (some (.failed e)) => .failed e.flat
  | stop _ => .done
  | sync (.ok (some r)) => if r.retCode = Code.ok then .response r else .failed (.status r.retCode r.retDesc.text)
  | sync (.ok none) => .response {}
  | sync (.error e) => .failed e.flat
  | async (.ok (seq, _)) => .queued (UInt64.ofNat seq)
  | async (.error e) => .failed e.flat
  | setOption (.ok ()) => .done
  | setOption (.error e) => .failed e.flat
  | getOption (.ok v) => .value v
  | getOption (.error e) => .failed e.flat
  | noSession => .noSession

/-- Failures whole, byte strings fitting a four-byte length, no description under code ok. -/
def carried : Returned → Bool
  | start _ (some (.started out)) => decide ((out.getD []).length < 2 ^ 32)
  | start _ (some (.failed e)) => e.sendable
  | start _ _ => true
  | stop (some (.failed e)) => e.sendable
  | stop _ => true
  | sync (.ok (some r)) => (r.retCode != Code.ok || r.retDesc.isEmpty) && decide (r.retDesc.length < 2 ^ 32) &&
      decide ((r.result.getD []).length < 2 ^ 32)
  | sync (.ok none) => true
  | sync (.error e) => e.sendable
  | async (.ok _) => true
  | async (.error e) => e.sendable
  | setOption (.ok ()) => true
  | setOption (.error e) => e.sendable
  | getOption (.ok v) => decide ((v.getD []).length < 2 ^ 32)
  | getOption (.error e) => e.sendable
  | noSession => true

end Returned

/-- An operation, then the dispatcher's work until it rests, as a broker does per request. -/
def settled {α : Type} (x : Act Nat α) : Act Nat α := do
  let r ← x
  Dispatcher.settle
  return r

/-- A call made in process by a client of uid `uid`: what the operation returned, and the
sessions afterwards. -/
def direct (uid : String) : ClientCall → List RemoteSession → Act Nat (Returned × List RemoteSession)
  | start tx key input, ss => do
    let o ← settled (Dispatcher.start tx key input)
    return (.start key o, match o with
      | some (.failed _) => ss
      | _ => ss ++ [{ tx, key }])
  | sync i req, ss =>
    match ss[i]? with
    | none => return (.noSession, ss)
    | some s => do
      let (r, s) := s.fill uid req
      return (.sync (← settled (Dispatcher.syncExecute (some r))), ss.set i s)
  | async i req, ss =>
    match ss[i]? with
    | none => return (.noSession, ss)
    | some s => do
      let (r, s) := s.fill uid req
      return (.async (← settled (Dispatcher.asyncExecute (some r))), ss.set i s)
  | setOption i t v, ss =>
    match ss[i]? with
    | none => return (.noSession, ss)
    | some s => return (.setOption (← settled (Dispatcher.setOption s.tx t v)), ss)
  | getOption i t _, ss =>
    match ss[i]? with
    | none => return (.noSession, ss)
    | some s => return (.getOption (← settled (Dispatcher.getOption s.tx t)), ss)
  | stop i input, ss =>
    match ss[i]? with
    | none => return (.noSession, ss)
    | some s => do
      let o ← settled (Dispatcher.stop s.tx input)
      return (.stop o, match o with
        | some (.failed _) => ss
        | _ => ss.set i { s with stopped := true })

def remote (svc : Service Broker) : ClientCall → List RemoteSession → RemoteM Broker (Result × List RemoteSession)
  | start tx key input, ss => do
    match ← RemoteClient.startEngine svc tx key input with
    | .ok (s, out) => return (.started out, ss ++ [s])
    | .error e => return (.failed e, ss)
  | sync i req, ss =>
    match ss[i]? with
    | none => return (.noSession, ss)
    | some s => do
      let (r, s) ← s.syncExecute svc req
      return (match r with
        | .ok resp => .response resp
        | .error e => .failed e, ss.set i s)
  | async i req, ss =>
    match ss[i]? with
    | none => return (.noSession, ss)
    | some s => do
      let (r, s) ← s.asyncExecute svc req
      return (match r with
        | .ok seq => .queued seq
        | .error e => .failed e, ss.set i s)
  | setOption i t v, ss =>
    match ss[i]? with
    | none => return (.noSession, ss)
    | some s => do
      let r ← s.setOption svc t v
      return (match r with
        | .ok () => .done
        | .error e => .failed e, ss)
  | getOption i t input, ss =>
    match ss[i]? with
    | none => return (.noSession, ss)
    | some s => do
      let r ← s.getOption svc t input
      return (match r with
        | .ok v => .value v
        | .error e => .failed e, ss)
  | stop i input, ss =>
    match ss[i]? with
    | none => return (.noSession, ss)
    | some s => do
      let (r, s) ← s.stop svc input
      return (match r with
        | .ok () => .done
        | .error e => .failed e, ss.set i s)

def runDirect (uid : String) : List ClientCall → List RemoteSession → Act Nat (List Returned)
  | [], _ => pure []
  | call :: calls, ss => do
    let (r, ss) ← call.direct uid ss
    return r :: (← runDirect uid calls ss)

def runRemote (svc : Service Broker) : List ClientCall → List RemoteSession → RemoteM Broker (List Result)
  | [], _ => pure []
  | call :: calls, ss => do
    let (r, ss) ← call.remote svc ss
    return r :: (← runRemote svc calls ss)

/-- The bytes a request carries besides fixed-width fields: algorithm, uid, payload or value. -/
def load (uid : String) : ClientCall → Nat
  | start _ key input => key.algorithm.utf8ByteSize + uid.utf8ByteSize + (input.getD []).length
  | sync _ req | async _ req => uid.utf8ByteSize + ((req.getD {}).payload.getD []).length
  | setOption _ _ v | getOption _ _ v | stop _ v => (v.getD []).length

def stops : ClientCall → Option Nat
  | stop i _ => some i
  | _ => none

end ClientCall

/-! ## A client linked to a broker -/

/-- A client at rest over its one connection to the broker's `conn`, both binary, no listener
on either side and no reply waiting. -/
structure Linked (n : Network Broker) (c : RemoteClient) (conn : Nat) : Prop where
  wired : ∃ t o l, n.Wired c.transport t o conn l [] [] ∧ t.waiting = []
  binary : n.service.format = .binary
  clientBinary : c.format = .binary
  unheard : n.service.dispatcher.futures.listeners = []
  noReplies : n.service.dispatcher.replies = []
  unlistened : c.listeners = []

theorem MessageType.bne_self (k : MessageType) : (k != k) = false := by
  show (!(k.val == k.val)) = false
  simp

namespace RemoteClient

variable {σ α β : Type}

theorem run_bind (x : RemoteM σ α) (f : α → RemoteM σ β) (s : Network σ × RemoteClient) :
    (x >>= f).run s = (f (x.run s).1).run (x.run s).2 := rfl

theorem run_get (s : Network σ × RemoteClient) : (get : RemoteM σ _).run s = (s, s) := rfl

theorem run_set (s s' : Network σ × RemoteClient) : (set s' : RemoteM σ PUnit).run s = (⟨⟩, s') := rfl

theorem run_modify (f : Network σ × RemoteClient → Network σ × RemoteClient) (s : Network σ × RemoteClient) :
    (modify f : RemoteM σ PUnit).run s = (⟨⟩, f s) := rfl

theorem run_pure (a : α) (s : Network σ × RemoteClient) : (pure a : RemoteM σ α).run s = (a, s) := rfl

theorem absorb_wired {n : Network σ} {c : RemoteClient} {t : ClientTransport} {o : Outgoing} {conn l : Nat}
    (w : n.Wired c.transport t o conn l [] []) : (absorb : RemoteM σ Unit).run (n, c) = ((), (n, c)) := by
  simp only [absorb, run_modify, Network.takeNotes_wired w, List.foldl_nil]

end RemoteClient

theorem Linked.note {n : Network Broker} {c : RemoteClient} {conn : Nat} (linked : Linked n c conn) (e : Entry) :
    Linked n (c.note e) conn :=
  ⟨linked.wired, linked.binary, linked.clientBinary, linked.unheard, linked.noReplies, linked.unlistened⟩

theorem ClientCall.run_settled {α : Type} (x : Act Nat α) (d : Dispatcher Nat) :
    (ClientCall.settled x).run d = ((x.run d).1, (Dispatcher.settle.run (x.run d).2).2) := rfl

/-- The bytes of the variable-width fields: algorithm, uid, value and error text. -/
def Message.load (m : Message) : Nat :=
  m.algorithmId.length + m.clientUid.length + (m.value.getD []).length + m.err.length

/-- A request leaving room for its fixed-width fields fits a frame, each byte string a prefix. -/
theorem framed {m : Message} (valid : m.kind.valid = true) (small : m.load + 56 ≤ Frame.maxData) :
    Binary.Fits m ∧ ∃ bs, Binary.encode m = .ok bs ∧ bs.length ≤ Frame.maxData := by
  have bound : Frame.maxData < 2 ^ 32 := by decide
  unfold Message.load at small
  refine ⟨⟨by omega, by omega, by omega, by omega⟩, _, Binary.encode_valid valid, ?_⟩
  have := Binary.length_image_le (Binary.encode_valid valid)
  omega

/-- A linked client's valid request, leaving room in a frame, reaches `op`, which leaves no
listener or reply, and the broker answers `reply`. The client reads it back when its type and
byte strings fit, takes its failure, and stays linked around the settled dispatcher. -/
theorem invoke_linked (peer : String) {n : Network Broker} {c : RemoteClient} {conn : Nat} (linked : Linked n c conn)
    {α : Type} {op : Act Nat α} (routing : Dispatcher.Routing op) {m reply : Message} (valid : m.kind.valid = true)
    (small : m.load + 56 ≤ Frame.maxData) (replied : ((Broker.answer conn m).run n.service).1 = reply) (sameKind : reply.kind = m.kind)
    (replyFits : Binary.Fits reply)
    (answered : ((Broker.answer conn m).run n.service).2.dispatcher = (op.run n.service.dispatcher).2)
    (kept : ((Broker.answer conn m).run n.service).2.format = n.service.format) :
    ∃ n', (RemoteClient.invoke (Broker.service peer) m).run (n, c) =
      ((match reply.failure? with
        | some f => .error f
        | none => .ok reply), (n', c)) ∧
      Linked n' c conn ∧ n'.service.dispatcher = ((ClientCall.settled op).run n.service.dispatcher).2 := by
  obtain ⟨t, o, l, w, idle⟩ := linked.wired
  obtain ⟨fits, bs, encoded, framedBs⟩ := framed valid small
  -- the operation adds no listener, so it leaves none and its work pushes no reply
  obtain ⟨unheard, noReplies⟩ := (routing n.service.dispatcher).silent linked.unheard
  rw [linked.noReplies] at noReplies
  obtain ⟨silent, same⟩ := (Dispatcher.routing_settle _).silent unheard
  subst replied
  have replyValid : ((Broker.answer conn m).run n.service).1.kind.valid = true := sameKind ▸ valid
  obtain ⟨out, written⟩ : ∃ out, Binary.encode ((Broker.answer conn m).run n.service).1 = .ok out :=
    ⟨_, Binary.encode_valid replyValid⟩
  have served := Broker.service_answer peer linked.binary valid fits encoded written (answered ▸ unheard)
    (answered ▸ noReplies)
  obtain ⟨n', sent, w', service'⟩ := Network.send_wired w idle framedBs (by decide) served
  have decoded : Format.binary.decode out = .ok ((Broker.answer conn m).run n.service).1 :=
    Binary.decode_image replyValid replyFits written
  refine ⟨n', ?_, ⟨⟨_, o, l, w', idle⟩, ?_, linked.clientBinary, ?_, ?_, linked.unlistened⟩, ?_⟩
  · have sent' : n.send (Broker.service peer) c.transport 1 bs = (.ok out, n') := sent
    simp only [RemoteClient.invoke, RemoteClient.run_bind, RemoteClient.run_get, linked.clientBinary, Format.encode,
      encoded, sent', RemoteClient.run_set, RemoteClient.absorb_wired w', decoded, sameKind, MessageType.bne_self,
      Bool.false_eq_true, if_false]
    cases ((Broker.answer conn m).run n.service).1.failure? <;> rfl
  · rw [service']
    exact kept.trans linked.binary
  · rw [service', answered]
    exact silent
  · rw [service', answered, same, noReplies]
  · rw [service', answered]
    rfl

namespace ClientCall

/-- The caller gets what the operation returns in process, with the same sessions; the client
stays linked around the dispatcher the call left, and keeps its uid. -/
def Mirrors (svc : Service Broker) (call : ClientCall) (ss : List RemoteSession) (n : Network Broker)
    (c : RemoteClient) (conn : Nat) : Prop :=
  ∃ n' c', (call.remote svc ss).run (n, c) =
      ((((call.direct c.uid ss).run n.service.dispatcher).1.1.result, ((call.direct c.uid ss).run n.service.dispatcher).1.2),
        (n', c')) ∧
    Linked n' c' conn ∧ c'.uid = c.uid ∧ n'.service.dispatcher = ((call.direct c.uid ss).run n.service.dispatcher).2

variable {n : Network Broker} {c : RemoteClient} {conn : Nat}

theorem remote_start (peer : String) (linked : Linked n c conn) (tx : UInt64) (key : EngineKey) (input : Option Bytes)
    (ss : List RemoteSession) (small : (start tx key input).load c.uid + 56 ≤ Frame.maxData)
    (carried : (((start tx key input).direct c.uid ss).run n.service.dispatcher).1.1.carried = true) :
    Mirrors (Broker.service peer) (start tx key input) ss n c conn := by
  obtain ⟨replied, answered, kept⟩ := @Broker.answer_start n.service conn tx key (Bytes.ofString c.uid) input
  have small' : (Message.startEngineRequest tx key (Bytes.ofString c.uid) input).load + 56 ≤ Frame.maxData := by
    simpa [load, Message.load, Message.startEngineRequest] using small
  have ran : ((start tx key input).direct c.uid ss).run n.service.dispatcher =
      ((.start key ((Dispatcher.start tx key input).run n.service.dispatcher).1,
        match ((Dispatcher.start tx key input).run n.service.dispatcher).1 with
        | some (.failed _) => ss
        | _ => ss ++ [{ tx, key }]), ((settled (Dispatcher.start tx key input)).run n.service.dispatcher).2) := rfl
  unfold Mirrors
  rw [ran] at carried ⊢
  rcases o : ((Dispatcher.start tx key input).run n.service.dispatcher).1 with _ | (out | _ | e) <;>
    rw [o] at replied carried
  · obtain ⟨n', invoked, linked', dispatcher'⟩ := invoke_linked peer linked (Dispatcher.routing_start tx key input) rfl
      small' replied rfl (by simp [Binary.Fits, Message.startEngineResponse, Message.withOutcome]) answered kept
    refine ⟨n', c.note (.debug RemoteClient.source s!"started transaction {tx.toNat} on engine {key.render}"), ?_,
      linked'.note _, rfl, dispatcher'⟩
    have quiet : (Message.startEngineResponse none none).failure? = none := rfl
    simp only [remote, RemoteClient.startEngine, RemoteClient.run_bind, RemoteClient.run_get, invoked, quiet,
      RemoteClient.run_modify, RemoteClient.run_pure, Returned.result]
    rfl
  · have fits : (out.getD []).length < 2 ^ 32 := by simpa [Returned.carried] using carried
    obtain ⟨n', invoked, linked', dispatcher'⟩ := invoke_linked peer linked (Dispatcher.routing_start tx key input) rfl
      small' replied rfl (by simpa [Binary.Fits, Message.startEngineResponse, Message.withOutcome] using fits) answered kept
    refine ⟨n', c.note (.debug RemoteClient.source s!"started transaction {tx.toNat} on engine {key.render}"), ?_,
      linked'.note _, rfl, dispatcher'⟩
    have quiet : (Message.startEngineResponse out none).failure? = none := rfl
    simp only [remote, RemoteClient.startEngine, RemoteClient.run_bind, RemoteClient.run_get, invoked, quiet,
      RemoteClient.run_modify, RemoteClient.run_pure, Returned.result]
    rfl
  · obtain ⟨n', invoked, linked', dispatcher'⟩ := invoke_linked peer linked (Dispatcher.routing_start tx key input) rfl
      small' replied rfl (by simp [Binary.Fits, Message.startEngineResponse, Message.withOutcome]) answered kept
    refine ⟨n', c.note (.debug RemoteClient.source s!"started transaction {tx.toNat} on engine {key.render}"), ?_,
      linked'.note _, rfl, dispatcher'⟩
    have quiet : (Message.startEngineResponse none none).failure? = none := rfl
    simp only [remote, RemoteClient.startEngine, RemoteClient.run_bind, RemoteClient.run_get, invoked, quiet,
      RemoteClient.run_modify, RemoteClient.run_pure, Returned.result]
    rfl
  · have sendable : e.code ≠ Code.ok ∧ e.message.utf8ByteSize < 2 ^ 32 := by
      simpa [Returned.carried, Failure.sendable] using carried
    obtain ⟨n', invoked, linked', dispatcher'⟩ := invoke_linked peer linked (Dispatcher.routing_start tx key input) rfl
      small' replied rfl (by simpa [Binary.Fits, Message.startEngineResponse, Message.withOutcome] using sendable.2) answered kept
    refine ⟨n', c, ?_, linked', rfl, dispatcher'⟩
    simp only [remote, RemoteClient.startEngine, RemoteClient.run_bind, RemoteClient.run_get, invoked,
      Message.startEngineResponse, Message.failure?_withOutcome sendable.1, RemoteClient.run_pure, Returned.result]
    rfl

theorem fill_request (s : RemoteSession) (uid : String) (req : Option Request) :
    (s.fill uid req).1.clientUid = Bytes.ofString uid ∧ (s.fill uid req).1.payload = (req.getD {}).payload := by
  unfold RemoteSession.fill
  dsimp only
  split <;> exact ⟨rfl, rfl⟩

theorem fill_stopped (s : RemoteSession) (uid : String) (req : Option Request) :
    (s.fill uid req).2.stopped = s.stopped := by
  unfold RemoteSession.fill
  dsimp only
  split <;> rfl

theorem response_syncExecuteResponse (r : Response) : (Message.syncExecuteResponse (some r) none).response = r := by
  cases r
  rfl

theorem remote_sync (peer : String) (linked : Linked n c conn) (i : Nat) (req : Option Request)
    (ss : List RemoteSession) (small : (sync i req).load c.uid + 56 ≤ Frame.maxData)
    (carried : (((sync i req).direct c.uid ss).run n.service.dispatcher).1.1.carried = true) :
    Mirrors (Broker.service peer) (sync i req) ss n c conn := by
  unfold Mirrors
  rcases found : ss[i]? with _ | s
  · exact ⟨n, c, by simp only [remote, direct, found]; rfl, linked, rfl, by simp only [direct, found]; rfl⟩
  obtain ⟨uid, payload⟩ := fill_request s c.uid req
  obtain ⟨replied, answered, kept⟩ := @Broker.answer_syncExecute n.service conn (s.fill c.uid req).1
  have small' : (Message.syncExecuteRequest (s.fill c.uid req).1).load + 56 ≤ Frame.maxData := by
    simpa [load, Message.load, Message.syncExecuteRequest, Message.executeRequest, uid, payload] using small
  have ran : ((sync i req).direct c.uid ss).run n.service.dispatcher =
      ((.sync ((Dispatcher.syncExecute (some (s.fill c.uid req).1)).run n.service.dispatcher).1,
        ss.set i (s.fill c.uid req).2), ((settled (Dispatcher.syncExecute (some (s.fill c.uid req).1))).run n.service.dispatcher).2) := by
    simp only [direct, found]
    rfl
  rw [ran] at carried ⊢
  rcases o : ((Dispatcher.syncExecute (some (s.fill c.uid req).1)).run n.service.dispatcher).1 with e | (_ | r) <;>
    rw [o] at replied carried
  · have sendable : e.code ≠ Code.ok ∧ e.message.utf8ByteSize < 2 ^ 32 := by
      simpa [Returned.carried, Failure.sendable] using carried
    obtain ⟨n', invoked, linked', dispatcher'⟩ := invoke_linked peer linked (Dispatcher.routing_syncExecute _) rfl
      small' replied rfl (by simpa [Binary.Fits, Message.syncExecuteResponse, Message.withOutcome] using sendable.2)
      answered kept
    refine ⟨n', c, ?_, linked', rfl, dispatcher'⟩
    simp only [remote, found, RemoteSession.syncExecute, RemoteClient.run_bind, RemoteClient.run_get, invoked,
      Message.syncExecuteResponse, Message.failure?_withOutcome sendable.1, RemoteClient.run_pure, Returned.result]
    rfl
  · obtain ⟨n', invoked, linked', dispatcher'⟩ := invoke_linked peer linked (Dispatcher.routing_syncExecute _) rfl
      small' replied rfl (by simp [Binary.Fits, Message.syncExecuteResponse, Message.withOutcome]) answered kept
    refine ⟨n', c, ?_, linked', rfl, dispatcher'⟩
    have quiet : (Message.syncExecuteResponse none none).failure? = none := rfl
    simp only [remote, found, RemoteSession.syncExecute, RemoteClient.run_bind, RemoteClient.run_get, invoked, quiet,
      RemoteClient.run_pure, Returned.result]
    rfl
  · have fits : ((r.retCode ≠ Code.ok ∨ r.retDesc = []) ∧ r.retDesc.length < 2 ^ 32) ∧
        (r.result.getD []).length < 2 ^ 32 := by
      simpa [Returned.carried] using carried
    obtain ⟨n', invoked, linked', dispatcher'⟩ := invoke_linked peer linked (Dispatcher.routing_syncExecute _) rfl
      small' replied rfl
      (by simpa [Binary.Fits, Message.syncExecuteResponse, Message.withOutcome] using And.intro fits.2 fits.1.2)
      answered kept
    refine ⟨n', c, ?_, linked', rfl, dispatcher'⟩
    simp only [remote, found, RemoteSession.syncExecute, RemoteClient.run_bind, RemoteClient.run_get, invoked,
      RemoteClient.run_pure, Returned.result]
    by_cases ok : r.retCode = Code.ok
    · -- a response under code ok has no description, so it reports no failure
      have plain : r.retDesc = [] := fits.1.1.resolve_left (not_not.2 ok)
      have quiet : (Message.syncExecuteResponse (some r) none).failure? = none := by
        simp [Message.syncExecuteResponse, Message.withOutcome, Message.failure?, ok, plain]
      simp only [quiet, response_syncExecuteResponse, ok, if_true]
      rfl
    · have failing : (Message.syncExecuteResponse (some r) none).failure? = some (.status r.retCode r.retDesc.text) := by
        simp [Message.syncExecuteResponse, Message.withOutcome, Message.failure?, ok]
      simp only [failing, ok, if_false]
      rfl

theorem remote_async (peer : String) (linked : Linked n c conn) (i : Nat) (req : Option Request)
    (ss : List RemoteSession) (small : (async i req).load c.uid + 56 ≤ Frame.maxData)
    (carried : (((async i req).direct c.uid ss).run n.service.dispatcher).1.1.carried = true) :
    Mirrors (Broker.service peer) (async i req) ss n c conn := by
  unfold Mirrors
  rcases found : ss[i]? with _ | s
  · exact ⟨n, c, by simp only [remote, direct, found]; rfl, linked, rfl, by simp only [direct, found]; rfl⟩
  obtain ⟨uid, payload⟩ := fill_request s c.uid req
  obtain ⟨replied, answered, kept⟩ := @Broker.answer_asyncExecute n.service conn (s.fill c.uid req).1
  have small' : (Message.asyncExecuteRequest (s.fill c.uid req).1).load + 56 ≤ Frame.maxData := by
    simpa [load, Message.load, Message.asyncExecuteRequest, Message.executeRequest, uid, payload] using small
  have ran : ((async i req).direct c.uid ss).run n.service.dispatcher =
      ((.async ((Dispatcher.asyncExecute (some (s.fill c.uid req).1)).run n.service.dispatcher).1,
        ss.set i (s.fill c.uid req).2),
        ((settled (Dispatcher.asyncExecute (some (s.fill c.uid req).1))).run n.service.dispatcher).2) := by
    simp only [direct, found]
    rfl
  rw [ran] at carried ⊢
  rcases o : ((Dispatcher.asyncExecute (some (s.fill c.uid req).1)).run n.service.dispatcher).1 with e | ⟨seq, sent⟩ <;>
    rw [o] at replied carried
  · have sendable : e.code ≠ Code.ok ∧ e.message.utf8ByteSize < 2 ^ 32 := by
      simpa [Returned.carried, Failure.sendable] using carried
    obtain ⟨n', invoked, linked', dispatcher'⟩ := invoke_linked peer linked (Dispatcher.routing_asyncExecute _) rfl
      small' replied rfl (by simpa [Binary.Fits, Message.asyncExecuteResponse, Message.withOutcome] using sendable.2)
      answered kept
    refine ⟨n', c, ?_, linked', rfl, dispatcher'⟩
    simp only [remote, found, RemoteSession.asyncExecute, RemoteClient.run_bind, RemoteClient.run_get, invoked,
      Message.asyncExecuteResponse, Message.failure?_withOutcome sendable.1, RemoteClient.run_pure, Returned.result]
    rfl
  · obtain ⟨n', invoked, linked', dispatcher'⟩ := invoke_linked peer linked (Dispatcher.routing_asyncExecute _) rfl
      small' replied rfl (by simp [Binary.Fits, Message.asyncExecuteResponse, Message.withOutcome]) answered kept
    refine ⟨n', c, ?_, linked', rfl, dispatcher'⟩
    have quiet : (Message.asyncExecuteResponse (UInt64.ofNat seq) none).failure? = none := rfl
    simp only [remote, found, RemoteSession.asyncExecute, RemoteClient.run_bind, RemoteClient.run_get, invoked, quiet,
      RemoteClient.run_pure, Returned.result]
    rfl

theorem remote_setOption (peer : String) (linked : Linked n c conn) (i : Nat) (t : Int32) (v : Option Bytes)
    (ss : List RemoteSession) (small : (setOption i t v).load c.uid + 56 ≤ Frame.maxData)
    (carried : (((setOption i t v).direct c.uid ss).run n.service.dispatcher).1.1.carried = true) :
    Mirrors (Broker.service peer) (setOption i t v) ss n c conn := by
  unfold Mirrors
  rcases found : ss[i]? with _ | s
  · exact ⟨n, c, by simp only [remote, direct, found]; rfl, linked, rfl, by simp only [direct, found]; rfl⟩
  obtain ⟨replied, answered, kept⟩ := @Broker.answer_setOption n.service conn s.tx t v
  have small' : (Message.setOptionRequest s.tx t v).load + 56 ≤ Frame.maxData := by
    simpa [load, Message.load, Message.setOptionRequest] using small
  have ran : ((setOption i t v).direct c.uid ss).run n.service.dispatcher =
      ((.setOption ((Dispatcher.setOption s.tx t v).run n.service.dispatcher).1, ss),
        ((settled (Dispatcher.setOption s.tx t v)).run n.service.dispatcher).2) := by
    simp only [direct, found]
    rfl
  rw [ran] at carried ⊢
  rcases o : ((Dispatcher.setOption s.tx t v).run n.service.dispatcher).1 with e | ⟨⟩ <;> rw [o] at replied carried
  · have sendable : e.code ≠ Code.ok ∧ e.message.utf8ByteSize < 2 ^ 32 := by
      simpa [Returned.carried, Failure.sendable] using carried
    obtain ⟨n', invoked, linked', dispatcher'⟩ := invoke_linked peer linked (Dispatcher.routing_setOption _ _ _) rfl
      small' replied rfl (by simpa [Binary.Fits, Message.setOptionResponse, Message.withOutcome] using sendable.2)
      answered kept
    refine ⟨n', c, ?_, linked', rfl, dispatcher'⟩
    simp only [remote, found, RemoteSession.setOption, RemoteClient.run_bind, invoked, Message.setOptionResponse,
      Message.failure?_withOutcome sendable.1, RemoteClient.run_pure, Returned.result]
    rfl
  · obtain ⟨n', invoked, linked', dispatcher'⟩ := invoke_linked peer linked (Dispatcher.routing_setOption _ _ _) rfl
      small' replied rfl (by simp [Binary.Fits, Message.setOptionResponse, Message.withOutcome]) answered kept
    refine ⟨n', c, ?_, linked', rfl, dispatcher'⟩
    have quiet : (Message.setOptionResponse none).failure? = none := rfl
    simp only [remote, found, RemoteSession.setOption, RemoteClient.run_bind, invoked, quiet, RemoteClient.run_pure,
      Returned.result]
    rfl

theorem remote_getOption (peer : String) (linked : Linked n c conn) (i : Nat) (t : Int32) (input : Option Bytes)
    (ss : List RemoteSession) (small : (getOption i t input).load c.uid + 56 ≤ Frame.maxData)
    (carried : (((getOption i t input).direct c.uid ss).run n.service.dispatcher).1.1.carried = true) :
    Mirrors (Broker.service peer) (getOption i t input) ss n c conn := by
  unfold Mirrors
  rcases found : ss[i]? with _ | s
  · exact ⟨n, c, by simp only [remote, direct, found]; rfl, linked, rfl, by simp only [direct, found]; rfl⟩
  obtain ⟨replied, answered, kept⟩ := @Broker.answer_getOption n.service conn s.tx t input
  have small' : (Message.getOptionRequest s.tx t input).load + 56 ≤ Frame.maxData := by
    simpa [load, Message.load, Message.getOptionRequest] using small
  have ran : ((getOption i t input).direct c.uid ss).run n.service.dispatcher =
      ((.getOption ((Dispatcher.getOption s.tx t).run n.service.dispatcher).1, ss),
        ((settled (Dispatcher.getOption s.tx t)).run n.service.dispatcher).2) := by
    simp only [direct, found]
    rfl
  rw [ran] at carried ⊢
  rcases o : ((Dispatcher.getOption s.tx t).run n.service.dispatcher).1 with e | v <;> rw [o] at replied carried
  · have sendable : e.code ≠ Code.ok ∧ e.message.utf8ByteSize < 2 ^ 32 := by
      simpa [Returned.carried, Failure.sendable] using carried
    obtain ⟨n', invoked, linked', dispatcher'⟩ := invoke_linked peer linked (Dispatcher.routing_getOption _ _) rfl
      small' replied rfl (by simpa [Binary.Fits, Message.getOptionResponse, Message.withOutcome] using sendable.2)
      answered kept
    refine ⟨n', c, ?_, linked', rfl, dispatcher'⟩
    simp only [remote, found, RemoteSession.getOption, RemoteClient.run_bind, invoked, Message.getOptionResponse,
      Message.failure?_withOutcome sendable.1, RemoteClient.run_pure, Returned.result]
    rfl
  · have fits : (v.getD []).length < 2 ^ 32 := by simpa [Returned.carried] using carried
    obtain ⟨n', invoked, linked', dispatcher'⟩ := invoke_linked peer linked (Dispatcher.routing_getOption _ _) rfl
      small' replied rfl (by simpa [Binary.Fits, Message.getOptionResponse, Message.withOutcome] using fits) answered kept
    refine ⟨n', c, ?_, linked', rfl, dispatcher'⟩
    have quiet : (Message.getOptionResponse v none).failure? = none := rfl
    simp only [remote, found, RemoteSession.getOption, RemoteClient.run_bind, invoked, quiet, RemoteClient.run_pure,
      Returned.result]
    rfl

theorem remote_stop (peer : String) (linked : Linked n c conn) (i : Nat) (input : Option Bytes)
    (ss : List RemoteSession) (small : (stop i input).load c.uid + 56 ≤ Frame.maxData)
    (fresh : ∀ s, ss[i]? = some s → s.stopped = false)
    (carried : (((stop i input).direct c.uid ss).run n.service.dispatcher).1.1.carried = true) :
    Mirrors (Broker.service peer) (stop i input) ss n c conn := by
  unfold Mirrors
  rcases found : ss[i]? with _ | s
  · exact ⟨n, c, by simp only [remote, direct, found]; rfl, linked, rfl, by simp only [direct, found]; rfl⟩
  have first : s.stopped = false := fresh s found
  obtain ⟨replied, answered, kept⟩ := @Broker.answer_stop n.service conn s.tx input
  have small' : (Message.stopEngineRequest s.tx input).load + 56 ≤ Frame.maxData := by
    simpa [load, Message.load, Message.stopEngineRequest] using small
  have ran : ((stop i input).direct c.uid ss).run n.service.dispatcher =
      ((.stop ((Dispatcher.stop s.tx input).run n.service.dispatcher).1,
        match ((Dispatcher.stop s.tx input).run n.service.dispatcher).1 with
        | some (.failed _) => ss
        | _ => ss.set i { s with stopped := true }), ((settled (Dispatcher.stop s.tx input)).run n.service.dispatcher).2) := by
    simp only [direct, found]
    rfl
  rw [ran] at carried ⊢
  rcases o : ((Dispatcher.stop s.tx input).run n.service.dispatcher).1 with _ | (out | _ | e) <;> rw [o] at replied carried
  -- every outcome but a failure is answered as a stop
  case some.failed =>
    have sendable : e.code ≠ Code.ok ∧ e.message.utf8ByteSize < 2 ^ 32 := by
      simpa [Returned.carried, Failure.sendable] using carried
    obtain ⟨n', invoked, linked', dispatcher'⟩ := invoke_linked peer linked (Dispatcher.routing_stop _ _) rfl
      small' replied rfl (by simpa [Binary.Fits, Message.stopEngineResponse, Message.withOutcome] using sendable.2)
      answered kept
    refine ⟨n', c, ?_, linked', rfl, dispatcher'⟩
    -- a failed stop leaves the session as it was
    have unchanged : ss.set i s = ss := by
      obtain ⟨lt, eq⟩ := List.getElem?_eq_some_iff.1 found
      rw [← eq]
      exact List.set_getElem_self lt
    simp only [remote, found, RemoteSession.stop, first, Bool.false_eq_true, if_false, RemoteClient.run_bind,
      RemoteClient.run_get, linked.unlistened, List.contains_nil, invoked, Message.stopEngineResponse,
      Message.failure?_withOutcome sendable.1, RemoteClient.run_pure, Returned.result, unchanged]
    rfl
  all_goals
    obtain ⟨n', invoked, linked', dispatcher'⟩ := invoke_linked peer linked (Dispatcher.routing_stop _ _) rfl
      small' replied rfl (by simp [Binary.Fits, Message.stopEngineResponse, Message.withOutcome]) answered kept
    refine ⟨n', c, ?_, linked', rfl, dispatcher'⟩
    have quiet : (Message.stopEngineResponse none).failure? = none := rfl
    simp only [remote, found, RemoteSession.stop, first, Bool.false_eq_true, if_false, RemoteClient.run_bind,
      RemoteClient.run_get, linked.unlistened, List.contains_nil, invoked, quiet, RemoteClient.run_pure, Returned.result]

/-- One call mirrors the call in process when its request fits a frame, what is returned fits a
message, and a stop finds its session running. -/
theorem remote_step (peer : String) (linked : Linked n c conn) (call : ClientCall) (ss : List RemoteSession)
    (small : call.load c.uid + 56 ≤ Frame.maxData) (fresh : ∀ i s, call.stops = some i → ss[i]? = some s → s.stopped = false)
    (carried : ((call.direct c.uid ss).run n.service.dispatcher).1.1.carried = true) :
    Mirrors (Broker.service peer) call ss n c conn := by
  cases call with
  | start tx key input => exact remote_start peer linked tx key input ss small carried
  | sync i req => exact remote_sync peer linked i req ss small carried
  | async i req => exact remote_async peer linked i req ss small carried
  | setOption i t v => exact remote_setOption peer linked i t v ss small carried
  | getOption i t input => exact remote_getOption peer linked i t input ss small carried
  | stop i input => exact remote_stop peer linked i input ss small (fresh i · rfl) carried

theorem stopped_append {ss : List RemoteSession} {x s' : RemoteSession} {j : Nat} (running : x.stopped = false)
    (found : (ss ++ [x])[j]? = some s') (stopped : s'.stopped = true) : ∃ s, ss[j]? = some s ∧ s.stopped = true := by
  rw [List.getElem?_append] at found
  split at found
  · exact ⟨s', found, stopped⟩
  · have new : x = s' := by simpa using (List.getElem?_eq_some_iff.1 found).2
    simp_all

theorem stopped_set {ss : List RemoteSession} {v s' : RemoteSession} {i j : Nat} (found : (ss.set i v)[j]? = some s')
    (stopped : s'.stopped = true) : (i = j ∧ v.stopped = true) ∨ ∃ s, ss[j]? = some s ∧ s.stopped = true := by
  rw [List.getElem?_set] at found
  split at found
  · next same =>
    split at found
    · exact .inl ⟨same, Option.some.inj found ▸ stopped⟩
    · cases found
  · exact .inr ⟨s', found, stopped⟩

/-- A session stopped after the call was stopped before, unless the call stopped it. -/
theorem stopped_direct (uid : String) (call : ClientCall) (ss : List RemoteSession) (d : Dispatcher Nat) {j : Nat}
    {s' : RemoteSession} (found : ((call.direct uid ss).run d).1.2[j]? = some s') (stopped : s'.stopped = true) :
    call.stops = some j ∨ ∃ s, ss[j]? = some s ∧ s.stopped = true := by
  cases call with
  | start tx key input =>
    right
    simp only [direct, Dispatcher.run_bind, run_settled, Dispatcher.run_pure] at found
    split at found
    · exact ⟨s', found, stopped⟩
    · exact stopped_append rfl found stopped
  | sync i req | async i req =>
    right
    rcases here : ss[i]? with _ | s <;> simp only [direct, here, Dispatcher.run_bind, run_settled, Dispatcher.run_pure] at found
    · exact ⟨s', found, stopped⟩
    · rcases stopped_set found stopped with ⟨rfl, filled⟩ | before
      · exact ⟨s, here, (fill_stopped s uid req) ▸ filled⟩
      · exact before
  | setOption i t v | getOption i t v =>
    right
    rcases here : ss[i]? with _ | s <;> simp only [direct, here, Dispatcher.run_bind, run_settled, Dispatcher.run_pure] at found
    all_goals exact ⟨s', found, stopped⟩
  | stop i input =>
    rcases here : ss[i]? with _ | s <;> simp only [direct, here, Dispatcher.run_bind, run_settled, Dispatcher.run_pure] at found
    · exact .inr ⟨s', found, stopped⟩
    · split at found
      · exact .inr ⟨s', found, stopped⟩
      · rcases stopped_set found stopped with ⟨rfl, -⟩ | before
        · exact .inl rfl
        · exact .inr before


def Fresh (calls : List ClientCall) (ss : List RemoteSession) : Prop :=
  ∀ i ∈ calls.filterMap stops, ∀ s, ss[i]? = some s → s.stopped = false

theorem fresh_nil (calls : List ClientCall) : Fresh calls [] := by
  intro i _ s found
  simp at found

theorem Fresh.head {call : ClientCall} {calls : List ClientCall} {ss : List RemoteSession}
    (fresh : Fresh (call :: calls) ss) : ∀ i s, call.stops = some i → ss[i]? = some s → s.stopped = false :=
  fun i s stopping found => fresh i (List.mem_filterMap.2 ⟨call, List.mem_cons_self, stopping⟩) s found

theorem Fresh.step {call : ClientCall} {calls : List ClientCall} {ss : List RemoteSession} (uid : String)
    (d : Dispatcher Nat) (firstStops : ((call :: calls).filterMap stops).Nodup) (fresh : Fresh (call :: calls) ss) :
    Fresh calls ((call.direct uid ss).run d).1.2 := by
  intro i later s' found
  rcases running : s'.stopped
  · rfl
  · rcases stopped_direct uid call ss d found running with now | ⟨s, before, stopped⟩
    -- the call stopped session i, which a later call stops once more
    · rw [List.filterMap_cons, now] at firstStops
      exact absurd later (List.nodup_cons.1 firstStops).1
    · have earlier : i ∈ (call :: calls).filterMap stops :=
        ((List.sublist_cons_self call calls).filterMap stops).subset later
      simp [fresh i earlier s before] at stopped

theorem runDirect_cons (uid : String) (call : ClientCall) (calls : List ClientCall) (ss : List RemoteSession)
    (d : Dispatcher Nat) :
    (runDirect uid (call :: calls) ss).run d =
      (((call.direct uid ss).run d).1.1 :: ((runDirect uid calls ((call.direct uid ss).run d).1.2).run
          ((call.direct uid ss).run d).2).1,
        ((runDirect uid calls ((call.direct uid ss).run d).1.2).run ((call.direct uid ss).run d).2).2) := rfl

theorem runRemote_cons (svc : Service Broker) (call : ClientCall) (calls : List ClientCall) (ss : List RemoteSession)
    (s : Network Broker × RemoteClient) :
    (runRemote svc (call :: calls) ss).run s =
      ((((call.remote svc ss).run s).1.1 :: ((runRemote svc calls ((call.remote svc ss).run s).1.2).run
          ((call.remote svc ss).run s).2).1),
        ((runRemote svc calls ((call.remote svc ss).run s).1.2).run ((call.remote svc ss).run s).2).2) := rfl

/-- By induction on the calls, the client linked and later calls' sessions still running. -/
theorem runRemote_mirrors (peer : String) (calls : List ClientCall) (ss : List RemoteSession)
    (linked : Linked n c conn) (firstStops : (calls.filterMap stops).Nodup) (fresh : Fresh calls ss)
    (small : ∀ call ∈ calls, call.load c.uid + 56 ≤ Frame.maxData)
    (carried : ∀ r ∈ ((runDirect c.uid calls ss).run n.service.dispatcher).1, r.carried = true) :
    ((runRemote (Broker.service peer) calls ss).run (n, c)).1 =
        ((runDirect c.uid calls ss).run n.service.dispatcher).1.map Returned.result ∧
      ((runRemote (Broker.service peer) calls ss).run (n, c)).2.1.service.dispatcher =
        ((runDirect c.uid calls ss).run n.service.dispatcher).2 := by
  induction calls generalizing ss n c with
  | nil => exact ⟨rfl, rfl⟩
  | cons call calls ih =>
    rw [runDirect_cons] at carried ⊢
    obtain ⟨n', c', step, linked', sameUid, dispatched⟩ := remote_step peer linked call ss
      (small call List.mem_cons_self) fresh.head (carried _ List.mem_cons_self)
    have rest := ih _ linked' (List.Nodup.sublist ((List.sublist_cons_self call calls).filterMap stops) firstStops)
      (fresh.step c.uid n.service.dispatcher firstStops) (sameUid ▸ fun call mem => small call (List.mem_cons_of_mem _ mem))
      (by rw [sameUid, dispatched]; exact fun r mem => carried r (List.mem_cons_of_mem _ mem))
    rw [sameUid, dispatched] at rest
    rw [runRemote_cons, step]
    exact ⟨by simp only [rest.1, List.map_cons], rest.2⟩

/-- Each call returns what its operation returns in process, as seen across the wire, and the
server's dispatcher ends where the one in process ends, when no session is stopped twice, every
request fits a frame and every answer a message. -/
theorem runRemote_refines (peer : String) (linked : Linked n c conn) (calls : List ClientCall)
    (firstStops : (calls.filterMap stops).Nodup) (small : ∀ call ∈ calls, call.load c.uid + 56 ≤ Frame.maxData)
    (carried : ∀ r ∈ ((runDirect c.uid calls []).run n.service.dispatcher).1, r.carried = true) :
    ((runRemote (Broker.service peer) calls []).run (n, c)).1 =
        ((runDirect c.uid calls []).run n.service.dispatcher).1.map Returned.result ∧
      ((runRemote (Broker.service peer) calls []).run (n, c)).2.1.service.dispatcher =
        ((runDirect c.uid calls []).run n.service.dispatcher).2 :=
  runRemote_mirrors peer calls [] linked firstStops (fresh_nil calls) small carried

/-- One client dialed to a broker over the echo plugin, the connection accepted. -/
def echoNetwork : Network Broker :=
  { family := .unix, dir := {}, server := { family := .unix, workers := 1, conns := [{ id := 1, link := 1 }] },
    service := Broker.ofLoader {} .binary Dispatcher.echoLoader, links := [(1, {})],
    clients := [("c", { family := .unix, conns := [{ serial := 1, endpoint := "e", link := some 1 }] })] }

def echoClient : RemoteClient := { transport := "c", format := .binary, uid := "u" }

/-- A start, a direct request, an option written and read, a call on a missing session, a stop. -/
def echoCalls : List ClientCall :=
  [start 7 ⟨"echo", 1⟩ none, sync 0 (some { payload := some [1, 2] }), setOption 0 1 (some [4]), getOption 0 1 none,
    sync 1 none, stop 0 none]

theorem echoNetwork_wired :
    echoNetwork.Wired "c" { family := .unix, conns := [{ serial := 1, endpoint := "e", link := some 1 }] }
      { serial := 1, endpoint := "e", link := some 1 } 1 1 [] [] where
  peer := rfl
  link := ⟨_, rfl, rfl, rfl, rfl, rfl⟩
  clients := rfl
  conns := rfl
  dialed := rfl
  reading := rfl
  running := rfl
  quiet := rfl
  server := rfl
  workers := by decide

theorem echoNetwork_linked : Linked echoNetwork echoClient 1 where
  wired := ⟨_, _, 1, echoNetwork_wired, rfl⟩
  binary := rfl
  clientBinary := rfl
  unheard := rfl
  noReplies := rfl
  unlistened := rfl

theorem echoCalls_refine :
    Linked echoNetwork echoClient 1 ∧ (echoCalls.filterMap stops).Nodup ∧
      (∀ call ∈ echoCalls, call.load echoClient.uid + 56 ≤ Frame.maxData) ∧
      (∀ r ∈ ((runDirect echoClient.uid echoCalls []).run echoNetwork.service.dispatcher).1, r.carried = true) ∧
      ((runRemote (Broker.service "peer") echoCalls []).run (echoNetwork, echoClient)).1 =
          ((runDirect echoClient.uid echoCalls []).run echoNetwork.service.dispatcher).1.map Returned.result ∧
        ((runRemote (Broker.service "peer") echoCalls []).run (echoNetwork, echoClient)).2.1.service.dispatcher =
          ((runDirect echoClient.uid echoCalls []).run echoNetwork.service.dispatcher).2 := by
  have firstStops : (echoCalls.filterMap stops).Nodup := by decide
  have small : ∀ call ∈ echoCalls, call.load echoClient.uid + 56 ≤ Frame.maxData := by decide
  have carried : ∀ r ∈ ((runDirect echoClient.uid echoCalls []).run echoNetwork.service.dispatcher).1,
      r.carried = true := by decide +kernel
  exact ⟨echoNetwork_linked, firstStops, small, carried,
    runRemote_refines "peer" echoNetwork_linked echoCalls firstStops small carried⟩

end ClientCall

end InferenceBroker
