import InferenceBroker.Proofs.Server.Disconnect
import InferenceBroker.Proofs.Dispatch.Routing
import InferenceBroker.Proofs.Message.Failures
import InferenceBroker.Server.Serve

/-!
# The broker as a service of binary requests

A broker that speaks the binary format reads a request of a valid type whose byte strings fit
back from its image whole, answers it, and writes the image of its answer (`handle_image`).
While no connection listens for a transaction, the dispatcher's work after the answer pushes
nothing: the broker's service answers at once, with no pushes, and leaves the dispatcher
settled (`service_answer`).

Each request a client's session sends reaches the dispatcher operation of its type with the
arguments the client put in: `answer_start`, `answer_stop`, `answer_syncExecute`,
`answer_asyncExecute`, `answer_setOption`, `answer_getOption`.

An image is at most 56 bytes longer than the byte strings it carries (`Binary.length_image_le`),
which is how a request is known to fit a frame.
-/

namespace InferenceBroker

namespace Binary

/-- The image of a message of a valid type whose byte strings fit reads back as the message,
into any message. -/
theorem decodeInto_image {m : Message} (valid : m.kind.valid = true) (fits : Fits m) (into : Message) :
    decodeInto (m.kind.val :: UInt8.ofNat (flagWord (fields m) / 256 % 256) :: UInt8.ofNat (flagWord (fields m) % 256) ::
      (fields m).flatMap Field.written) into = (m, none) := by
  -- the flag word has one bit per field, so its two bytes carry it whole
  have small : flagWord (fields m) < 2 ^ 16 := by
    rw [flagWord_eq_bitsValue]
    exact Nat.lt_of_lt_of_le (bitsValue_lt _) (by simp [fields])
  have kind : MessageType.valid ⟨m.kind.val⟩ = true := valid
  simp only [decodeInto, kind, if_true]
  rw [flag_bytes _ small, flagWord_eq_bitsValue, readFields_written fits]
  rfl

theorem decode_image {m : Message} {bs : Bytes} (valid : m.kind.valid = true) (fits : Fits m)
    (encoded : encode m = .ok bs) : Format.binary.decode bs = .ok m := by
  rw [encode_valid valid] at encoded
  cases encoded
  simp [Format.decode, Format.decodeInto, decodeInto_image valid fits]

theorem length_flatMap_written_le (fs : List Field) :
    (fs.flatMap Field.written).length ≤ (fs.flatMap (·.image)).length := by
  induction fs with
  | nil => rfl
  | cons f fs ih =>
    have one : f.written.length ≤ f.image.length := by
      unfold Field.written
      split <;> simp
    simp only [List.flatMap_cons, List.length_append]
    omega

theorem length_image_le {m : Message} {bs : Bytes} (encoded : encode m = .ok bs) :
    bs.length ≤ 56 + m.algorithmId.length + m.clientUid.length + (m.value.getD []).length + m.err.length := by
  by_cases valid : m.kind.valid = true
  · rw [encode_valid valid] at encoded
    cases encoded
    have written := length_flatMap_written_le (fields m)
    simp [fields, lengthPrefixed] at written ⊢
    omega
  · rw [encode_invalid (by simpa using valid)] at encoded
    cases encoded

end Binary

namespace Broker

variable {b : Broker} {conn : Nat}

/-- A request of a valid type whose byte strings fit, on the call channel of a broker speaking the
binary format, is read back whole and answered with the image of the broker's answer to it. -/
theorem handle_image {m : Message} {bs out : Bytes} (binary : b.format = .binary) (valid : m.kind.valid = true)
    (fits : Binary.Fits m) (encoded : Binary.encode m = .ok bs) (answered : Binary.encode ((answer conn m).run b).1 = .ok out) :
    (handle conn Frame.callChannel.toNat bs).run b = (out, ((answer conn m).run b).2) := by
  have decoded : b.format.decode bs = .ok m := binary ▸ Binary.decode_image valid fits encoded
  have written : b.format.encode ((answer conn m).run b).1 = .ok out := by
    rw [binary]
    exact answered
  have call : (Frame.callChannel.toNat != callChannel) = false := by decide
  simp only [handle, run_bind, run_get, call, Bool.false_eq_true, if_false, decoded, written]
  rfl

theorem run_pushes_nil (b : Broker) : (pushes []).run b = ([], b) := rfl

/-- While no connection listens and no reply waits, the dispatcher's work pushes nothing; the
broker keeps everything but the dispatcher, which has settled. -/
theorem quiesce_unheard (unheard : b.dispatcher.futures.listeners = []) (noReplies : b.dispatcher.replies = []) :
    b.quiesce = ([], { b with dispatcher := (Dispatcher.settle.run b.dispatcher).2 }) := by
  obtain ⟨-, same⟩ := (Dispatcher.routing_settle b.dispatcher).silent unheard
  have taken : Dispatcher.takeReplies.run (Dispatcher.settle.run b.dispatcher).2 =
      ([], (Dispatcher.settle.run b.dispatcher).2) := by
    generalize (Dispatcher.settle.run b.dispatcher).2 = d at same
    rw [noReplies] at same
    cases d
    cases same
    rfl
  simp [quiesce, taken, run_pushes_nil]

/-- The broker's service answers a binary request at once with the image of the broker's answer;
when no connection listens and no reply waits once the answer is given, it pushes nothing and
leaves the broker as the answer left it, with the dispatcher settled. -/
theorem service_answer (peer : String) {m : Message} {bs out : Bytes} (binary : b.format = .binary)
    (valid : m.kind.valid = true) (fits : Binary.Fits m) (encoded : Binary.encode m = .ok bs)
    (answered : Binary.encode ((answer conn m).run b).1 = .ok out)
    (unheard : ((answer conn m).run b).2.dispatcher.futures.listeners = [])
    (noReplies : ((answer conn m).run b).2.dispatcher.replies = []) :
    (service peer).answer conn Frame.callChannel bs b =
      (.reply out, [], { ((answer conn m).run b).2 with
        dispatcher := (Dispatcher.settle.run ((answer conn m).run b).2.dispatcher).2 }) := by
  simp only [service, handle_image binary valid fits encoded answered, quiesce_unheard unheard noReplies]

/-! ## The requests of a session

Each request reaches the dispatcher operation of its type with the fields the client wrote; the
broker's answer carries the operation's outcome, and the broker keeps its format. -/

@[simp] theorem request_executeRequest (kind : MessageType) (r : Request) : (Message.executeRequest kind r).request = r := by
  cases r
  rfl

theorem answer_start (tx : UInt64) (key : EngineKey) (uid : Bytes) (input : Option Bytes) :
    ((answer conn (Message.startEngineRequest tx key uid input)).run b).1 =
      (match ((Dispatcher.start tx key input).run b.dispatcher).1 with
        | some (.started out) => Message.startEngineResponse out none
        | some (.failed e) => Message.startEngineResponse none (some e)
        | _ => Message.startEngineResponse none none) ∧
    ((answer conn (Message.startEngineRequest tx key uid input)).run b).2.dispatcher =
      ((Dispatcher.start tx key input).run b.dispatcher).2 ∧
    ((answer conn (Message.startEngineRequest tx key uid input)).run b).2.format = b.format := by
  -- the algorithm travels as its UTF-8 bytes and reads back as the same key
  have named : (Message.startEngineRequest tx key uid input).key = key := by
    simp [Message.key, Message.startEngineRequest]
  have kind : (Message.startEngineRequest tx key uid input).kind.val.toNat = 3 := rfl
  simp only [answer, named, kind]
  rw [run_bind, run_lift]
  simp only [Message.startEngineRequest]
  rcases ((Dispatcher.start tx key input).run b.dispatcher).1 with _ | (out | _ | e) <;> exact ⟨rfl, rfl, rfl⟩

theorem answer_stop (tx : UInt64) (input : Option Bytes) :
    ((answer conn (Message.stopEngineRequest tx input)).run b).1 =
      (match ((Dispatcher.stop tx input).run b.dispatcher).1 with
        | some (.failed e) => Message.stopEngineResponse (some e)
        | _ => Message.stopEngineResponse none) ∧
    ((answer conn (Message.stopEngineRequest tx input)).run b).2.dispatcher = ((Dispatcher.stop tx input).run b.dispatcher).2 ∧
    ((answer conn (Message.stopEngineRequest tx input)).run b).2.format = b.format := by
  have kind : (Message.stopEngineRequest tx input).kind.val.toNat = 4 := rfl
  simp only [answer, kind]
  rw [run_bind, run_lift]
  simp only [Message.stopEngineRequest]
  rcases ((Dispatcher.stop tx input).run b.dispatcher).1 with _ | (out | _ | e) <;> exact ⟨rfl, rfl, rfl⟩

theorem answer_syncExecute (r : Request) :
    ((answer conn (Message.syncExecuteRequest r)).run b).1 =
      (match ((Dispatcher.syncExecute (some r)).run b.dispatcher).1 with
        | .ok resp => Message.syncExecuteResponse resp none
        | .error e => Message.syncExecuteResponse none (some e)) ∧
    ((answer conn (Message.syncExecuteRequest r)).run b).2.dispatcher =
      ((Dispatcher.syncExecute (some r)).run b.dispatcher).2 ∧
    ((answer conn (Message.syncExecuteRequest r)).run b).2.format = b.format := by
  have kind : (Message.syncExecuteRequest r).kind.val.toNat = 5 := rfl
  simp only [answer, kind]
  rw [run_bind, run_lift]
  simp only [Message.syncExecuteRequest, request_executeRequest]
  rcases ((Dispatcher.syncExecute (some r)).run b.dispatcher).1 with e | resp <;> exact ⟨rfl, rfl, rfl⟩

theorem answer_asyncExecute (r : Request) :
    ((answer conn (Message.asyncExecuteRequest r)).run b).1 =
      (match ((Dispatcher.asyncExecute (some r)).run b.dispatcher).1 with
        | .ok (seq, _) => Message.asyncExecuteResponse (UInt64.ofNat seq) none
        | .error e => Message.asyncExecuteResponse 0 (some e)) ∧
    ((answer conn (Message.asyncExecuteRequest r)).run b).2.dispatcher =
      ((Dispatcher.asyncExecute (some r)).run b.dispatcher).2 ∧
    ((answer conn (Message.asyncExecuteRequest r)).run b).2.format = b.format := by
  have kind : (Message.asyncExecuteRequest r).kind.val.toNat = 6 := rfl
  simp only [answer, kind]
  rw [run_bind, run_lift]
  simp only [Message.asyncExecuteRequest, request_executeRequest]
  rcases ((Dispatcher.asyncExecute (some r)).run b.dispatcher).1 with e | ⟨seq, sent⟩ <;> exact ⟨rfl, rfl, rfl⟩

theorem answer_setOption (tx : UInt64) (t : Int32) (value : Option Bytes) :
    ((answer conn (Message.setOptionRequest tx t value)).run b).1 =
      (match ((Dispatcher.setOption tx t value).run b.dispatcher).1 with
        | .ok () => Message.setOptionResponse none
        | .error e => Message.setOptionResponse (some e)) ∧
    ((answer conn (Message.setOptionRequest tx t value)).run b).2.dispatcher =
      ((Dispatcher.setOption tx t value).run b.dispatcher).2 ∧
    ((answer conn (Message.setOptionRequest tx t value)).run b).2.format = b.format := by
  have kind : (Message.setOptionRequest tx t value).kind.val.toNat = 8 := rfl
  simp only [answer, kind]
  rw [run_bind, run_lift]
  simp only [Message.setOptionRequest]
  rcases ((Dispatcher.setOption tx t value).run b.dispatcher).1 with e | ⟨⟩ <;> exact ⟨rfl, rfl, rfl⟩

/-- A read of an option reaches the dispatcher without the input the client sent with it. -/
theorem answer_getOption (tx : UInt64) (t : Int32) (input : Option Bytes) :
    ((answer conn (Message.getOptionRequest tx t input)).run b).1 =
      (match ((Dispatcher.getOption tx t).run b.dispatcher).1 with
        | .ok v => Message.getOptionResponse v none
        | .error e => Message.getOptionResponse none (some e)) ∧
    ((answer conn (Message.getOptionRequest tx t input)).run b).2.dispatcher =
      ((Dispatcher.getOption tx t).run b.dispatcher).2 ∧
    ((answer conn (Message.getOptionRequest tx t input)).run b).2.format = b.format := by
  have kind : (Message.getOptionRequest tx t input).kind.val.toNat = 9 := rfl
  simp only [answer, kind]
  rw [run_bind, run_lift]
  simp only [Message.getOptionRequest]
  rcases ((Dispatcher.getOption tx t).run b.dispatcher).1 with e | v <;> exact ⟨rfl, rfl, rfl⟩

end Broker

end InferenceBroker
