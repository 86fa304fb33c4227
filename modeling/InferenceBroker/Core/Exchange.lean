import InferenceBroker.Core.Bytes
import InferenceBroker.Core.Failure

/-!
# Requests and responses

A request carries a payload to an engine; a response carries back the result or a coded
failure. A payload that is absent differs from an empty one: encodings keep the
difference where they can, so both are `Option Bytes`.
-/

namespace InferenceBroker

/-- One inference request of a transaction. -/
structure Request where
  requestId : UInt64 := 0
  operationId : Int32 := 0
  transactionId : UInt64 := 0
  algorithmType : Int32 := 0
  clientUid : Bytes := []
  payload : Option Bytes := none
deriving DecidableEq, Repr, Inhabited

/-- The answer to a request: a result, or a code with a description. -/
structure Response where
  requestId : UInt64 := 0
  transactionId : UInt64 := 0
  retCode : Code := Code.ok
  retDesc : Bytes := []
  result : Option Bytes := none
deriving DecidableEq, Repr, Inhabited

/-- Text of a byte string, with invalid UTF-8 sequences replaced. -/
def Bytes.text (bs : Bytes) : String :=
  match Bytes.utf8? bs with
  | some s => s
  | none => String.ofList (decodeLossy bs)
where
  /-- Decodes UTF-8, one replacement character for each byte that starts no valid
  sequence. -/
  decodeLossy : List UInt8 → List Char
    | [] => []
    | b :: rest =>
      if b.toNat < 0x80 then Char.ofNat b.toNat :: decodeLossy rest
      else
        let need := if b.toNat ≥ 0xF0 ∧ b.toNat < 0xF5 then 3
          else if b.toNat ≥ 0xE0 ∧ b.toNat < 0xF0 then 2
          else if b.toNat ≥ 0xC2 ∧ b.toNat < 0xE0 then 1 else 0
        let seq := b :: rest.take need
        match (if need = 0 then none else Bytes.utf8? seq) with
        | some s => s.toList ++ decodeLossy (rest.drop need)
        | none => '�' :: decodeLossy rest
  termination_by bs => bs.length
  decreasing_by all_goals (simp only [List.length_drop, List.length_cons]; omega)

namespace Response

/-- A successful response to `req` with `result`. -/
def success (req : Request) (result : Option Bytes) : Response :=
  { requestId := req.requestId, transactionId := req.transactionId, result }

/-- A response to `req` reporting `err`; no failure gives an empty success. -/
def failure (req : Request) (err : Option Failure) : Response :=
  { requestId := req.requestId, transactionId := req.transactionId,
    retCode := Failure.codeOf err,
    retDesc := match err with
      | some f => Bytes.ofString f.message
      | none => [] }

/-- The failure a response reports: none when its code is `ok`. -/
def failure? (r : Response) : Option Failure :=
  if r.retCode == Code.ok then none else some (.status r.retCode r.retDesc.text)

end Response

end InferenceBroker
