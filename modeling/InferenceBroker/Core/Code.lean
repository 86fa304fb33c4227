/-!
# Status codes

A status code is one octet. Seven of them have names; every other value is written
`code(N)`. Names are what the text encodings of a message carry, and `ofName?` reads back
exactly the seven named codes (`ofName?_name`).
-/

namespace InferenceBroker

/-- The outcome class of an operation, one octet on the wire. -/
structure Code where
  val : UInt8
deriving DecidableEq, Repr, Inhabited

namespace Code

/-- No error. -/
def ok : Code := ⟨0⟩
/-- The caller passed something malformed or unknown. -/
def invalidArgument : Code := ⟨1⟩
/-- The addressed engine, plugin, future or listener does not exist. -/
def notFound : Code := ⟨2⟩
/-- A queue, pool or table is full. -/
def resourceExhausted : Code := ⟨3⟩
/-- A plugin or the runtime failed to perform the operation. -/
def operationFailed : Code := ⟨4⟩
/-- The request does not fit the plugin configuration. -/
def configurationError : Code := ⟨5⟩
/-- The caller gave up waiting. -/
def deadlineExceeded : Code := ⟨6⟩

instance : BEq Code := ⟨fun a b => a.val == b.val⟩

instance : LawfulBEq Code where
  eq_of_beq {a b} h := by
    cases a; cases b
    simp only [BEq.beq] at h
    simp only [Code.mk.injEq]
    exact eq_of_beq h
  rfl {a} := by cases a; simp [BEq.beq]

/-- The seven named codes, in numeric order. -/
def named : List (Code × String) :=
  [(ok, "ok"), (invalidArgument, "invalid-argument"), (notFound, "not-found"),
   (resourceExhausted, "resource-exhausted"), (operationFailed, "operation-failed"),
   (configurationError, "configuration-error"), (deadlineExceeded, "deadline-exceeded")]

/-- The text of a code: its name, or `code(N)` for an unnamed value. -/
def name (c : Code) : String :=
  match named.lookup c with
  | some s => s
  | none => s!"code({c.val.toNat})"

/-- The named code with this text. -/
def ofName? (s : String) : Option Code :=
  (named.find? fun p => p.2 == s).map Prod.fst

theorem ofName?_name (c : Code) (h : c.val.toNat ≤ 6) : ofName? c.name = some c := by
  obtain ⟨v⟩ := c
  have hv : v.toNat < 7 := by simpa using Nat.lt_succ_of_le h
  have : v = UInt8.ofNat v.toNat := by simp
  rw [this]
  generalize v.toNat = n at hv
  match n, hv with
  | 0, _ | 1, _ | 2, _ | 3, _ | 4, _ | 5, _ | 6, _ => decide

end Code

end InferenceBroker
