import InferenceBroker.Host.Directory

/-!
# Socket addresses

A broker is reached on a unix socket (a path relative to the working directory) or a TCP
`host:port`. This decides what binding and dialing do before a connection exists, failing
with the socket calls' texts. A unix path of 108 bytes or more does not fit; binding needs
the parent directory, dialing a listener (a plain file refuses). A TCP address needs a port
up to 65535; binding succeeds (0 picks a port), and loopback TCP is not routed where the broker
runs, so every TCP dial fails with `network is unreachable`.
-/

namespace InferenceBroker

inductive Family where
  | unix
  | tcp
  deriving DecidableEq, Repr, Inhabited

namespace Family

def name : Family → String
  | .unix => "unix"
  | .tcp => "tcp"

def ofName? : String → Option Family
  | "unix" => some .unix
  | "tcp" => some .tcp
  | _ => none

/-- The name as server logs and failures capitalise it. -/
def title : Family → String
  | .unix => "Unix"
  | .tcp => "TCP"

end Family

namespace Address

def pathLimit : Nat := 108

/-- Whether a unix socket's directory exists; absolute paths are outside and taken to exist. -/
def parentExists (dir : Directory) (path : String) : Bool :=
  match Directory.resolve path with
  | none => true
  | some names =>
    let parent := names.dropLast
    parent.isEmpty || dir.isDirectory parent

/-- The failure of `bind` or `connect` on a path the path itself rules out. -/
def unixFault (dir : Directory) (op path : String) : Option String :=
  if path.utf8ByteSize ≥ pathLimit then some s!"{op}: invalid argument"
  else if !parentExists dir path then some s!"{op}: no such file or directory"
  else none

/-- Host and port, split at the last colon; brackets dropped. -/
def splitHostPort (addr : String) : Except String (String × String) :=
  let missing := s!"address {addr}: missing port in address"
  match addr.splitOn ":" with
  | [] | [_] => .error missing
  | parts =>
    let port := parts.getLast?.getD ""
    let host := ":".intercalate parts.dropLast
    if host.startsWith "[" then
      if host.endsWith "]" then .ok (String.ofList ((host.toList.drop 1).dropLast), port)
      else .error s!"address {addr}: missing ']' in address"
    else if parts.length > 2 then .error s!"address {addr}: too many colons in address"
    else .ok (host, port)

/-- Digits up to 65535, the empty text 0; other texts name services, none known. -/
def portOf (port : String) : Except String Nat :=
  if port.isEmpty then .ok 0
  else if port.all Char.isDigit then
    match port.toNat? with
    | some n => if n ≤ 65535 then .ok n else .error s!"address {port}: invalid port"
    | none => .error s!"address {port}: invalid port"
  else .error s!"lookup tcp/{port}: unknown port"

/-- The empty host, `localhost` and IPv4 literals need no lookup. -/
def hostOf (host : String) : Except String String :=
  let isOctet := fun (s : String) => !s.isEmpty && s.length ≤ 3 && s.all Char.isDigit &&
    (s.toNat?.getD 256) ≤ 255
  if host.isEmpty || host == "localhost" then .ok "127.0.0.1"
  else if (host.splitOn ".").length == 4 && (host.splitOn ".").all isOctet then .ok host
  else if host.contains ':' then .ok ("[" ++ host ++ "]")
  else .error s!"lookup {host}: no such host"

def tcpTarget (addr : String) : Except String (String × Nat) := do
  let (host, port) ← splitHostPort addr
  let n ← portOf port
  let h ← hostOf host
  return (h, n)

end Address

end InferenceBroker
