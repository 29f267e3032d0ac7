import RouterTrial.CommandLine
import RouterTrial.Exchange.Framing
import Std.Async.DNS
import Std.Async.Select
import Std.Async.Signal
import Std.Async.TCP
import Std.Async.Timer

/-!
# The program

The command line in its real surroundings: exchanges over a network, the clock of the machine, its
source of randomness, and an onlooker who reads the log and may interrupt the program. Everything
that is decided is decided by `CommandLine.perform`.

Exchanges with secure addresses fail, since there is no encryption here.
-/

namespace RouterTrial.Main

open Std.Async

/-! ### Exchanges -/

/-- The socket with the number `socket` at an address. -/
def socketAddress (socket : Nat) : Std.Net.IPAddr → Std.Net.SocketAddress
  | .v4 address => .v4 ⟨address, UInt16.ofNat socket⟩
  | .v6 address => .v6 ⟨address, UInt16.ofNat socket⟩

/-- All octets that arrive at the `socket` before the connection closes, behind `octets`. -/
partial def receive (socket : TCP.Socket.Client) (octets : ByteArray) : Async ByteArray := do
  match ← socket.recv? 65536 with
  | none => return octets
  | some more => receive socket (octets ++ more)

/-- The answer to the request `r` to the address `u`, however long it takes. -/
def converse (r : Request) (u : Url) : Async Answer := do
  match (← DNS.getAddrInfo u.host "")[0]? with
  | none => return .failed
  | some address =>
    let socket ← TCP.Socket.Client.mk
    socket.connect (socketAddress u.socket address)
    socket.send (r.toOctets u)
    match Reply.ofOctets? (← receive socket .empty).toList with
    | none => return .failed
    | some reply => return .reply reply

instance : Inhabited Answer := ⟨.failed⟩

/-- The answer to the request `r`; a failed exchange if there is none in time. -/
def exchange (r : Request) : IO Answer := do
  match Url.ofText? r.url with
  | none => return .failed
  | some u =>
    if u.secure then return .failed
    try
      Async.block <| Async.race (converse r u) do
        sleep (.ofNat r.timeout)
        return .failed
    catch _ => return .failed

/-! ### Surroundings -/

/-- The word of the first four of `octets`. -/
def word (octets : List UInt8) : UInt32 :=
  (octets.take 4).foldr (fun b w => w <<< 8 ||| b.toUInt32) 0

/-- The row of the first sixteen of `octets`. -/
def row (octets : List UInt8) : Row :=
  ⟨word octets, word (octets.drop 4), word (octets.drop 8), word (octets.drop 12)⟩

/-- A keystream that nobody can foresee. -/
def entropy : IO Keystream := do
  let octets := (← IO.getRandomBytes 32).toList
  return .ofKey ⟨row octets, row (octets.drop 16)⟩

/-- Thirty-two random hexadecimal digits. -/
def token : IO String := do
  let octets := (← IO.getRandomBytes 16).toList
  return String.ofList (octets.flatMap fun b =>
    [Nat.digitChar (b.toNat / 16), Nat.digitChar (b.toNat % 16)])

/-- The instant of the clock. -/
def now : IO Instant := do
  let t := (← Std.Time.Timestamp.now).val
  return ⟨t.second.val, t.nano.val.toNat⟩

/-- The surroundings of the program, which is to stop once the `flag` is raised. -/
def host (flag : IO.Ref Bool) : Host IO where
  network := ⟨exchange⟩
  token := token
  wait duration := Async.block (sleep (.ofNat duration))
  isCancelled := flag.get
  now := now
  entropy := entropy

/-- The settings in the environment of the program, by the names in `Settings.names`. -/
def environment : IO Lookup := do
  let found ← Settings.names.mapM fun name => return (name, ← IO.getEnv name)
  return fun name => (found.lookup name).join

/-! ### Onlookers -/

/-- Prints the errors of `log`. -/
def tell (log : Log) : IO Unit :=
  (log.shown .error).forM fun line => IO.println line.render

/-- Raises the `flag` as soon as somebody interrupts the program. Later interrupts change
nothing. -/
def watchInterrupts (flag : IO.Ref Bool) : IO Unit := do
  try
    let waiter ← Signal.Waiter.mk .sigint true
    let interrupt ← waiter.wait
    let _ ← IO.mapTask (t := interrupt) fun
      | .ok _ => do
        tell [CommandLine.interruptLine]
        flag.set true
      | .error _ => waiter.stop
  catch _ => return

end RouterTrial.Main

/-- Runs a trial with the settings in the environment and prints the report on it, and the errors of
its log. -/
def main : IO UInt32 := do
  let flag ← IO.mkRef false
  RouterTrial.Main.watchInterrupts flag
  let ending ← RouterTrial.CommandLine.perform id (RouterTrial.Main.host flag)
    (← RouterTrial.Main.environment)
  RouterTrial.Main.tell ending.log
  IO.print ending.exit.stdout
  RouterTrial.Main.tell ending.closing
  IO.eprint ending.exit.stderr
  return UInt32.ofNat ending.exit.code
