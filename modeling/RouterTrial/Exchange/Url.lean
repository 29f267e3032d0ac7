import RouterTrial.Number.Integer
import RouterTrial.Text.Case
import RouterTrial.Text.Split

/-!
# Web addresses

The parts of an address that an exchange needs: whether it is secure, the host and socket to connect
to, and the target to ask for. Spaces and control characters around an address are dropped, and
characters that may not stand in a target are written by their octets.
-/

namespace RouterTrial

/-- An address on the web. -/
structure Url where
  secure : Bool
  host : String
  /-- The number of the socket at the host. -/
  socket : Nat
  /-- The path, with the query if there is one. -/
  target : String
  deriving Repr, DecidableEq

namespace Url

/-! ### Targets -/

/-- The character `c` is written by its octets in a path. -/
def isEscaped (c : Char) : Bool :=
  c.toNat ≤ 0x20 || 0x7F ≤ c.toNat || ['"', '#', '<', '>', '?', '`', '\x7b', '\x7d'].contains c

/-- The octets of the character `c`, each in two hexadecimal digits behind a percent sign. -/
def escape (c : Char) : List Char :=
  (String.singleton c).toUTF8.toList.flatMap fun b =>
    ['%', (Nat.digitChar (b.toNat / 16)).toUpper, (Nat.digitChar (b.toNat % 16)).toUpper]

/-- The characters `cs` of a part of a target, those that need it escaped. -/
def escapeAll (cs : List Char) : List Char :=
  cs.flatMap fun c => if isEscaped c then escape c else [c]

/-- The target of what stands behind the host, `cs`, without the part behind a number sign. -/
def targetOf (cs : List Char) : String :=
  let asked := cs.takeWhile (· != '#')
  let path := (asked.takeWhile (· != '?')).map fun c => if c = '\\' then '/' else c
  let query := (asked.dropWhile (· != '?')).drop 1
  let query := if query.isEmpty then [] else '?' :: escapeAll query
  String.ofList ((if path.isEmpty then ['/'] else escapeAll path) ++ query)

/-! ### Hosts -/

/-- The character `c` cannot stand in the name of a host. -/
def isForbidden (c : Char) : Bool :=
  c.toNat ≤ 0x20 || c.toNat = 0x7F || "#/:<>?@[\\]^|%".toList.contains c

/-- The largest number of a socket. -/
def maxSocket : Nat := 65535

/-- The socket of the `digits` behind a host; the `usual` one if there are none. -/
def socket? (usual : Nat) (digits : List Char) : Option Nat :=
  if digits.isEmpty then some usual
  else (Number.natural? digits).filter (· ≤ maxSocket)

/-- The host and the socket of the authority `cs`. A numeric address of the longer kind is in
brackets. -/
def authority? (usual : Nat) (cs : List Char) : Option (String × Nat) :=
  match cs with
  | '[' :: inner =>
    (Text.cut ']' inner).bind fun parts =>
      match parts.2 with
      | [] => some (String.ofList parts.1, usual)
      | ':' :: digits => (socket? usual digits).map (String.ofList parts.1, ·)
      | _ => none
  | cs =>
    let host := cs.takeWhile (· != ':')
    let digits := (cs.dropWhile (· != ':')).drop 1
    if host.isEmpty || host.any isForbidden then none
    else (socket? usual digits).map (String.ofList (host.map Text.lowerChar), ·)

/-! ### Addresses -/

/-- The character `c` is a slash of either kind. -/
def isSlash (c : Char) : Bool := c == '/' || c == '\\'

/-- The authority `cs` without the name of a user before it. -/
def dropUser (cs : List Char) : List Char := (cs.reverse.takeWhile (· != '@')).reverse

/-- The address that `text` writes, if it is one on the web. -/
def ofText? (text : String) : Option Url :=
  let visible := Text.dropEndWhile (·.toNat ≤ 0x20) (text.toList.dropWhile (·.toNat ≤ 0x20))
  (Text.cut ':' (visible.filter fun c => !(['\t', '\n', '\r'].contains c))).bind fun parts =>
    let scheme := String.ofList (parts.1.map Text.lowerChar)
    if scheme ≠ "http" ∧ scheme ≠ "https" then none
    else
      let secure := scheme == "https"
      let rest := parts.2.dropWhile isSlash
      let authority := rest.takeWhile fun c => !(isSlash c || c == '?' || c == '#')
      (authority? (if secure then 443 else 80) (dropUser authority)).map fun place =>
        ⟨secure, place.1, place.2, targetOf (rest.drop authority.length)⟩

end Url

end RouterTrial
