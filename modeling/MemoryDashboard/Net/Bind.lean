import MemoryDashboard.Net.Address
/-!
# Binding a listener

Binding the dashboard's listener to its address fails when the text is no address, when its
port is no port, when its host cannot be found, when another program holds the port, or when
the address is not one of this machine's.

A socket address is bound as it is. Other text is split at its last colon into a host and a
port: a host written as an IP address is taken as it is, `localhost` stands for the loopback
addresses `::1` and `127.0.0.1`, tried in that order, and no other name can be looked up. Of
the addresses a host stands for, the first that binds is used; when none binds, the last
failure is reported.

The machine's addresses are the IPv4 loopback network `127.0.0.0/8`, the IPv6 loopback `::1`
and the unspecified addresses `0.0.0.0` and `::`. Other programs hold ports on `127.0.0.1`;
binding such a port conflicts there and on the unspecified addresses, which take in every
address. Port 0 asks for any free port and never conflicts.
-/

namespace MemoryDashboard

namespace Net

/-- The ports that other programs hold on `127.0.0.1`. -/
structure Network where
  heldPorts : List Nat := []
  deriving DecidableEq, Inhabited, Repr

/-- Why a listener could not be bound. -/
inductive BindError where
  | invalidAddress
  | invalidPort
  | nulInHost
  | lookupFailed
  | inUse
  | notLocal
  deriving DecidableEq, Inhabited, Repr

/-- The text a failure is reported with. -/
def BindError.message : BindError → String
  | .invalidAddress => "invalid socket address"
  | .invalidPort => "invalid port value"
  | .nulInHost => "file name contained an unexpected NUL byte"
  | .lookupFailed => "failed to lookup address information: Temporary failure in name resolution"
  | .inUse => "Address already in use (os error 98)"
  | .notLocal => "Cannot assign requested address (os error 99)"

/-- The IPv4 address `127.0.0.1`. -/
def loopbackV4 : IpAddr := .v4 [127, 0, 0, 1]

/-- The IPv6 address `::1`. -/
def loopbackV6 : IpAddr := .v6 [0, 0, 0, 0, 0, 0, 0, 1]

/-- Whether an address takes in every address of its family. -/
def IpAddr.isUnspecified : IpAddr → Bool
  | .v4 octets => octets.all (· = 0)
  | .v6 groups => groups.all (· = 0)

/-- Whether an address belongs to this machine. -/
def IpAddr.isLocal (ip : IpAddr) : Bool :=
  ip.isUnspecified || ip = loopbackV6 ||
    match ip with
    | .v4 (127 :: _) => true
    | _ => false

/-- Binds one socket address. -/
def Network.bindAddr (net : Network) (addr : SocketAddr) : Except BindError Unit :=
  if addr.port != 0 && net.heldPorts.contains addr.port &&
      (addr.ip = loopbackV4 || addr.ip.isUnspecified) then .error .inUse
  else if addr.ip.isLocal then .ok ()
  else .error .notLocal

/-- The addresses a host stands for. -/
def lookupHost (host : String) : Except BindError (List IpAddr) :=
  if host.toList.contains (Char.ofNat 0) then .error .nulInHost
  else
    match IpAddr.parse? host with
    | some ip => .ok [ip]
    | none => if host = "localhost" then .ok [loopbackV6, loopbackV4] else .error .lookupFailed

/-- Binds the first of some addresses that binds; the last failure when none does. -/
def Network.bindFirst (net : Network) (port : Nat) : List IpAddr → Except BindError Unit
  | [] => .error .invalidAddress
  | [ip] => net.bindAddr ⟨ip, port⟩
  | ip :: rest =>
    match net.bindAddr ⟨ip, port⟩ with
    | .ok () => .ok ()
    | .error _ => net.bindFirst port rest

/-- Binds a listener to the address a text gives. -/
def Network.bind (net : Network) (text : String) : Except BindError Unit :=
  match SocketAddr.parse? text with
  | some addr => net.bindAddr addr
  | none =>
    match splitHostPort? text with
    | none => .error .invalidAddress
    | some (host, portText) =>
      match portNumber? portText with
      | none => .error .invalidPort
      | some port => do
        let ips ← lookupHost host
        net.bindFirst port ips

end Net

end MemoryDashboard
