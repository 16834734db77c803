import NonblockingSocket.Dialogue

/-!
# Resolving a host name

- `resolveIpv4`: the first IPv4 address of a host.

A lookup that fails mostly means that the network is away for the moment. It is noted in the log and
is no failure of the operation.

This is `get_ipv4` of SPEC_FULL, section 4.1.
-/

namespace NonblockingSocket

variable {S : Type}

/-- The first IPv4 address of a host; the unspecified address if there is none. -/
def resolveIpv4 (verbosity : Verbosity) (host : String) : Dialogue S Ipv4 := do
  if host.isEmpty then
    .log verbosity .info "Failed getaddrinfo for empty hostname"
    return .unspecified
  match ← .ask (.lookupHost host) with
  | .ok addresses =>
    match addresses.findSome? IpAddress.v4? with
    | some ip => return ip
    | none =>
      .log verbosity .info s!"Could not locate DNS entry for {host}"
      return .unspecified
  | .error error =>
    .log verbosity .info s!"Failed getaddrinfo for {host}: {error.text}"
    return .unspecified

end NonblockingSocket
