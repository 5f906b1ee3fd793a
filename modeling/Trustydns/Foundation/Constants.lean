import Mathlib.Init

/-! # System-wide constants

The values of `constants.Get()` that the modelled code reads, and the `net/http` methods and
status codes it uses. The headers the programs read by name (`Age`, `X-trustydns-Synth`) are
fields of the request and response structures that carry them, so their names are not needed;
`Content-Type` is, for the text of the handler's rejection.
-/

namespace Trustydns.Constants

def Rfc8484AcceptValue : String := "application/dns-message"

def ContentTypeHeader : String := "Content-Type"

def Rfc8484QueryParam : String := "dns"

def MinimumViableDNSMessage : Nat := 16

def DNSTruncateThreshold : Nat := 512

def MaximumViableDNSMessage : Nat := 65535

def Rfc8467ClientPadModulo : Nat := 128

def Rfc8467ServerPadModulo : Nat := 468

def DNSUDPTransport : String := "udp"

end Trustydns.Constants

namespace Trustydns.Http

def MethodGet : String := "GET"

def MethodPost : String := "POST"

def StatusOK : Nat := 200

def StatusBadRequest : Nat := 400

def StatusMethodNotAllowed : Nat := 405

def StatusUnsupportedMediaType : Nat := 415

def StatusServiceUnavailable : Nat := 503

end Trustydns.Http
