/-!
# Trust contexts

A trust context holds the root certificates of the system, and says what the
server of a TLS connection has to prove by them.
-/

namespace TunnelRelay.Trust

/-- What the server of a TLS connection has to prove. -/
structure Context where
  /-- The server presents a certificate that one of the roots vouches for. -/
  requiresCertificate : Bool
  /-- The certificate is one for the name that the client asks for. -/
  checksName : Bool
  deriving DecidableEq, Repr

/-- The context of a client, which asks for all proofs there are. -/
def Context.client : Context := { requiresCertificate := true, checksName := true }

end TunnelRelay.Trust
