/-
# Sessions

A verifier and a clock that go on through several deliveries, with the headers
that were signed on the way, each under a name. Nothing but these three is
kept: what a delivery is answered does not depend on the deliveries before it.

Key definitions: `Session`, `Session.start`, `Session.sign`, `Session.relabel`,
`Session.signed?`.
-/
import SignedHooks.Signer

namespace SignedHooks

/-- A verifier and a clock, and the headers that were signed. -/
structure Session where
  /-- The verifier. -/
  verifier : Verifier
  /-- What the clock says. -/
  now : Instant
  /-- The headers under their names, those signed last first. -/
  signed : List (String × SignedHeaders)

namespace Session

/-- A session with the default tolerance and nothing signed. -/
def start (secret : String) (now : Instant) : Session :=
  ⟨.ofSecret secret, now, []⟩

/-- The clock goes on by some milliseconds, or back. -/
def advance (s : Session) (millis : Int) : Session :=
  { s with now := s.now.advance millis }

/-- The clock is set. -/
def setClock (s : Session) (now : Instant) : Session :=
  { s with now := now }

/-- A new verifier takes over, with the default tolerance. -/
def renew (s : Session) (secret : String) : Session :=
  { s with verifier := .ofSecret secret }

/-- The tolerance is set. -/
def setTolerance (s : Session) (millis : Int) : Session :=
  { s with verifier := { s.verifier with tolerance := millis } }

/-- Headers are stored under a name, in place of those that were. -/
def store (s : Session) (name : String) (headers : SignedHeaders) : Session :=
  { s with signed := (name, headers) :: s.signed }

/-- The headers under a name. -/
def signed? (s : Session) (name : String) : Option SignedHeaders :=
  (s.signed.find? fun e => e.1 == name).map (·.2)

/-- A body is signed, with the secret of the verifier unless there is another,
and with the time of the clock unless there is another. -/
def sign (s : Session) (secret : Option String) (millis : Option Int) (body : String) :
    SignedHeaders :=
  let signer : Signer := ⟨secret.getD s.verifier.secret⟩
  match millis with
  | some t => signer.signAt t body
  | none => signer.sign s.now body

/-- The headers under a name get other labels. -/
def relabel (s : Session) (name : String) (eventType callId : Option String) : Session :=
  match s.signed? name with
  | some headers => s.store name (headers.label eventType callId)
  | none => s

end Session
end SignedHooks
