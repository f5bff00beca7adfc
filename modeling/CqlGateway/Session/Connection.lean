import CqlGateway.Session.Outcome
import CqlGateway.Settings
import CqlGateway.Value.Basic

/-!
# Connections

What is needed to open a connection to the store.  Contact points and port may be given; the
settings say what is not given, and everything else.
-/

namespace CqlGateway

/-- The parameters of a connection. -/
structure Connection where
  contactPoints : List String
  port : Int
  /-- A name and a password, if the store asks for them. -/
  credentials? : Option (String × String)
  protocolVersion : Int
  connectTimeout : Int
  deriving DecidableEq, Repr

namespace Connection

/-- The connection that the settings describe, but for what is given.  An empty list of contact
points and the port 0 count as not given, and credentials need a name and a password. -/
def ofSettings (s : Settings) (contactPoints : List String) (port : Int) : Connection where
  contactPoints := if contactPoints.isEmpty then s.contactPoints else contactPoints
  port := if port == 0 then s.port else port
  credentials? :=
    if s.username.isEmpty || s.password.isEmpty then none else some (s.username, s.password)
  protocolVersion := s.protocolVersion
  connectTimeout := s.connectTimeout

/-- Opens a connection, which the store may refuse. -/
def establish (c : Connection) (refusal? : Option Fault) : Outcome Unit :=
  let points := Value.list (c.contactPoints.map .text)
  { result := match refusal? with
      | none => .ok ()
      | some f => .error (.fault f)
    events := [.connecting points.quotedText] }

end Connection

end CqlGateway
