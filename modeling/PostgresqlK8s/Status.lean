/-!
# Status

Juju statuses, of a unit or of an application.  The charm reads its own
status back: whether the unit is blocked and what the message says decide
what several handlers do.
-/

namespace PostgresqlK8s

/-- The names of a Juju status. -/
inductive StatusName
  | active
  | blocked
  | maintenance
  | waiting
  | unknown
deriving DecidableEq, Repr

/-- A status: its name and its message. -/
structure Status where
  name : StatusName
  message : String
deriving DecidableEq, Repr

namespace Status

/-- `ActiveStatus(message)`. -/
def active (message : String := "") : Status := ⟨.active, message⟩

/-- `BlockedStatus(message)`. -/
def blocked (message : String) : Status := ⟨.blocked, message⟩

/-- `MaintenanceStatus(message)`. -/
def maintenance (message : String) : Status := ⟨.maintenance, message⟩

/-- `WaitingStatus(message)`. -/
def waiting (message : String) : Status := ⟨.waiting, message⟩

/-- The status of a unit that has not set one yet. -/
def unknown : Status := ⟨.unknown, ""⟩

/-- `isinstance(status, BlockedStatus)`. -/
def isBlocked (s : Status) : Bool := s.name == .blocked

/-- `isinstance(status, WaitingStatus)`. -/
def isWaiting (s : Status) : Bool := s.name == .waiting

end Status

end PostgresqlK8s
