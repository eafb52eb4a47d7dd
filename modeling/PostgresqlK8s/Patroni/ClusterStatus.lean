import PostgresqlK8s.Lib.Text

/-!
# Patroni.ClusterStatus

The members of a cluster as Patroni reports them, when they are ready, and the unit
that a label stands for.
-/

namespace PostgresqlK8s.Patroni

/-- A member of the cluster, as Patroni reports it. -/
structure MemberStatus where
  name : String
  role : String
  state : String
deriving DecidableEq, Repr

/-- `STARTED_STATES`. -/
def startedStates : List String := ["running", "streaming"]

/-- `are_all_members_ready`, of the status it reads; no status is a
`RetryError`. -/
def areAllMembersReady : Option (List MemberStatus) → Bool
  | none => false
  | some members =>
    members.all (fun member => startedStates.contains member.state) &&
      members.any fun member => ["leader", "standby_leader"].contains member.role

/-- `label2name`; nothing where there is no `-`. -/
def label2name (label : String) : Option String :=
  (Text.rsplitOnce '-' label).map fun parts => parts.1 ++ "/" ++ parts.2

/-- What follows the last `-` is the number of the unit. -/
theorem label2name_append {app number : String} (h : '-' ∉ number.toList) :
    label2name (app ++ String.singleton '-' ++ number) = some (app ++ "/" ++ number) := by
  rw [label2name, Text.rsplitOnce_append h]
  rfl

end PostgresqlK8s.Patroni
