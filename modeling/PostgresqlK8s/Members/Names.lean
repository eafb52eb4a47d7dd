import PostgresqlK8s.Lib.Decimal
import Mathlib.Data.List.Basic
import Mathlib.Tactic.Common

/-!
# Members.Names

The names a unit goes by: the name of its pod, under which Patroni knows it,
and its hostname, which is in the list of endpoints.  The hostname is built
from what stands after the last `-` of the pod name.
-/

namespace PostgresqlK8s.Members

/-- `_unit_name_to_pod_name`, of the unit `app/u`. -/
def unitNameToPodName (app : String) (u : Nat) : String := app ++ "-" ++ toString u

/-- `member.split("-")[-1]`. -/
def unitId (member : String) : String :=
  String.ofList ((member.toList.splitOnP (· == '-')).getLast (List.splitOnP_ne_nil _ _))

/-- `_get_hostname_from_unit`. -/
def getHostnameFromUnit (app member : String) : String :=
  app ++ "-" ++ unitId member ++ "." ++ app ++ "-endpoints"

/-- The endpoint of a unit. -/
def endpoint (app : String) (u : Nat) : String :=
  getHostnameFromUnit app (unitNameToPodName app u)

/-- The number of a unit stands after the last `-` of its pod name. -/
theorem unitId_unitNameToPodName (app : String) (u : Nat) :
    unitId (unitNameToPodName app u) = toString u := by
  have hdash : "-".toList = ['-'] := by decide
  have hlist : (unitNameToPodName app u).toList = app.toList ++ '-' :: (toString u).toList := by
    simp only [unitNameToPodName, String.toList_append, hdash, List.append_assoc,
      List.cons_append, List.nil_append]
  have hdigits : ∀ c ∈ (toString u).toList, (c == '-') = false := by
    intro c hc
    have hne : c ≠ '-' := ne_of_mem_of_not_mem hc (Decimal.not_mem_toString rfl u)
    exact beq_eq_false_iff_ne.mpr hne
  have hsplit : (unitNameToPodName app u).toList.splitOnP (· == '-') =
      app.toList.splitOnP (· == '-') ++ [(toString u).toList] := by
    rw [hlist, List.splitOnP_append_cons _ _ (by rfl), List.splitOnP_eq_singleton hdigits]
  simp only [unitId, hsplit, List.getLast_append_singleton, String.ofList_toList]

/-- The endpoint of the unit `u` is `app-u.app-endpoints`. -/
theorem endpoint_eq (app : String) (u : Nat) :
    endpoint app u = app ++ "-" ++ toString u ++ "." ++ app ++ "-endpoints" := by
  rw [endpoint, getHostnameFromUnit, unitId_unitNameToPodName]

/-- Different units have different endpoints. -/
theorem endpoint_injective (app : String) : Function.Injective (endpoint app) := by
  intro u v h
  have hlist := congrArg String.toList h
  simp only [endpoint_eq, String.toList_append, List.append_assoc,
    List.append_cancel_left_eq] at hlist
  have hcancel : (toString u).toList = (toString v).toList := List.append_cancel_right hlist
  exact Decimal.toString_injective (String.toList_inj.mp hcancel)

/-- Different units have different pods. -/
theorem unitNameToPodName_injective (app : String) :
    Function.Injective (unitNameToPodName app) := by
  intro u v h
  refine endpoint_injective app ?_
  rw [endpoint, endpoint, h]

end PostgresqlK8s.Members
