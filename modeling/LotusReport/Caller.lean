import Mathlib.Data.List.Basic

/-!
# Caller context

The identity under which every request enters the service.
-/

namespace LotusReport

/-- Origin category of a request. -/
inductive TriggerType where
  | user
  | system
deriving DecidableEq, Repr

/-- `ReportCallerContext`. -/
structure ReportCallerContext where
  triggerType : TriggerType := .user
  triggeredBy : String
  callerApplication : String
  tenantId : String
  region : String
  bookingCenterCode : Option String := none
  role : Option String := none
  correlationId : String
  traceId : String
deriving DecidableEq, Repr

end LotusReport
