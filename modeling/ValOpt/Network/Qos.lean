import ValOpt.System.Call

/-!
# QoS policy

`network/qos.rs`: the policy is only queried and removed; it is never registered any more.
-/

namespace ValOpt

open Effect

/-- `DEFAULT_VALORANT_QOS_POLICY_NAME`. -/
def defaultValorantQosPolicyName : String := "VALORANT_QoS_Optimized"

/-- `validate_policy_name`. -/
def validatePolicyName (name : String) : Except String Unit :=
  if name = "" ∨ 128 < name.utf8ByteSize then
    .error "QoS policy name must be between 1 and 128 characters"
  else match name.toList.find? fun c => !(c.isAlphanum || c == '_' || c == '-') with
    | some c => .error s!"Invalid character '{c}' in QoS policy name: {name}"
    | none => .ok ()

/-- `query_qos_policy`: the name of the policy when it is registered.  A query that prints nothing
counts as no policy. -/
def queryQosPolicy (policyName : String) : Prog (Except String (Option String)) := do
  match validatePolicyName policyName with
  | .error e => return .error e
  | .ok () =>
    match ← readMachine .queryQosPolicy fun m => some (decide (policyName ∈ m.qosPolicies)) with
    | .error e => return .error s!"Failed to query QoS policy: {e}"
    | .ok present => return .ok (if present then some policyName else none)

/-- `restore_nla_setting`. -/
def restoreNlaSetting (previousSetting : Option String) : Prog (Except String Unit) := do
  match previousSetting with
  | some val =>
    if val.toList.all Char.isAlphanum then
      let _ ← writeMachine .setNla fun m => some { m with nlaSetting := some val }
      return .ok ()
    else return .error "Invalid NLA setting value"
  | none => return .ok ()

/-- `unregister_qos_policy`: a policy that was there before the optimizer is kept. -/
def unregisterQosPolicy (backup : QosPolicyBackup) : Prog (Except String Unit) := do
  match validatePolicyName backup.policyName with
  | .error e => return .error e
  | .ok () =>
    if backup.wasPolicyPresentBefore then
      restoreNlaSetting backup.previousNlaSetting
    else
      let _ ← writeMachine .removeQosPolicy fun m =>
        some { m with qosPolicies := m.qosPolicies.filter (· ≠ backup.policyName) }
      restoreNlaSetting backup.previousNlaSetting

end ValOpt
