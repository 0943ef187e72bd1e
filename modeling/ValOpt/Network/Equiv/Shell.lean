import ValOpt.Network.Shell

/-!
# What the network layer may start

The commands of a session, a list of calls of the network layer, come from a fixed list of command
lines, whatever the calls are given and whatever the commands print (`session_commands`): no text
from outside reaches a script, and what reaches the environment consists of harmless characters.
The texts that are read back are no exception: the keyword of a property that a query printed is
checked before it is used.
-/

namespace ValOpt.Shell

open Effect Text

/-! ### Sessions -/

/-- The calls of the network layer. -/
inductive NetworkCall where
  | queryAdapterProperties (adapterName : String)
  | queryProperty (adapterName keyword : String)
  | setAdapterProperty (adapterName keyword value : String)
  | queryAdapterLinkStatus (adapterName : String)
  | optimizeAdapterLatencyProperties (adapterName : String)
  | restoreAdapterProperties (backups : List AdapterPropertyBackup)
  | queryQosPolicy (policyName : String)
  | unregisterQosPolicy (backup : QosPolicyBackup)
  | queryFlowControl (adapterName : String)
  | disableFlowControl (adapterName : String)
  | queryGlobalTcpRss
  | verifyRss (adapterName : String)
  | enableRss (adapterName : String)

variable {F : Type} (w : Wire F) (t : CaseTable)

/-- A call, but for its result. -/
def NetworkCall.program : NetworkCall → Shell Unit
  | .queryAdapterProperties adapterName =>
      Shell.queryAdapterProperties w adapterName >>= fun _ => pure ()
  | .queryProperty adapterName keyword =>
      Shell.queryProperty w adapterName keyword >>= fun _ => pure ()
  | .setAdapterProperty adapterName keyword value =>
    Shell.setAdapterProperty adapterName keyword value >>= fun _ => pure ()
  | .queryAdapterLinkStatus adapterName =>
      Shell.queryAdapterLinkStatus adapterName >>= fun _ => pure ()
  | .optimizeAdapterLatencyProperties adapterName =>
    Shell.optimizeAdapterLatencyProperties w adapterName >>= fun _ => pure ()
  | .restoreAdapterProperties backups => Shell.restoreAdapterProperties backups >>= fun _ => pure ()
  | .queryQosPolicy policyName => Shell.queryQosPolicy w policyName >>= fun _ => pure ()
  | .unregisterQosPolicy backup => Shell.unregisterQosPolicy backup >>= fun _ => pure ()
  | .queryFlowControl adapterName => Shell.queryFlowControl w adapterName >>= fun _ => pure ()
  | .disableFlowControl adapterName => Shell.disableFlowControl w adapterName >>= fun _ => pure ()
  | .queryGlobalTcpRss => Shell.queryGlobalTcpRss t >>= fun _ => pure ()
  | .verifyRss adapterName => Shell.verifyRss w t adapterName >>= fun _ => pure ()
  | .enableRss adapterName => Shell.enableRss adapterName >>= fun _ => pure ()

/-- Calls one after the other. -/
def session : List NetworkCall → Shell Unit
  | [] => pure ()
  | call :: calls => do
    call.program w t
    session calls

/-! ### Commands -/

/-- The scripts and command lines that only look. -/
def looks : List (String × List String) :=
  ([queryScript, statusScript, queryPolicyScript, rssQueryScript].map fun script =>
    ("powershell", (powershell script []).args)) ++ [("netsh", ["int", "tcp", "show", "global"])]

/-- Those that change something after a check for elevation. -/
def privileged : List (String × List String) :=
  ([setScript, enableRssScript].map fun script => ("powershell", (powershell script []).args)) ++
    [("netsh", ["int", "tcp", "set", "global", "rss=enabled"])]

/-- Those that change something without one. -/
def unchecked : List (String × List String) :=
  [removePolicyScript, setNlaScript].map fun script => ("powershell", (powershell script []).args)

/-- A command of one of these lines, with texts in its environment that are harmless. -/
structure Harmless (lines : List (String × List String)) (command : Command) : Prop where
  line : (command.program, command.args) ∈ lines
  env : ∀ v ∈ command.env, v.1 ∈ ["VAL_OPT_ADAPTER", "VAL_OPT_KEYWORD", "VAL_OPT_VALUE",
    "VAL_OPT_POLICY_NAME", "VAL_OPT_NLA_VAL"] ∧ v.2.toList.all isIdentifierChar = true

/-- A question that starts no command but such ones. -/
def Within (lines : List (String × List String)) : ShellQuestion → Prop
  | .spawn command => Harmless lines command
  | .elevation => True

/-- Any answer. -/
def anyAnswer : (q : ShellQuestion) → ShellAnswer q → Prop := fun _ _ => True

/-- The check for elevation fails. -/
def notElevated : (q : ShellQuestion) → ShellAnswer q → Prop
  | .spawn _, _ => True
  | .elevation, answer => answer = false

/-! ### Checked texts -/

theorem all_of_find? {p : Char → Bool} {s : List Char} (h : (s.find? fun c => !p c) = none) :
    s.all p = true := by
  rw [List.find?_eq_none] at h
  rw [List.all_eq_true]
  intro c hc
  simpa using h c hc

theorem harmless_of_identifier {s : String} (h : validateAdapterIdentifier s = .ok ()) :
    s.toList.all isIdentifierChar = true := by
  rw [validateAdapterIdentifier] at h
  split at h
  · cases h
  · split at h
    · cases h
    · next hnone => exact all_of_find? hnone

theorem harmless_of_all {p : Char → Bool} {s : List Char} (hp : ∀ c, p c → isIdentifierChar c)
    (h : s.all p = true) : s.all isIdentifierChar = true := by
  rw [List.all_eq_true] at h ⊢
  exact fun c hc => hp c (h c hc)

theorem harmless_of_value {s : String} (h : validatePropertyValue s = .ok ()) :
    s.toList.all isIdentifierChar = true := by
  rw [validatePropertyValue] at h
  split at h
  · cases h
  · split at h
    · cases h
    · next hnone =>
      apply harmless_of_all _ (all_of_find? hnone)
      intro c hc
      simp only [isValueChar, isIdentifierChar, Bool.or_eq_true] at hc ⊢
      tauto

theorem harmless_of_policy {s : String} (h : validatePolicyName s = .ok ()) :
    s.toList.all isIdentifierChar = true := by
  rw [validatePolicyName] at h
  split at h
  · cases h
  · split at h
    · cases h
    · next hnone =>
      apply harmless_of_all _ (all_of_find? hnone)
      intro c hc
      simp only [isIdentifierChar, Bool.or_eq_true] at hc ⊢
      tauto

theorem of_validateAdapterSet {adapterName keyword value : String}
    (h : validateAdapterSet adapterName keyword value = .ok ()) :
    validateAdapterIdentifier adapterName = .ok () ∧ validateAdapterIdentifier keyword = .ok () ∧
      validatePropertyValue value = .ok () := by
  obtain ⟨_, hadapter, h⟩ := bind_eq_ok h
  obtain ⟨_, hkeyword, h⟩ := bind_eq_ok h
  exact ⟨hadapter, hkeyword, h⟩

/-! ### What the calls ask -/

/-- The lines that may be asked for if the answers are such: the privileged ones need a check for
elevation that succeeds. -/
structure Permits (R : (q : ShellQuestion) → ShellAnswer q → Prop)
    (lines : List (String × List String)) : Prop where
  looks : looks ⊆ lines
  privileged : R .elevation true → privileged ⊆ lines

section Asks

variable {R : (q : ShellQuestion) → ShellAnswer q → Prop} {lines : List (String × List String)}
  {β : Type}

theorem asks_spawn {command : Command} {f : Except String Output → Shell β}
    (hcommand : Harmless lines command) (hf : ∀ r, (f r).Asks R (Within lines)) :
    (spawn command >>= f).Asks R (Within lines) :=
  Dialogue.asks_ask hcommand fun r _ => hf r

theorem asks_isElevationAvailable {f : Bool → Shell β}
    (hf : ∀ b, R .elevation b → (f b).Asks R (Within lines)) :
    (isElevationAvailable >>= f).Asks R (Within lines) :=
  Dialogue.asks_ask trivial hf

/-- A script whose line is permitted, with one variable. -/
theorem harmless_one {script name value : String}
    (hline : ("powershell", (powershell script []).args) ∈ lines)
    (hname : name ∈ ["VAL_OPT_ADAPTER", "VAL_OPT_KEYWORD", "VAL_OPT_VALUE", "VAL_OPT_POLICY_NAME",
      "VAL_OPT_NLA_VAL"]) (hvalue : value.toList.all isIdentifierChar = true) :
    Harmless lines (powershell script [(name, value)]) := by
  refine ⟨hline, ?_⟩
  intro v hv
  rw [List.mem_singleton.mp hv]
  exact ⟨hname, hvalue⟩

variable (hlooks : looks ⊆ lines)
include hlooks

theorem asks_queryAdapterProperties (adapterName : String) :
    (Shell.queryAdapterProperties w adapterName).Asks R (Within lines) := by
  rw [Shell.queryAdapterProperties]
  split
  · exact Dialogue.asks_done _
  · next hvalid =>
    apply asks_spawn (harmless_one (hlooks (by simp [looks])) (by simp)
      (harmless_of_identifier hvalid))
    rintro (_ | output)
    · exact Dialogue.asks_done _
    · dsimp only
      repeat' split
      all_goals exact Dialogue.asks_done _

theorem asks_queryProperty (adapterName keyword : String) :
    (Shell.queryProperty w adapterName keyword).Asks R (Within lines) := by
  rw [Shell.queryProperty]
  split
  · exact Dialogue.asks_done _
  · exact Dialogue.asks_done _
  · apply (asks_queryAdapterProperties w hlooks adapterName).bind
    intro r
    split <;> exact Dialogue.asks_done _

theorem asks_queryAdapterLinkStatus (adapterName : String) :
    (Shell.queryAdapterLinkStatus adapterName).Asks R (Within lines) := by
  rw [Shell.queryAdapterLinkStatus]
  split
  · exact Dialogue.asks_done _
  · next hvalid =>
    apply asks_spawn (harmless_one (hlooks (by simp [looks])) (by simp)
      (harmless_of_identifier hvalid))
    rintro (_ | output)
    · exact Dialogue.asks_done _
    · dsimp only
      repeat' split
      all_goals exact Dialogue.asks_done _

theorem asks_queryQosPolicy (policyName : String) :
    (Shell.queryQosPolicy w policyName).Asks R (Within lines) := by
  rw [Shell.queryQosPolicy]
  split
  · exact Dialogue.asks_done _
  · next hvalid =>
    apply asks_spawn (harmless_one (hlooks (by simp [looks])) (by simp)
      (harmless_of_policy hvalid))
    rintro (_ | output)
    · exact Dialogue.asks_done _
    · dsimp only
      repeat' split
      all_goals exact Dialogue.asks_done _

theorem asks_queryFlowControl (adapterName : String) :
    (Shell.queryFlowControl w adapterName).Asks R (Within lines) := by
  apply (asks_queryProperty w hlooks adapterName _).bind
  intro r
  repeat' split
  all_goals exact Dialogue.asks_done _

omit hlooks in
/-- Without variables there is nothing to check. -/
theorem harmless_netsh {args : List String} (hline : ("netsh", args) ∈ lines) :
    Harmless lines ⟨"netsh", args, []⟩ := ⟨hline, fun _ hv => absurd hv List.not_mem_nil⟩

theorem asks_queryGlobalTcpRss : (Shell.queryGlobalTcpRss t).Asks R (Within lines) := by
  apply asks_spawn (harmless_netsh (hlooks (by simp [looks])))
  intro r
  split <;> exact Dialogue.asks_done _

theorem asks_rssProperties (adapterName : String) :
    (Shell.rssProperties w adapterName).Asks R (Within lines) :=
  (asks_queryProperty w hlooks adapterName _).bind fun _ =>
    (asks_queryProperty w hlooks adapterName _).bind fun _ => Dialogue.asks_done _

theorem asks_adapterRss (adapterName : String) (output : Output) :
    (Shell.adapterRss w adapterName output).Asks R (Within lines) := by
  rw [Shell.adapterRss]
  split
  · dsimp only
    split <;> exact Dialogue.asks_done _
  · exact asks_rssProperties w hlooks adapterName

theorem asks_verifyRss (adapterName : String) :
    (Shell.verifyRss w t adapterName).Asks R (Within lines) := by
  rw [Shell.verifyRss]
  split
  · exact Dialogue.asks_done _
  · next hvalid =>
    apply asks_spawn (harmless_one (hlooks (by simp [looks])) (by simp)
      (harmless_of_identifier hvalid))
    rintro (_ | output)
    · exact Dialogue.asks_done _
    · apply (asks_adapterRss w hlooks adapterName output).bind
      rintro ⟨enabled, queues⟩
      exact (asks_queryGlobalTcpRss t hlooks).bind fun _ => Dialogue.asks_done _

omit hlooks
variable (h : Permits R lines)
include h

theorem asks_setAdapterProperty (adapterName keyword value : String) :
    (Shell.setAdapterProperty adapterName keyword value).Asks R (Within lines) := by
  rw [Shell.setAdapterProperty]
  split
  · exact Dialogue.asks_done _
  · next hvalid =>
    obtain ⟨hadapter, hkeyword, hvalue⟩ := of_validateAdapterSet hvalid
    apply asks_isElevationAvailable
    rintro (_ | _) helevated
    · exact Dialogue.asks_done _
    · refine asks_spawn ⟨h.privileged helevated (by simp [privileged, powershell]), ?_⟩ fun r => ?_
      · simp only [powershell, List.forall_mem_cons, List.not_mem_nil, IsEmpty.forall_iff,
          implies_true, and_true]
        exact ⟨⟨by simp, harmless_of_identifier hadapter⟩,
          ⟨by simp, harmless_of_identifier hkeyword⟩,
          by simp, harmless_of_value hvalue⟩
      · repeat' split
        all_goals exact Dialogue.asks_done _

/-- The keywords that a query printed are checked once more. -/
theorem asks_optimizeKeywords (adapterName : String) (props : List NicAdvancedProperty)
    (keywords : List String) :
    (Shell.optimizeKeywords adapterName props keywords).Asks R (Within lines) := by
  induction keywords with
  | nil => exact Dialogue.asks_done _
  | cons keyword keywords ih =>
    rw [Shell.optimizeKeywords]
    split
    · exact ih
    · dsimp only
      split
      · apply (asks_setAdapterProperty h _ _ _).bind
        intro r
        split
        · exact Dialogue.asks_done _
        · apply ih.bind
          intro r
          split <;> exact Dialogue.asks_done _
      · exact ih

theorem asks_optimizeAdapterLatencyProperties (adapterName : String) :
    (Shell.optimizeAdapterLatencyProperties w adapterName).Asks R (Within lines) := by
  apply (asks_queryAdapterProperties w h.looks adapterName).bind
  intro r
  split
  · exact Dialogue.asks_done _
  · apply (asks_queryAdapterLinkStatus h.looks adapterName).bind
    intro _
    apply (asks_optimizeKeywords h adapterName _ _).bind
    intro r
    split
    · exact Dialogue.asks_done _
    · apply (asks_optimizeKeywords h adapterName _ _).bind
      intro r
      split
      · exact Dialogue.asks_done _
      · exact (asks_queryAdapterLinkStatus h.looks adapterName).bind fun _ => Dialogue.asks_done _

theorem asks_restoreProperties (backups : List AdapterPropertyBackup) :
    (Shell.restoreProperties backups).Asks R (Within lines) := by
  induction backups with
  | nil => exact Dialogue.asks_done _
  | cons backup backups ih => exact (asks_setAdapterProperty h _ _ _).bind fun _ => ih

theorem asks_disableFlowControl (adapterName : String) :
    (Shell.disableFlowControl w adapterName).Asks R (Within lines) := by
  apply (asks_queryProperty w h.looks adapterName _).bind
  rintro (_ | _ | p)
  · exact Dialogue.asks_done _
  · exact Dialogue.asks_done _
  · dsimp only
    split
    · apply (asks_setAdapterProperty h _ _ _).bind
      intro r
      split <;> exact Dialogue.asks_done _
    · exact Dialogue.asks_done _

theorem asks_enableRss (adapterName : String) :
    (Shell.enableRss adapterName).Asks R (Within lines) := by
  rw [Shell.enableRss]
  split
  · exact Dialogue.asks_done _
  · next hvalid =>
    apply asks_isElevationAvailable
    rintro (_ | _) helevated
    · exact Dialogue.asks_done _
    · have hpermitted := h.privileged helevated
      apply asks_spawn (harmless_one (hpermitted (by simp [privileged])) (by simp)
        (harmless_of_identifier hvalid))
      intro _
      apply asks_spawn (harmless_netsh (hpermitted (by simp [privileged])))
      intro r
      split <;> exact Dialogue.asks_done _

omit h
variable (hunchecked : unchecked ⊆ lines)
include hunchecked

theorem asks_restoreNlaSetting (previousSetting : Option String) :
    (Shell.restoreNlaSetting previousSetting).Asks R (Within lines) := by
  rcases previousSetting with _ | val
  · exact Dialogue.asks_done _
  · rw [Shell.restoreNlaSetting]
    split
    · next hval =>
      refine asks_spawn (harmless_one (hunchecked (by simp [unchecked])) (by simp) ?_) fun _ =>
        Dialogue.asks_done _
      apply harmless_of_all _ hval
      intro c hc
      simp [isIdentifierChar, hc]
    · exact Dialogue.asks_done _

theorem asks_unregisterQosPolicy (backup : QosPolicyBackup) :
    (Shell.unregisterQosPolicy backup).Asks R (Within lines) := by
  rw [Shell.unregisterQosPolicy]
  split
  · exact Dialogue.asks_done _
  · next hvalid =>
    split
    · exact asks_restoreNlaSetting hunchecked _
    · exact asks_spawn (harmless_one (hunchecked (by simp [unchecked])) (by simp)
        (harmless_of_policy hvalid)) fun _ => asks_restoreNlaSetting hunchecked _

omit hunchecked

/-! ### Sessions -/

/-- The calls that only look. -/
def NetworkCall.isQuery : NetworkCall → Bool
  | .queryAdapterProperties _ | .queryProperty _ _ | .queryAdapterLinkStatus _ | .queryQosPolicy _
  | .queryFlowControl _ | .queryGlobalTcpRss | .verifyRss _ => true
  | _ => false

theorem asks_query (hlooks : looks ⊆ lines) {call : NetworkCall} (hquery : call.isQuery = true) :
    (call.program w t).Asks R (Within lines) := by
  have hdone {β : Type} (_ : β) : (pure () : Shell Unit).Asks R (Within lines) :=
    Dialogue.asks_done _
  cases call
  case queryAdapterProperties a => exact (asks_queryAdapterProperties w hlooks a).bind hdone
  case queryProperty a k => exact (asks_queryProperty w hlooks a k).bind hdone
  case queryAdapterLinkStatus a => exact (asks_queryAdapterLinkStatus hlooks a).bind hdone
  case queryQosPolicy name => exact (asks_queryQosPolicy w hlooks name).bind hdone
  case queryFlowControl a => exact (asks_queryFlowControl w hlooks a).bind hdone
  case queryGlobalTcpRss => exact (asks_queryGlobalTcpRss t hlooks).bind hdone
  case verifyRss a => exact (asks_verifyRss w t hlooks a).bind hdone
  all_goals cases hquery

theorem asks_program (h : Permits R lines) (hunchecked : unchecked ⊆ lines) (call : NetworkCall) :
    (call.program w t).Asks R (Within lines) := by
  have hdone {β : Type} (_ : β) : (pure () : Shell Unit).Asks R (Within lines) :=
    Dialogue.asks_done _
  by_cases hquery : call.isQuery = true
  · exact asks_query w t h.looks hquery
  · cases call
    case setAdapterProperty a k v => exact (asks_setAdapterProperty h a k v).bind hdone
    case optimizeAdapterLatencyProperties a =>
      exact (asks_optimizeAdapterLatencyProperties w h a).bind hdone
    case restoreAdapterProperties backups =>
      exact ((asks_restoreProperties h backups).bind fun _ => Dialogue.asks_done _).bind hdone
    case unregisterQosPolicy backup =>
      exact (asks_unregisterQosPolicy hunchecked backup).bind hdone
    case disableFlowControl a => exact (asks_disableFlowControl w h a).bind hdone
    case enableRss a => exact (asks_enableRss h a).bind hdone
    all_goals exact absurd rfl hquery

theorem asks_session {calls : List NetworkCall}
    (hcalls : ∀ call ∈ calls, (call.program w t).Asks R (Within lines)) :
    (session w t calls).Asks R (Within lines) := by
  induction calls with
  | nil => exact Dialogue.asks_done _
  | cons call calls ih =>
    obtain ⟨hcall, hcalls⟩ := List.forall_mem_cons.mp hcalls
    exact hcall.bind fun _ => ih hcalls

end Asks

/-- **What a session may start**: commands of the fixed lines with harmless variables; none of the
privileged ones unless the process is elevated; and none that changes anything if all calls are
queries. -/
theorem session_commands (calls : List NetworkCall) :
    (session w t calls).Asks anyAnswer (Within (looks ++ privileged ++ unchecked)) ∧
    (session w t calls).Asks notElevated (Within (looks ++ unchecked)) ∧
    ((∀ call ∈ calls, call.isQuery = true) →
      (session w t calls).Asks anyAnswer (Within looks)) := by
  refine ⟨?_, ?_, ?_⟩
  · apply asks_session
    intro call _
    apply asks_program
    · exact ⟨fun l hl => by simp [hl], fun _ l hl => by simp [hl]⟩
    · exact fun l hl => by simp [hl]
  · apply asks_session
    intro call _
    apply asks_program
    · exact ⟨fun l hl => by simp [hl], fun helevated => absurd helevated (by simp [notElevated])⟩
    · exact fun l hl => by simp [hl]
  · intro hqueries
    apply asks_session
    intro call hcall
    exact asks_query w t (fun l hl => hl) (hqueries call hcall)

end ValOpt.Shell
