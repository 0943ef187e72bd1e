import ValOpt.Models.Snapshot
import ValOpt.Text.Json

/-!
# The JSON of the records

The formats of the record types, as `serde_json` derives them: one member for each field, in the
order of the fields.  `transactionCodec` and `snapshotCodec` are the codecs of the two record files;
both are lawful.
-/

namespace ValOpt

open Text Text.Json

variable {D : List UInt8 → Prop} (l : Layout)

namespace Json

/-- A nullable string. -/
def optStr : Format UInt8 D (Option String) := opt str (starts_str.mono (by rintro _ rfl; rfl))

/-- A nullable `u32`. -/
def optU32 : Format UInt8 NoDigit (Option UInt32) := opt u32 (starts_u32.mono (by
  intro c hc
  by_contra hne
  simp only [beq_iff_eq, Bool.not_eq_false] at hne
  subst hne
  exact absurd hc (by decide)))

/-- A nullable boolean. -/
def optBool : Format UInt8 D (Option Bool) :=
  opt bool (starts_bool.mono (by rintro _ (rfl | rfl) <;> rfl))

def audioEndpointBackup (d : ℕ) : Format UInt8 D AudioEndpointBackup :=
  (object (.cons l d true "endpoint_id" str <| .cons l d false "endpoint_name" str <|
    .cons l d false "original_disabled_state" optU32 <| .nil l d)).refine
      (fun (id, name, state, _) => some ⟨id, name, state⟩)
      (fun b => (b.endpointId, b.endpointName, b.originalDisabledState, ())) fun _ => rfl

def adapterPropertyBackup (d : ℕ) : Format UInt8 D AdapterPropertyBackup :=
  (object (.cons l d true "adapter_name" str <| .cons l d false "keyword" str <|
    .cons l d false "display_name" str <| .cons l d false "original_value" str <|
    .nil l d)).refine
      (fun (adapter, keyword, display, value, _) => some ⟨adapter, keyword, display, value⟩)
      (fun b => (b.adapterName, b.keyword, b.displayName, b.originalValue, ())) fun _ => rfl

def qosPolicyBackup (d : ℕ) : Format UInt8 D QosPolicyBackup :=
  (object (.cons l d true "policy_name" str <| .cons l d false "previous_nla_setting" optStr <|
    .cons l d false "was_policy_present_before" bool <| .nil l d)).refine
      (fun (name, nla, present, _) => some ⟨name, nla, present⟩)
      (fun b => (b.policyName, b.previousNlaSetting, b.wasPolicyPresentBefore, ())) fun _ => rfl

def serviceBackup (d : ℕ) : Format UInt8 D ServiceBackup :=
  (object (.cons l d true "service_name" str <| .cons l d false "display_name" str <|
    .cons l d false "previous_state" u32 <| .cons l d false "was_paused_by_optimizer" bool <|
    .nil l d)).refine
      (fun (name, display, state, paused, _) => some ⟨name, display, state, paused⟩)
      (fun b => (b.serviceName, b.displayName, b.previousState, b.wasPausedByOptimizer, ()))
      fun _ => rfl

def terminatedAppBackup (d : ℕ) : Format UInt8 D TerminatedAppBackup :=
  (object (.cons l d true "name" str <| .cons l d false "executable_path" str <|
    .cons l d false "command_line" optStr <| .nil l d)).refine
      (fun (name, path, command, _) => some ⟨name, path, command⟩)
      (fun b => (b.name, b.executablePath, b.commandLine, ())) fun _ => rfl

def transactionMembers : Members (fun _ => True) (String × String × Option Bool × Option String ×
    List AudioEndpointBackup × List AdapterPropertyBackup × Option QosPolicyBackup × Bool × Unit) :=
  .cons l 0 true "transaction_id" str <| .cons l 0 false "timestamp_utc" str <|
  .cons l 0 false "previous_game_mode" optBool <|
  .cons l 0 false "previous_power_scheme" optStr <|
  .cons l 0 false "previous_audio_endpoints"
    (list l 1 (audioEndpointBackup l 2) fun _ => ⟨_, _, rfl, rfl⟩) <|
  .cons l 0 false "previous_adapter_properties"
    (list l 1 (adapterPropertyBackup l 2) fun _ => ⟨_, _, rfl, rfl⟩) <|
  .cons l 0 false "previous_qos_policy"
    (opt (qosPolicyBackup l 1) fun _ => ⟨_, _, rfl, rfl⟩) <|
  .cons l 0 false "is_applied" bool <| .nil l 0

def optimizationTransaction : Format UInt8 (fun _ => True) OptimizationTransaction :=
  (object (transactionMembers l)).refine
    (fun (id, time, gameMode, power, audio, adapter, qos, applied, _) =>
      some ⟨id, time, gameMode, power, audio, adapter, qos, applied⟩)
    (fun tx => (tx.transactionId, tx.timestampUtc, tx.previousGameMode, tx.previousPowerScheme,
      tx.previousAudioEndpoints, tx.previousAdapterProperties, tx.previousQosPolicy, tx.isApplied,
      ())) fun _ => rfl

def snapshotMembers : Members (fun _ => True) (String × UInt32 × String × String × String ×
    Option Bool × Option String × List AudioEndpointBackup × List AdapterPropertyBackup ×
    Option QosPolicyBackup × List ServiceBackup × List TerminatedAppBackup × Bool × Unit) :=
  .cons l 0 true "snapshot_id" str <| .cons l 0 false "version" u32 <|
  .cons l 0 false "timestamp_utc" str <| .cons l 0 false "sha256_hash" str <|
  .cons l 0 false "hmac_signature" str <| .cons l 0 false "previous_game_mode" optBool <|
  .cons l 0 false "previous_power_scheme" optStr <|
  .cons l 0 false "previous_audio_endpoints"
    (list l 1 (audioEndpointBackup l 2) fun _ => ⟨_, _, rfl, rfl⟩) <|
  .cons l 0 false "previous_adapter_properties"
    (list l 1 (adapterPropertyBackup l 2) fun _ => ⟨_, _, rfl, rfl⟩) <|
  .cons l 0 false "previous_qos_policy"
    (opt (qosPolicyBackup l 1) fun _ => ⟨_, _, rfl, rfl⟩) <|
  .cons l 0 false "paused_services" (list l 1 (serviceBackup l 2) fun _ => ⟨_, _, rfl, rfl⟩) <|
  .cons l 0 false "terminated_processes"
    (list l 1 (terminatedAppBackup l 2) fun _ => ⟨_, _, rfl, rfl⟩) <|
  .cons l 0 false "is_applied" bool <| .nil l 0

def systemStateSnapshot : Format UInt8 (fun _ => True) SystemStateSnapshot :=
  (object (snapshotMembers l)).refine
    (fun (id, version, time, hash, hmac, gameMode, power, audio, adapter, qos, services, apps,
      applied, _) => some ⟨id, version, time, hash, hmac, gameMode, power, audio, adapter, qos,
        services, apps, applied⟩)
    (fun s => (s.snapshotId, s.version, s.timestampUtc, s.sha256Hash, s.hmacSignature,
      s.previousGameMode, s.previousPowerScheme, s.previousAudioEndpoints,
      s.previousAdapterProperties, s.previousQosPolicy, s.pausedServices, s.terminatedProcesses,
      s.isApplied, ())) fun _ => rfl

/-- JSON white space. -/
def isBlank (c : UInt8) : Bool := c == 0x20 || c == 0x0A || c == 0x0D || c == 0x09

/-- The codec of a record type with the format `f`. -/
def codec {α : Type} (f : Layout → Format UInt8 (fun _ => True) α) : Codec α where
  toVec := (f .compact).print
  toStringPretty := (f .pretty).print
  fromStr b := match (f .pretty).read isBlank b with
    | some a => .ok a
    | none => .error (.serde "invalid record")

/-- A closed format makes a lawful codec. -/
theorem lawful_codec {α : Type} {f : Layout → Format UInt8 (fun _ => True) α}
    (hf : (f .pretty).Closed) : (codec f).Lawful where
  fromStr_toStringPretty := by
    intro a
    have hread := (f .pretty).read_print trivial isBlank a
    simp only [codec, hread]
  fromStr_take := by
    intro a n hn b
    simp only [codec, hf.read_take trivial isBlank a hn]
    exact nofun

end Json

/-- `serde_json` for transactions. -/
def transactionCodec : Codec OptimizationTransaction := Json.codec Json.optimizationTransaction

/-- `serde_json` for snapshots. -/
def snapshotCodec : Codec SystemStateSnapshot := Json.codec Json.systemStateSnapshot

theorem lawful_transactionCodec : transactionCodec.Lawful :=
  Json.lawful_codec ((closed_object _).refine _ _ _)

theorem lawful_snapshotCodec : snapshotCodec.Lawful :=
  Json.lawful_codec ((closed_object _).refine _ _ _)

/-- What reads as a snapshot starts with a brace. -/
theorem head_of_fromStr {b : Bytes} {s : SystemStateSnapshot}
    (h : snapshotCodec.fromStr b = .ok s) : b.head? = some 0x7B := by
  simp only [snapshotCodec, Json.codec] at h
  split at h
  · rename_i a hread
    obtain ⟨rest, hparse⟩ := Format.parse_of_read hread
    obtain ⟨p, hp⟩ := Format.parse_of_parse_refine hparse
    exact head_of_parse_object hp
  · cases h

end ValOpt
