import ValOpt.Text.Radix

/-!
# Transaction and snapshot records

The records that `val-opt-shared` stores to undo an optimisation: `OptimizationTransaction` for one
apply, `SystemStateSnapshot` for a captured baseline, with the signatures of the latter.

What the program takes from outside is gathered in `Platform`: SHA-256, the Windows data protection
calls and the two `serde_json` codecs.  `Platform.Lawful` lists what the code relies on: DPAPI
inverts itself and does not accept JSON text, a digest has its fixed length, and a codec reads back
what it wrote but no cut-off prefix of it.
-/

namespace ValOpt

abbrev Bytes := List UInt8

/-- Backup of one audio endpoint's `SysFx` value. -/
structure AudioEndpointBackup where
  endpointId : String
  endpointName : String
  originalDisabledState : Option UInt32
  deriving DecidableEq, Repr

/-- An advanced property of a network adapter. -/
structure NicAdvancedProperty where
  displayName : String
  registryKeyword : String
  registryValue : Option (List String)
  deriving DecidableEq, Repr

/-- `first_value`. -/
def NicAdvancedProperty.firstValue (p : NicAdvancedProperty) : Option String :=
  p.registryValue.bind List.head?

/-- Backup of one adapter property. -/
structure AdapterPropertyBackup where
  adapterName : String
  keyword : String
  displayName : String
  originalValue : String
  deriving DecidableEq, Repr

/-- Rollback record for a QoS policy and the NLA setting. -/
structure QosPolicyBackup where
  policyName : String
  previousNlaSetting : Option String
  wasPolicyPresentBefore : Bool
  deriving DecidableEq, Repr

/-- Record of a service the optimizer stopped. -/
structure ServiceBackup where
  serviceName : String
  displayName : String
  previousState : UInt32
  wasPausedByOptimizer : Bool
  deriving DecidableEq, Repr

/-- Record of an application that was closed for a match. -/
structure TerminatedAppBackup where
  name : String
  executablePath : String
  commandLine : Option String
  deriving DecidableEq, Repr

/-- The state recorded by one `apply_optimizations`. -/
structure OptimizationTransaction where
  transactionId : String
  timestampUtc : String
  previousGameMode : Option Bool
  previousPowerScheme : Option String
  previousAudioEndpoints : List AudioEndpointBackup
  previousAdapterProperties : List AdapterPropertyBackup
  previousQosPolicy : Option QosPolicyBackup
  isApplied : Bool
  deriving DecidableEq, Repr

/-- A captured baseline. -/
structure SystemStateSnapshot where
  snapshotId : String
  version : UInt32
  timestampUtc : String
  sha256Hash : String
  hmacSignature : String
  previousGameMode : Option Bool
  previousPowerScheme : Option String
  previousAudioEndpoints : List AudioEndpointBackup
  previousAdapterProperties : List AdapterPropertyBackup
  previousQosPolicy : Option QosPolicyBackup
  pausedServices : List ServiceBackup
  terminatedProcesses : List TerminatedAppBackup
  isApplied : Bool
  deriving DecidableEq, Repr

/-- `SystemStateSnapshot::new`, at a time whose `{:?}` text is `timestamp`. -/
def SystemStateSnapshot.new (id timestamp : String) : SystemStateSnapshot where
  snapshotId := id
  version := 1
  timestampUtc := timestamp
  sha256Hash := ""
  hmacSignature := ""
  previousGameMode := none
  previousPowerScheme := none
  previousAudioEndpoints := []
  previousAdapterProperties := []
  previousQosPolicy := none
  pausedServices := []
  terminatedProcesses := []
  isApplied := false

/-! ### What the program takes from outside -/

/-- Why a file could not be read as a record. -/
inductive ReadError where
  | io (text : String)
  | serde (text : String)
  deriving DecidableEq, Repr

/-- The text of the error. -/
def ReadError.text : ReadError → String
  | io t => t
  | serde t => t

/-- `serde_json` for one record type, on the bytes of a file: `fromStr` is `read_to_string`'s check
of the encoding and `from_str`. -/
structure Codec (α : Type) where
  toVec : α → Bytes
  toStringPretty : α → Bytes
  fromStr : Bytes → Except ReadError α

/-- The codec reads back what it wrote, and rejects a text that was cut off. -/
structure Codec.Lawful {α : Type} (c : Codec α) : Prop where
  fromStr_toStringPretty : ∀ a, c.fromStr (c.toStringPretty a) = .ok a
  fromStr_take : ∀ a n, n < (c.toStringPretty a).length →
    ∀ b, c.fromStr ((c.toStringPretty a).take n) ≠ .ok b

/-- SHA-256, DPAPI in machine scope, the `{:?}` text of a string, and the record codecs.  `protect`
takes the random bytes of the call along. -/
structure Platform where
  sha256 : Bytes → Bytes
  protect : (nonce : ℕ) → Bytes → Bytes
  unprotect : Bytes → Option Bytes
  debugStr : String → String
  transaction : Codec OptimizationTransaction
  snapshot : Codec SystemStateSnapshot

/-- What the code relies on outside itself. -/
structure Platform.Lawful (P : Platform) : Prop where
  length_sha256 : ∀ b, (P.sha256 b).length = 32
  unprotect_protect : ∀ nonce b, P.unprotect (P.protect nonce b) = some b
  unprotect_json : ∀ b s, P.snapshot.fromStr b = .ok s → P.unprotect b = none
  transaction : P.transaction.Lawful
  snapshot : P.snapshot.Lawful

/-! ### Signatures -/

/-- `constant_time_eq`: collect the differing bits of all pairs. -/
def constantTimeEq (a b : Bytes) : Bool :=
  if a.length ≠ b.length then false
  else (a.zip b).foldl (fun diff p => diff ||| (p.1 ^^^ p.2)) 0 == 0

/-- `compute_hmac_sha256` (RFC 2104): keys above the block size are hashed first. -/
def computeHmacSha256 (sha256 : Bytes → Bytes) (key message : Bytes) : Bytes :=
  let k := if 64 < key.length then sha256 key else key
  let block := k ++ List.replicate (64 - k.length) 0
  let inner := sha256 (block.map (· ^^^ 0x36) ++ message)
  sha256 (block.map (· ^^^ 0x5c) ++ inner)

/-- Lower-case hexadecimal text of a digest. -/
def hexText (b : Bytes) : String := String.ofList (b.flatMap fun x => Text.hexFixed 2 x.toNat)

/-- The bytes of a string, as `as_bytes` gives them. -/
def asBytes (s : String) : Bytes := s.toUTF8.data.toList

namespace SystemStateSnapshot

variable (P : Platform) (key : Bytes) (s : SystemStateSnapshot)

/-- `canonical_payload_bytes`: both signature fields are cleared. -/
def canonicalPayloadBytes : Bytes :=
  P.snapshot.toVec { s with sha256Hash := "", hmacSignature := "" }

/-- `compute_payload_hash`. -/
def computePayloadHash : String := hexText (P.sha256 (s.canonicalPayloadBytes P))

/-- `compute_payload_hmac`. -/
def computePayloadHmac : String :=
  hexText (computeHmacSha256 P.sha256 key (s.canonicalPayloadBytes P))

/-- `verify_hmac`. -/
def verifyHmac : Bool :=
  if s.hmacSignature = "" then false
  else constantTimeEq (asBytes s.hmacSignature) (asBytes (s.computePayloadHmac P key))

/-- `sign_with_key`: the hash first, then the signature of the same payload. -/
def signWithKey : SystemStateSnapshot :=
  let s := { s with sha256Hash := s.computePayloadHash P }
  { s with hmacSignature := s.computePayloadHmac P key }

end SystemStateSnapshot

end ValOpt
