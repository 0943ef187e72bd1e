import ValOpt.Network.Adapter
import ValOpt.Network.Qos
import ValOpt.Optimizations.Audio
import ValOpt.Optimizations.GameMode
import ValOpt.Optimizations.Power

/-!
# The snapshot engine

`state/snapshot_engine.rs`: capturing a baseline, and the store of signed snapshots.  All snapshots
of one directory share the key file `snapshot.key`, a DPAPI blob; a snapshot is written to a
temporary file and moved over its target.

`validateSnapshotPath` decides `..` and the containment in the base directory itself; whether the
path goes through a link, and whether Windows lets it be inspected, is up to the environment.  It
makes the base directory, which is an accepted path as well; the file calls on a directory are
refused.
-/

namespace ValOpt

open Effect

/-- `SNAPSHOT_KEY_FILENAME`. -/
def snapshotKeyFilename : String := "snapshot.key"

/-- `MAGIC_KEY_HEADER`: `VALOPT_KEY_V1` and three zero bytes. -/
def magicKeyHeader : Bytes :=
  [0x56, 0x41, 0x4C, 0x4F, 0x50, 0x54, 0x5F, 0x4B, 0x45, 0x59, 0x5F, 0x56, 0x31, 0, 0, 0]

/-- `SnapshotError`. -/
inductive SnapshotError where
  | notFound (path : Path)
  | io (text : String)
  | serialization (text : String)
  | integrityViolation (path : Path) (expectedHash computedHash : String)
  | keyUnavailable (path : Path) (reason : String)
  | securityViolation (text : String)
  deriving DecidableEq, Repr

/-- The text of the error. -/
def SnapshotError.message : SnapshotError → String
  | notFound p => s!"Snapshot file not found at: {p.display}"
  | io e => s!"I/O error during snapshot operation: {e}"
  | serialization e => s!"JSON serialization/deserialization failed: {e}"
  | integrityViolation p expected computed =>
    s!"Snapshot integrity violation for {p.display}: expected {expected}, calculated {computed}"
  | keyUnavailable p reason => s!"Snapshot key unavailable or corrupt at {p.display}: {reason}"
  | securityViolation e => s!"Snapshot security violation: {e}"

/-- `?` on a file that does not read as a record. -/
def ReadError.toSnapshotError : ReadError → SnapshotError
  | io e => .io e
  | serde e => .serialization e

variable (P : Platform)

/-! ### Capturing a baseline -/

/-- The keywords whose properties `capture_system_baseline` records. -/
def isCapturedKeyword (kw : String) : Bool :=
  Text.containsStr kw "EEE" || Text.containsStr kw "Green" || Text.containsStr kw "Interrupt" ||
    Text.containsStr kw "Flow"

/-- The record of one adapter property, if it is captured. -/
def captureProperty (adapterName : String) (p : NicAdvancedProperty) :
    Option AdapterPropertyBackup :=
  if isCapturedKeyword p.registryKeyword then
    p.firstValue.map fun val => ⟨adapterName, p.registryKeyword, p.displayName, val⟩
  else none

/-- The record of one endpoint: the `SysFx` value is kept as the boolean that
`query_endpoint_details` made of it. -/
def captureEndpoint (ep : AudioEndpointInfo) : AudioEndpointBackup :=
  ⟨ep.id, ep.name, some (if ep.enhancementsDisabled then 1 else 0)⟩

/-- Step 4 of `capture_system_baseline`. -/
def captureAdapter : Prog (List AdapterPropertyBackup) := do
  match ← readMachine .detectPrimary fun m => m.primaryAdapter with
  | .error _ => return []
  | .ok adapterName =>
    match ← queryAdapterProperties adapterName with
    | .error _ => return []
    | .ok advProps => return advProps.filterMap (captureProperty adapterName)

/-- `SnapshotEngine::capture_system_baseline`. -/
def captureSystemBaseline (now : Ambient) : Prog (Except String SystemStateSnapshot) := do
  let snapshot := SystemStateSnapshot.new s!"snap_{now.unixMillis}" now.debugTime
  let gm ← getGameModeState
  let guid ← getActivePowerScheme
  let endpoints ← enumerateRenderEndpoints
  let props ← captureAdapter
  let policy ← queryQosPolicy defaultValorantQosPolicyName
  return .ok { snapshot with
    previousGameMode := gm.toOption
    previousPowerScheme := guid.toOption.map guidToString
    previousAudioEndpoints := (endpoints.toOption.getD []).map captureEndpoint
    previousAdapterProperties := props
    previousQosPolicy := policy.toOption.join.map fun name => ⟨name, none, true⟩ }

/-! ### The store -/

/-- The text of a path is inside a directory, or names that directory itself. -/
def Path.Within (p : Path) (base : List String) : Prop := ".." ∉ p.components ∧ base <+: p.components

instance (p : Path) (base : List String) : Decidable (p.Within base) :=
  inferInstanceAs (Decidable (_ ∧ _))

/-- The checks of `validate_snapshot_path` for links, which the system has to answer. -/
def inspectPath (op : StoreOperation) (path : Path) : Prog (Except SnapshotError Path) := do
  match ← readMachine (.validatePath op) fun _ => some () with
  | .error e => return .error (.securityViolation e)
  | .ok () => return .ok path

/-- `validate_snapshot_path`. -/
def validateSnapshotPath (op : StoreOperation) (path : Path) (allowedBase : Option (List String)) :
    Prog (Except SnapshotError Path) := do
  let base := (← getWorld).baseDir allowedBase
  if ".." ∈ path.components then
    return .error (.securityViolation
      s!"Directory traversal ('..') prohibited in snapshot path: {path.display}")
  else if ← pathExists base path then
    if base <+: path.components then inspectPath op path
    else
      return .error (.securityViolation (s!"Snapshot path '{path.display}' resolves outside " ++
        s!"authorized root '{displayDir base}'"))
  else if ← pathExists base path.parent then
    if base <+: path.dir then inspectPath op path
    else
      return .error (.securityViolation (s!"Snapshot path '{path.display}' resides in directory " ++
        s!"outside authorized root '{displayDir base}'"))
  else
    return .error (.securityViolation
      s!"Snapshot parent directory '{displayDir path.dir}' does not exist")

/-- The key in a decrypted key file: 32 bytes behind the header, if the header is right. -/
def keyOfPlaintext (plaintext : Bytes) : Option Bytes :=
  if plaintext.length < 48 ∨ plaintext.take 16 ≠ magicKeyHeader then none
  else some ((plaintext.drop 16).take 32)

/-- The little-endian bytes of a `u128`. -/
def toLeBytes128 (n : ℕ) : Bytes := (List.range 16).map fun i => UInt8.ofNat (n / 256 ^ i)

/-- The plaintext of a new key file: header, key, time stamp. -/
def keyPlaintext (now : Ambient) : Bytes :=
  magicKeyHeader ++ now.random32 ++ toLeBytes128 now.unixMillis

/-- `get_or_generate_key`. -/
def getOrGenerateKey (now : Ambient) (base : List String) (target : Path) :
    Prog (Except SnapshotError Bytes) := do
  let keyPath := target.withFileName snapshotKeyFilename
  if ← pathExists base keyPath then
    match ← readFile .readKey keyPath with
    | .error e => return .error (.io e)
    | .ok ciphertext =>
      match ← readMachine .unprotectKey fun _ => P.unprotect ciphertext with
      | .error e => return .error (.keyUnavailable keyPath
          s!"DPAPI unprotect failed (cross-machine replay or key corrupted): {e}")
      | .ok plaintext =>
        match keyOfPlaintext plaintext with
        | none => return .error (.keyUnavailable keyPath "Invalid key header or payload length")
        | some key => return .ok key
  else
    match ← readMachine .genRandom fun _ => some now.random32 with
    | .error e => return .error (.keyUnavailable keyPath s!"CSPRNG key generation failed: {e}")
    | .ok rawKey =>
      match ← readMachine .protectKey fun _ => some (P.protect now.nonce (keyPlaintext now)) with
      | .error e => return .error (.keyUnavailable keyPath s!"DPAPI protect failed: {e}")
      | .ok ciphertext =>
        match ← writeFile .writeKey keyPath ciphertext with
        | .error e => return .error (.io e)
        | .ok () => return .ok rawKey

/-- The temporary file of a save, next to its target. -/
def tempPath (now : Ambient) (target : Path) : Path :=
  target.withFileName s!"snapshot_{now.pid}_{now.unixNanos}.tmp"

/-- The replacement of the target by the temporary file: `MoveFileExW`, and if that fails the
target is removed and the file renamed. -/
def replaceTarget (base : List String) (temp target : Path) : Prog (Except String Unit) := do
  let occupied ← isDirectory base target
  match ← unlessDirectory occupied .moveFileEx (moveFile .moveFileEx temp target) with
  | .ok () => return .ok ()
  | .error _ =>
    let _ ← removeFile .removeTarget target
    match ← unlessDirectory occupied .renameTemp (moveFile .renameTemp temp target) with
    | .ok () => return .ok ()
    | .error e =>
      let _ ← removeFile .removeTemp temp
      return .error s!"Atomic move failed: {e}"

/-- The end of `save_atomic_with_base`, once the key is there: the signed snapshot goes to a
temporary file, which takes the place of the target. -/
def writeSnapshot (now : Ambient) (snapshot : SystemStateSnapshot) (base : List String)
    (target : Path) (key : Bytes) : Prog (Except String (Path × SystemStateSnapshot)) := do
  let snapshot := snapshot.signWithKey P key
  let jsonData := P.snapshot.toStringPretty snapshot
  let temp := tempPath now target
  let occupied ← isDirectory base temp
  match ← unlessDirectory occupied .writeTemp (writeFile .writeTemp temp jsonData) with
  | .error e => return .error s!"Failed to write temporary snapshot file: {e}"
  | .ok () =>
    match ← replaceTarget base temp target with
    | .error e => return .error e
    | .ok () => return .ok (target, snapshot)

/-- `create_dir_all` on the directory of a target, which is there already.  It is refused where the
validation found a file in its place. -/
def createParent (target : Path) : Prog (Except String Unit) :=
  perform .createDirAll (.read fun w =>
    if (w.files target).isNone && (w.files target.parent).isSome then none else some ())

/-- `save_atomic_with_base`: the target, and the snapshot as the caller finds it afterwards. -/
def saveAtomicWithBase (now : Ambient) (snapshot : SystemStateSnapshot) (targetPath : Option Path)
    (allowedBase : Option (List String)) :
    Prog (Except String (Path × SystemStateSnapshot)) := do
  let w ← getWorld
  let base := w.baseDir allowedBase
  match ← validateSnapshotPath .save (targetPath.getD w.defaultSnapshotPath) allowedBase with
  | .error e => return .error s!"Snapshot path validation error: {e.message}"
  | .ok target =>
    match ← createParent target with
    | .error e => return .error s!"Failed to create snapshot dir: {e}"
    | .ok () =>
      match ← getOrGenerateKey P now base target with
      | .error e => return .error s!"Failed to acquire DPAPI snapshot key: {e.message}"
      | .ok key => writeSnapshot P now snapshot base target key

/-- The two signature checks of `load_and_verify_with_base`. -/
def verifySnapshot (target : Path) (key : Bytes) (snapshot : SystemStateSnapshot) :
    Except SnapshotError SystemStateSnapshot :=
  if snapshot.hmacSignature = "" ∨ snapshot.verifyHmac P key = false then
    .error (.integrityViolation target snapshot.hmacSignature (snapshot.computePayloadHmac P key))
  else
    let computed := snapshot.computePayloadHash P
    if Text.eqIgnoreAsciiCase computed snapshot.sha256Hash then .ok snapshot
    else .error (.integrityViolation target snapshot.sha256Hash computed)

/-- `load_and_verify_with_base`. -/
def loadAndVerifyWithBase (targetPath : Option Path) (allowedBase : Option (List String)) :
    Prog (Except SnapshotError SystemStateSnapshot) := do
  let w ← getWorld
  let base := w.baseDir allowedBase
  match ← validateSnapshotPath .load (targetPath.getD w.defaultSnapshotPath) allowedBase with
  | .error e => return .error e
  | .ok target =>
    if !(← fileExists target) then return .error (.notFound target)
    else
      let keyPath := target.withFileName snapshotKeyFilename
      if !(← pathExists base keyPath) then
        return .error (.keyUnavailable keyPath
          "HMAC key file missing. Rollback aborted to prevent untrusted state restoration.")
      else
        match ← readFile .readKey keyPath with
        | .error e => return .error (.io e)
        | .ok keyCiphertext =>
          match ← readMachine .unprotectKey fun _ => P.unprotect keyCiphertext with
          | .error e => return .error (.keyUnavailable keyPath
              s!"DPAPI unprotect failed (alien machine or key corruption): {e}")
          | .ok keyPlaintext =>
            match keyOfPlaintext keyPlaintext with
            | none => return .error (.keyUnavailable keyPath "Invalid key magic header")
            | some key =>
              match ← readFile .readSnapshot target with
              | .error e => return .error (.io e)
              | .ok content =>
                match P.snapshot.fromStr content with
                | .error e => return .error e.toSnapshotError
                | .ok snapshot => return verifySnapshot P target key snapshot

/-- The removal in `delete_snapshot_with_base`, when the snapshot was found. -/
def removeFound (found : Bool) (target : Path) : Prog (Except String Unit) := do
  if found then removeFile .deleteSnapshot target else return .ok ()

/-- The erasure of a key file: it is overwritten with zeros and removed. -/
def eraseKey (base : List String) (keyPath : Path) : Prog Unit := do
  let occupied ← isDirectory base keyPath
  let _ ← unlessDirectory occupied .zeroKey (writeFile .zeroKey keyPath (List.replicate 128 0))
  let _ ← removeFile .removeKey keyPath
  return ()

/-- The end of `delete_snapshot_with_base`, behind the validation. -/
def deleteFound (found : Bool) (base : List String) (target : Path) :
    Prog (Except String Bool) := do
  match ← removeFound found target with
  | .error e => return .error s!"Failed to delete snapshot: {e}"
  | .ok () =>
    let keyPath := target.withFileName snapshotKeyFilename
    if ← pathExists base keyPath then
      eraseKey base keyPath
      return .ok true
    else return .ok found

/-- `delete_snapshot_with_base`: the snapshot, and the key of its directory, which is overwritten
with zeros first. -/
def deleteSnapshotWithBase (targetPath : Option Path) (allowedBase : Option (List String)) :
    Prog (Except String Bool) := do
  let w ← getWorld
  let base := w.baseDir allowedBase
  match ← validateSnapshotPath .delete (targetPath.getD w.defaultSnapshotPath) allowedBase with
  | .error e => return .error s!"Snapshot path validation error: {e.message}"
  | .ok target => deleteFound (← pathExists base target) base target

end ValOpt
