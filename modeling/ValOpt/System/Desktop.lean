import ValOpt.Hash.Sha256
import ValOpt.Models.Json
import ValOpt.System.Call

/-!
# A platform and a machine

`Platform.portable` is the platform of a build for another system: SHA-256, the record codecs, and
in the place of DPAPI the stubs of `snapshot_engine.rs`, which mark a blob with a prefix.  It is
lawful.  `World.desktop` is a freshly installed desktop computer, the example on which statements
about the programs are tried.
-/

namespace ValOpt

/-- `NON_WIN_BLOB`, the mark of `dpapi_protect_machine` on other systems. -/
def blobPrefix : Bytes :=
  [0x4E, 0x4F, 0x4E, 0x5F, 0x57, 0x49, 0x4E, 0x5F, 0x42, 0x4C, 0x4F, 0x42]

/-- One character of the `{:?}` text of a string.  Of the others only the control characters are
written by their number, so that this is the text where the rest is printable. -/
def escapeDebug (c : Char) : List Char :=
  if c = '\x00' then ['\\', '0']
  else if c = '\t' then ['\\', 't']
  else if c = '\r' then ['\\', 'r']
  else if c = '\n' then ['\\', 'n']
  else if c = '"' ∨ c = '\\' then ['\\', c]
  else if c.toNat < 0x20 ∨ c.toNat = 0x7F then
    ['\\', 'u', Char.ofNat 0x7B] ++ Nat.toDigits 16 c.toNat ++ [Char.ofNat 0x7D]
  else [c]

/-- The platform of a build for another system. -/
def Platform.portable : Platform where
  sha256 := Sha256.hash
  protect _ plaintext := blobPrefix ++ plaintext
  unprotect ciphertext :=
    if blobPrefix <+: ciphertext then some (ciphertext.drop blobPrefix.length) else none
  debugStr s := String.ofList (['"'] ++ s.toList.flatMap escapeDebug ++ ['"'])
  transaction := transactionCodec
  snapshot := snapshotCodec

theorem Platform.lawful_portable : Platform.portable.Lawful where
  length_sha256 := Sha256.length_hash
  unprotect_protect := by
    intro nonce b
    have hpre : blobPrefix <+: blobPrefix ++ b := List.prefix_append _ _
    simp only [portable, if_pos hpre, List.drop_left]
  unprotect_json := by
    intro b s h
    have hhead : b.head? = some 0x7B := head_of_fromStr h
    have hpre : ¬ blobPrefix <+: b := by
      rintro ⟨t, rfl⟩
      cases hhead
    simp only [portable, if_neg hpre]
  transaction := lawful_transactionCodec
  snapshot := lawful_snapshotCodec

/-- The Balanced plan. -/
def balancedGuid : Guid := .fromU128 0x381b4222f69441f09685ff5bb260df2e

/-- The endpoint of the desktop. -/
def speakerId : String := "{0.0.0.00000000}.{speaker}"

/-- A desktop without battery on the Balanced plan, where Game Mode was turned off by one of its
values, with one endpoint whose enhancements were never changed and one adapter. -/
def Machine.desktop : Machine where
  gameBar := some ⟨some 0, none⟩
  batteryFlag := some 128
  activeScheme := balancedGuid
  installedSchemes := [balancedGuid, highPerformanceGuid]
  endpoints := [speakerId]
  friendlyName := fun _ => some "Speakers"
  fxProperties := fun _ => none
  primaryAdapter := some "Ethernet"
  adapters := fun name =>
    if name = "Ethernet" then
      some ⟨[⟨"Energy Efficient Ethernet", "*EEE", some ["1"]⟩,
        ⟨"Power Saving Mode", "PowerSavingMode", some ["1"]⟩], by decide⟩
    else none
  qosPolicies := []
  nlaSetting := none
  services := fun _ => none
  active_installed := by simp
  endpoints_nodup := by simp

/-- The desktop before the optimizer stored anything. -/
def World.desktop : World where
  machine := .desktop
  files := fun _ => none
  drive := ⟨some ["C:", "ProgramData"], []⟩

/-- Texts for the errors of calls. -/
def errorText (_ : Call) : String := "Access is denied."

end ValOpt
