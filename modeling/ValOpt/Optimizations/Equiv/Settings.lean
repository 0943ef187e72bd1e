import ValOpt.Optimizations.Equiv.Audio
import ValOpt.Optimizations.Equiv.GameMode
import ValOpt.Optimizations.Equiv.Power

/-!
# What the user sees of the settings

`Machine.settings` is what the program reads back: the Game Mode state, the active power scheme and
the `SysFx` value of every endpoint.  `Machine.registryValues` is the finer view of the registry,
where the two Game Mode values are told apart and may be absent.
-/

namespace ValOpt

/-- The settings as the program reads them. -/
structure Settings where
  gameMode : Bool
  powerScheme : Guid
  sysFx : List (String × Option UInt32)
  deriving DecidableEq, Repr

/-- The settings as the registry holds them. -/
structure RegistryValues where
  allowAutoGameMode : Option UInt32
  autoGameModeEnabled : Option UInt32
  powerScheme : Guid
  sysFx : List (String × Option UInt32)
  deriving DecidableEq, Repr

namespace Machine

variable (m : Machine)

/-- The `SysFx` value of every endpoint. -/
def sysFxValues : List (String × Option UInt32) := m.endpoints.map fun id => (id, m.sysFx id)

def settings : Settings := ⟨m.gameMode, m.activeScheme, m.sysFxValues⟩

def registryValues : RegistryValues :=
  ⟨m.allowAutoGameMode, m.autoGameModeEnabled, m.activeScheme, m.sysFxValues⟩

/-- The settings are a function of the registry values. -/
theorem settings_eq_of_registryValues {m m' : Machine} (h : m.registryValues = m'.registryValues) :
    m.settings = m'.settings := by
  simp only [registryValues, RegistryValues.mk.injEq] at h
  obtain ⟨hallow, -, hscheme, hfx⟩ := h
  unfold settings
  rw [gameMode_eq, gameMode_eq, hallow, hscheme, hfx]

/-- Machines with the same endpoints have the same `SysFx` values iff they agree on each. -/
theorem sysFxValues_eq_iff {m m' : Machine} (h : m'.endpoints = m.endpoints) :
    m'.sysFxValues = m.sysFxValues ↔ ∀ id ∈ m.endpoints, m'.sysFx id = m.sysFx id := by
  unfold sysFxValues
  rw [h, List.map_inj_left]
  simp

theorem settings_eq_iff {m m' : Machine} (h : m'.endpoints = m.endpoints) :
    m'.settings = m.settings ↔ m'.gameMode = m.gameMode ∧ m'.activeScheme = m.activeScheme ∧
      ∀ id ∈ m.endpoints, m'.sysFx id = m.sysFx id := by
  rw [← sysFxValues_eq_iff h]
  unfold settings
  simp

end Machine

end ValOpt
