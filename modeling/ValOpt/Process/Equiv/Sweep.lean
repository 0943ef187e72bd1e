import Mathlib.Data.List.Nodup
import ValOpt.Effect.System
import ValOpt.Process.Sweep

/-!
# Whom the sweeps touch

A sweep decides by the names of its snapshot, and opens processes by their identifiers later.  What
it has still to open, and the windows it has still to post to, are what another process can get
into: as long as no protected one does, no protected one is touched (`tier0_spared`).
-/

namespace ValOpt

open Effect

/-! ### Protected processes -/

/-- The process with this number is protected by its own name. -/
def IsTier0 (objects : List ProcessObject) (id : ℕ) : Prop :=
  ∃ p : ProcessObject, objects[id]? = some p ∧ classifyProcess p.name = .tier0Protected

instance (objects : List ProcessObject) (id : ℕ) : Decidable (IsTier0 objects id) :=
  decidable_of_iff
    (objects[id]?.any (fun p => classifyProcess p.name = .tier0Protected) = true) <| by
    simp [IsTier0, Option.any_eq_true]

/-- No protected process was touched. -/
def ProcessSystem.Spared (s : ProcessSystem) : Prop := ∀ t ∈ s.touched, ¬ IsTier0 s.objects t.2

/-- The sweep goes for a process with this identifier and path, if its snapshot has the name. -/
def SweepKind.Targets (kind : SweepKind) (p : Process) (name : String) : Prop :=
  match kind with
  | .tier2 currentPid =>
    p.pid ≠ currentPid ∧ 4 < p.pid ∧ classifyProcess name = .tier2SafeTerminate
  | .cef => isCefName (toLowercase name) = true ∧ p.imagePath.any isRiotClientPath = true

namespace Sweep

/-- The sweep has still to open this process by its identifier. -/
def Awaits (sweep : Sweep) (p : Process) : Prop :=
  (∃ name, (p.pid, name) ∈ sweep.entries ∧ sweep.kind.Targets p name) ∨
    (∃ exe, sweep.phase = .verifying p.pid exe ∧ p.imagePath.any isRiotClientPath = true) ∨
    sweep.phase = .opening p.pid ∧ sweep.checkHandle = none

/-- The windows that the sweep has still to post to. -/
def pending (sweep : Sweep) : List ℕ :=
  match sweep.phase with
  | .enumerating _ _ found => found
  | .posting _ left => left
  | _ => []

/-- What a sweep knows of the process it is about to touch. -/
def PhaseSound (objects : List ProcessObject) (sweep : Sweep) : Prop :=
  match sweep.phase with
  | .scanning | .verifying _ _ => sweep.checkHandle = none
  | .verified pid _ => ∃ (id : ℕ) (p : ProcessObject),
      sweep.checkHandle = some id ∧ objects[id]? = some p ∧ p.pid = pid ∧
      (p.imagePath.any isRiotClientPath = true → ¬ IsTier0 objects id)
  | .opening pid => ∀ id, sweep.checkHandle = some id →
      ∃ p : ProcessObject, objects[id]? = some p ∧ p.pid = pid ∧ ¬ IsTier0 objects id
  | .enumerating pid id _ =>
    ∃ p : ProcessObject, objects[id]? = some p ∧ p.pid = pid ∧ ¬ IsTier0 objects id
  | .posting id _ | .waiting id | .forcing id =>
    ∃ p : ProcessObject, objects[id]? = some p ∧ ¬ IsTier0 objects id
  | .finished => True

/-- A sweep that will touch no protected process of the system. -/
structure Sound (objects : List ProcessObject) (windows : List (ℕ × ℕ)) (sweep : Sweep) : Prop where
  awaits : ∀ (id : ℕ) (p : ProcessObject), objects[id]? = some p → p.present = true →
    classifyProcess p.name = .tier0Protected → ¬ sweep.Awaits p.toProcess
  held : ∀ id ∈ sweep.handles, ∀ p : ProcessObject, objects[id]? = some p → p.present = true
  pending : ∀ w ∈ windows, w.1 ∈ sweep.pending → ¬ IsTier0 objects w.2
  phase : sweep.PhaseSound objects

end Sweep

/-- No protected process gets an identifier that a sweep has still to open, nor a window handle that
one has still to post to. -/
def SweepEvent.Harmless : SweepEvent → ProcessSystem → Prop
  | .processStarts p, s => classifyProcess p.name = .tier0Protected →
      ∀ sweep ∈ s.sweeps, ¬ sweep.Awaits p
  | .windowOpens hwnd id, s => IsTier0 s.objects id → ∀ sweep ∈ s.sweeps, hwnd ∉ sweep.pending
  | _, _ => True

namespace ProcessSystem

structure Sound (s : ProcessSystem) : Prop where
  unique : ∀ (i j : ℕ) (p q : ProcessObject),
    s.objects[i]? = some p → s.objects[j]? = some q → p.present = true →
    q.present = true → p.pid = q.pid → i = j
  alive : ∀ p ∈ s.objects, p.alive = true → p.present = true
  windows : ∀ w ∈ s.windows, ∃ p : ProcessObject, s.objects[w.2]? = some p ∧ p.alive = true
  hwnds : (s.windows.map (·.1)).Nodup
  sweeps : ∀ sweep ∈ s.sweeps, sweep.Sound s.objects s.windows
  touched : ∀ t ∈ s.touched, ∃ p : ProcessObject, s.objects[t.2]? = some p ∧ ¬ IsTier0 s.objects t.2

theorem Sound.spared {s : ProcessSystem} (h : s.Sound) : s.Spared := by
  intro t ht
  obtain ⟨p, -, hnot⟩ := h.touched t ht
  exact hnot

end ProcessSystem

/-! ### Changes of the system -/

section Mono

variable {objects objects' : List ProcessObject} {windows windows' : List (ℕ × ℕ)} {sweep : Sweep}

/-- Objects stay what they are. -/
def Persist (objects objects' : List ProcessObject) : Prop :=
  ∀ (id : ℕ) (p : ProcessObject), objects[id]? = some p →
    ∃ p' : ProcessObject, objects'[id]? = some p' ∧ p'.toProcess = p.toProcess

theorem Persist.isTier0_iff (h : Persist objects objects') {id : ℕ} {p : ProcessObject}
    (hp : objects[id]? = some p) : IsTier0 objects' id ↔ IsTier0 objects id := by
  obtain ⟨p', hp', hdata⟩ := h id p hp
  simp only [IsTier0, hp, hp', Option.some.injEq, exists_eq_left', hdata]

/-- What a phase knows of its process stays known. -/
theorem Persist.untouchable (h : Persist objects objects') {id : ℕ} {p : ProcessObject}
    (hp : objects[id]? = some p) (hnot : ¬ IsTier0 objects id) :
    ∃ p' : ProcessObject, objects'[id]? = some p' ∧ p'.toProcess = p.toProcess ∧
      ¬ IsTier0 objects' id := by
  obtain ⟨p', hp', hdata⟩ := h id p hp
  exact ⟨p', hp', hdata, by rwa [h.isTier0_iff hp]⟩

theorem Sweep.PhaseSound.mono (hphase : sweep.PhaseSound objects) (h : Persist objects objects') :
    sweep.PhaseSound objects' := by
  unfold PhaseSound at hphase ⊢
  generalize sweep.phase = phase at hphase ⊢
  have hforget : ∀ id, (∃ p : ProcessObject, objects[id]? = some p ∧ ¬ IsTier0 objects id) →
      ∃ p : ProcessObject, objects'[id]? = some p ∧ ¬ IsTier0 objects' id := by
    rintro id ⟨p, hp, hnot⟩
    obtain ⟨p', hp', -, hnot'⟩ := h.untouchable hp hnot
    exact ⟨p', hp', hnot'⟩
  have hpid : ∀ id pid,
      (∃ p : ProcessObject, objects[id]? = some p ∧ p.pid = pid ∧ ¬ IsTier0 objects id) →
      ∃ p : ProcessObject, objects'[id]? = some p ∧ p.pid = pid ∧ ¬ IsTier0 objects' id := by
    rintro id pid ⟨p, hp, hpid, hnot⟩
    obtain ⟨p', hp', hdata, hnot'⟩ := h.untouchable hp hnot
    exact ⟨p', hp', by rw [hdata, hpid], hnot'⟩
  cases phase with
  | verified pid exe =>
    obtain ⟨id, p, hcheck, hp, hpid, hpath⟩ := hphase
    obtain ⟨p', hp', hdata⟩ := h id p hp
    refine ⟨id, p', hcheck, hp', by rw [hdata, hpid], ?_⟩
    rw [hdata, h.isTier0_iff hp]
    exact hpath
  | opening pid => exact fun id hcheck => hpid id pid (hphase id hcheck)
  | enumerating pid id found => exact hpid id pid hphase
  | posting id left => exact hforget id hphase
  | waiting id => exact hforget id hphase
  | forcing id => exact hforget id hphase
  | scanning => exact hphase
  | verifying pid exe => exact hphase
  | finished => trivial

/-- A sweep stays sound while its handles are kept, and no protected process gets into its way. -/
theorem Sweep.Sound.mono (hsweep : sweep.Sound objects windows) (h : Persist objects objects')
    (hawaits : ∀ (id : ℕ) (p : ProcessObject), objects'[id]? = some p → p.present = true →
      classifyProcess p.name = .tier0Protected → ¬ sweep.Awaits p.toProcess)
    (hheld : ∀ id ∈ sweep.handles, ∀ p : ProcessObject, objects'[id]? = some p → p.present = true)
    (hpending : ∀ w ∈ windows', w.1 ∈ sweep.pending → ¬ IsTier0 objects' w.2) :
    sweep.Sound objects' windows' :=
  ⟨hawaits, hheld, hpending, hsweep.phase.mono h⟩

end Mono

theorem windowOwner_eq_some {windows : List (ℕ × ℕ)} {hwnd id : ℕ}
    (h : windowOwner windows hwnd = some id) : (hwnd, id) ∈ windows := by
  obtain ⟨w, hw, rfl⟩ := Option.map_eq_some_iff.mp h
  have hmem := List.mem_of_find?_eq_some hw
  have hhwnd : w.1 = hwnd := by simpa using List.find?_some hw
  rwa [← hhwnd]

/-! ### The events of the system -/

/-- Objects whose flags change are the same processes. -/
theorem persist_modify {objects : List ProcessObject} {f : ProcessObject → ProcessObject}
    (hf : ∀ p, (f p).toProcess = p.toProcess) (id : ℕ) : Persist objects (objects.modify id f) := by
  intro j p hp
  rw [List.getElem?_modify, hp]
  by_cases hj : id = j
  · exact ⟨f p, by simp [hj], hf p⟩
  · exact ⟨p, by simp [hj], rfl⟩

/-- Where the objects of a modified system come from. -/
theorem of_getElem?_modify {objects : List ProcessObject} {f : ProcessObject → ProcessObject}
    {id j : ℕ} {p' : ProcessObject} (h : (objects.modify id f)[j]? = some p') :
    ∃ p, objects[j]? = some p ∧ (p' = f p ∧ id = j ∨ p' = p ∧ id ≠ j) := by
  rw [List.getElem?_modify] at h
  obtain ⟨p, hp, rfl⟩ := Option.map_eq_some_iff.mp h
  use p, hp
  by_cases hj : id = j
  · exact .inl ⟨if_pos hj, hj⟩
  · exact .inr ⟨if_neg hj, hj⟩

namespace ProcessSystem.Sound

variable {s : ProcessSystem}

/-- The snapshot of a sweep has no protected process among its targets. -/
theorem start (h : s.Sound) (kind : SweepKind) :
    Sweep.Sound s.objects s.windows ⟨kind, (s.objects.filter fun p => p.alive).map fun p =>
      (p.pid, p.name), .scanning, none⟩ where
  awaits := by
    intro id p hp hpresent htier hawaits
    rcases hawaits with ⟨name, hentry, htargets⟩ | ⟨exe, hphase, -⟩ | ⟨hphase, -⟩
    · obtain ⟨q, hq, heq⟩ := List.mem_map.mp hentry
      obtain ⟨hmem, halive⟩ := List.mem_filter.mp hq
      obtain ⟨hpid, rfl⟩ := Prod.mk.inj heq
      obtain ⟨j, hj⟩ := List.getElem?_of_mem hmem
      -- the process that runs under the identifier is this one
      obtain rfl := h.unique j id q p hj hp (h.alive q hmem halive) hpresent hpid
      obtain rfl : q = p := Option.some.inj (hj.symm.trans hp)
      cases kind with
      | tier2 currentPid =>
        have htier2 := htargets.2.2
        rw [htier] at htier2
        cases htier2
      | cef =>
        have hcef : toLowercase q.name = "riotclientux.exe" ∨
            toLowercase q.name = "riotclientuxrender.exe" := by
          simpa [isCefName] using htargets.1
        rw [classifyProcess] at htier
        rcases hcef with hname | hname <;> rw [hname] at htier <;> revert htier <;> decide
    · cases hphase
    · cases hphase
  held := nofun
  pending := nofun
  phase := rfl

/-- Flags of one object change, which no sweep holds unless it stays present. -/
theorem modify (h : s.Sound) {f : ProcessObject → ProcessObject} {id : ℕ}
    {windows : List (ℕ × ℕ)} (hf : ∀ p, (f p).toProcess = p.toProcess)
    (hpresent : ∀ p, (f p).present = true → p.present = true)
    (halive : ∀ p, s.objects[id]? = some p → (f p).alive = true → (f p).present = true)
    (hkept : ∀ sweep ∈ s.sweeps, id ∈ sweep.handles → ∀ p, p.present = true → (f p).present = true)
    (hwindows : ∀ w ∈ windows, w ∈ s.windows ∧
      (w.2 = id → ∀ p, p.alive = true → (f p).alive = true))
    (hhwnds : (windows.map (·.1)).Nodup) :
    Sound { s with objects := s.objects.modify id f, windows } := by
  have hpersist : Persist s.objects (s.objects.modify id f) := persist_modify hf id
  -- a protected process of the new system is one of the old
  have hold : ∀ (j : ℕ) (p' : ProcessObject), (s.objects.modify id f)[j]? = some p' →
      ∃ p, s.objects[j]? = some p ∧ p'.toProcess = p.toProcess ∧
        (p'.present = true → p.present = true) := by
    intro j p' hp'
    obtain ⟨p, hp, ⟨rfl, -⟩ | ⟨rfl, -⟩⟩ := of_getElem?_modify hp'
    · exact ⟨p, hp, hf p, hpresent p⟩
    · exact ⟨p', hp, rfl, fun h => h⟩
  constructor
  case unique =>
    intro i j p' q' hi hj hpi hpj hpid
    obtain ⟨p, hp, hdata, hpres⟩ := hold i p' hi
    obtain ⟨q, hq, hdata', hpres'⟩ := hold j q' hj
    rw [hdata, hdata'] at hpid
    exact h.unique i j p q hp hq (hpres hpi) (hpres' hpj) hpid
  case alive =>
    intro p' hmem
    obtain ⟨j, hj⟩ := List.getElem?_of_mem hmem
    obtain ⟨p, hp, ⟨rfl, rfl⟩ | ⟨rfl, -⟩⟩ := of_getElem?_modify hj
    · exact halive p hp
    · exact h.alive p' (List.mem_of_getElem? hp)
  case windows =>
    intro w hw
    obtain ⟨hmem, hkeeps⟩ := hwindows w hw
    obtain ⟨p, hp, hpalive⟩ := h.windows w hmem
    show ∃ p', (s.objects.modify id f)[w.2]? = some p' ∧ _
    rw [List.getElem?_modify, hp]
    by_cases hid : id = w.2
    · exact ⟨f p, by simp [hid], hkeeps hid.symm p hpalive⟩
    · exact ⟨p, by simp [hid], hpalive⟩
  case hwnds => exact hhwnds
  case sweeps =>
    intro sweep hmem
    have hsweep := h.sweeps sweep hmem
    apply hsweep.mono hpersist
    · intro j p' hp' hpres htier
      obtain ⟨p, hp, hdata, hback⟩ := hold j p' hp'
      rw [hdata] at htier ⊢
      exact hsweep.awaits j p hp (hback hpres) htier
    · intro j hj p' hp'
      obtain ⟨p, hp, ⟨rfl, rfl⟩ | ⟨rfl, -⟩⟩ := of_getElem?_modify hp'
      · exact hkept sweep hmem hj p (hsweep.held id hj p hp)
      · exact hsweep.held j hj p' hp
    · intro w hw hpending
      obtain ⟨hmem, -⟩ := hwindows w hw
      obtain ⟨p, hp, -⟩ := h.windows w hmem
      rw [hpersist.isTier0_iff hp]
      exact hsweep.pending w hmem hpending
  case touched =>
    intro t ht
    obtain ⟨p, hp, hnot⟩ := h.touched t ht
    obtain ⟨p', hp', -, hnot'⟩ := hpersist.untouchable hp hnot
    exact ⟨p', hp', hnot'⟩

theorem exitProcess (h : s.Sound) (id : ℕ) : (s.exitProcess id).Sound := by
  have hwindows : ∀ w ∈ s.windows.filter (fun w => w.2 ≠ id), w ∈ s.windows ∧
      (w.2 = id → ∀ p : ProcessObject, p.alive = true → false = true) := by
    intro w hw
    obtain ⟨hmem, hne⟩ := List.mem_filter.mp hw
    exact ⟨hmem, fun heq => absurd heq (by simpa using hne)⟩
  exact h.modify (f := fun p => { p with alive := false }) (fun _ => rfl) (fun _ h => h)
    (fun _ _ => nofun) (fun _ _ _ _ h => h) hwindows (h.hwnds.sublist (List.filter_sublist.map _))

/-- The last handle to an exited process goes. -/
theorem vanish (h : s.Sound) {id : ℕ} (hexited : ∀ p, s.objects[id]? = some p → p.alive = false)
    (hfree : ∀ sweep ∈ s.sweeps, id ∉ sweep.handles) :
    Sound { s with objects := s.objects.modify id fun p => { p with present := false } } := by
  apply h.modify (f := fun p => { p with present := false }) (fun _ => rfl) (fun _ => nofun)
  · intro p hp halive
    rw [hexited p hp] at halive
    cases halive
  · exact fun sweep hmem hheld => absurd hheld (hfree sweep hmem)
  · exact fun w hw => ⟨hw, fun _ _ halive => halive⟩
  · exact h.hwnds

theorem openWindow (h : s.Sound) {hwnd id : ℕ}
    (halive : ∃ p : ProcessObject, s.objects[id]? = some p ∧ p.alive = true)
    (hfree : windowOwner s.windows hwnd = none)
    (hharmless : IsTier0 s.objects id → ∀ sweep ∈ s.sweeps, hwnd ∉ sweep.pending) :
    Sound { s with windows := s.windows ++ [(hwnd, id)] } where
  unique := h.unique
  alive := h.alive
  windows w hw := by
    rcases List.mem_append.mp hw with hold | hnew
    · exact h.windows w hold
    · rw [List.mem_singleton.mp hnew]
      exact halive
  hwnds := by
    rw [List.map_append, List.map_singleton]
    apply List.Nodup.append h.hwnds (List.nodup_singleton _)
    rw [List.disjoint_singleton]
    intro hmem
    obtain ⟨w, hw, rfl⟩ := List.mem_map.mp hmem
    have hnone := List.find?_eq_none.mp (Option.map_eq_none_iff.mp hfree) w hw
    simp at hnone
  sweeps sweep hmem := by
    have hsweep := h.sweeps sweep hmem
    apply hsweep.mono (fun _ p hp => ⟨p, hp, rfl⟩) hsweep.awaits hsweep.held
    intro w hw hpending htier
    rcases List.mem_append.mp hw with hold | hnew
    · exact hsweep.pending w hold hpending htier
    · rw [List.mem_singleton.mp hnew] at hpending htier
      exact hharmless htier sweep hmem hpending
  touched := h.touched

theorem closeWindow (h : s.Sound) (hwnd : ℕ) :
    Sound { s with windows := s.windows.filter fun w => w.1 ≠ hwnd } where
  unique := h.unique
  alive := h.alive
  windows w hw := h.windows w (List.mem_filter.mp hw).1
  hwnds := h.hwnds.sublist (List.filter_sublist.map _)
  sweeps sweep hmem := by
    have hsweep := h.sweeps sweep hmem
    exact hsweep.mono (fun _ p hp => ⟨p, hp, rfl⟩) hsweep.awaits hsweep.held
      fun w hw => hsweep.pending w (List.mem_filter.mp hw).1
  touched := h.touched

theorem setSweep (h : s.Sound) (i : ℕ) {sweep : Sweep} (hsweep : sweep.Sound s.objects s.windows) :
    (s.setSweep i sweep).Sound where
  unique := h.unique
  alive := h.alive
  windows := h.windows
  hwnds := h.hwnds
  sweeps sweep' hmem := by
    rcases List.mem_or_eq_of_mem_set hmem with hold | rfl
    · exact h.sweeps sweep' hold
    · exact hsweep
  touched := h.touched

theorem touch (h : s.Sound) {touched : List (Touch × ℕ)} (htouched : ∀ t ∈ touched,
    ∃ p : ProcessObject, s.objects[t.2]? = some p ∧ ¬ IsTier0 s.objects t.2) :
    Sound { s with touched := s.touched ++ touched } where
  unique := h.unique
  alive := h.alive
  windows := h.windows
  hwnds := h.hwnds
  sweeps := h.sweeps
  touched t ht := by
    rcases List.mem_append.mp ht with hold | hnew
    · exact h.touched t hold
    · exact htouched t hnew

/-- A new process, which no sweep awaits if it is protected. -/
theorem startProcess (h : s.Sound) {p : Process}
    (hfree : ∀ q ∈ s.objects, q.present = true → q.pid ≠ p.pid)
    (hp : classifyProcess p.name = .tier0Protected → ∀ sweep ∈ s.sweeps, ¬ sweep.Awaits p) :
    Sound { s with objects := s.objects ++ [⟨p, true, true⟩] } := by
  have hpersist : Persist s.objects (s.objects ++ [⟨p, true, true⟩]) := by
    intro id q hq
    have hlt := (List.getElem?_eq_some_iff.mp hq).1
    exact ⟨q, by rw [List.getElem?_append_left hlt, hq], rfl⟩
  -- Every object is an old one with its number, or the new one at the end.
  have hsource : ∀ (id : ℕ) (q : ProcessObject), (s.objects ++ [⟨p, true, true⟩])[id]? = some q →
      s.objects[id]? = some q ∨ id = s.objects.length ∧ q = ⟨p, true, true⟩ := by
    intro id q hq
    rw [List.getElem?_append] at hq
    split at hq
    · exact .inl hq
    · rw [List.getElem?_singleton] at hq
      split at hq
      · exact .inr ⟨by omega, (Option.some.inj hq).symm⟩
      · cases hq
  constructor
  case unique =>
    intro i j q r hi hj hqpresent hrpresent hpid
    rcases hsource i q hi with hq | ⟨rfl, rfl⟩
    · rcases hsource j r hj with hr | ⟨rfl, rfl⟩
      · exact h.unique i j q r hq hr hqpresent hrpresent hpid
      · exact absurd hpid (hfree q (List.mem_of_getElem? hq) hqpresent)
    · rcases hsource j r hj with hr | ⟨rfl, rfl⟩
      · exact absurd hpid.symm (hfree r (List.mem_of_getElem? hr) hrpresent)
      · rfl
  case alive =>
    intro q hmem halive
    rcases List.mem_append.mp hmem with hold | hnew
    · exact h.alive q hold halive
    · rw [List.mem_singleton.mp hnew]
  case windows =>
    intro w hw
    obtain ⟨q, hq, halive⟩ := h.windows w hw
    have hlt := (List.getElem?_eq_some_iff.mp hq).1
    exact ⟨q, by rw [List.getElem?_append_left hlt, hq], halive⟩
  case hwnds => exact h.hwnds
  case sweeps =>
    -- The only thing that a sweep has not seen is the new process, which none of them awaits.
    intro sweep hmem
    have hsweep := h.sweeps sweep hmem
    apply hsweep.mono hpersist
    · intro id q hq hpresent htier
      rcases hsource id q hq with hold | ⟨-, rfl⟩
      · exact hsweep.awaits id q hold hpresent htier
      · exact hp htier sweep hmem
    · intro id hid q hq
      rcases hsource id q hq with hold | ⟨-, rfl⟩
      · exact hsweep.held id hid q hold
      · rfl
    · intro w hw hpending
      obtain ⟨q, hq, -⟩ := h.windows w hw
      rw [hpersist.isTier0_iff hq]
      exact hsweep.pending w hw hpending
  case touched =>
    intro t ht
    obtain ⟨q, hq, hnot⟩ := h.touched t ht
    obtain ⟨q', hq', -, hnot'⟩ := hpersist.untouchable hq hnot
    exact ⟨q', hq', hnot'⟩

end ProcessSystem.Sound

/-! ### The calls of a sweep -/

section Calls

variable {s : ProcessSystem} {sweep : Sweep}

theorem openProcess_eq_some {pid : UInt32} {id : ℕ} (h : s.openProcess pid = some id) :
    ∃ p : ProcessObject, s.objects[id]? = some p ∧ p.present = true ∧ p.pid = pid := by
  obtain ⟨hlt, hp, -⟩ := List.findIdx?_eq_some_iff_getElem.mp h
  simp only [Bool.and_eq_true, decide_eq_true_eq] at hp
  exact ⟨s.objects[id], List.getElem?_eq_getElem hlt, hp.1, hp.2⟩

theorem windowPid_eq_some {hwnd : ℕ} {pid : UInt32} (h : s.windowPid hwnd = some pid) :
    ∃ id, (hwnd, id) ∈ s.windows ∧ ∃ p : ProcessObject, s.objects[id]? = some p ∧ p.pid = pid := by
  obtain ⟨id, howner, hpid⟩ := Option.bind_eq_some_iff.mp h
  obtain ⟨p, hp, rfl⟩ := Option.map_eq_some_iff.mp hpid
  exact ⟨id, windowOwner_eq_some howner, p, hp, rfl⟩

/-- A sweep that awaits no more than before. -/
theorem Sweep.Sound.less {sweep' : Sweep} (hsweep : sweep.Sound s.objects s.windows)
    (hawaits : ∀ p, sweep'.Awaits p → sweep.Awaits p)
    (hheld : ∀ id ∈ sweep'.handles, ∀ p : ProcessObject, s.objects[id]? = some p → p.present = true)
    (hpending : ∀ w ∈ s.windows, w.1 ∈ sweep'.pending → ¬ IsTier0 s.objects w.2)
    (hphase : sweep'.PhaseSound s.objects) : sweep'.Sound s.objects s.windows :=
  ⟨fun id p hp hpresent htier h => hsweep.awaits id p hp hpresent htier (hawaits _ h), hheld,
    hpending, hphase⟩

/-- What only the entries make a sweep wait for, it waits for in every phase. -/
theorem Sweep.awaits_of_entries {sweep' : Sweep} (hkind : sweep'.kind = sweep.kind)
    (hentries : ∀ e ∈ sweep'.entries, e ∈ sweep.entries)
    (hverifying : ∀ pid exe, sweep'.phase ≠ .verifying pid exe)
    (hopening : ∀ pid, sweep'.phase = .opening pid → sweep'.checkHandle ≠ none) (p : Process)
    (h : sweep'.Awaits p) : sweep.Awaits p := by
  rcases h with ⟨name, hentry, htargets⟩ | ⟨exe, hphase, -⟩ | ⟨hphase, hcheck⟩
  · exact .inl ⟨name, hentries _ hentry, hkind ▸ htargets⟩
  · exact absurd hphase (hverifying _ exe)
  · exact absurd hcheck (hopening _ hphase)

theorem Sweep.Sound.next (hsweep : sweep.Sound s.objects s.windows) :
    sweep.next.Sound s.objects s.windows :=
  hsweep.less (awaits_of_entries rfl (fun _ h => h) (fun _ _ => nofun) fun _ => nofun)
    nofun nofun rfl

theorem Sweep.Sound.finish (hsweep : sweep.Sound s.objects s.windows) :
    Sweep.Sound s.objects s.windows { sweep with phase := .finished } := by
  apply hsweep.less
  · exact Sweep.awaits_of_entries rfl (fun _ h => h) (fun _ _ => nofun) fun _ => nofun
  · intro id hid
    apply hsweep.held id
    exact List.mem_append_left _ (by simpa [Sweep.handles] using hid)
  · exact nofun
  · trivial

/-- The next entry of the snapshot. -/
theorem Sweep.Sound.scan {entries : List (UInt32 × String)} {pid : UInt32} {name : String}
    (hsweep : sweep.Sound s.objects s.windows) (hscanning : sweep.phase = .scanning)
    (hentries : sweep.entries = (pid, name) :: entries) :
    (({ sweep with entries } : Sweep).scan pid name).Sound s.objects s.windows := by
  have hcheck : sweep.checkHandle = none := by
    have hphase := hsweep.phase
    rwa [Sweep.PhaseSound, hscanning] at hphase
  have hsub : ∀ e ∈ entries, e ∈ sweep.entries := fun e he => hentries ▸ List.mem_cons_of_mem _ he
  -- An entry that is passed over only shortens the list.
  have hskip : Sweep.Sound s.objects s.windows { sweep with entries } := by
    apply hsweep.less
    · apply Sweep.awaits_of_entries
      · rfl
      · exact hsub
      · intro _ _ h
        exact nomatch hscanning.symm.trans h
      · intro _ h
        exact nomatch hscanning.symm.trans h
    · exact hsweep.held
    · exact hsweep.pending
    · exact hsweep.phase
  obtain ⟨kind, all, phase, checkHandle⟩ := sweep
  dsimp only at hscanning hentries hcheck hsub
  subst hscanning hentries hcheck
  cases kind with
  | tier2 currentPid =>
    show (if _ then _ else _ : Sweep).Sound _ _
    split
    · next htarget =>
      unfold Sweep.terminate
      split
      · exact hskip.next
      · apply hsweep.less
        · rintro p (⟨other, hentry, htargets⟩ | ⟨exe, hphase, -⟩ | ⟨hphase, -⟩)
          · exact .inl ⟨other, List.mem_cons_of_mem _ hentry, htargets⟩
          · cases hphase
          · obtain rfl := SweepPhase.opening.inj hphase
            exact .inl ⟨name, List.mem_cons_self, htarget⟩
        · exact nofun
        · exact nofun
        · exact nofun
    · exact hskip
  | cef =>
    show (if _ then _ else _ : Sweep).Sound _ _
    split
    · next hname =>
      apply hsweep.less
      · rintro p (⟨other, hentry, htargets⟩ | ⟨exe, hphase, hpath⟩ | ⟨hphase, -⟩)
        · exact .inl ⟨other, List.mem_cons_of_mem _ hentry, htargets⟩
        · obtain ⟨rfl, rfl⟩ := SweepPhase.verifying.inj hphase
          exact .inl ⟨name, List.mem_cons_self, hname, hpath⟩
        · cases hphase
      · exact nofun
      · exact nofun
      · rfl
    · exact hskip

/-- The call of `terminate_process_gracefully` by `purge_riot_client_cef`, which keeps its
handle. -/
theorem Sweep.Sound.terminate {pid : UInt32} {exe : String} {id : ℕ} {p : ProcessObject}
    (hsweep : sweep.Sound s.objects s.windows) (hcheck : sweep.checkHandle = some id)
    (hp : s.objects[id]? = some p) (hpid : p.pid = pid) (hnot : ¬ IsTier0 s.objects id) :
    (sweep.terminate pid exe).Sound s.objects s.windows := by
  unfold Sweep.terminate
  split
  · exact hsweep.next
  · apply hsweep.less
    · apply Sweep.awaits_of_entries
      · rfl
      · exact fun _ h => h
      · exact fun _ _ => nofun
      · intro _ _ hnone
        cases hcheck.symm.trans hnone
    · intro id' hid'
      apply hsweep.held id'
      rw [Sweep.handles] at hid' ⊢
      exact List.mem_append_left _ (by simpa using hid')
    · exact nofun
    · intro id' hid'
      obtain rfl : id = id' := Option.some.inj (hcheck.symm.trans hid')
      exact ⟨p, hp, hpid, hnot⟩

theorem Sweep.Sound.verify {pid : UInt32} {exe : String} {id : ℕ} {p : ProcessObject}
    (hsweep : sweep.Sound s.objects s.windows) (hverifying : sweep.phase = .verifying pid exe)
    (hp : s.objects[id]? = some p) (hpresent : p.present = true) (hpid : p.pid = pid) :
    Sweep.Sound s.objects s.windows
      { sweep with phase := .verified pid exe, checkHandle := some id } := by
  apply hsweep.less
  · exact Sweep.awaits_of_entries rfl (fun _ h => h) (fun _ _ => nofun) fun _ => nofun
  · intro id' hid' p' hp'
    obtain rfl : id' = id := by simpa [Sweep.handles] using hid'
    obtain rfl : p = p' := Option.some.inj (hp.symm.trans hp')
    exact hpresent
  · exact nofun
  · refine ⟨id, p, rfl, hp, hpid, ?_⟩
    rintro hpath ⟨p', hp', htier⟩
    obtain rfl : p = p' := Option.some.inj (hp.symm.trans hp')
    -- the sweep awaits a process with this path
    apply hsweep.awaits id p hp hpresent htier
    exact .inr (.inl ⟨exe, hpid ▸ hverifying, hpath⟩)

theorem Sweep.Sound.open (h : s.Sound) {pid : UInt32} {id : ℕ} {p : ProcessObject}
    (hsweep : sweep.Sound s.objects s.windows) (hopening : sweep.phase = .opening pid)
    (hp : s.objects[id]? = some p) (hpresent : p.present = true) (hpid : p.pid = pid) :
    Sweep.Sound s.objects s.windows { sweep with phase := .enumerating pid id [] } := by
  apply hsweep.less
  · exact Sweep.awaits_of_entries rfl (fun _ h => h) (fun _ _ => nofun) fun _ => nofun
  · intro id' hid' p' hp'
    rcases List.mem_append.mp hid' with hcheck | hid'
    · exact hsweep.held id' (List.mem_append_left _ hcheck) p' hp'
    · obtain rfl := List.mem_singleton.mp hid'
      obtain rfl : p = p' := Option.some.inj (hp.symm.trans hp')
      exact hpresent
  · exact nofun
  · refine ⟨p, hp, hpid, ?_⟩
    cases hcheck : sweep.checkHandle with
    | none =>
      rintro ⟨p', hp', htier⟩
      obtain rfl : p = p' := Option.some.inj (hp.symm.trans hp')
      exact hsweep.awaits id p hp hpresent htier (.inr (.inr ⟨hpid ▸ hopening, hcheck⟩))
    | some id' =>
      -- the handle that is kept open pins the identifier
      have hphase := hsweep.phase
      rw [Sweep.PhaseSound, hopening] at hphase
      obtain ⟨p', hp', hpid', hnot⟩ := hphase id' hcheck
      have hheld := hsweep.held id' (List.mem_append_left _ (by simp [hcheck])) p' hp'
      obtain rfl := h.unique id id' p p' hp hp' hpresent hheld (hpid.trans hpid'.symm)
      exact hnot

/-- A window of the process that is held. -/
theorem Sweep.Sound.find (h : s.Sound) {pid : UInt32} {id hwnd : ℕ} {found : List ℕ}
    (hsweep : sweep.Sound s.objects s.windows)
    (henumerating : sweep.phase = .enumerating pid id found)
    (hwindow : s.windowPid hwnd = some pid) :
    Sweep.Sound s.objects s.windows
      { sweep with phase := .enumerating pid id (found ++ [hwnd]) } := by
  have hphase := hsweep.phase
  rw [Sweep.PhaseSound, henumerating] at hphase
  obtain ⟨p, hp, hpid, hnot⟩ := hphase
  have hheld := hsweep.held id (by simp [Sweep.handles, henumerating]) p hp
  apply hsweep.less
  · exact Sweep.awaits_of_entries rfl (fun _ h => h) (fun _ _ => nofun) fun _ => nofun
  · intro id' hid'
    apply hsweep.held id'
    rw [Sweep.handles, henumerating]
    exact hid'
  · intro w hw hpending
    rcases List.mem_append.mp hpending with hold | hnew
    · apply hsweep.pending w hw
      rw [Sweep.pending, henumerating]
      exact hold
    · obtain ⟨o, howner, q, hq, hqpid⟩ := windowPid_eq_some hwindow
      obtain rfl : w.2 = o := by
        have hw' : w = (hwnd, o) := List.inj_on_of_nodup_map h.hwnds hw howner
          (List.mem_singleton.mp hnew)
        rw [hw']
      -- its process runs, so that it is the one which is held
      obtain ⟨q', hq', halive⟩ := h.windows w hw
      obtain rfl : q = q' := Option.some.inj (hq.symm.trans hq')
      have hpresent := h.alive q (List.mem_of_getElem? hq) halive
      obtain rfl := h.unique w.2 id q p hq hp hpresent hheld (hqpid.trans hpid.symm)
      exact hnot
  · exact ⟨p, hp, hpid, hnot⟩

/-- A later phase with the same process, whose windows are among those found. -/
theorem Sweep.Sound.proceed {phase : SweepPhase} {id : ℕ} {p : ProcessObject}
    (hsweep : sweep.Sound s.objects s.windows) (hmem : id ∈ sweep.handles)
    (hp : s.objects[id]? = some p) (hnot : ¬ IsTier0 s.objects id)
    (hphase : phase = .posting id (Sweep.pending { sweep with phase }) ∨ phase = .waiting id ∨
      phase = .forcing id)
    (hpending : ∀ hwnd ∈ Sweep.pending { sweep with phase }, hwnd ∈ sweep.pending) :
    Sweep.Sound s.objects s.windows { sweep with phase } := by
  have hplain : (∀ pid exe, phase ≠ .verifying pid exe) ∧ ∀ pid, phase ≠ .opening pid := by
    rcases hphase with h | h | h <;> rw [h] <;> exact ⟨fun _ _ => nofun, fun _ => nofun⟩
  apply hsweep.less
  · exact Sweep.awaits_of_entries rfl (fun _ h => h) hplain.1 fun pid h => absurd h (hplain.2 pid)
  · intro id' hid' p' hp'
    rcases List.mem_append.mp hid' with hcheck | hid'
    · exact hsweep.held id' (List.mem_append_left _ hcheck) p' hp'
    · have hsame : id' = id := by
        rcases hphase with h | h | h <;> rw [h] at hid' <;> exact List.mem_singleton.mp hid'
      exact hsweep.held id' (hsame ▸ hmem) p' hp'
  · exact fun w hw hpend => hsweep.pending w hw (hpending w.1 hpend)
  · rw [Sweep.PhaseSound]
    rcases hphase with h | h | h <;> rw [h] <;> exact ⟨p, hp, hnot⟩

end Calls

/-! ### Runs -/

namespace ProcessSystem.Sound

variable {s s' : ProcessSystem}

theorem advance (h : s.Sound) {i : ℕ} {sweep : Sweep} {answer : SweepAnswer}
    (hi : s.sweeps[i]? = some sweep) (hstep : s.advance i sweep answer = some s') : s'.Sound := by
  have hsweep := h.sweeps sweep (List.mem_of_getElem? hi)
  have hphase := hsweep.phase
  rw [ProcessSystem.advance] at hstep
  rw [Sweep.PhaseSound] at hphase
  cases hp : sweep.phase with
  | scanning =>
    rw [hp] at hstep
    dsimp only at hstep
    cases hentries : sweep.entries with
    | nil =>
      rw [hentries] at hstep
      obtain rfl := Option.some.inj hstep
      have hfinish := hsweep.finish
      rw [hentries] at hfinish
      exact h.setSweep i hfinish
    | cons e entries =>
      obtain ⟨pid, name⟩ := e
      rw [hentries] at hstep
      obtain rfl := Option.some.inj hstep
      have hscan := hsweep.scan hp hentries
      rw [hp] at hscan
      exact h.setSweep i hscan
  | verifying pid exe =>
    rw [hp] at hstep
    dsimp only at hstep
    split at hstep
    · next id hopen =>
      -- the handle is one of an object that has the pid of the entry now
      obtain rfl := Option.some.inj hstep
      split at hopen
      · obtain ⟨p, hp', hpresent, hpid⟩ := openProcess_eq_some hopen
        exact h.setSweep i (hsweep.verify hp hp' hpresent hpid)
      · cases hopen
    · obtain rfl := Option.some.inj hstep
      exact h.setSweep i hsweep.next
  | verified pid exe =>
    rw [hp] at hstep hphase
    obtain ⟨id, p, hcheck, hp', hpid, hnot⟩ := hphase
    dsimp only at hstep
    rw [hcheck, Option.bind_some, hp', Option.bind_some] at hstep
    split at hstep
    · next hpath =>
      obtain rfl := Option.some.inj hstep
      exact h.setSweep i (hsweep.terminate hcheck hp' hpid (hnot hpath))
    · obtain rfl := Option.some.inj hstep
      exact h.setSweep i hsweep.next
  | opening pid =>
    rw [hp] at hstep
    dsimp only at hstep
    split at hstep
    · next id hopen =>
      obtain rfl := Option.some.inj hstep
      split at hopen
      · obtain ⟨p, hp', hpresent, hpid⟩ := openProcess_eq_some hopen
        exact h.setSweep i (Sweep.Sound.open h hsweep hp hp' hpresent hpid)
      · cases hopen
    · obtain rfl := Option.some.inj hstep
      exact h.setSweep i hsweep.next
  | enumerating pid id found =>
    rw [hp] at hstep hphase
    obtain ⟨p, hp', -, hnot⟩ := hphase
    dsimp only at hstep
    split at hstep
    · split at hstep
      · next hwindow =>
        obtain rfl := Option.some.inj hstep
        exact h.setSweep i (Sweep.Sound.find h hsweep hp hwindow)
      · obtain rfl := Option.some.inj hstep
        exact h
    · obtain rfl := Option.some.inj hstep
      apply h.setSweep i
      apply hsweep.proceed (by simp [Sweep.handles, hp]) hp' hnot (.inl rfl)
      simp [Sweep.pending, hp]
  | posting id left =>
    rw [hp] at hstep hphase
    obtain ⟨p, hp', hnot⟩ := hphase
    have hmem : id ∈ sweep.handles := by simp [Sweep.handles, hp]
    cases left with
    | nil =>
      obtain rfl := Option.some.inj hstep
      exact h.setSweep i (hsweep.proceed hmem hp' hnot (.inr (.inl rfl)) nofun)
    | cons hwnd left =>
      obtain rfl := Option.some.inj hstep
      have hpost := h.setSweep i (hsweep.proceed hmem hp' hnot (.inl rfl)
        (by simp +contextual [Sweep.pending, hp]) :
          Sweep.Sound _ _ { sweep with phase := .posting id left })
      -- the message goes to the owner of the window, which the sweep found
      apply hpost.touch
      intro t ht
      obtain ⟨o, ho, rfl⟩ := List.mem_map.mp ht
      have hwindow := windowOwner_eq_some (Option.mem_toList.mp ho)
      obtain ⟨q, hq, -⟩ := h.windows _ hwindow
      exact ⟨q, hq, hsweep.pending _ hwindow (by simp [Sweep.pending, hp])⟩
  | waiting id =>
    rw [hp] at hstep hphase
    obtain ⟨p, hp', hnot⟩ := hphase
    dsimp only at hstep
    split at hstep
    · obtain rfl := Option.some.inj hstep
      exact h.setSweep i (hsweep.proceed (by simp [Sweep.handles, hp]) hp' hnot (.inr (.inr rfl))
        nofun)
    · obtain rfl := Option.some.inj hstep
      exact h.setSweep i hsweep.next
  | forcing id =>
    rw [hp] at hstep hphase
    obtain ⟨p, hp', hnot⟩ := hphase
    obtain rfl := Option.some.inj hstep
    -- the object is entered as touched, and then it may go
    have htouch : Sound { s.setSweep i sweep.next with
        touched := s.touched ++ [(.terminate, id)] } := by
      apply (h.setSweep i hsweep.next).touch
      intro t ht
      rw [List.mem_singleton.mp ht]
      exact ⟨p, hp', hnot⟩
    dsimp only
    split
    · exact htouch.exitProcess id
    · exact htouch
  | finished =>
    rw [hp] at hstep
    cases hstep

/-- **One event.** -/
theorem step (h : s.Sound) {e : SweepEvent} (he : e.Harmless s)
    (hstep : ProcessSystem.step e s = some s') :
    s'.Sound := by
  -- One lemma for each event; what is left here is that its guard holds.
  cases e with
  | sweepStarts kind =>
    obtain rfl := Option.some.inj hstep
    exact {
      unique := h.unique
      alive := h.alive
      windows := h.windows
      hwnds := h.hwnds
      sweeps := by
        intro sweep hmem
        rcases List.mem_append.mp hmem with hold | hnew
        · exact h.sweeps sweep hold
        · rw [List.mem_singleton.mp hnew]
          exact h.start kind
      touched := h.touched }
  | processStarts p =>
    rw [ProcessSystem.step] at hstep
    split at hstep
    · cases hstep
    · next hfree =>
      obtain rfl := Option.some.inj hstep
      apply h.startProcess _ he
      intro q hq hpresent hpid
      apply hfree
      rw [List.any_eq_true]
      exact ⟨q, hq, by simp [hpresent, hpid]⟩
  | processExits id =>
    obtain rfl := Option.some.inj hstep
    exact h.exitProcess id
  | objectVanishes id =>
    rw [ProcessSystem.step] at hstep
    split at hstep
    · cases hstep
    · next hfree =>
      obtain rfl := Option.some.inj hstep
      simp only [Bool.or_eq_true, not_or, Bool.not_eq_true, List.any_eq_false,
        decide_eq_true_eq] at hfree
      apply h.vanish _ hfree.2
      intro p hp
      simpa [hp] using hfree.1
  | windowOpens hwnd id =>
    rw [ProcessSystem.step] at hstep
    split at hstep
    · next hopen =>
      obtain rfl := Option.some.inj hstep
      rw [Bool.and_eq_true, Option.isNone_iff_eq_none, Option.any_eq_true] at hopen
      exact h.openWindow hopen.1 hopen.2 he
    · cases hstep
  | windowCloses hwnd =>
    obtain rfl := Option.some.inj hstep
    exact h.closeWindow hwnd
  | advances i answer =>
    rw [ProcessSystem.step] at hstep
    split at hstep
    · next sweep hi => exact h.advance hi hstep
    · cases hstep

end ProcessSystem.Sound

/-- A system before the first sweep: the running processes with their windows. -/
structure ProcessSystem.Initial (s : ProcessSystem) : Prop where
  unique : ∀ (i j : ℕ) (p q : ProcessObject), s.objects[i]? = some p → s.objects[j]? = some q →
    p.present = true → q.present = true → p.pid = q.pid → i = j
  alive : ∀ p ∈ s.objects, p.alive = true → p.present = true
  windows : ∀ w ∈ s.windows, ∃ p : ProcessObject, s.objects[w.2]? = some p ∧ p.alive = true
  hwnds : (s.windows.map (·.1)).Nodup
  sweeps : s.sweeps = []
  touched : s.touched = []

theorem ProcessSystem.Initial.sound {s : ProcessSystem} (h : s.Initial) : s.Sound where
  unique := h.unique
  alive := h.alive
  windows := h.windows
  hwnds := h.hwnds
  sweeps := by
    rw [h.sweeps]
    exact nofun
  touched := by
    rw [h.touched]
    exact nofun

/-- **Protected processes are spared** in every run in which none of them gets into the way of a
sweep. -/
theorem tier0_spared {s : ProcessSystem} (hs : s.Initial) {events : List SweepEvent}
    (h : Each ProcessSystem.step SweepEvent.Harmless events s) :
    Always ProcessSystem.step ProcessSystem.Spared events s :=
  always_of_each (fun _ hs => hs.spared) (fun _ _ _ hs he hstep => hs.step he hstep) hs.sound h

/-- A browser, before any sweep. -/
def ProcessSystem.browser : ProcessSystem :=
  ⟨[⟨⟨8, "chrome.exe", none⟩, true, true⟩], [(1, 0)], [], []⟩

theorem ProcessSystem.initial_browser : browser.Initial where
  unique i j p q hi hj _ _ _ := by
    have hlt := (List.getElem?_eq_some_iff.mp hi).1
    have hlt' := (List.getElem?_eq_some_iff.mp hj).1
    simp only [browser, List.length_singleton] at hlt hlt'
    omega
  alive p hp _ := by
    rw [List.mem_singleton.mp hp]
  windows w hw := by
    rw [List.mem_singleton.mp hw]
    exact ⟨_, rfl, rfl⟩
  hwnds := List.nodup_singleton _
  sweeps := rfl
  touched := rfl

/-- An answer without windows. -/
def SweepAnswer.plain : SweepAnswer := ⟨true, none, false⟩

/-- The browser is closed, and another one started. -/
theorem tier0_spared_browser : Always ProcessSystem.step ProcessSystem.Spared
    [.sweepStarts (.tier2 4000), .advances 0 .plain, .processStarts ⟨12, "chrome.exe", none⟩,
      .advances 0 .plain, .advances 0 ⟨true, some 1, false⟩, .advances 0 .plain, .advances 0 .plain]
    .browser := by
  apply tier0_spared ProcessSystem.initial_browser
  have hchrome : classifyProcess "chrome.exe" ≠ .tier0Protected := by decide +kernel
  exact fun _ _ => ⟨trivial, fun _ _ => ⟨trivial, fun _ _ => ⟨fun h => absurd h hchrome, fun _ _ =>
    ⟨trivial, fun _ _ => ⟨trivial, fun _ _ => ⟨trivial, fun _ _ => ⟨trivial, trivial⟩⟩⟩⟩⟩⟩⟩

/-- The browser exits before it is opened, and the Vanguard service gets its identifier. -/
def reuseEvents : List SweepEvent :=
  [.sweepStarts (.tier2 4000), .advances 0 .plain, .processExits 0, .objectVanishes 0,
    .processStarts ⟨8, "vgc.exe", none⟩, .advances 0 .plain, .advances 0 .plain, .advances 0 .plain,
    .advances 0 .plain, .advances 0 .plain]

/-- A protected process is terminated. -/
theorem tier0_terminated : ¬ ∀ (s : ProcessSystem) (events : List SweepEvent), s.Initial →
    Always ProcessSystem.step ProcessSystem.Spared events s := by
  intro h
  have hrun : (exec ProcessSystem.step reuseEvents .browser).any (fun s =>
      (.terminate, 1) ∈ s.touched ∧ IsTier0 s.objects 1) = true := by decide +kernel
  obtain ⟨s, hexec, hs⟩ := (Option.any_eq_true ..).mp hrun
  obtain ⟨htouched, htier⟩ := of_decide_eq_true hs
  exact (h .browser reuseEvents ProcessSystem.initial_browser).of_exec hexec _ htouched htier

end ValOpt
