import ValOpt.Hardware.Manifest

/-!
# What the manifest says is primary

`max_by_key` keeps the last of the best (`maxByKey_eq_some_iff`).  Where Windows answers the same
both times, the inspection succeeds just if there is a processor, a hardware graphics adapter, an
attached display that is the primary one, memory, and an active Ethernet or wireless adapter; one
part that is missing, such as the network, ends the whole inspection.  The primary entries are then
the best of their lists.  The `is_primary` of a graphics adapter means something else: that it is
the first one, which the primary adapter is just if it has more memory than all others
(`inspect_unchanged`).
-/

namespace ValOpt

/-! ### The last of the best -/

section MaxByKey

variable {α κ : Type*} [LinearOrder κ] {key : α → κ}

theorem maxByKey_cons (a : α) (l : List α) : maxByKey key (a :: l) =
    some ((maxByKey key l).elim a fun b => if key b < key a then a else b) := by
  unfold maxByKey
  rw [List.reverse_cons, List.argmax_concat]
  cases l.reverse.argmax key with
  | none => rfl
  | some b =>
    show (if key b < key a then some a else some b) = some (if key b < key a then a else b)
    split <;> rfl

theorem maxByKey_eq_none_iff {l : List α} : maxByKey key l = none ↔ l = [] := by
  rw [maxByKey, List.argmax_eq_none, List.reverse_eq_nil_iff]

/-- The elements in front are not better, and those behind are worse. -/
theorem maxByKey_eq_some {l : List α} {a : α} (h : maxByKey key l = some a) :
    ∃ front rest, l = front ++ a :: rest ∧ (∀ b ∈ front, key b ≤ key a) ∧
      ∀ b ∈ rest, key b < key a := by
  induction l generalizing a with
  | nil => cases h
  | cons b l ih =>
    rw [maxByKey_cons, Option.some.injEq] at h
    cases hl : maxByKey key l with
    | none =>
      rw [hl] at h
      obtain rfl := maxByKey_eq_none_iff.mp hl
      exact ⟨[], [], by rw [← h]; rfl, by simp, by simp⟩
    | some c =>
      rw [hl] at h
      obtain ⟨front, rest, rfl, hfront, hrest⟩ := ih hl
      rw [Option.elim_some] at h
      split at h
      · next hlt =>
        subst h
        refine ⟨[], front ++ c :: rest, rfl, by simp, fun d hd => ?_⟩
        rcases List.mem_append.mp hd with hd | hd
        · exact (hfront d hd).trans_lt hlt
        · rcases List.mem_cons.mp hd with rfl | hd
          · exact hlt
          · exact (hrest d hd).trans hlt
      · next hlt =>
        subst h
        refine ⟨b :: front, rest, rfl, fun d hd => ?_, hrest⟩
        rcases List.mem_cons.mp hd with rfl | hd
        · exact not_lt.mp hlt
        · exact hfront d hd

end MaxByKey

/-! ### Enumerations -/

/-- A hardware adapter. -/
def AdapterDesc.IsHardware (desc : AdapterDesc) : Prop := desc.flags &&& 2 = 0

theorem isSome_adapterAt (q : GraphicsQuery) (desc : Option AdapterDesc) (index : ℕ) :
    (q.adapterAt desc index).isSome = true ↔ ∃ d, desc = some d ∧ d.IsHardware := by
  cases desc with
  | none => simp [GraphicsQuery.adapterAt]
  | some d =>
    rw [GraphicsQuery.adapterAt, Option.bind_some]
    by_cases hflags : d.flags &&& 2 = 0 <;> simp [AdapterDesc.IsHardware, hflags]

/-- Just the first adapter is flagged. -/
theorem isPrimary_adapterAt {q : GraphicsQuery} {desc : Option AdapterDesc} {index : ℕ}
    {g : GpuInfo} (h : q.adapterAt desc index = some g) : g.isPrimary = decide (index = 0) := by
  obtain ⟨d, -, hd⟩ := Option.bind_eq_some_iff.mp h
  split at hd <;> cases hd
  rfl

/-- The adapters that are listed. -/
def GraphicsQuery.gpus (q : GraphicsQuery) : List GpuInfo :=
  q.adapters.zipIdx.filterMap fun (desc, index) => q.adapterAt desc index

theorem gpus_ne_nil_iff (q : GraphicsQuery) :
    q.gpus ≠ [] ↔ ∃ d, some d ∈ q.adapters ∧ d.IsHardware := by
  rw [GraphicsQuery.gpus, ne_eq, List.filterMap_eq_nil_iff]
  push Not
  constructor
  · rintro ⟨⟨desc, index⟩, hmem, hne⟩
    obtain ⟨d, rfl, hd⟩ := (isSome_adapterAt q desc index).mp (Option.isSome_iff_ne_none.mpr hne)
    exact ⟨d, List.fst_mem_of_mem_zipIdx hmem, hd⟩
  · rintro ⟨d, hmem, hd⟩
    obtain ⟨i, hi, hget⟩ := List.mem_iff_getElem.mp hmem
    refine ⟨(some d, i), ?_, ?_⟩
    · rw [List.mk_mem_zipIdx_iff_getElem?, List.getElem?_eq_getElem hi, hget]
    · exact Option.isSome_iff_ne_none.mp ((isSome_adapterAt q (some d) i).mpr ⟨d, rfl, hd⟩)

/-- No adapter is flagged behind another one. -/
theorem isPrimary_tail_gpus (q : GraphicsQuery) (g : GpuInfo) (hg : g ∈ q.gpus.tail) :
    g.isPrimary = false := by
  have hlater : ∀ (descs : List (Option AdapterDesc)) (n : ℕ) (g : GpuInfo),
      g ∈ (descs.zipIdx (n + 1)).filterMap (fun (desc, index) => q.adapterAt desc index) →
        g.isPrimary = false := by
    intro descs n g hg
    obtain ⟨⟨desc, index⟩, hmem, hadapter⟩ := List.mem_filterMap.mp hg
    have hindex := List.le_snd_of_mem_zipIdx hmem
    rw [isPrimary_adapterAt hadapter, decide_eq_false_iff_not]
    dsimp only at hindex
    omega
  unfold GraphicsQuery.gpus at hg
  cases hdescs : q.adapters with
  | nil =>
    rw [hdescs] at hg
    cases hg
  | cons desc descs =>
    rw [hdescs, List.zipIdx_cons, List.filterMap_cons] at hg
    split at hg
    · exact hlater descs 0 g (List.mem_of_mem_tail hg)
    · exact hlater descs 0 g hg

theorem GpuInfo.detectAll_eq_ok {q : GraphicsQuery} {gpus : List GpuInfo} :
    detectAll q = .ok gpus ↔ q.factory = .ok () ∧ q.gpus ≠ [] ∧ gpus = q.gpus := by
  unfold detectAll
  cases q.factory with
  | error e => simp
  | ok =>
    show (if q.gpus.isEmpty then _ else _) = _ ↔ _
    by_cases hnil : q.gpus = []
    · simp [hnil]
    · rw [if_neg (by rwa [List.isEmpty_iff]), Except.ok.injEq]
      constructor
      · rintro rfl
        exact ⟨rfl, hnil, rfl⟩
      · rintro ⟨-, -, rfl⟩
        rfl

theorem GpuInfo.detectPrimary_eq_ok {q : GraphicsQuery} {g : GpuInfo} :
    detectPrimary q = .ok g ↔
      q.factory = .ok () ∧ maxByKey (·.dedicatedVramMb.toNat) q.gpus = some g := by
  unfold detectPrimary
  constructor
  · intro h
    obtain ⟨gpus, hgpus, h⟩ := Effect.bind_eq_ok h
    obtain ⟨hfactory, -, rfl⟩ := detectAll_eq_ok.mp hgpus
    split at h <;> cases h
    exact ⟨hfactory, ‹_›⟩
  · rintro ⟨hfactory, hmax⟩
    have hne : q.gpus ≠ [] := by
      intro hnil
      rw [maxByKey_eq_none_iff.mpr hnil] at hmax
      cases hmax
    simp only [detectAll_eq_ok.mpr ⟨hfactory, hne, rfl⟩, bind, Except.bind, hmax]

theorem DisplayInfo.detectAll_eq_ok {devices : List DisplayDevice} {displays : List DisplayInfo} :
    detectAll devices = .ok displays ↔
      displays = devices.filterMap (·.info) ∧ displays ≠ [] := by
  unfold detectAll
  by_cases hnil : devices.filterMap (·.info) = []
  · simp only [hnil, List.isEmpty_nil, if_true, reduceCtorEq, false_iff, not_and, not_not, imp_self]
  · rw [if_neg (by rwa [List.isEmpty_iff]), Except.ok.injEq]
    constructor
    · rintro rfl
      exact ⟨rfl, hnil⟩
    · rintro ⟨rfl, -⟩
      rfl

theorem DisplayInfo.detectPrimary_eq_ok {devices : List DisplayDevice} {d : DisplayInfo} :
    detectPrimary devices = .ok d ↔ (devices.filterMap (·.info)).find? (·.isPrimary) = some d := by
  unfold detectPrimary
  constructor
  · intro h
    obtain ⟨displays, hdisplays, h⟩ := Effect.bind_eq_ok h
    obtain ⟨rfl, -⟩ := detectAll_eq_ok.mp hdisplays
    split at h <;> cases h
    assumption
  · intro hfind
    have hne : devices.filterMap (·.info) ≠ [] :=
      List.ne_nil_of_mem (List.mem_of_find?_eq_some hfind)
    simp only [detectAll_eq_ok.mpr ⟨rfl, hne⟩, bind, Except.bind, hfind]

/-- An entry is listed as active just if it is an Ethernet or wireless adapter that is up. -/
theorem AdapterEntry.info_active_iff (entry : AdapterEntry) :
    (∃ a, entry.info = some a ∧ a.isActive = true) ↔
      (entry.ifType = 6 ∨ entry.ifType = 71) ∧ entry.operStatus = 1 := by
  unfold AdapterEntry.info
  by_cases htype : entry.ifType = 6 ∨ entry.ifType = 71 <;> simp [htype]

/-- What `GetAdaptersAddresses` answers in the end. -/
def NetworkQuery.answer (q : NetworkQuery) : Except UInt32 (List AdapterEntry) :=
  match q.fill with
  | .ok entries => .ok entries
  | .error _ => q.retry

theorem NetworkAdapterInfo.detectAll_eq_ok {q : NetworkQuery} {adapters : List NetworkAdapterInfo} :
    detectAll q = .ok adapters ↔
      ∃ entries, q.answer = .ok entries ∧ adapters = entries.filterMap (·.info) := by
  unfold detectAll NetworkQuery.answer
  cases q.fill with
  | ok entries => simp [eq_comm]
  | error e => cases q.retry <;> simp [eq_comm]

theorem NetworkAdapterInfo.detectPrimary_eq_ok {q : NetworkQuery} {a : NetworkAdapterInfo} :
    detectPrimary q = .ok a ↔ ∃ entries, q.answer = .ok entries ∧
      maxByKey key ((entries.filterMap (·.info)).filter (·.isActive)) = some a := by
  unfold detectPrimary
  constructor
  · intro h
    obtain ⟨adapters, hadapters, h⟩ := Effect.bind_eq_ok h
    obtain ⟨entries, hanswer, rfl⟩ := detectAll_eq_ok.mp hadapters
    split at h <;> cases h
    exact ⟨entries, hanswer, ‹_›⟩
  · rintro ⟨entries, hanswer, hmax⟩
    simp only [detectAll_eq_ok.mpr ⟨entries, hanswer, rfl⟩, bind, Except.bind, hmax]

/-! ### The whole inspection -/

/-- The machine has an answer for every part that is enumerated. -/
structure HardwareQuery.Complete (q : HardwareQuery) : Prop where
  factory : q.graphics.factory = .ok ()
  graphics : ∃ d, some d ∈ q.graphics.adapters ∧ d.IsHardware
  display : ∃ device ∈ q.displays, ∃ info, device.info = some info ∧ info.isPrimary = true
  network : ∃ entries, q.networks.answer = .ok entries ∧
    ∃ entry ∈ entries, (entry.ifType = 6 ∨ entry.ifType = 71) ∧ entry.operStatus = 1

namespace FullSystemManifest

/-- The primary entries are the best of their lists: the last with the most memory, the first that
is flagged, and the last active one of the highest key. -/
structure Coherent (m : FullSystemManifest) : Prop where
  gpu : ∃ front rest, m.allGpus = front ++ m.primaryGpu :: rest ∧
    (∀ g ∈ front, g.dedicatedVramMb.toNat ≤ m.primaryGpu.dedicatedVramMb.toNat) ∧
    ∀ g ∈ rest, g.dedicatedVramMb.toNat < m.primaryGpu.dedicatedVramMb.toNat
  display : ∃ front rest, m.allDisplays = front ++ m.primaryDisplay :: rest ∧
    m.primaryDisplay.isPrimary = true ∧ ∀ d ∈ front, d.isPrimary = false
  network : m.primaryNetwork ∈ m.allNetworks ∧ m.primaryNetwork.isActive = true ∧
    ∀ a ∈ m.allNetworks, a.isActive = true → a.key ≤ m.primaryNetwork.key

variable {cpu : CpuInfo} {first second q : HardwareQuery}
  {memoryStatus : Except String MemoryStatus} {security : SecurityInfo} {now : String}
  {m : FullSystemManifest}

/-- Which answers make up a manifest. -/
theorem inspectFrom_eq_ok : inspectFrom cpu first second memoryStatus security now = .ok m ↔
    GpuInfo.detectAll first.graphics = .ok m.allGpus ∧
    GpuInfo.detectPrimary second.graphics = .ok m.primaryGpu ∧
    DisplayInfo.detectAll first.displays = .ok m.allDisplays ∧
    DisplayInfo.detectPrimary second.displays = .ok m.primaryDisplay ∧
    MemoryInfo.detect memoryStatus = .ok m.memory ∧
    NetworkAdapterInfo.detectAll first.networks = .ok m.allNetworks ∧
    NetworkAdapterInfo.detectPrimary second.networks = .ok m.primaryNetwork ∧
    m.timestampUtc = now ∧ m.osName = "Windows 11" ∧ m.cpu = cpu ∧ m.security = security := by
  constructor
  · intro h
    obtain ⟨gpus, hgpus, h⟩ := Effect.bind_eq_ok h
    obtain ⟨gpu, hgpu, h⟩ := Effect.bind_eq_ok h
    obtain ⟨displays, hdisplays, h⟩ := Effect.bind_eq_ok h
    obtain ⟨display, hdisplay, h⟩ := Effect.bind_eq_ok h
    obtain ⟨memory, hmemory, h⟩ := Effect.bind_eq_ok h
    obtain ⟨networks, hnetworks, h⟩ := Effect.bind_eq_ok h
    obtain ⟨network, hnetwork, h⟩ := Effect.bind_eq_ok h
    cases h
    exact ⟨hgpus, hgpu, hdisplays, hdisplay, hmemory, hnetworks, hnetwork, rfl, rfl, rfl, rfl⟩
  · rintro ⟨hgpus, hgpu, hdisplays, hdisplay, hmemory, hnetworks, hnetwork, rfl, hos, rfl, rfl⟩
    simp only [inspectFrom, hgpus, hgpu, hdisplays, hdisplay, hmemory, hnetworks, hnetwork, bind,
      Except.bind, pure, Except.pure, ← hos]

/-- What is answered twice in the same way fits together. -/
theorem coherent_of_inspectFrom (h : inspectFrom cpu q q memoryStatus security now = .ok m) :
    m.Coherent := by
  obtain ⟨hgpus, hgpu, hdisplays, hdisplay, -, hnetworks, hnetwork, -⟩ := inspectFrom_eq_ok.mp h
  obtain ⟨-, -, hlist⟩ := GpuInfo.detectAll_eq_ok.mp hgpus
  obtain ⟨-, hmax⟩ := GpuInfo.detectPrimary_eq_ok.mp hgpu
  obtain ⟨hdisplayList, -⟩ := DisplayInfo.detectAll_eq_ok.mp hdisplays
  have hfind := DisplayInfo.detectPrimary_eq_ok.mp hdisplay
  obtain ⟨entries, hanswer, hentries⟩ := NetworkAdapterInfo.detectAll_eq_ok.mp hnetworks
  obtain ⟨entries', hanswer', hbest⟩ := NetworkAdapterInfo.detectPrimary_eq_ok.mp hnetwork
  rw [hanswer, Except.ok.injEq] at hanswer'
  subst hanswer'
  rw [← hlist] at hmax
  rw [← hdisplayList] at hfind
  rw [← hentries] at hbest
  refine ⟨maxByKey_eq_some hmax, ?_, ?_⟩
  · obtain ⟨hprimary, front, rest, heq, hfront⟩ := List.find?_eq_some_iff_append.mp hfind
    exact ⟨front, rest, heq, hprimary, fun d hd => by simpa using hfront d hd⟩
  · obtain ⟨front, rest, heq, hfront, hrest⟩ := maxByKey_eq_some hbest
    have hmem : m.primaryNetwork ∈ m.allNetworks.filter (·.isActive) := by
      rw [heq]
      simp
    obtain ⟨hall, hactive⟩ := List.mem_filter.mp hmem
    refine ⟨hall, hactive, fun a ha hisActive => ?_⟩
    have ha' : a ∈ m.allNetworks.filter (·.isActive) := List.mem_filter.mpr ⟨ha, hisActive⟩
    rw [heq, List.mem_append, List.mem_cons] at ha'
    rcases ha' with ha' | rfl | ha'
    · exact hfront a ha'
    · exact le_refl _
    · exact (hrest a ha').le

/-- The inspection of a machine succeeds just if every part answers. -/
theorem exists_inspectFrom_iff :
    (∃ m, inspectFrom cpu q q memoryStatus security now = .ok m) ↔
      q.Complete ∧ ∃ status, memoryStatus = .ok status := by
  constructor
  · rintro ⟨m, h⟩
    obtain ⟨hgpus, -, hdisplays, hdisplay, hmemory, -, hnetwork, -⟩ := inspectFrom_eq_ok.mp h
    obtain ⟨hfactory, hne, -⟩ := GpuInfo.detectAll_eq_ok.mp hgpus
    have hfind := DisplayInfo.detectPrimary_eq_ok.mp hdisplay
    obtain ⟨entries, hanswer, hbest⟩ := NetworkAdapterInfo.detectPrimary_eq_ok.mp hnetwork
    obtain ⟨front, rest, heq, -, -⟩ := maxByKey_eq_some hbest
    have hmem : m.primaryNetwork ∈ (entries.filterMap (·.info)).filter (·.isActive) := by
      rw [heq]
      simp
    obtain ⟨hentry, hactive⟩ := List.mem_filter.mp hmem
    obtain ⟨entry, hin, hinfo⟩ := List.mem_filterMap.mp hentry
    obtain ⟨device, hdevice, hshown⟩ :=
      List.mem_filterMap.mp (List.mem_of_find?_eq_some hfind)
    refine ⟨⟨hfactory, (gpus_ne_nil_iff _).mp hne, ⟨device, hdevice, _, hshown, ?_⟩,
      ⟨entries, hanswer, entry, hin, ?_⟩⟩, ?_⟩
    · exact List.find?_some hfind
    · exact (AdapterEntry.info_active_iff entry).mp ⟨_, hinfo, hactive⟩
    · cases memoryStatus with
      | error e => cases hmemory
      | ok status => exact ⟨status, rfl⟩
  · rintro ⟨⟨hfactory, hgraphics, ⟨device, hdevice, info, hinfo, hprimary⟩,
      ⟨entries, hanswer, entry, hentry, hactive⟩⟩, status, rfl⟩
    have hgpus := (gpus_ne_nil_iff q.graphics).mpr hgraphics
    obtain ⟨gpu, hgpu⟩ : ∃ gpu, maxByKey (·.dedicatedVramMb.toNat) q.graphics.gpus = some gpu :=
      Option.ne_none_iff_exists'.mp (mt maxByKey_eq_none_iff.mp hgpus)
    have hshown : info ∈ q.displays.filterMap (·.info) :=
      List.mem_filterMap.mpr ⟨device, hdevice, hinfo⟩
    obtain ⟨display, hdisplay⟩ : ∃ display,
        (q.displays.filterMap (·.info)).find? (·.isPrimary) = some display :=
      Option.isSome_iff_exists.mp (List.find?_isSome.mpr ⟨info, hshown, hprimary⟩)
    obtain ⟨adapter, hadapter, hisActive⟩ := (AdapterEntry.info_active_iff entry).mpr hactive
    have hlisted : adapter ∈ (entries.filterMap (·.info)).filter (·.isActive) :=
      List.mem_filter.mpr ⟨List.mem_filterMap.mpr ⟨entry, hentry, hadapter⟩, hisActive⟩
    obtain ⟨network, hnetwork⟩ : ∃ network, maxByKey NetworkAdapterInfo.key
        ((entries.filterMap (·.info)).filter (·.isActive)) = some network :=
      Option.ne_none_iff_exists'.mp
        (mt maxByKey_eq_none_iff.mp (List.ne_nil_of_mem hlisted))
    obtain ⟨memory, hmemory⟩ : ∃ memory, MemoryInfo.detect (.ok status) = .ok memory := ⟨_, rfl⟩
    exact ⟨⟨now, "Windows 11", cpu, gpu, q.graphics.gpus, display,
      q.displays.filterMap (·.info), memory, network, entries.filterMap (·.info), security⟩,
      inspectFrom_eq_ok.mpr ⟨GpuInfo.detectAll_eq_ok.mpr ⟨hfactory, hgpus, rfl⟩,
        GpuInfo.detectPrimary_eq_ok.mpr ⟨hfactory, hgpu⟩,
        DisplayInfo.detectAll_eq_ok.mpr ⟨rfl, List.ne_nil_of_mem hshown⟩,
        DisplayInfo.detectPrimary_eq_ok.mpr hdisplay, hmemory,
        NetworkAdapterInfo.detectAll_eq_ok.mpr ⟨entries, hanswer, rfl⟩,
        NetworkAdapterInfo.detectPrimary_eq_ok.mpr ⟨entries, hanswer, hnetwork⟩,
        rfl, rfl, rfl, rfl⟩⟩

/-- The primary adapter is the flagged one just if the first adapter is a hardware adapter, and has
more memory than all others. -/
theorem isPrimary_primaryGpu_iff (h : inspectFrom cpu q q memoryStatus security now = .ok m) :
    m.primaryGpu.isPrimary = true ↔ ∃ g rest, m.allGpus = g :: rest ∧ g.isPrimary = true ∧
      ∀ g' ∈ rest, g'.dedicatedVramMb.toNat < g.dedicatedVramMb.toNat := by
  obtain ⟨hgpus, -⟩ := inspectFrom_eq_ok.mp h
  obtain ⟨-, -, hlist⟩ := GpuInfo.detectAll_eq_ok.mp hgpus
  obtain ⟨front, rest, heq, hfront, hrest⟩ := (coherent_of_inspectFrom h).gpu
  constructor
  · intro hprimary
    cases front with
    | nil => exact ⟨_, rest, heq, hprimary, hrest⟩
    | cons g front =>
      -- behind another one no adapter is flagged
      have hunflagged := isPrimary_tail_gpus q.graphics m.primaryGpu (by
        rw [← hlist, heq]
        simp)
      rw [hprimary] at hunflagged
      cases hunflagged
  · rintro ⟨g, others, heq', hprimary, hless⟩
    rw [heq'] at heq
    cases front with
    | nil =>
      obtain ⟨rfl, -⟩ := List.cons.inj heq
      exact hprimary
    | cons g' front =>
      obtain ⟨rfl, rfl⟩ := List.cons.inj heq
      have hle := hfront g List.mem_cons_self
      have hlt := hless m.primaryGpu (by simp)
      omega

/-- **The manifest of a machine that does not change.**  The inspection succeeds just if every part
answers, and then the primary entries are the best of their lists.  The primary graphics adapter is
flagged as such just if it is the first of the list and the others have less memory. -/
theorem inspect_unchanged (cpu : CpuQuery) (q : HardwareQuery)
    (memoryStatus : Except String MemoryStatus) (security : SecurityInfo) (now : String) :
    ((∃ m, inspect cpu q q memoryStatus security now = some (.ok m)) ↔
      (∃ info, CpuInfo.detect cpu = some (.ok info)) ∧ q.Complete ∧
        ∃ status, memoryStatus = .ok status) ∧
    ∀ m, inspect cpu q q memoryStatus security now = some (.ok m) → m.Coherent ∧
      (m.primaryGpu.isPrimary = true ↔ ∃ g rest, m.allGpus = g :: rest ∧ g.isPrimary = true ∧
        ∀ g' ∈ rest, g'.dedicatedVramMb.toNat < g.dedicatedVramMb.toNat) := by
  have hinspect : ∀ m, inspect cpu q q memoryStatus security now = some (.ok m) ↔
      ∃ info, CpuInfo.detect cpu = some (.ok info) ∧
        inspectFrom info q q memoryStatus security now = .ok m := by
    intro m
    unfold inspect
    cases CpuInfo.detect cpu with
    | none => simp
    | some result => cases result <;> simp [Except.bind]
  constructor
  · constructor
    · rintro ⟨m, hm⟩
      obtain ⟨info, hinfo, hfrom⟩ := (hinspect m).mp hm
      exact ⟨⟨info, hinfo⟩, exists_inspectFrom_iff.mp ⟨m, hfrom⟩⟩
    · rintro ⟨⟨info, hinfo⟩, hcomplete⟩
      obtain ⟨m, hfrom⟩ := exists_inspectFrom_iff.mpr hcomplete
      exact ⟨m, (hinspect m).mpr ⟨info, hinfo, hfrom⟩⟩
  · intro m hm
    obtain ⟨info, -, hfrom⟩ := (hinspect m).mp hm
    exact ⟨coherent_of_inspectFrom hfrom, isPrimary_primaryGpu_iff hfrom⟩

end FullSystemManifest

end ValOpt
