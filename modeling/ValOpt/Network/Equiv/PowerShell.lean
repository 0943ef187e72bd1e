import ValOpt.Ipc.Equiv.Framing
import ValOpt.Network.Equiv.Adapter
import ValOpt.Network.Equiv.Shell
import ValOpt.System.Desktop

/-!
# The adapter functions on PowerShell

`PowerShell` says what the cmdlets do to a `Machine` and what they print: `ConvertTo-Json` prints an
array of several objects, but an object by itself, and nothing for none.  With such answers the
commands of `optimize_adapter_latency_properties` and `restore_adapter_properties` do what the calls
on the machine do; an adapter that has exactly one property, which cannot be read, is left alone
(`powershell_refines`).  What `disable_flow_control` has changed can be written back if the property
had one value, which passes the check (`flowControl_roundTrip`).
-/

namespace ValOpt.Shell

open Effect Text Text.Json

variable {F : Type} (w : Wire F)

/-! ### The answers of PowerShell -/

/-- The properties of an adapter as a document. -/
def rowsDoc : List NicAdvancedProperty → Option (Doc (Number w.floats))
  | [] => none
  | [p] => some ((nicAdvancedProperty w).write p)
  | rows => some ((Schema.list (nicAdvancedProperty w)).write rows)

/-- The text is what `ConvertTo-Json` prints. -/
def Prints (rows : List NicAdvancedProperty) (text : List Char) : Prop :=
  match rowsDoc w rows with
  | none => text = []
  | some d => text ≠ [] ∧ text ≠ "null".toList ∧ fromJson w some text = some d

def queryCommand (adapter : String) : Command :=
  powershell queryScript [("VAL_OPT_ADAPTER", adapter)]

def setCommand (adapter keyword value : String) : Command :=
  powershell setScript
    [("VAL_OPT_ADAPTER", adapter), ("VAL_OPT_KEYWORD", keyword), ("VAL_OPT_VALUE", value)]

def statusCommand (adapter : String) : Command :=
  powershell statusScript [("VAL_OPT_ADAPTER", adapter)]

/-- The name of an adapter that passes the check is no pattern. -/
def IsPlainName (adapter : String) : Prop := '*' ∉ adapter.toList

instance (adapter : String) : Decidable (IsPlainName adapter) :=
  inferInstanceAs (Decidable ('*' ∉ adapter.toList))

/-- What the cmdlets for adapters do and print, in an elevated process.  They get names that have
passed the checks; a name that is a pattern may stand for several adapters, and an empty variable is
none. -/
structure PowerShell (oracle : Dialogue.Oracle ShellAnswer Machine) : Prop where
  elevated : ∀ m, oracle .elevation m = (true, m)
  query : ∀ m adapter, IsPlainName adapter → validateAdapterIdentifier adapter = .ok () →
    ∃ output : Output, oracle (.spawn (queryCommand adapter)) m = (.ok output, m) ∧
      match m.adapters adapter with
      | none => output.success = false
      | some a => output.success = true ∧ Prints w a.rows (Output.text output)
  set : ∀ m adapter keyword value, IsPlainName adapter → value ≠ "" →
    validateAdapterSet adapter keyword value = .ok () →
    ∃ output : Output, oracle (.spawn (setCommand adapter keyword value)) m =
        (.ok output, (m.setAdapter adapter keyword value).getD m) ∧
      output.success = (m.setAdapter adapter keyword value).isSome
  status : ∀ m adapter, (oracle (.spawn (statusCommand adapter)) m).2 = m

/-- A dialogue ends like a program on the machine, but for the texts of errors. -/
def Refines {α : Type} (oracle : Dialogue.Oracle ShellAnswer Machine) (m : Machine)
    (p : Shell (Except String α)) (q : Prog (Except String α)) : Prop :=
  ∀ text world, world.machine = m → ∃ r : Except String α,
    q.run (.faultless text) world = .returned r { world with machine := (p.run oracle m).2 } ∧
    r.toOption = (p.run oracle m).1.toOption

variable {w} {oracle : Dialogue.Oracle ShellAnswer Machine}

/-! ### Queries -/

theorem run_spawn {β : Type} (command : Command) (f : Except String Output → Shell β)
    (m : Machine) : (spawn command >>= f).run oracle m =
      (f (oracle (.spawn command) m).1).run oracle (oracle (.spawn command) m).2 := rfl

theorem run_isElevationAvailable {β : Type} (h : PowerShell w oracle) (f : Bool → Shell β)
    (m : Machine) : (isElevationAvailable >>= f).run oracle m = (f true).run oracle m := by
  change (f (oracle .elevation m).1).run oracle (oracle .elevation m).2 = _
  rw [h.elevated]

theorem fromJson_eq {α : Type} {read : Doc (Number w.floats) → Option α} {text : List Char}
    {d : Doc (Number w.floats)} (h : fromJson w some text = some d) :
    fromJson w read text = read d := by
  rw [fromJson, Option.bind_fun_some] at h
  rw [fromJson, h, Option.bind_some]

theorem read_rows (rows : List NicAdvancedProperty) :
    (Schema.list (nicAdvancedProperty w)).read ((Schema.list (nicAdvancedProperty w)).write rows) =
      some rows := by
  apply Schema.read_write
  intro p _
  refine ⟨trivial, trivial, ?_, trivial⟩
  exact fun _ _ _ _ => trivial

/-- What is made of the text that is printed for an adapter. -/
theorem read_printed {rows : List NicAdvancedProperty} {text : List Char} (h : Prints w rows text) :
    if text = [] ∨ text = "null".toList then rows = []
    else fromJson w (Schema.list (nicAdvancedProperty w)).read text =
      if rows.length = 1 then none else some rows := by
  rcases rows with _ | ⟨p, _ | ⟨q, rows⟩⟩
  · have hempty : text = [] := h
    rw [if_pos (Or.inl hempty)]
  · obtain ⟨hne, hnull, hdoc⟩ := h
    rw [if_neg (by tauto), fromJson_eq hdoc]
    rfl
  · obtain ⟨hne, hnull, hdoc⟩ := h
    rw [if_neg (by tauto), fromJson_eq hdoc, read_rows, if_neg (by simp)]

/-- What a query of an adapter returns. -/
theorem run_queryAdapterProperties (h : PowerShell w oracle) {adapter : String}
    (hplain : IsPlainName adapter) (m : Machine) :
    ((Shell.queryAdapterProperties w adapter).run oracle m).2 = m ∧
    ((Shell.queryAdapterProperties w adapter).run oracle m).1.toOption =
      m.listedProperties adapter := by
  rw [Shell.queryAdapterProperties, Machine.listedProperties]
  split
  · next hvalid =>
    rw [hvalid, if_neg (by simp)]
    exact ⟨rfl, rfl⟩
  · next hvalid =>
    obtain ⟨output, horacle, houtput⟩ := h.query m adapter hplain hvalid
    rw [queryCommand] at horacle
    rw [hvalid, if_pos rfl, run_spawn, horacle]
    dsimp only
    rcases hadapter : m.adapters adapter with _ | a
    · rw [hadapter] at houtput
      rw [houtput]
      exact ⟨rfl, rfl⟩
    · rw [hadapter] at houtput
      obtain ⟨hsuccess, hprints⟩ := houtput
      have hread := read_printed hprints
      rw [hsuccess, Option.bind_some]
      simp only [Bool.not_true, Bool.false_eq_true, if_false]
      split at hread
      · next hempty =>
        rw [if_pos hempty, hread]
        exact ⟨rfl, rfl⟩
      · next hempty =>
        rw [if_neg hempty, hread]
        by_cases hone : a.rows.length = 1
        · simp only [if_pos hone]
          exact ⟨rfl, rfl⟩
        · simp only [if_neg hone]
          exact ⟨rfl, rfl⟩

/-! ### Refinement -/

section Refines

variable {α β : Type} {m : Machine}

theorem refines_ok (a : α) : Refines oracle m (pure (.ok a)) (pure (.ok a)) :=
  fun _ _ hw => ⟨.ok a, by subst hw; rfl, rfl⟩

/-- The texts of two errors may differ. -/
theorem refines_error (e e' : String) :
    Refines oracle m (pure (.error e) : Shell (Except String α)) (pure (.error e')) :=
  fun _ _ hw => ⟨.error e', by subst hw; rfl, rfl⟩

theorem Refines.bind {p : Shell (Except String α)} {q : Prog (Except String α)}
    {f : Except String α → Shell (Except String β)} {g : Except String α → Prog (Except String β)}
    (h : Refines oracle m p q)
    (hok : ∀ a, Refines oracle (p.run oracle m).2 (f (.ok a)) (g (.ok a)))
    (herror : ∀ e e', Refines oracle (p.run oracle m).2 (f (.error e)) (g (.error e'))) :
    Refines oracle m (p >>= f) (q >>= g) := by
  intro text world hw
  obtain ⟨r, hrun, hr⟩ := h text world hw
  have hbind : (p >>= f).run oracle m =
      (f (p.run oracle m).1).run oracle (p.run oracle m).2 := Dialogue.run_bind ..
  have hnext : Refines oracle (p.run oracle m).2 (f (p.run oracle m).1) (g r) := by
    revert hr
    rcases r with e' | a <;> rcases (p.run oracle m).1 with e | b
    · exact fun _ => herror e e'
    · exact nofun
    · exact nofun
    · rintro ⟨⟩
      exact hok a
  obtain ⟨r', hrun', hr'⟩ := hnext text { world with machine := (p.run oracle m).2 } rfl
  rw [Eff.run_bind, hrun, Run.bind_returned, hbind]
  exact ⟨r', hrun', hr'⟩

/-- What changes nothing may be asked before. -/
theorem Refines.after {p : Shell α} {f : α → Shell (Except String β)} {q : Prog (Except String β)}
    (hp : (p.run oracle m).2 = m) (hf : ∀ a, Refines oracle m (f a) q) :
    Refines oracle m (p >>= f) q := by
  intro text world hw
  have hbind : (p >>= f).run oracle m = (f (p.run oracle m).1).run oracle m := by
    rw [Dialogue.run_bind, hp]
  rw [hbind]
  exact hf _ text world hw

end Refines

section Adapter

variable (h : PowerShell w oracle) {adapter : String} (hplain : IsPlainName adapter) (m : Machine)

include h

/-- Setting a property does what the call on the machine does. -/
theorem refines_setAdapterProperty (hplain : IsPlainName adapter) (index : ℕ) (keyword : String)
    {value : String} (hvalue : value ≠ "") :
    Refines oracle m (Shell.setAdapterProperty adapter keyword value)
      (ValOpt.setAdapterProperty index adapter keyword value) := by
  rintro text world rfl
  rw [Shell.setAdapterProperty, ValOpt.setAdapterProperty]
  rcases hvalid : validateAdapterSet adapter keyword value with e | ⟨⟨⟩⟩
  · exact ⟨_, rfl, rfl⟩
  · obtain ⟨output, horacle, hsuccess⟩ :=
      h.set world.machine adapter keyword value hplain hvalue hvalid
    rw [setCommand] at horacle
    rw [run_isElevationAvailable h]
    simp only [Bool.not_true, Bool.false_eq_true, if_false, Eff.run_bind,
      run_readMachine_faultless, Run.bind_returned, run_writeMachine_faultless]
    rw [run_spawn, horacle]
    dsimp only
    rw [hsuccess]
    rcases world.machine.setAdapter adapter keyword value with _ | m'
    · exact ⟨_, rfl, rfl⟩
    · exact ⟨_, rfl, rfl⟩

theorem refines_optimizeKeywords (hplain : IsPlainName adapter) (props : List NicAdvancedProperty)
    (index : ℕ) (keywords : List String) :
    Refines oracle m (Shell.optimizeKeywords adapter props keywords)
      (ValOpt.optimizeKeywords adapter props index keywords) := by
  induction keywords generalizing index m with
  | nil => exact refines_ok []
  | cons keyword keywords ih =>
    rw [Shell.optimizeKeywords, ValOpt.optimizeKeywords]
    rcases hfind : props.find? fun p => eqIgnoreAsciiCase p.registryKeyword keyword with _ | prop
    · simp only [hfind]
      exact ih m (index + 1)
    · simp only [hfind]
      by_cases hzero : prop.firstValue.getD "0" ≠ "0"
      · rw [if_pos hzero, if_pos hzero]
        apply (refines_setAdapterProperty h m hplain index prop.registryKeyword (by decide)).bind
        · intro _
          apply (ih _ (index + 1)).bind
          · exact fun backups => refines_ok _
          · exact fun e e' => refines_error e e'
        · exact fun e e' => refines_error e e'
      · rw [if_neg hzero, if_neg hzero]
        exact ih m (index + 1)

theorem run_queryAdapterLinkStatus (adapter : String) :
    ((queryAdapterLinkStatus adapter).run oracle m).2 = m := by
  rw [queryAdapterLinkStatus]
  split
  · rfl
  · rw [run_spawn]
    have hstatus := h.status m adapter
    rw [statusCommand] at hstatus
    rcases (oracle (.spawn (powershell statusScript [("VAL_OPT_ADAPTER", adapter)])) m).1 with
      e | output
    · exact hstatus
    · dsimp only
      split <;> exact hstatus

theorem refines_queryAdapterProperties (hplain : IsPlainName adapter) :
    Refines oracle m (Shell.queryAdapterProperties w adapter)
      (ValOpt.queryAdapterProperties adapter) := by
  rintro text world rfl
  obtain ⟨hstate, hvalue⟩ := run_queryAdapterProperties h hplain world.machine
  obtain ⟨r, hrun, hr⟩ := ValOpt.run_queryAdapterProperties text world adapter
  rw [hstate, hvalue]
  exact ⟨r, hrun, hr⟩

theorem refines_optimizeAdapterLatencyProperties (hplain : IsPlainName adapter) :
    Refines oracle m (Shell.optimizeAdapterLatencyProperties w adapter)
      (ValOpt.optimizeAdapterLatencyProperties adapter) := by
  rw [Shell.optimizeAdapterLatencyProperties, ValOpt.optimizeAdapterLatencyProperties]
  apply (refines_queryAdapterProperties h m hplain).bind
  · intro props
    apply Refines.after (run_queryAdapterLinkStatus h _ adapter)
    intro _
    apply (refines_optimizeKeywords h _ hplain props 0 eeeKeywords).bind
    · intro eee
      apply (refines_optimizeKeywords h _ hplain props eeeKeywords.length _).bind
      · intro green
        apply Refines.after (run_queryAdapterLinkStatus h _ adapter)
        exact fun _ => refines_ok _
      · exact fun e e' => refines_error e e'
    · exact fun e e' => refines_error e e'
  · exact fun e e' => refines_error e e'

/-! ### Writing back -/

/-- When a property is set, and what that does to the machine. -/
theorem run_setAdapterProperty (hplain : IsPlainName adapter) (keyword : String) {value : String}
    (hvalue : value ≠ "") :
    (((Shell.setAdapterProperty adapter keyword value).run oracle m).1 = .ok () ↔
      validateAdapterSet adapter keyword value = .ok () ∧
        (m.setAdapter adapter keyword value).isSome) ∧
    ((Shell.setAdapterProperty adapter keyword value).run oracle m).2 =
      m.assignAdapter adapter keyword value := by
  rw [Shell.setAdapterProperty, Machine.assignAdapter]
  rcases hvalid : validateAdapterSet adapter keyword value with e | ⟨⟨⟩⟩
  · exact ⟨by simp, rfl⟩
  · obtain ⟨output, horacle, hsuccess⟩ := h.set m adapter keyword value hplain hvalue hvalid
    rw [setCommand, Machine.setAdapter_getD] at horacle
    rw [run_isElevationAvailable h]
    simp only [Bool.not_true, Bool.false_eq_true, if_false]
    rw [run_spawn, horacle]
    dsimp only
    rw [hsuccess]
    rcases (m.setAdapter adapter keyword value).isSome with _ | _
    · exact ⟨by simp, rfl⟩
    · exact ⟨by simp, rfl⟩

/-- The backups name adapters, and values that can be handed over. -/
def Writable (backups : List AdapterPropertyBackup) : Prop :=
  ∀ b ∈ backups, IsPlainName b.adapterName ∧ b.originalValue ≠ ""

theorem run_restoreProperties {backups : List AdapterPropertyBackup} (hbackups : Writable backups) :
    (restoreProperties backups).run oracle m = ((), m.restoreAdapters backups) := by
  induction backups generalizing m with
  | nil => rfl
  | cons b bs ih =>
    obtain ⟨⟨hplain, hvalue⟩, hbs⟩ := List.forall_mem_cons.mp hbackups
    rw [restoreProperties, Dialogue.run_bind,
      (run_setAdapterProperty h m hplain b.keyword hvalue).2, ih _ hbs]
    rfl

theorem refines_restoreAdapterProperties {backups : List AdapterPropertyBackup}
    (hbackups : Writable backups) :
    Refines oracle m (Shell.restoreAdapterProperties backups)
      (ValOpt.restoreAdapterProperties backups) := by
  rintro text world rfl
  rw [Shell.restoreAdapterProperties, Dialogue.run_bind, run_restoreProperties h _ hbackups]
  exact ⟨.ok (), run_restoreAdapterProperties backups, rfl⟩

end Adapter

/-! Cmdlets that do and print this. -/

/-- The text for the properties of an adapter. -/
def printed (w : Wire F) (rows : List NicAdvancedProperty) : List Char :=
  match rowsDoc w rows with
  | none => []
  | some d => (fromUtf8 (d.print (numerals w.floats).format.print)).getD []

def cmdlets (w : Wire F) : Dialogue.Oracle ShellAnswer Machine
  | .elevation, m => (true, m)
  | .spawn command, m =>
    match command.env with
    | [(_, adapter)] =>
      if command = queryCommand adapter then
        match m.adapters adapter with
        | none => (.ok ⟨false, [], "No matching objects found".toList⟩, m)
        | some a => (.ok ⟨true, printed w a.rows, []⟩, m)
      else (.ok ⟨true, "Up".toList, []⟩, m)
    | [(_, adapter), (_, keyword), (_, value)] =>
      let set := m.setAdapter adapter keyword value
      (.ok ⟨set.isSome, [], []⟩, set.getD m)
    | _ => (.ok ⟨false, [], []⟩, m)

/-- A command that is given the name of an adapter only changes nothing. -/
theorem cmdlets_reads (w : Wire F) {command : Command} {key adapter : String}
    (henv : command.env = [(key, adapter)]) (m : Machine) :
    (cmdlets w (.spawn command) m).2 = m := by
  simp only [cmdlets, henv]
  split
  · rcases m.adapters adapter with _ | a <;> rfl
  · rfl

/-- A printed object or array is read as what it was. -/
theorem prints_doc (w : Wire F) {d : Doc (Number w.floats)} {l r : UInt8} {t : Bytes}
    (hprint : d.print (numerals w.floats).format.print = l :: (t ++ [r]))
    (hbrackets : (l = 0x7B ∧ r = 0x7D) ∨ (l = 0x5B ∧ r = 0x5D)) (hwithin : d.Within nestingLimit) :
    let text := trimMatches isWhitespace
      ((fromUtf8 (d.print (numerals w.floats).format.print)).getD [])
    text ≠ [] ∧ text ≠ "null".toList ∧ fromJson w some text = some d := by
  obtain ⟨cs, hcs⟩ := (isLine_print (numerals w.floats) d).utf8
  have hl : l < 0x80 := by rcases hbrackets with ⟨rfl, -⟩ | ⟨rfl, -⟩ <;> decide
  have hr : r < 0x80 := by rcases hbrackets with ⟨-, rfl⟩ | ⟨-, rfl⟩ <;> decide
  obtain ⟨c, ds, hhead, hc⟩ := head_of_bytesOf (hcs.trans hprint) hl
  obtain ⟨c', ds', hlast, hc'⟩ := @last_of_bytesOf cs r (l :: t) (hcs.trans hprint) hr
  have hblank : ∀ c : Char, c.toNat ∈ [0x7B, 0x7D, 0x5B, 0x5D] → isWhitespace c = false := by
    intro c hc
    unfold isWhitespace
    simp only [List.mem_cons, List.not_mem_nil, or_false] at hc
    rcases hc with hc | hc | hc | hc <;> simp [hc]
  have htrim : trimMatches isWhitespace cs = cs := by
    have happend := @trimMatches_append isWhitespace cs [] ?_ ?_ nofun
    · rwa [List.append_nil] at happend
    · intro a ha
      rw [hhead, List.head?_cons, Option.mem_some_iff] at ha
      apply hblank
      rw [← ha, hc]
      rcases hbrackets with ⟨rfl, -⟩ | ⟨rfl, -⟩ <;> decide
    · intro a ha
      rw [hlast, List.getLast?_concat, Option.mem_some_iff] at ha
      apply hblank
      rw [← ha, hc']
      rcases hbrackets with ⟨-, rfl⟩ | ⟨-, rfl⟩ <;> decide
  rw [← hcs, fromUtf8_bytesOf, Option.getD_some, htrim]
  refine ⟨by rw [hhead]; exact List.cons_ne_nil _ _, ?_, ?_⟩
  · rw [hhead]
    rintro hnull
    obtain ⟨rfl, -⟩ := List.cons.inj hnull
    rcases hbrackets with ⟨rfl, -⟩ | ⟨rfl, -⟩ <;> exact absurd hc (by decide)
  · rw [fromJson, hcs, readDoc_print _ _ hwithin]
    rfl

theorem prints_printed (w : Wire F) (rows : List NicAdvancedProperty) :
    Prints w rows (trimMatches isWhitespace (printed w rows)) := by
  rcases rows with _ | ⟨p, _ | ⟨q, rows⟩⟩
  · rfl
  · obtain ⟨t, ht⟩ := print_object_eq (numerals w.floats) _
    exact prints_doc w ht (Or.inl ⟨rfl, rfl⟩)
      (within_of_ble (nicAdvancedProperty w) rfl p)
  · exact prints_doc w (show _ = 0x5B :: (_ ++ [0x5D]) from rfl) (Or.inr ⟨rfl, rfl⟩)
      (within_of_ble (Schema.list (nicAdvancedProperty w)) rfl (p :: q :: rows))

theorem powerShell_cmdlets (w : Wire F) : PowerShell w (cmdlets w) where
  elevated _ := rfl
  query m adapter _ _ := by
    rcases hadapter : m.adapters adapter with _ | a
    · refine ⟨⟨false, [], "No matching objects found".toList⟩, ?_, rfl⟩
      simp [cmdlets, queryCommand, powershell, hadapter]
    · refine ⟨⟨true, printed w a.rows, []⟩, ?_, rfl, prints_printed w a.rows⟩
      simp [cmdlets, queryCommand, powershell, hadapter]
  set m adapter keyword value _ _ _ :=
    ⟨⟨(m.setAdapter adapter keyword value).isSome, [], []⟩, rfl, rfl⟩
  status m adapter := cmdlets_reads w rfl m

/-- **The commands for the properties of an adapter do what the calls on the machine do.**  An
adapter with exactly one property is not optimized. -/
theorem powershell_refines (h : PowerShell w oracle) (m : Machine) :
    (∀ adapter, IsPlainName adapter →
      Refines oracle m (Shell.optimizeAdapterLatencyProperties w adapter)
        (ValOpt.optimizeAdapterLatencyProperties adapter) ∧
      ((∃ a, m.adapters adapter = some a ∧ a.rows.length = 1) →
        ∃ e, (Shell.optimizeAdapterLatencyProperties w adapter).run oracle m = (.error e, m))) ∧
    ∀ backups, Writable backups → Refines oracle m (Shell.restoreAdapterProperties backups)
      (ValOpt.restoreAdapterProperties backups) := by
  refine ⟨fun adapter hplain => ⟨refines_optimizeAdapterLatencyProperties h m hplain, ?_⟩,
    fun backups => refines_restoreAdapterProperties h m⟩
  rintro ⟨a, hadapter, hone⟩
  obtain ⟨hstate, hvalue⟩ := run_queryAdapterProperties h hplain m
  have herror : ((Shell.queryAdapterProperties w adapter).run oracle m).1.toOption = none := by
    rw [hvalue, Machine.listedProperties, hadapter, Option.bind_some, if_pos hone, ite_self]
  rw [Shell.optimizeAdapterLatencyProperties, Dialogue.run_bind, hstate]
  revert herror
  rcases ((Shell.queryAdapterProperties w adapter).run oracle m).1 with e | props
  · exact fun _ => ⟨e, rfl⟩
  · exact nofun

/-- The two properties of the desktop are optimized, and written back. -/
theorem powershell_refines_desktop :
    Refines (cmdlets Wire.tenths) .desktop
      (Shell.optimizeAdapterLatencyProperties Wire.tenths "Ethernet")
      (ValOpt.optimizeAdapterLatencyProperties "Ethernet") ∧
    Refines (cmdlets Wire.tenths) .desktop
      (Shell.restoreAdapterProperties [⟨"Ethernet", "*EEE", "Energy Efficient Ethernet", "1"⟩])
      (ValOpt.restoreAdapterProperties
        [⟨"Ethernet", "*EEE", "Energy Efficient Ethernet", "1"⟩]) := by
  have h := powershell_refines (powerShell_cmdlets Wire.tenths) .desktop
  exact ⟨(h.1 "Ethernet" (by decide)).1, h.2 _ (by simp [Writable, IsPlainName])⟩

/-! ### Flow control -/

/-- A value that is written leaves the machine as it is if the property has this value alone. -/
theorem assignAdapter_eq_self_iff {m : Machine} {adapter keyword value : String}
    {a : AdapterProperties} {p : NicAdvancedProperty} (ha : m.adapters adapter = some a)
    (hp : p ∈ a.rows) (hkeyword : eqIgnoreAsciiCase p.registryKeyword keyword = true)
    (hvalid : validateAdapterSet adapter keyword value = .ok ()) :
    m.assignAdapter adapter keyword value = m ↔ p.registryValue = some [value] := by
  have hisOk : (validateAdapterSet adapter keyword value).isOk := by rw [hvalid]; rfl
  have hmachine : m.assignAdapter adapter keyword value = m ↔ a.assign keyword value = a := by
    rw [Machine.assignAdapter, if_pos hisOk, ha, Option.map_some]
    constructor
    · intro h
      have hadapters := congrFun (congrArg Machine.adapters h) adapter
      rw [ha] at hadapters
      simpa using hadapters
    · intro h
      rw [h, ← ha, Function.update_eq_self]
  have hassign : p.assign keyword value = { p with registryValue := some [value] } :=
    if_pos hkeyword
  rw [hmachine]
  constructor
  · intro h
    have hrows : a.rows.map (·.assign keyword value) = a.rows.map id := by
      rw [List.map_id, ← AdapterProperties.rows_assign, h]
    have hself := List.map_inj_left.mp hrows p hp
    rw [hassign] at hself
    exact (congrArg NicAdvancedProperty.registryValue hself).symm
  · intro h
    apply AdapterProperties.ext_rows
    rw [AdapterProperties.rows_assign]
    conv_rhs => rw [← List.map_id a.rows]
    apply List.map_congr_left
    intro r hr
    by_cases hrkeyword : eqIgnoreAsciiCase r.registryKeyword keyword = true
    · obtain rfl : r = p := by
        apply a.eq_of_keyword hr hp
        rw [eqIgnoreAsciiCase_iff] at hkeyword hrkeyword ⊢
        exact hrkeyword.trans hkeyword.symm
      rw [hassign, ← h]
      rfl
    · exact if_neg hrkeyword

/-- Of two values that are written after each other, the last one stays. -/
theorem assignAdapter_assignAdapter {m : Machine} {adapter keyword v v' : String}
    (hv : (validateAdapterSet adapter keyword v).isOk)
    (hv' : (validateAdapterSet adapter keyword v').isOk) :
    (m.assignAdapter adapter keyword v).assignAdapter adapter keyword v' =
      m.assignAdapter adapter keyword v' := by
  have hassign : ∀ a : AdapterProperties,
      (a.assign keyword v).assign keyword v' = a.assign keyword v' := by
    intro a
    apply AdapterProperties.ext_rows
    rw [AdapterProperties.rows_assign, AdapterProperties.rows_assign, List.map_map,
      AdapterProperties.rows_assign]
    apply List.map_congr_left
    intro p _
    rw [Function.comp_apply, NicAdvancedProperty.assign, NicAdvancedProperty.registryKeyword_assign,
      NicAdvancedProperty.assign, NicAdvancedProperty.assign]
    split <;> rfl
  rw [Machine.assignAdapter, if_pos hv', Machine.assignAdapter, if_pos hv, Machine.assignAdapter,
    if_pos hv']
  dsimp only
  rw [Function.update_idem, Function.update_self, Option.map_map]
  congr 2
  exact congrFun (congrArg Option.map (funext hassign)) _

/-- What the search for a property returns. -/
theorem run_queryProperty (h : PowerShell w oracle) {adapter : String}
    (hplain : IsPlainName adapter) (keyword : String) (m : Machine) :
    ((queryProperty w adapter keyword).run oracle m).2 = m ∧
    ((queryProperty w adapter keyword).run oracle m).1.toOption =
      if validateAdapterIdentifier keyword = .ok () then
        (m.listedProperties adapter).map fun rows =>
          rows.find? fun p => eqIgnoreAsciiCase p.registryKeyword keyword
      else none := by
  obtain ⟨hstate, hvalue⟩ := run_queryAdapterProperties h hplain m
  rw [queryProperty]
  rcases hadapter : validateAdapterIdentifier adapter with e | ⟨⟨⟩⟩
  · have hnone : m.listedProperties adapter = none := by
      rw [Machine.listedProperties, hadapter]
      rfl
    rw [hnone, Option.map_none, ite_self]
    exact ⟨rfl, rfl⟩
  rcases hkeyword : validateAdapterIdentifier keyword with e | ⟨⟨⟩⟩
  · exact ⟨rfl, rfl⟩
  rw [if_pos rfl, ← hvalue]
  dsimp only
  rw [Dialogue.run_bind, hstate]
  rcases ((Shell.queryAdapterProperties w adapter).run oracle m).1 with e | props
  · exact ⟨rfl, rfl⟩
  · exact ⟨rfl, rfl⟩

/-- What `disable_flow_control` does: it sets the property if it has another value than "0". -/
theorem run_disableFlowControl (h : PowerShell w oracle) {adapter : String}
    (hplain : IsPlainName adapter) (m : Machine) :
    (∃ a p, m.adapters adapter = some a ∧ a.rows.length ≠ 1 ∧ p ∈ a.rows ∧
      eqIgnoreAsciiCase p.registryKeyword flowControlKeyword = true ∧
      p.firstValue.getD "0" ≠ "0" ∧ validateAdapterSet adapter p.registryKeyword "0" = .ok () ∧
      (disableFlowControl w adapter).run oracle m =
        (.ok (some ⟨adapter, p.registryKeyword, p.displayName, p.firstValue.getD "0"⟩),
          m.assignAdapter adapter p.registryKeyword "0")) ∨
    ((disableFlowControl w adapter).run oracle m).2 = m ∧
      ∀ b, ((disableFlowControl w adapter).run oracle m).1 ≠ .ok (some b) := by
  obtain ⟨hstate, hvalue⟩ := run_queryProperty h hplain flowControlKeyword m
  rw [disableFlowControl, Dialogue.run_bind, hstate]
  revert hvalue
  rcases ((queryProperty w adapter flowControlKeyword).run oracle m).1 with e | _ | p
  · exact fun _ => Or.inr ⟨rfl, nofun⟩
  · exact fun _ => Or.inr ⟨rfl, nofun⟩
  intro hvalue
  split at hvalue
  · obtain ⟨rows, hlisted, hfind⟩ := Option.map_eq_some_iff.mp hvalue.symm
    obtain ⟨-, a, ha, hlength, rfl⟩ := Machine.listedProperties_eq_some_iff.mp hlisted
    obtain ⟨hp, hkeyword⟩ := a.find?_eq_some_iff.mp hfind
    by_cases hzero : p.firstValue.getD "0" ≠ "0"
    · have hset : (m.setAdapter adapter p.registryKeyword "0").isSome := by
        rw [Machine.setAdapter, ha]
        dsimp only
        rw [if_pos (List.any_eq_true.mpr ⟨p, hp, eqIgnoreAsciiCase_self _⟩)]
        rfl
      obtain ⟨hok, hmachine⟩ :=
        run_setAdapterProperty h m hplain p.registryKeyword (show "0" ≠ "" by decide)
      dsimp only
      rw [if_pos hzero, Dialogue.run_bind, hmachine]
      revert hok
      rcases ((Shell.setAdapterProperty adapter p.registryKeyword "0").run oracle m).1 with
        e | ⟨⟨⟩⟩
      · intro hok
        have hinvalid : ¬ (validateAdapterSet adapter p.registryKeyword "0").isOk := by
          intro hisOk
          rcases hvalid : validateAdapterSet adapter p.registryKeyword "0" with e | ⟨⟨⟩⟩
          · rw [hvalid] at hisOk
            cases hisOk
          · exact nomatch hok.mpr ⟨hvalid, hset⟩
        rw [Machine.assignAdapter, if_neg hinvalid]
        exact Or.inr ⟨rfl, nofun⟩
      · intro hok
        exact Or.inl ⟨a, p, ha, hlength, hp, hkeyword, hzero, (hok.mp rfl).1, rfl⟩
    · dsimp only
      rw [if_neg hzero]
      exact Or.inr ⟨rfl, nofun⟩
  · cases hvalue

theorem toOption_eq_some {α : Type} {r : Except String α} {a : α} (h : r.toOption = some a) :
    r = .ok a := by
  rcases r with e | b
  · cases h
  · exact congrArg Except.ok (Option.some.inj h)

/-- What `query_flow_control` says after "0" was written. -/
theorem run_queryFlowControl_disabled (h : PowerShell w oracle) {adapter : String}
    (hplain : IsPlainName adapter) {m : Machine} {a : AdapterProperties} {p : NicAdvancedProperty}
    (ha : m.adapters adapter = some a) (hlength : a.rows.length ≠ 1) (hp : p ∈ a.rows)
    (hkeyword : eqIgnoreAsciiCase p.registryKeyword flowControlKeyword = true)
    (hvalid : validateAdapterSet adapter p.registryKeyword "0" = .ok ()) :
    (queryFlowControl w adapter).run oracle (m.assignAdapter adapter p.registryKeyword "0") =
      (.ok .disabled, m.assignAdapter adapter p.registryKeyword "0") := by
  have hisOk : (validateAdapterSet adapter p.registryKeyword "0").isOk := by rw [hvalid]; rfl
  have hadapter : validateAdapterIdentifier adapter = .ok () := (of_validateAdapterSet hvalid).1
  have hassign : (m.assignAdapter adapter p.registryKeyword "0").adapters adapter =
      some (a.assign p.registryKeyword "0") := by
    rw [Machine.adapters_assignAdapter, if_pos ⟨rfl, hisOk⟩, ha, Option.map_some]
  have hfind : ((a.assign p.registryKeyword "0").rows.find? fun q =>
      eqIgnoreAsciiCase q.registryKeyword flowControlKeyword) =
        some { p with registryValue := some ["0"] } := by
    rw [AdapterProperties.find?_eq_some_iff, AdapterProperties.rows_assign]
    exact ⟨List.mem_map.mpr ⟨p, hp, if_pos (eqIgnoreAsciiCase_self _)⟩, hkeyword⟩
  obtain ⟨hstate, hvalue⟩ := run_queryProperty h hplain flowControlKeyword
    (m.assignAdapter adapter p.registryKeyword "0")
  have hlisted : (m.assignAdapter adapter p.registryKeyword "0").listedProperties adapter =
      some (a.assign p.registryKeyword "0").rows := by
    refine Machine.listedProperties_eq_some_iff.mpr ⟨hadapter, _, hassign, ?_, rfl⟩
    rwa [AdapterProperties.rows_assign, List.length_map]
  rw [if_pos (by decide +kernel), hlisted, Option.map_some, hfind] at hvalue
  rw [queryFlowControl, Dialogue.run_bind, hstate, toOption_eq_some hvalue]
  rfl

/-- **What `disable_flow_control` has changed is disabled, and can be written back** if the property
had one value, which passes the check.  Otherwise it has changed nothing. -/
theorem flowControl_roundTrip (h : PowerShell w oracle) {adapter : String}
    (hplain : IsPlainName adapter) (m : Machine) :
    let r := (disableFlowControl w adapter).run oracle m
    (∀ b, r.1 = .ok (some b) →
      (queryFlowControl w adapter).run oracle r.2 = (.ok .disabled, r.2) ∧
      (b.originalValue ≠ "" →
        (((Shell.restoreAdapterProperties [b]).run oracle r.2).2 = m ↔
          ∃ a, m.adapters adapter = some a ∧ (∃ p ∈ a.rows,
            eqIgnoreAsciiCase p.registryKeyword flowControlKeyword = true ∧
            p.registryValue = some [b.originalValue]) ∧
          validatePropertyValue b.originalValue = .ok ()))) ∧
    ((∀ b, r.1 ≠ .ok (some b)) → r.2 = m) := by
  intro r
  obtain ⟨a, p, ha, hlength, hp, hkeyword, hzero, hvalid, hrun⟩ | ⟨hstate, hnone⟩ :=
    run_disableFlowControl h hplain m
  · have hr : r = (.ok (some ⟨adapter, p.registryKeyword, p.displayName, p.firstValue.getD "0"⟩),
        m.assignAdapter adapter p.registryKeyword "0") := hrun
    have hisOk : (validateAdapterSet adapter p.registryKeyword "0").isOk := by rw [hvalid]; rfl
    rw [hr]
    refine ⟨?_, fun hnone => absurd rfl (hnone _)⟩
    rintro b ⟨⟩
    refine ⟨run_queryFlowControl_disabled h hplain ha hlength hp hkeyword hvalid, fun hvalue => ?_⟩
    dsimp only at hvalue ⊢
    have hwritable : Writable [⟨adapter, p.registryKeyword, p.displayName,
        p.firstValue.getD "0"⟩] := List.forall_mem_singleton.mpr ⟨hplain, hvalue⟩
    have hback : ((Shell.restoreAdapterProperties [⟨adapter, p.registryKeyword, p.displayName,
        p.firstValue.getD "0"⟩]).run oracle (m.assignAdapter adapter p.registryKeyword "0")).2 =
        (m.assignAdapter adapter p.registryKeyword "0").assignAdapter adapter p.registryKeyword
          (p.firstValue.getD "0") := by
      rw [Shell.restoreAdapterProperties, Dialogue.run_bind, run_restoreProperties h _ hwritable]
      rfl
    have hone : ∀ q ∈ a.rows, eqIgnoreAsciiCase q.registryKeyword flowControlKeyword = true →
        q = p := by
      intro q hq hqkeyword
      apply a.eq_of_keyword hq hp
      rw [eqIgnoreAsciiCase_iff] at hkeyword hqkeyword ⊢
      exact hqkeyword.trans hkeyword.symm
    have hrow : (∃ q ∈ a.rows, eqIgnoreAsciiCase q.registryKeyword flowControlKeyword = true ∧
        q.registryValue = some [p.firstValue.getD "0"]) ↔
          p.registryValue = some [p.firstValue.getD "0"] := by
      constructor
      · rintro ⟨q, hq, hqkeyword, hqvalue⟩
        rwa [hone q hq hqkeyword] at hqvalue
      · exact fun h => ⟨p, hp, hkeyword, h⟩
    rw [hback]
    simp only [ha, Option.some.injEq, exists_eq_left', hrow]
    obtain ⟨hadapter, hkw, -⟩ := of_validateAdapterSet hvalid
    have hset : validateAdapterSet adapter p.registryKeyword (p.firstValue.getD "0") =
        validatePropertyValue (p.firstValue.getD "0") := by
      rw [validateAdapterSet, hadapter, hkw]
      rfl
    rcases hpass : validatePropertyValue (p.firstValue.getD "0") with e | ⟨⟨⟩⟩
    · -- the value is refused, and "0" stays
      rw [hpass] at hset
      rw [Machine.assignAdapter, hset, if_neg (by exact nofun),
        assignAdapter_eq_self_iff ha hp (eqIgnoreAsciiCase_self _) hvalid]
      constructor
      · intro hvalue
        rw [NicAdvancedProperty.firstValue, hvalue] at hzero
        exact absurd rfl hzero
      · rintro ⟨-, ⟨⟩⟩
    · rw [hpass] at hset
      have hsetOk : (validateAdapterSet adapter p.registryKeyword
          (p.firstValue.getD "0")).isOk := by rw [hset]; rfl
      rw [assignAdapter_assignAdapter hisOk hsetOk,
        assignAdapter_eq_self_iff ha hp (eqIgnoreAsciiCase_self _) hset, and_iff_left rfl]
  · refine ⟨fun b hb => absurd hb (hnone b), fun _ => hstate⟩

/-- The desktop with an adapter that has flow control. -/
def flowingDesktop : Machine :=
  { Machine.desktop with
    adapters := fun _ => some ⟨[⟨"Flow Control", "*FlowControl", some ["3"]⟩,
      ⟨"Energy Efficient Ethernet", "*EEE", some ["1"]⟩], by decide⟩ }

/-- It is disabled and written back. -/
theorem flowControl_roundTrip_desktop :
    let r := (disableFlowControl Wire.tenths "Ethernet").run (cmdlets Wire.tenths) flowingDesktop
    r.1 = .ok (some ⟨"Ethernet", "*FlowControl", "Flow Control", "3"⟩) ∧
      (queryFlowControl Wire.tenths "Ethernet").run (cmdlets Wire.tenths) r.2 =
        (.ok .disabled, r.2) ∧
      ((Shell.restoreAdapterProperties [⟨"Ethernet", "*FlowControl", "Flow Control", "3"⟩]).run
        (cmdlets Wire.tenths) r.2).2 = flowingDesktop := by
  have hplain : IsPlainName "Ethernet" := by decide
  obtain ⟨hstate, hvalue⟩ := run_queryProperty (powerShell_cmdlets Wire.tenths) hplain
    flowControlKeyword flowingDesktop
  obtain ⟨hok, -⟩ := run_setAdapterProperty (powerShell_cmdlets Wire.tenths) flowingDesktop hplain
    "*FlowControl" (show "0" ≠ "" by decide)
  have hfound : (if validateAdapterIdentifier flowControlKeyword = .ok () then
      (flowingDesktop.listedProperties "Ethernet").map fun rows =>
        rows.find? fun p => eqIgnoreAsciiCase p.registryKeyword flowControlKeyword
    else none) = some (some ⟨"Flow Control", "*FlowControl", some ["3"]⟩) := by
    decide +kernel
  have hr : ((disableFlowControl Wire.tenths "Ethernet").run (cmdlets Wire.tenths)
      flowingDesktop).1 = .ok (some ⟨"Ethernet", "*FlowControl", "Flow Control", "3"⟩) := by
    rw [disableFlowControl, Dialogue.run_bind, hstate, toOption_eq_some (hvalue.trans hfound)]
    dsimp only
    rw [if_pos (by decide), Dialogue.run_bind, hok.mpr ⟨by decide +kernel, by decide +kernel⟩]
    rfl
  have hroundTrip := flowControl_roundTrip (powerShell_cmdlets Wire.tenths) hplain flowingDesktop
  dsimp only at hroundTrip ⊢
  -- from here on the run is known by its result only
  generalize (disableFlowControl Wire.tenths "Ethernet").run (cmdlets Wire.tenths) flowingDesktop =
    r at hr hroundTrip ⊢
  obtain ⟨hquery, hback⟩ := hroundTrip.1 _ hr
  refine ⟨hr, hquery, (hback (by decide)).mpr ⟨_, rfl, ?_, by decide +kernel⟩⟩
  exact ⟨_, List.mem_cons_self, by decide +kernel, rfl⟩

end ValOpt.Shell
