import ValOpt.Optimizations.Audio

/-!
# What the audio functions do

`disableAudioEnhancements` leaves every render endpoint with the `SysFx` value 1 and returns the
values it found (`run_disableAudioEnhancements`).  `restoreAudioEnhancements` gives each endpoint
that has an `FxProperties` key the last value its list of backups names
(`run_restoreAudioEnhancements`).  A disabling run that is cut short has handled the endpoints
before the one it died in (`follows_disableAudioEnhancements`).
-/

namespace ValOpt

open Effect

/-! ### The states the functions lead to -/

/-- The value that a list of backups gives to an endpoint: its last entry counts. -/
def recordedFx (id : String) : List AudioEndpointBackup → Option (Option UInt32)
  | [] => none
  | b :: bs => (recordedFx id bs).or
      (if b.endpointId = id then some b.originalDisabledState else none)

namespace Machine

variable (m : Machine)

/-- The endpoints `ids` have the `SysFx` value 1. -/
def disableFx (ids : List String) : Machine :=
  { m with fxProperties := fun id => if id ∈ ids then some (some 1) else m.fxProperties id }

/-- Every endpoint with an `FxProperties` key has the value that `backups` gives to it. -/
def restoreFx (backups : List AudioEndpointBackup) : Machine :=
  { m with fxProperties := fun id => (m.fxProperties id).map (recordedFx id backups).getD }

/-- What `queryEndpointDetails` makes of an endpoint. -/
def endpointInfo (id : String) : AudioEndpointInfo :=
  ⟨id, (m.friendlyName id).getD "Audio Endpoint", m.sysFx id == some 1⟩

/-- The backup of one endpoint in a transaction. -/
def audioBackup (id : String) : AudioEndpointBackup :=
  ⟨id, (m.friendlyName id).getD "Audio Endpoint", m.sysFx id⟩

theorem sysFx_disableFx (ids : List String) (id : String) :
    (m.disableFx ids).sysFx id = if id ∈ ids then some 1 else m.sysFx id := by
  unfold sysFx disableFx
  by_cases h : id ∈ ids <;> simp [h]

theorem sysFx_restoreFx (backups : List AudioEndpointBackup) (id : String) :
    (m.restoreFx backups).sysFx id =
      if (m.fxProperties id).isSome then (recordedFx id backups).getD (m.sysFx id) else none := by
  unfold sysFx restoreFx
  cases h : m.fxProperties id with
  | none => simp [h]
  | some v => simp [h]

@[simp] theorem disableFx_nil : m.disableFx [] = m := by
  unfold disableFx
  simp

@[simp] theorem restoreFx_nil : m.restoreFx [] = m := by
  unfold restoreFx
  have h : ∀ o : Option (Option UInt32), o.map (recordedFx "" []).getD = o := by
    intro o
    cases o <;> rfl
  have hfx : (fun id => (m.fxProperties id).map (recordedFx id []).getD) = m.fxProperties := by
    funext id
    exact h _
  rw [hfx]

/-- Writing 1 to one endpoint and then to the others. -/
theorem disableFx_setFxProperties (id : String) (ids : List String) :
    (m.setFxProperties id (some 1)).disableFx ids = m.disableFx (id :: ids) := by
  unfold disableFx setFxProperties
  congr 1
  funext id'
  by_cases h : id' = id
  · subst h
    simp
  · simp [h]

theorem setFxProperties_setFxProperties (id : String) (v v' : Option UInt32) :
    (m.setFxProperties id v).setFxProperties id v' = m.setFxProperties id v' := by
  unfold setFxProperties
  simp

/-- Restoring one endpoint and then the others. -/
theorem restoreFx_setFxProperties {b : AudioEndpointBackup}
    (h : (m.fxProperties b.endpointId).isSome) (bs : List AudioEndpointBackup) :
    (m.setFxProperties b.endpointId b.originalDisabledState).restoreFx bs =
      m.restoreFx (b :: bs) := by
  unfold restoreFx setFxProperties
  congr 1
  funext id'
  by_cases hid : id' = b.endpointId
  · subst hid
    obtain ⟨v', hv⟩ := Option.isSome_iff_exists.mp h
    simp only [Function.update_self, hv, Option.map_some, recordedFx, if_true]
    cases recordedFx b.endpointId bs <;> rfl
  · simp [hid, recordedFx, Ne.symm hid]

/-- A backup of an endpoint without an `FxProperties` key has no effect. -/
theorem restoreFx_cons_of_none {b : AudioEndpointBackup} (h : m.fxProperties b.endpointId = none)
    (bs : List AudioEndpointBackup) : m.restoreFx (b :: bs) = m.restoreFx bs := by
  unfold restoreFx
  congr 1
  funext id
  by_cases hid : b.endpointId = id
  · rw [← hid, h]
    rfl
  · simp [recordedFx, hid]

end Machine

/-- The backups of a list of endpoints name each of them once. -/
theorem recordedFx_map (f : String → AudioEndpointBackup) (hf : ∀ id, (f id).endpointId = id)
    (id : String) (ids : List String) : recordedFx id (ids.map f) =
      if id ∈ ids then some (f id).originalDisabledState else none := by
  induction ids with
  | nil => simp [recordedFx]
  | cons a ids ih =>
    rw [List.map_cons, recordedFx, ih, hf]
    by_cases ha : a = id
    · subst ha
      by_cases h : a ∈ ids <;> simp [h]
    · have ha' : id ≠ a := Ne.symm ha
      simp [ha, ha']

/-! ### Undisturbed runs -/

section Faultless

variable {text : Call → String} {w : World}

@[simp] theorem run_queryEndpointName (id : String) :
    (queryEndpointName id).run (.faultless text) w =
      .returned ((w.machine.friendlyName id).getD "Audio Endpoint") w := by
  unfold queryEndpointName
  cases h : w.machine.friendlyName id <;> simp [h]

@[simp] theorem run_queryEndpointDisabled (id : String) :
    (queryEndpointDisabled id).run (.faultless text) w =
      .returned (w.machine.sysFx id == some 1) w := by
  unfold queryEndpointDisabled Machine.sysFx
  rcases h : w.machine.fxProperties id with _ | _ | v <;> simp [h]

@[simp] theorem run_queryEndpointDetails (id : String) :
    (queryEndpointDetails id).run (.faultless text) w =
      .returned ((w.machine.endpointInfo id).name, (w.machine.endpointInfo id).enhancementsDisabled)
        w := by
  simp [queryEndpointDetails, Machine.endpointInfo]

theorem run_enumerateFrom (index : ℕ) (ids : List String) :
    (enumerateFrom index ids).run (.faultless text) w =
      .returned (ids.map w.machine.endpointInfo) w := by
  induction ids generalizing index with
  | nil => simp [enumerateFrom]
  | cons id ids ih => simp [enumerateFrom, ih, Machine.endpointInfo]

@[simp] theorem run_enumerateRenderEndpoints :
    enumerateRenderEndpoints.run (.faultless text) w =
      .returned (.ok (w.machine.endpoints.map w.machine.endpointInfo)) w := by
  simp [enumerateRenderEndpoints, run_enumerateFrom]

theorem run_disableEndpoint (e : AudioEndpointInfo) :
    (disableEndpoint e).run (.faultless text) w =
      .returned (some ⟨e.id, e.name, w.machine.sysFx e.id⟩)
        { w with machine := w.machine.setFxProperties e.id (some 1) } := by
  unfold disableEndpoint
  cases h : w.machine.sysFx e.id <;>
    simp [h, Machine.setFxProperties_setFxProperties]

/-- The loop reads each value before it is overwritten, since no endpoint occurs twice. -/
theorem run_disableEndpoints (es : List AudioEndpointInfo) (hnodup : (es.map (·.id)).Nodup) :
    (disableEndpoints es).run (.faultless text) w =
      .returned (es.map fun e => ⟨e.id, e.name, w.machine.sysFx e.id⟩)
        { w with machine := w.machine.disableFx (es.map (·.id)) } := by
  induction es generalizing w with
  | nil => simp [disableEndpoints]
  | cons e es ih =>
    rw [List.map_cons, List.nodup_cons] at hnodup
    obtain ⟨hnotin, hnodup⟩ := hnodup
    have hrest : ∀ e' ∈ es, (w.machine.setFxProperties e.id (some 1)).sysFx e'.id =
        w.machine.sysFx e'.id := by
      intro e' he'
      have hne : e'.id ≠ e.id := fun h => hnotin (h ▸ List.mem_map_of_mem he')
      rw [Machine.sysFx_setFxProperties, if_neg hne]
    simp only [disableEndpoints, Eff.run_bind, run_disableEndpoint, Run.bind_returned,
      ih hnodup, Eff.run_pure, Option.toList_some, List.singleton_append, List.map_cons,
      Machine.disableFx_setFxProperties]
    congr 2
    apply List.map_congr_left
    intro e' he'
    rw [hrest e' he']

/-- `disableAudioEnhancements` sets every endpoint to 1 and returns the values it found. -/
@[simp] theorem run_disableAudioEnhancements :
    disableAudioEnhancements.run (.faultless text) w =
      .returned (.ok (w.machine.endpoints.map w.machine.audioBackup))
        { w with machine := w.machine.disableFx w.machine.endpoints } := by
  have hids : (w.machine.endpoints.map w.machine.endpointInfo).map (·.id) =
      w.machine.endpoints := by
    rw [List.map_map]
    exact List.map_id _
  have hnodup : ((w.machine.endpoints.map w.machine.endpointInfo).map (·.id)).Nodup := by
    rw [hids]
    exact w.machine.endpoints_nodup
  unfold disableAudioEnhancements
  simp only [Eff.run_bind, run_enumerateRenderEndpoints, Run.bind_returned,
    run_disableEndpoints _ hnodup, Eff.run_pure, hids, List.map_map]
  rfl

theorem run_restoreEndpoint (index : ℕ) (b : AudioEndpointBackup) (w : World) :
    (restoreEndpoint index b).run (.faultless text) w =
      .returned () { w with machine := w.machine.restoreFx [b] } := by
  unfold restoreEndpoint
  cases h : w.machine.fxProperties b.endpointId with
  | none => simp [h, w.machine.restoreFx_cons_of_none h]
  | some v =>
    have hs : (w.machine.fxProperties b.endpointId).isSome := by simp [h]
    have hb := w.machine.restoreFx_setFxProperties hs []
    rw [Machine.restoreFx_nil] at hb
    simp [h, hb]

theorem restoreFx_append (m : Machine) (b : AudioEndpointBackup) (bs : List AudioEndpointBackup) :
    (m.restoreFx [b]).restoreFx bs = m.restoreFx (b :: bs) := by
  unfold Machine.restoreFx
  congr 1
  funext id
  rw [Option.map_map]
  congr 1
  funext v
  simp only [Function.comp_apply, recordedFx, Option.none_or]
  cases recordedFx id bs <;> rfl

/-- The loop over the backups, one endpoint after the other. -/
theorem foldl_restoreFx (bs : List AudioEndpointBackup) (w : World) :
    bs.foldl (fun w b => { w with machine := w.machine.restoreFx [b] }) w =
      { w with machine := w.machine.restoreFx bs } := by
  induction bs generalizing w with
  | nil => simp
  | cons b bs ih => rw [List.foldl_cons, ih, restoreFx_append]

/-- `restoreAudioEnhancements` writes the backups back. -/
@[simp] theorem run_restoreAudioEnhancements (bs : List AudioEndpointBackup) :
    (restoreAudioEnhancements bs).run (.faultless text) w =
      .returned (.ok ()) { w with machine := w.machine.restoreFx bs } := by
  unfold restoreAudioEnhancements
  rw [Eff.run_bind, Eff.run_forEach run_restoreEndpoint, Run.bind_returned, Eff.run_pure,
    foldl_restoreFx]

end Faultless

/-! ### Runs that are cut short -/

section Disturbed

variable {env : Env Call} {w : World} {C : World → Prop}

/-- The calls that look at the endpoint `id` while enumerating. -/
def detailCalls (id : String) : List Call :=
  [.openProperties id, .queryFriendlyName id, .openFxProperties id, .queryFx id]

theorem follows_queryEndpointDetails (hfree : env.ErrorFree) (id : String)
    (hC : ∀ c ∈ detailCalls id, env.DiesIn c → C w) :
    Eff.Follows env (queryEndpointDetails id) w C := by
  have hname : Eff.Follows env (queryEndpointName id) w C := by
    unfold queryEndpointName
    refine Eff.Follows.bind (follows_readMachine hfree (hC _ (by simp [detailCalls]))) ?_
    rintro (_ | ⟨⟩) w₁ h
    · exact Eff.follows_pure _
    rw [state_of_run_readMachine h]
    refine Eff.Follows.bind (follows_readMachine hfree (hC _ (by simp [detailCalls]))) ?_
    rintro (_ | _) _ _ <;> exact Eff.follows_pure _
  have hdisabled : Eff.Follows env (queryEndpointDisabled id) w C := by
    unfold queryEndpointDisabled
    refine Eff.Follows.bind (follows_readMachine hfree (hC _ (by simp [detailCalls]))) ?_
    rintro (_ | _) w₁ h
    · exact Eff.follows_pure _
    rw [state_of_run_readMachine h]
    refine Eff.Follows.bind (follows_readMachine hfree (hC _ (by simp [detailCalls]))) ?_
    rintro (_ | _) _ _ <;> exact Eff.follows_pure _
  unfold queryEndpointDetails
  refine Eff.Follows.bind hname ?_
  intro name w₁ h
  rw [run_queryEndpointName] at h
  cases h
  refine Eff.Follows.bind hdisabled ?_
  intro disabled w₂ _
  exact Eff.follows_pure _

theorem follows_enumerateFrom (hfree : env.ErrorFree) (index : ℕ) (ids : List String)
    (hnext : ∀ i, env.DiesIn (.enumRender i) → C w)
    (hC : ∀ id ∈ ids, ∀ c ∈ detailCalls id, env.DiesIn c → C w) :
    Eff.Follows env (enumerateFrom index ids) w C := by
  induction ids generalizing index with
  | nil =>
    refine Eff.Follows.bind (follows_readMachine hfree (hnext index)) ?_
    intro _ _ _
    exact Eff.follows_pure _
  | cons id ids ih =>
    refine Eff.Follows.bind (follows_readMachine hfree (hnext index)) ?_
    rintro (_ | id') w₁ h
    · exact Eff.follows_pure _
    rw [run_readMachine_faultless] at h
    cases h
    refine Eff.Follows.bind
      (follows_queryEndpointDetails hfree id (hC id List.mem_cons_self)) ?_
    intro d w₂ h
    rw [run_queryEndpointDetails] at h
    cases h
    refine Eff.Follows.bind
      (ih (index + 1) fun id' hid' => hC id' (List.mem_cons_of_mem _ hid')) ?_
    intro _ _ _
    exact Eff.follows_pure _

theorem follows_enumerateRenderEndpoints (hfree : env.ErrorFree)
    (hopen : env.DiesIn .openRender → C w) (hnext : ∀ i, env.DiesIn (.enumRender i) → C w)
    (hC : ∀ id ∈ w.machine.endpoints, ∀ c ∈ detailCalls id, env.DiesIn c → C w) :
    Eff.Follows env enumerateRenderEndpoints w C := by
  unfold enumerateRenderEndpoints
  refine Eff.Follows.bind (follows_readMachine hfree hopen) ?_
  rintro (_ | ids) w₁ h
  · exact Eff.follows_pure _
  rw [run_readMachine_faultless] at h
  cases h
  refine Eff.Follows.bind (follows_enumerateFrom hfree 0 _ hnext hC) ?_
  intro _ _ _
  exact Eff.follows_pure _

/-- The calls that change the endpoint `id`. -/
def changeCalls (id : String) : List Call :=
  [.createFxProperties id, .queryOriginalFx id, .setFx id]

theorem follows_disableEndpoint (hfree : env.ErrorFree) (e : AudioEndpointInfo)
    (hcreate : env.DiesIn (.createFxProperties e.id) → C w)
    (hset : ∀ c ∈ changeCalls e.id, env.DiesIn c →
      C { w with machine := w.machine.setFxProperties e.id (w.machine.sysFx e.id) }) :
    Eff.Follows env (disableEndpoint e) w C := by
  unfold disableEndpoint
  refine Eff.Follows.bind (follows_writeMachine hfree hcreate) ?_
  rintro (_ | ⟨⟩) w₁ h
  · exact Eff.follows_pure _
  rw [run_writeMachine_faultless] at h
  cases h
  refine Eff.Follows.bind (follows_readMachine hfree (hset _ (by simp [changeCalls]))) ?_
  intro r w₂ h
  rw [state_of_run_readMachine h]
  refine Eff.Follows.bind (follows_writeMachine hfree (hset _ (by simp [changeCalls]))) ?_
  rintro (_ | ⟨⟩) _ _ <;> exact Eff.follows_pure _

/-- Where the loop is cut short inside an endpoint, those before it have the value 1, and its own
value is still the old one. -/
theorem follows_disableEndpoints (hfree : env.ErrorFree) (es : List AudioEndpointInfo)
    (hC : ∀ done id todo, es.map (·.id) = done ++ id :: todo →
      ∀ c ∈ changeCalls id, env.DiesIn c → ∀ m : Machine,
        (m = w.machine.disableFx done ∨ m = (w.machine.disableFx done).setFxProperties id
          ((w.machine.disableFx done).sysFx id)) → C { w with machine := m }) :
    Eff.Follows env (disableEndpoints es) w C := by
  induction es generalizing w with
  | nil => exact Eff.follows_pure _
  | cons e es ih =>
    have hfirst := hC [] e.id (es.map (·.id)) rfl
    simp only [Machine.disableFx_nil] at hfirst
    refine Eff.Follows.bind (follows_disableEndpoint hfree e ?_ ?_) ?_
    · intro h
      exact hfirst _ (by simp [changeCalls]) h _ (.inl rfl)
    · intro c hc h
      exact hfirst c hc h _ (.inr rfl)
    intro r w₁ h
    rw [run_disableEndpoint] at h
    cases h
    refine Eff.Follows.bind (ih ?_) ?_
    · intro done id todo hids c hc hdies m hm
      simp only [Machine.disableFx_setFxProperties] at hm
      exact hC (e.id :: done) id todo (by rw [List.map_cons, hids]; rfl) c hc hdies m hm
    intro _ _ _
    exact Eff.follows_pure _

/-- A `disableAudioEnhancements` that is cut short has disabled the endpoints before the one it
died in. -/
theorem follows_disableAudioEnhancements (hfree : env.ErrorFree)
    (hopen : env.DiesIn .openRender → C w) (hnext : ∀ i, env.DiesIn (.enumRender i) → C w)
    (hread : ∀ id ∈ w.machine.endpoints, ∀ c ∈ detailCalls id, env.DiesIn c → C w)
    (hC : ∀ done id todo, w.machine.endpoints = done ++ id :: todo →
      ∀ c ∈ changeCalls id, env.DiesIn c → ∀ m : Machine,
        (m = w.machine.disableFx done ∨ m = (w.machine.disableFx done).setFxProperties id
          ((w.machine.disableFx done).sysFx id)) → C { w with machine := m }) :
    Eff.Follows env disableAudioEnhancements w C := by
  unfold disableAudioEnhancements
  refine Eff.Follows.bind (follows_enumerateRenderEndpoints hfree hopen hnext hread) ?_
  intro r w₁ h
  rw [run_enumerateRenderEndpoints] at h
  cases h
  refine Eff.Follows.bind (follows_disableEndpoints hfree _ ?_) ?_
  · intro done id todo hids
    refine hC done id todo ?_
    rw [← hids, List.map_map]
    exact (List.map_id _).symm
  intro _ _ _
  exact Eff.follows_pure _

end Disturbed

end ValOpt
