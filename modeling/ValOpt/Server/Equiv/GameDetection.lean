import ValOpt.Server.Daemon

/-!
# Which process is the game

`find_process_with_path` takes the first process of the name that can be opened and whose path
`is_legitimate_game_path` accepts.  It accepts the genuine path, but also any other one that
contains `shootergame` and ends in the name (`isLegitimateGamePath_iff`), so an impostor in such a
place is taken for the game if it comes first (`detectsGenuine_iff`).
-/

namespace ValOpt

open Text

/-! ### Paths -/

/-- The binary in its directory. -/
def genuineTail : String := "\\ShooterGame\\Binaries\\Win64\\VALORANT-Win64-Shipping.exe"

/-- The path ends in the binary in its directory, up to case. -/
def IsGenuinePath (path : String) : Prop :=
  ∃ dir tail, path = dir ++ tail ∧ eqIgnoreAsciiCase tail genuineTail

/-- Another path that contains `shootergame` and ends in the name of the binary, up to case. -/
def IsImpostorPath (path : String) : Prop :=
  ¬IsGenuinePath path ∧ containsStr (toLowercase path) "shootergame" ∧
    "valorant-win64-shipping.exe".toList <:+ (toLowercase path).toList

/-- One character of `to_lowercase`. -/
def lowercaseChar (c : Char) : Char := if c.toNat = 0x212A then 'k' else c.toLower

theorem toList_toLowercase (s : String) : (toLowercase s).toList = s.toList.map lowercaseChar := by
  rw [toLowercase, String.toList_map]
  rfl

/-- Text without the letter `k` comes from the same characters in any case. -/
theorem map_lowercaseChar_eq_iff {s w : List Char} (hw : ∀ c ∈ w, c ≠ 'k' ∧ c.toNat < 128) :
    s.map lowercaseChar = w ↔ s.map Char.toLower = w := by
  induction s generalizing w with
  | nil => rfl
  | cons c s ih =>
    cases w with
    | nil => simp
    | cons d w =>
      obtain ⟨hk, hascii⟩ := hw d List.mem_cons_self
      rw [List.map_cons, List.map_cons, List.cons.injEq, List.cons.injEq,
        ih (fun c hc => hw c (List.mem_cons_of_mem _ hc))]
      have hchar : lowercaseChar c = d ↔ c.toLower = d := by
        by_cases hkelvin : c.toNat = 0x212A
        · -- the Kelvin sign becomes `k`, which is not in the text
          have hself : c.toLower = c := by
            have hc : c = Char.ofNat 0x212A := by
              rw [← hkelvin, Char.ofNat_toNat]
            rw [hc]
            decide
          rw [lowercaseChar, if_pos hkelvin, hself]
          constructor
          · intro heq
            exact absurd heq.symm hk
          · intro heq
            rw [heq] at hkelvin
            omega
        · rw [lowercaseChar, if_neg hkelvin]
      rw [hchar]

theorem isGenuinePath_iff (path : String) : IsGenuinePath path ↔
    "\\shootergame\\binaries\\win64\\valorant-win64-shipping.exe".toList <:+
      (toLowercase path).toList := by
  have hlower : asciiLower genuineTail =
      "\\shootergame\\binaries\\win64\\valorant-win64-shipping.exe".toList := by
    decide +kernel
  have hascii : ∀ c ∈ "\\shootergame\\binaries\\win64\\valorant-win64-shipping.exe".toList,
      c ≠ 'k' ∧ c.toNat < 128 := by
    apply forall_mem_of_all
    decide +kernel
  rw [toList_toLowercase]
  constructor
  · rintro ⟨dir, tail, rfl, htail⟩
    rw [eqIgnoreAsciiCase_iff, hlower] at htail
    rw [String.toList_append, List.map_append, (map_lowercaseChar_eq_iff hascii).mpr htail]
    exact List.suffix_append _ _
  · rintro ⟨front, hfront⟩
    obtain ⟨dir, tail, hpath, _, htail⟩ := List.map_eq_append_iff.mp hfront.symm
    refine ⟨String.ofList dir, String.ofList tail, ?_, ?_⟩
    · rw [← String.ofList_append, ← hpath, String.ofList_toList]
    · rw [eqIgnoreAsciiCase_iff, hlower, asciiLower, String.toList_ofList]
      exact (map_lowercaseChar_eq_iff hascii).mp htail

instance (path : String) : Decidable (IsGenuinePath path) :=
  decidable_of_iff _ (isGenuinePath_iff path).symm

/-- What the validation accepts: the name of the binary contains the word `valorant`. -/
theorem isLegitimateGamePath_iff (path : String) :
    isLegitimateGamePath valorantBinaryName path ↔ IsGenuinePath path ∨ IsImpostorPath path := by
  have hvalorant : "valorant-win64-shipping.exe".toList <:+ (toLowercase path).toList →
      containsStr (toLowercase path) "valorant" := by
    intro hsuffix
    rw [containsStr_iff]
    have hinfix : "valorant".toList <:+: "valorant-win64-shipping.exe".toList := by
      decide +kernel
    exact hinfix.trans hsuffix.isInfix
  rw [isLegitimateGamePath, if_pos (eqIgnoreAsciiCase_self _)]
  simp only [Bool.or_eq_true, Bool.and_eq_true, decide_eq_true_eq, ← isGenuinePath_iff,
    IsImpostorPath]
  by_cases hgenuine : IsGenuinePath path
  · simp [hgenuine]
  · simp only [hgenuine, false_or, not_false_eq_true, true_and]
    constructor
    · rintro ⟨⟨_, hcontains⟩, hsuffix⟩
      exact ⟨hcontains, hsuffix⟩
    · rintro ⟨hcontains, hsuffix⟩
      exact ⟨⟨hvalorant hsuffix, hcontains⟩, hsuffix⟩

/-! ### Processes -/

section Processes

variable (access : ProcessAccess)

/-- The process bears the name of the binary and can be opened. -/
def Process.IsCandidate (p : Process) : Prop :=
  toLowercase p.name = toLowercase valorantBinaryName ∧ access.opens p.pid

/-- The path of its image is known, and as `kind` says. -/
def Process.RunsFrom (kind : String → Prop) (p : Process) : Prop :=
  ∃ path, p.imagePath = some path ∧ kind path

/-- Only the game is found, and it is found if there is a process that can be opened. -/
def DetectsGenuine (running : List Process) : Prop :=
  (∀ pid path, findProcessWithPath access running valorantBinaryName = some (pid, path) →
      ∃ p ∈ running, p.pid = pid ∧ p.imagePath = some path ∧ IsGenuinePath path) ∧
    ((∃ p ∈ running, access.opens p.pid ∧ p.RunsFrom IsGenuinePath) →
      (findProcessWithPath access running valorantBinaryName).isSome)

/-- The test of `find_process_with_path`. -/
def accepts (p : Process) : Bool :=
  toLowercase p.name = toLowercase valorantBinaryName ∧ access.opens p.pid ∧
    isLegitimateGamePath valorantBinaryName (p.imagePath.getD "")

theorem accepts_iff (p : Process) : accepts access p ↔
    p.IsCandidate access ∧ (p.RunsFrom IsGenuinePath ∨ p.RunsFrom IsImpostorPath) := by
  have hpath : isLegitimateGamePath valorantBinaryName (p.imagePath.getD "") ↔
      p.RunsFrom IsGenuinePath ∨ p.RunsFrom IsImpostorPath := by
    cases himage : p.imagePath with
    | none =>
      have hempty : ¬isLegitimateGamePath valorantBinaryName "" := by decide +kernel
      simp [Process.RunsFrom, himage, hempty]
    | some path =>
      simp [Process.RunsFrom, himage, isLegitimateGamePath_iff]
  rw [accepts, decide_eq_true_eq, hpath, Process.IsCandidate, and_assoc]

theorem findProcessWithPath_ok (hsnapshot : access.snapshot = .ok ()) (running : List Process) :
    findProcessWithPath access running valorantBinaryName =
      (running.find? (accepts access)).map fun p => (p.pid, p.imagePath.getD "") := by
  rw [findProcessWithPath, hsnapshot]
  rfl

/-- Every impostor that could be taken for the game comes after the game, and the game can be found
by its name. -/
structure NotDeceived (running : List Process) : Prop where
  first : access.snapshot = .ok () → ∀ before p after, running = before ++ p :: after →
    p.IsCandidate access → p.RunsFrom IsImpostorPath →
      ∃ q ∈ before, q.IsCandidate access ∧ q.RunsFrom IsGenuinePath
  found : (∃ p ∈ running, access.opens p.pid ∧ p.RunsFrom IsGenuinePath) →
    access.snapshot = .ok () ∧ ∃ p ∈ running, p.IsCandidate access ∧ p.RunsFrom IsGenuinePath

theorem Process.RunsFrom.not_genuine {p : Process} (h : p.RunsFrom IsImpostorPath) :
    ¬p.RunsFrom IsGenuinePath := by
  rintro ⟨path, himage, hgenuine⟩
  obtain ⟨path', himage', hnot, _⟩ := h
  rw [himage] at himage'
  rw [← Option.some.inj himage'] at hnot
  exact hnot hgenuine

theorem Process.RunsFrom.getD_imagePath {p : Process} {kind : String → Prop} (h : p.RunsFrom kind) :
    p.imagePath = some (p.imagePath.getD "") ∧ kind (p.imagePath.getD "") := by
  obtain ⟨path, himage, hkind⟩ := h
  rw [himage]
  exact ⟨rfl, hkind⟩

/-- The process that is taken, if the first part of `DetectsGenuine` holds. -/
theorem genuine_of_find {access : ProcessAccess} {running : List Process} {q : Process}
    (hsnapshot : access.snapshot = .ok ())
    (honly : ∀ pid path, findProcessWithPath access running valorantBinaryName = some (pid, path) →
      ∃ p ∈ running, p.pid = pid ∧ p.imagePath = some path ∧ IsGenuinePath path)
    (hq : running.find? (accepts access) = some q) :
    q.IsCandidate access ∧ q.RunsFrom IsGenuinePath := by
  obtain ⟨hcandidate, hpath⟩ := (accepts_iff access q).mp (List.find?_some hq)
  have hfind : findProcessWithPath access running valorantBinaryName =
      some (q.pid, q.imagePath.getD "") := by
    rw [findProcessWithPath_ok access hsnapshot, hq]
    rfl
  obtain ⟨_, _, _, _, hgenuine⟩ := honly _ _ hfind
  refine ⟨hcandidate, ?_⟩
  rcases hpath with hpath | hpath
  · exact hpath
  · exact ⟨_, hpath.getD_imagePath.1, hgenuine⟩

/-- Nothing is found without a snapshot. -/
theorem findProcessWithPath_eq_none {access : ProcessAccess} (hsnapshot : access.snapshot ≠ .ok ())
    (running : List Process) (name : String) : findProcessWithPath access running name = none := by
  rw [findProcessWithPath]
  split
  · rfl
  · next hok => exact absurd hok hsnapshot

theorem isSome_findProcessWithPath {access : ProcessAccess} (hsnapshot : access.snapshot = .ok ())
    (running : List Process) : (findProcessWithPath access running valorantBinaryName).isSome ↔
      ∃ p ∈ running, accepts access p := by
  rw [findProcessWithPath_ok access hsnapshot, Option.isSome_map, List.find?_isSome]

/-- An impostor that is accepted before the game would be taken. -/
theorem DetectsGenuine.notDeceived {access : ProcessAccess} {running : List Process}
    (hsnapshot : access.snapshot = .ok ()) (h : DetectsGenuine access running) :
    NotDeceived access running := by
  obtain ⟨honly, hfound⟩ := h
  constructor
  case first =>
    intro _ before p after hrunning hcandidate himpostor
    have haccepts : accepts access p := (accepts_iff access p).mpr ⟨hcandidate, Or.inr himpostor⟩
    -- What is taken is the first accepted process before `p`, or `p` itself.
    have hsplit : running.find? (accepts access) =
        (before.find? (accepts access)).or (some p) := by
      rw [hrunning, List.find?_append, List.find?_cons_of_pos haccepts]
    cases hbefore : before.find? (accepts access) with
    | none =>
      rw [hbefore] at hsplit
      exact absurd (genuine_of_find hsnapshot honly hsplit).2 himpostor.not_genuine
    | some q =>
      rw [hbefore] at hsplit
      obtain ⟨hcandidate', hgenuine⟩ := genuine_of_find hsnapshot honly hsplit
      exact ⟨q, List.mem_of_find?_eq_some hbefore, hcandidate', hgenuine⟩
  case found =>
    intro hexists
    have hisSome := hfound hexists
    rw [findProcessWithPath_ok access hsnapshot, Option.isSome_map] at hisSome
    obtain ⟨q, hq⟩ := Option.isSome_iff_exists.mp hisSome
    obtain ⟨hcandidate, hgenuine⟩ := genuine_of_find hsnapshot honly hq
    exact ⟨hsnapshot, q, List.mem_of_find?_eq_some hq, hcandidate, hgenuine⟩

/-- The first accepted process is the game if every impostor stands behind one. -/
theorem NotDeceived.detectsGenuine {access : ProcessAccess} {running : List Process}
    (hsnapshot : access.snapshot = .ok ()) (h : NotDeceived access running) :
    DetectsGenuine access running := by
  constructor
  · intro pid path hpid
    rw [findProcessWithPath_ok access hsnapshot, Option.map_eq_some_iff] at hpid
    obtain ⟨p, hp, hpair⟩ := hpid
    obtain ⟨rfl, rfl⟩ := Prod.mk.inj hpair
    obtain ⟨haccepts, before, after, hrunning, hbefore⟩ := List.find?_eq_some_iff_append.mp hp
    obtain ⟨hcandidate, hgenuine | himpostor⟩ := (accepts_iff access p).mp haccepts
    · exact ⟨p, List.mem_of_find?_eq_some hp, rfl, hgenuine.getD_imagePath⟩
    · obtain ⟨q, hq, hcandidate', hgenuine⟩ :=
        h.first hsnapshot before p after hrunning hcandidate himpostor
      have hnot := hbefore q hq
      rw [(accepts_iff access q).mpr ⟨hcandidate', Or.inl hgenuine⟩] at hnot
      exact absurd hnot (by decide)
  · intro hexists
    obtain ⟨_, p, hp, hcandidate, hgenuine⟩ := h.found hexists
    rw [isSome_findProcessWithPath hsnapshot]
    exact ⟨p, hp, (accepts_iff access p).mpr ⟨hcandidate, Or.inl hgenuine⟩⟩

/-- The game is told from its impostors if none of them comes first. -/
theorem detectsGenuine_iff (running : List Process) :
    DetectsGenuine access running ↔ NotDeceived access running := by
  by_cases hsnapshot : access.snapshot = .ok ()
  · exact ⟨DetectsGenuine.notDeceived hsnapshot, NotDeceived.detectsGenuine hsnapshot⟩
  · have hnone := findProcessWithPath_eq_none hsnapshot running valorantBinaryName
    constructor
    · rintro ⟨_, hfound⟩
      rw [hnone] at hfound
      constructor
      · intro hok
        exact absurd hok hsnapshot
      · intro hexists
        exact absurd (hfound hexists) (by simp)
    · rintro ⟨_, hfound⟩
      constructor
      · intro pid path hpid
        rw [hnone] at hpid
        cases hpid
      · intro hexists
        exact absurd (hfound hexists).1 hsnapshot

/-- An impostor in a place of its own. -/
def fakeShooterGame : Process :=
  ⟨666, "VALORANT-Win64-Shipping.exe",
    some "C:\\Users\\me\\fake-shootergame\\VALORANT-Win64-Shipping.exe"⟩

/-- It is taken for the game. -/
theorem fakeShooterGame_not_detectsGenuine :
    ¬∀ access running, DetectsGenuine access running := by
  intro h
  have honly := (h ⟨.ok (), fun _ => true, fun _ => true⟩ [fakeShooterGame]).1 666
    "C:\\Users\\me\\fake-shootergame\\VALORANT-Win64-Shipping.exe" (by decide +kernel)
  obtain ⟨_, _, _, _, hgenuine⟩ := honly
  revert hgenuine
  decide +kernel

end Processes

end ValOpt
