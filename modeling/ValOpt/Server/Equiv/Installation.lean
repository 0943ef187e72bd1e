import Mathlib.Data.List.DropRight
import ValOpt.Server.Equiv.GameDetection
import ValOpt.Server.Installation
import ValOpt.Text.WindowsPath

/-!
# The installation and the running game

`find_valorant_paths` returns the first directory, in the order of its sources, that the binary is a
file in (`findValorantPaths_eq`).  Whatever the directory is called, the last names of the path of
the binary are those that are joined to it (`rtake_pathNames_shippingPath`).  Windows reports these
names of a process of the binary, between backslashes and in any letter case, so that
`is_legitimate_game_path` accepts it: a launch finds the game that `detect_installation` has found
once it runs, and starts no other one (`installation_recognised`).
-/

namespace ValOpt

open Text

/-! ### Paths -/

/-- What separates the names of a path, or the drive from them. -/
def separates (c : Char) : Bool := c = '\\' || c = '/' || c = ':'

/-- The names in a path. -/
def pathNames (path : List Char) : List String :=
  ((path.splitOnP separates).filter (· ≠ [])).map String.ofList

/-- Windows reports this image path of a process whose image is the file with this path: at its end
there are, with backslashes between them and up to letter case, the names of the binary and of the
three directories that it is in.  The directories above these may be reached by another way. -/
def ReportedFor (path image : String) : Prop :=
  ∃ above names, image.toList = above ++ '\\' :: joinNames names ∧
    names.map asciiLower = ((pathNames path.toList).rtake 4).map asciiLower

theorem pathNames_append {front tail : List Char}
    (h : front = [] ∨ ∃ init c, front = init ++ [c] ∧ separates c = true) :
    pathNames (front ++ tail) = pathNames front ++ pathNames tail := by
  rcases h with rfl | ⟨init, c, rfl, hc⟩
  · rfl
  · rw [pathNames, List.append_assoc, List.singleton_append, List.splitOnP_append_cons init tail hc,
      pathNames, List.splitOnP_append_cons init [] hc, pathNames]
    simp only [List.filter_append, List.map_append, List.splitOnP_nil]
    rw [List.filter_cons_of_neg (by simp), List.filter_nil, List.map_nil, List.append_nil]

/-- What is joined is at the end, behind a separator. -/
theorem exists_joinPath (dir file : String) : ∃ front, joinPath dir file = front ++ file ∧
    (front.toList = [] ∨ ∃ init c, front.toList = init ++ [c] ∧ separates c = true) := by
  have hback : ∀ s : String, ∃ init c, (s ++ "\\").toList = init ++ [c] ∧ separates c = true :=
    fun s => ⟨s.toList, '\\', by rw [String.toList_append]; rfl, rfl⟩
  have hlast : ∀ {c rest}, dir.toList.reverse = c :: rest → dir.toList = rest.reverse ++ [c] :=
    fun h => by rw [← List.reverse_reverse dir.toList, h, List.reverse_cons]
  unfold joinPath
  split
  · exact ⟨"", by simp, Or.inl rfl⟩
  · next hdrive =>
    split
    · exact ⟨dir, rfl, Or.inr ⟨_, ':', hlast hdrive, rfl⟩⟩
    · exact ⟨_, rfl, Or.inr (hback dir)⟩
  · next last _ _ hreverse =>
    split
    · next hseparator =>
      refine ⟨dir, rfl, Or.inr ⟨_, last, hlast hreverse, ?_⟩⟩
      rcases hseparator with rfl | rfl <;> rfl
    · exact ⟨_, rfl, Or.inr (hback dir)⟩

/-- Behind a name a separator is put. -/
theorem joinPath_name (front name file : String) {c : Char}
    (hlast : name.toList.getLast? = some c) (hc : c ≠ ':' ∧ c ≠ '\\' ∧ c ≠ '/') :
    joinPath (front ++ name) file = front ++ name ++ "\\" ++ file := by
  have hreverse : ∃ rest, (front ++ name).toList.reverse = c :: rest := by
    obtain ⟨init, hinit⟩ := List.getLast?_eq_some_iff.mp hlast
    exact ⟨init.reverse ++ front.toList.reverse, by simp [hinit]⟩
  obtain ⟨rest, hrest⟩ := hreverse
  obtain ⟨hcolon, hback, hslash⟩ := hc
  unfold joinPath
  rw [hrest]
  split
  · next hnil => cases hnil
  · next hdrive =>
    cases hdrive
    exact absurd rfl hcolon
  · next hlast =>
    cases hlast
    rw [if_neg (by simp [hback, hslash])]

/-- The path of the binary behind the first directory of it. -/
theorem shippingPath_of_join {dir front : String} (h : joinPath dir "ShooterGame" =
    front ++ "ShooterGame") : shippingPath dir =
      front ++ "ShooterGame\\Binaries\\Win64\\VALORANT-Win64-Shipping.exe" := by
  have hbinaries := joinPath_name front "ShooterGame" "Binaries" (c := 'e') rfl (by decide)
  have hwin64 := joinPath_name (front ++ "ShooterGame" ++ "\\") "Binaries" "Win64" (c := 's') rfl
    (by decide)
  have hbinary := joinPath_name (front ++ "ShooterGame" ++ "\\" ++ "Binaries" ++ "\\") "Win64"
    valorantBinaryName (c := '4') rfl (by decide)
  simp only [shippingPath, List.foldl_cons, List.foldl_nil, h, hbinaries, hwin64, hbinary]
  simp only [String.append_assoc]
  rfl

/-- The path of the binary in a directory with a name. -/
theorem shippingPath_name (front name : String) {c : Char} (hlast : name.toList.getLast? = some c)
    (hc : c ≠ ':' ∧ c ≠ '\\' ∧ c ≠ '/') : shippingPath (front ++ name) = front ++ name ++
      "\\ShooterGame\\Binaries\\Win64\\VALORANT-Win64-Shipping.exe" := by
  rw [shippingPath_of_join (joinPath_name front name "ShooterGame" hlast hc)]
  simp only [String.append_assoc]
  rfl

/-- The last names of the path of the binary are those that are joined to the directory. -/
theorem rtake_pathNames_shippingPath (dir : String) :
    (pathNames (shippingPath dir).toList).rtake 4 =
      ["ShooterGame", "Binaries", "Win64", "VALORANT-Win64-Shipping.exe"] := by
  obtain ⟨front, hfront, hseparator⟩ := exists_joinPath dir "ShooterGame"
  have htail : pathNames "ShooterGame\\Binaries\\Win64\\VALORANT-Win64-Shipping.exe".toList =
      ["ShooterGame", "Binaries", "Win64", "VALORANT-Win64-Shipping.exe"] := by
    decide +kernel
  rw [shippingPath_of_join hfront, String.toList_append, pathNames_append hseparator, htail,
    List.rtake, List.length_append]
  exact List.drop_left' rfl

/-- The names decide the letter case of what is between the separators. -/
theorem map_toLower_joinNames (names : List String) :
    (joinNames names).map Char.toLower = ['\\'].intercalate (names.map asciiLower) := by
  induction names with
  | nil => rfl
  | cons n names ih =>
    cases names with
    | nil =>
      rw [joinNames_singleton, List.map_singleton, List.intercalate_singleton]
      rfl
    | cons m names =>
      rw [joinNames_cons_cons, List.map_append, List.map_cons, ih]
      simp only [List.map_cons, List.intercalate_cons_cons, List.append_assoc]
      rfl

/-- What Windows reports for the binary is accepted. -/
theorem ReportedFor.genuine {dir image : String} (h : ReportedFor (shippingPath dir) image) :
    IsGenuinePath image := by
  obtain ⟨above, names, himage, hnames⟩ := h
  rw [rtake_pathNames_shippingPath] at hnames
  refine ⟨String.ofList above, String.ofList ('\\' :: joinNames names), ?_, ?_⟩
  · apply String.toList_injective
    rw [himage, String.toList_append, String.toList_ofList, String.toList_ofList]
  · rw [eqIgnoreAsciiCase_iff, asciiLower, String.toList_ofList, List.map_cons,
      map_toLower_joinNames, hnames]
    decide +kernel

/-! ### Candidates -/

section FindSome

variable {α β γ : Type*}

theorem findSome?_filterMap (f : α → Option β) (p : β → Option γ) (l : List α) :
    (l.filterMap f).findSome? p = l.findSome? fun a => (f a).bind p := by
  induction l with
  | nil => rfl
  | cons a l ih =>
    rw [List.findSome?_cons]
    cases ha : f a with
    | none =>
      rw [List.filterMap_cons_none ha, ih]
      rfl
    | some b =>
      rw [List.filterMap_cons_some ha, List.findSome?_cons, ih]
      rfl

theorem findSome?_congr {f g : α → Option β} {l : List α} (h : ∀ a ∈ l, f a = g a) :
    l.findSome? f = l.findSome? g := by
  induction l with
  | nil => rfl
  | cons a l ih =>
    rw [List.findSome?_cons, List.findSome?_cons, h a List.mem_cons_self,
      ih fun b hb => h b (List.mem_cons_of_mem a hb)]

end FindSome

namespace LauncherAnswers

variable (l : LauncherAnswers)

/-- The directories that are tried, in their order. -/
def gameDirectories (settings : Option String) : List String :=
  (settings.elim [] fun content =>
      (Shell.textLines content.toList).filterMap settingsDirectory) ++
    uninstallKeys.filterMap (fun (root, key) => l.registryString root key "InstallLocation") ++
    ["C", "D", "E", "F", "G"].map fun drive => s!"{drive}:\\Riot Games\\VALORANT\\live"

theorem findValorantPaths_eq (settings : Option String) :
    l.findValorantPaths settings = (l.gameDirectories settings).findSome? l.shippingIn := by
  have hconfigured : (settings.elim [] fun content =>
      (Shell.textLines content.toList).filterMap settingsDirectory).findSome? l.shippingIn =
        settings.bind fun content => (Shell.textLines content.toList).findSome? fun line =>
          (settingsDirectory line).bind l.shippingIn := by
    cases settings with
    | none => rfl
    | some content => exact findSome?_filterMap ..
  have hscanned : ∀ drive : String,
      shippingPath s!"{drive}:\\Riot Games\\VALORANT\\live" =
        s!"{drive}:\\Riot Games\\VALORANT\\live\\ShooterGame\\Binaries\\Win64\\{valorantBinaryName}" := by
    intro drive
    refine (shippingPath_name drive ":\\Riot Games\\VALORANT\\live" (c := 'e') rfl
      (by decide)).trans ?_
    show _ = drive ++ ":\\Riot Games\\VALORANT\\live\\ShooterGame\\Binaries\\Win64\\" ++
      valorantBinaryName
    rw [String.append_assoc, String.append_assoc]
    rfl
  rw [gameDirectories, List.findSome?_append, List.findSome?_append, List.findSome?_map,
    hconfigured, findSome?_filterMap, findValorantPaths]
  refine congrArg (Option.or _) (findSome?_congr fun drive _ => ?_)
  rw [Function.comp_apply, shippingIn, hscanned drive]

theorem shippingIn_eq_some_iff {dir : String} {found : String × String} :
    l.shippingIn dir = some found ↔
      l.isFile (shippingPath dir) = true ∧ found = (shippingPath dir, dir) := by
  unfold shippingIn
  generalize shippingPath dir = path
  by_cases hfile : l.isFile path = true
  · rw [if_pos hfile, Option.some_inj]
    exact ⟨fun h => ⟨hfile, h.symm⟩, fun h => h.2.symm⟩
  · rw [if_neg hfile]
    simp [hfile]

theorem shippingIn_eq_none_iff {dir : String} :
    l.shippingIn dir = none ↔ l.isFile (shippingPath dir) = false := by
  unfold shippingIn
  generalize shippingPath dir = path
  by_cases hfile : l.isFile path = true
  · simp [hfile]
  · simp [hfile]

/-- The first directory that the binary is a file in. -/
theorem findValorantPaths_eq_some {settings : Option String} {path dir : String}
    (h : l.findValorantPaths settings = some (path, dir)) :
    path = shippingPath dir ∧ l.isFile path = true ∧ ∃ before after,
      l.gameDirectories settings = before ++ dir :: after ∧
        ∀ d ∈ before, l.isFile (shippingPath d) = false := by
  rw [findValorantPaths_eq, List.findSome?_eq_some_iff] at h
  obtain ⟨before, dir', after, hdirectories, hdir, hbefore⟩ := h
  obtain ⟨hfile, hfound⟩ := l.shippingIn_eq_some_iff.mp hdir
  obtain ⟨hpath, hsame⟩ := Prod.mk.inj hfound
  subst hsame
  refine ⟨hpath, ?_, before, after, hdirectories, fun d hd => ?_⟩
  · rw [hpath]
    exact hfile
  · exact l.shippingIn_eq_none_iff.mp (hbefore d hd)

theorem findValorantPaths_eq_none_iff {settings : Option String} :
    l.findValorantPaths settings = none ↔
      ∀ dir ∈ l.gameDirectories settings, l.isFile (shippingPath dir) = false := by
  rw [findValorantPaths_eq, List.findSome?_eq_none_iff]
  exact forall₂_congr fun dir _ => l.shippingIn_eq_none_iff

/-- A process of the name that can be opened and whose image is accepted is attached to. -/
theorem launchGame_attached {access : ProcessAccess} {running : List Process} {p : Process}
    {path : String} (hsnapshot : access.snapshot = .ok ()) (hp : p ∈ running)
    (hcandidate : p.IsCandidate access) (himage : p.imagePath = some path)
    (hlegitimate : isLegitimateGamePath valorantBinaryName path = true) :
    ∃ pid : UInt32, l.launchGame access running =
      some (.ok s!"VALORANT is already running (PID {pid}). Supervisor attached.") := by
  have haccepts : accepts access p := by
    rw [accepts, decide_eq_true_eq, himage, Option.getD_some]
    exact ⟨hcandidate.1, hcandidate.2, hlegitimate⟩
  have hfound := (isSome_findProcessWithPath hsnapshot running).mpr ⟨p, hp, haccepts⟩
  obtain ⟨⟨pid, image⟩, hgame⟩ := Option.isSome_iff_exists.mp hfound
  refine ⟨pid, ?_⟩
  rw [launchGame, hgame]

end LauncherAnswers

/-- The search for the game panics with that for the Riot Client: where the command of the protocol
cannot be cut. -/
theorem LauncherAnswers.detectInstallation_eq_none_iff (l : LauncherAnswers)
    (settings : Option String) : l.detectInstallation settings = none ↔
      l.installed.or l.located = none ∧ ∃ cmd, l.protocolCommand = some cmd ∧
        extractExecutableFromCommand l.toLowercase cmd = none := by
  rw [detectInstallation, Option.map_eq_none_iff, findRiotClientExecutable]
  cases l.installed.or l.located with
  | some path => simp
  | none =>
    cases l.protocolCommand with
    | none => simp
    | some cmd => simp

/-- **The game that was found is recognised when it runs.**  The search for the game finds the first
of its directories that the binary is a file in, and none just if there is no such directory;
`detect_installation` returns what it finds, unless the search for the Riot Client panics before.  A
launch while that binary runs, in a process of its name that can be opened, attaches to a game and
starts nothing. -/
theorem installation_recognised (l : LauncherAnswers) (settings : Option String) :
    (l.detectInstallation settings = none ↔ l.installed.or l.located = none ∧
      ∃ cmd, l.protocolCommand = some cmd ∧
        extractExecutableFromCommand l.toLowercase cmd = none) ∧
    (∀ found, l.detectInstallation settings = some found →
      found.valorantShippingPath = (l.findValorantPaths settings).map Prod.fst ∧
        found.installDirectory = (l.findValorantPaths settings).map Prod.snd) ∧
    (l.findValorantPaths settings = none ↔
      ∀ dir ∈ l.gameDirectories settings, l.isFile (shippingPath dir) = false) ∧
    ∀ path dir, l.findValorantPaths settings = some (path, dir) →
      path = shippingPath dir ∧ l.isFile path = true ∧
      (∃ before after, l.gameDirectories settings = before ++ dir :: after ∧
        ∀ d ∈ before, l.isFile (shippingPath d) = false) ∧
      ∀ (access : ProcessAccess) (running : List Process) (image : String),
        access.snapshot = .ok () → ReportedFor path image →
        (∃ p ∈ running, p.IsCandidate access ∧ p.imagePath = some image) →
          ∃ pid : UInt32, l.launchGame access running =
            some (.ok s!"VALORANT is already running (PID {pid}). Supervisor attached.") := by
  refine ⟨l.detectInstallation_eq_none_iff settings, ?_, l.findValorantPaths_eq_none_iff, ?_⟩
  · intro found hdetect
    obtain ⟨riotClientPath, -, rfl⟩ := Option.map_eq_some_iff.mp hdetect
    exact ⟨rfl, rfl⟩
  · intro path dir hfind
    obtain ⟨hpath, hfile, hfirst⟩ := l.findValorantPaths_eq_some hfind
    refine ⟨hpath, hfile, hfirst, ?_⟩
    rw [hpath]
    rintro access running image hsnapshot hreported ⟨p, hp, hcandidate, himage⟩
    exact l.launchGame_attached hsnapshot hp hcandidate himage
      ((isLegitimateGamePath_iff image).mpr (Or.inl hreported.genuine))

/-- The game on another drive, which only the product settings name. -/
def movedGame : LauncherAnswers :=
  { LauncherAnswers.absent with
    isFile := fun path =>
      path = "E:/Games/VALORANT/live\\ShooterGame\\Binaries\\Win64\\VALORANT-Win64-Shipping.exe" }

/-- The product settings of `movedGame`. -/
def movedSettings : String := "product_install_full_path: \"E:/Games/VALORANT/live\"\r\n"

/-- What Windows reports of the game while it runs. -/
def movedProcess : Process where
  pid := 4242
  name := "VALORANT-Win64-Shipping.exe"
  imagePath :=
    some "E:\\Games\\Valorant\\live\\ShooterGame\\Binaries\\Win64\\VALORANT-Win64-Shipping.exe"

/-- Windows writes what the settings name with backslashes, and in the letter case of the disk. -/
theorem installation_recognised_moved : ∃ (found : ValorantInstallation) (pid : UInt32),
    movedGame.detectInstallation (some movedSettings) = some found ∧
      found.installDirectory = some "E:/Games/VALORANT/live" ∧
      movedGame.launchGame ⟨.ok (), fun _ => true, fun _ => true⟩ [movedProcess] =
        some (.ok s!"VALORANT is already running (PID {pid}). Supervisor attached.") := by
  have hfind : movedGame.findValorantPaths (some movedSettings) = some
      ("E:/Games/VALORANT/live\\ShooterGame\\Binaries\\Win64\\VALORANT-Win64-Shipping.exe",
        "E:/Games/VALORANT/live") := by
    decide +kernel
  have hdetect : (movedGame.detectInstallation (some movedSettings)).isSome = true := by
    decide +kernel
  obtain ⟨-, hfound, -, hrecognised⟩ := installation_recognised movedGame (some movedSettings)
  obtain ⟨found, hdetect⟩ := Option.isSome_iff_exists.mp hdetect
  obtain ⟨-, -, -, hlaunch⟩ := hrecognised _ _ hfind
  obtain ⟨pid, hpid⟩ := hlaunch ⟨.ok (), fun _ => true, fun _ => true⟩ [movedProcess]
    "E:\\Games\\Valorant\\live\\ShooterGame\\Binaries\\Win64\\VALORANT-Win64-Shipping.exe" rfl
    ⟨"E:\\Games\\Valorant\\live".toList,
      ["ShooterGame", "Binaries", "Win64", "VALORANT-Win64-Shipping.exe"], by decide +kernel,
      by decide +kernel⟩
    ⟨movedProcess, List.mem_singleton_self _, ⟨by decide +kernel, rfl⟩, rfl⟩
  refine ⟨found, pid, hdetect, ?_, hpid⟩
  rw [(hfound found hdetect).2, hfind]
  rfl

end ValOpt
