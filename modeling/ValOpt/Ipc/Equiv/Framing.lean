import ValOpt.Ipc.Framing

/-!
# Round trip of the framing

An encoded message is one line (`isLine_encodeMessage`), so a sequence of them is taken apart by
`lines`, and each is decoded as what it was, provided that its floating-point numbers are finite and
its system manifest is not nested too deep.  A manifest that is cannot be decoded.
-/

namespace ValOpt

open Text Text.Json

variable {F : Type} (w : Wire F)

/-! ### Finite messages -/

/-- The requested duration is finite. -/
def IpcRequest.Finite (T : FloatText F) : IpcRequest F → Prop
  | .getLatencyReport durationSecs => T.isFinite durationSecs = true
  | _ => True

/-- All numbers of the report are finite. -/
def LatencyReport.Finite (T : FloatText F) (r : LatencyReport F) : Prop :=
  (∀ s ∈ r.offendingDrivers, T.isFinite s.avgExecutionUs = true) ∧
  (∀ s ∈ r.topDrivers, T.isFinite s.avgExecutionUs = true) ∧
  T.isFinite r.testDurationSecs = true

/-- All numbers of the report are finite. -/
def BufferbloatReport.Finite (T : FloatText F) (r : BufferbloatReport F) : Prop :=
  T.isFinite r.unloadedPingMs = true ∧ T.isFinite r.unloadedJitterMs = true ∧
  T.isFinite r.loadedPingMs = true ∧ T.isFinite r.loadedJitterMs = true ∧
  T.isFinite r.bufferbloatDeltaMs = true ∧ T.isFinite r.packetLossPct = true ∧
  T.isFinite r.testDurationSecs = true

/-- All numbers of the response are finite; those of a manifest always are. -/
def IpcResponse.Finite {V : Type} (T : FloatText F) : IpcResponse F V → Prop
  | .latencyReport report => report.Finite T
  | .bufferbloatReport report => report.Finite T
  | _ => True

/-- The arrays and objects of a manifest are nested at most so deep. -/
def IpcResponse.NestedAtMost {N : Type} (n : ℕ) : IpcResponse F (Value N) → Prop
  | .systemManifest manifest => manifest.1.Within n
  | _ => True

theorem valid_request {r : IpcRequest F} (h : r.Finite w.floats) : w.request.valid r := by
  cases r <;> exact h

theorem valid_latencyReport {r : LatencyReport F} (h : r.Finite w.floats) :
    w.latencyReport.valid r := by
  obtain ⟨hoffending, htop, hduration⟩ := h
  have hstat : ∀ s : DriverLatencyStat F, w.floats.isFinite s.avgExecutionUs = true →
      w.driverLatencyStat.valid s := fun s hs =>
    ⟨trivial, trivial, trivial, trivial, trivial, trivial, hs, trivial, trivial⟩
  have hstr : ∀ o : Option String, w.optStr.valid o := fun _ _ _ => trivial
  refine ⟨?_, trivial, trivial, trivial, trivial, trivial, hstr _, hstr _, ?_, ?_, trivial, ?_,
    hduration, trivial⟩
  · exact ⟨trivial, trivial, trivial, trivial, trivial, trivial, trivial, fun _ _ => trivial,
      trivial⟩
  · exact fun s hs => hstat s (hoffending s hs)
  · exact fun s hs => hstat s (htop s hs)
  · exact fun _ _ => trivial

theorem valid_bufferbloatReport {r : BufferbloatReport F} (h : r.Finite w.floats) :
    w.bufferbloatReport.valid r := by
  obtain ⟨hping, hjitter, hloaded, hloadedJitter, hdelta, hloss, hduration⟩ := h
  exact ⟨hping, hjitter, hloaded, hloadedJitter, hdelta, trivial, hloss, trivial, hduration,
    fun _ _ => trivial, trivial⟩

theorem valid_response {r : IpcResponse F w.Value} (h : r.Finite w.floats) :
    w.response.valid r := by
  cases r with
  | latencyReport report => exact valid_latencyReport w h
  | bufferbloatReport report => exact valid_bufferbloatReport w h
  | _ => trivial

/-! ### One message -/

section Message

variable {α : Type} (s : Adjacent (Number w.floats) α)

/-- The JSON of a message. -/
abbrev messageJson (message : α) : Bytes :=
  (s.write message).print (numerals w.floats).format.print

/-- A message is one line. -/
theorem isLine_messageJson (message : α) : IsLine (messageJson w s message) :=
  isLine_print (numerals w.floats) (s.write message)

theorem messageJson_ne_nil (message : α) : messageJson w s message ≠ [] := by
  obtain ⟨t, ht⟩ := print_object_eq (numerals w.floats) ((s.tagKey, .string (s.tag message)) ::
    ((s.content message).map fun c => (s.contentKey, c)).toList)
  exact fun hnil => List.cons_ne_nil _ _ (ht.symm.trans hnil)

/-- Neither of the braces is white space. -/
theorem isWhitespace_brace {c : Char} (hc : c.toNat = 0x7B ∨ c.toNat = 0x7D) :
    isWhitespace c = false := by
  unfold isWhitespace
  rcases hc with hc | hc <;> simp [hc]

/-- Trimming leaves the JSON, whatever blanks follow it. -/
theorem trim_messageJson {cs : List Char} {message : α} (hcs : bytesOf cs = messageJson w s message)
    {blanks : List Char} (hblanks : ∀ c ∈ blanks, isWhitespace c = true) :
    trimMatches isWhitespace (cs ++ blanks) = cs := by
  obtain ⟨t, ht⟩ := print_object_eq (numerals w.floats) ((s.tagKey, .string (s.tag message)) ::
    ((s.content message).map fun c => (s.contentKey, c)).toList)
  have hjson : bytesOf cs = 0x7B :: (t ++ [0x7D]) := hcs.trans ht
  obtain ⟨c, ds, hhead, hc⟩ := head_of_bytesOf hjson (by decide)
  obtain ⟨c', ds', hlast, hc'⟩ := last_of_bytesOf (t := 0x7B :: t) hjson (by decide)
  apply trimMatches_append _ _ hblanks
  · intro a ha
    rw [hhead, List.head?_cons, Option.mem_some_iff] at ha
    exact isWhitespace_brace (Or.inl (ha ▸ hc))
  · intro a ha
    rw [hlast, List.getLast?_concat, Option.mem_some_iff] at ha
    exact isWhitespace_brace (Or.inr (ha ▸ hc'))

/-- A text is decoded by what is left after trimming. -/
theorem decodeMessage_of_trim {bytes : Bytes} {text cs : List Char}
    (htext : fromUtf8 bytes = some text) (htrim : trimMatches isWhitespace text = cs) :
    decodeMessage w s bytes =
      match (readDoc (numerals w.floats) Json.isBlank nestingLimit (bytesOf cs)).bind s.readDoc with
      | some message => .ok message
      | none => .error s!"Deserialization error: {w.serdeError cs} for '{String.ofList cs}'" := by
  subst htrim
  cases hread : (readDoc (numerals w.floats) Json.isBlank nestingLimit
    (bytesOf (trimMatches isWhitespace text))).bind s.readDoc with
  | none => simp only [decodeMessage, decodeMessageWith, fromStr, htext, hread]
  | some message => simp only [decodeMessage, decodeMessageWith, fromStr, htext, hread]

/-- Only text is decoded. -/
theorem fromUtf8_of_decode {bytes : Bytes} {message : α}
    (h : decodeMessage w s bytes = .ok message) : ∃ text, fromUtf8 bytes = some text := by
  cases htext : fromUtf8 bytes with
  | none =>
    rw [decodeMessage, decodeMessageWith, htext] at h
    cases h
  | some text => exact ⟨text, rfl⟩

/-- What the reader of a message gets to see, with its line feed or without it. -/
theorem decodeMessage_eq {cs blanks : List Char} {message : α}
    (hcs : bytesOf cs = messageJson w s message)
    (hblanks : ∀ c ∈ blanks, isWhitespace c = true) :
    decodeMessage w s (messageJson w s message ++ bytesOf blanks) =
      match (readDoc (numerals w.floats) Json.isBlank nestingLimit (messageJson w s message)).bind
          s.readDoc with
      | some message => .ok message
      | none => .error s!"Deserialization error: {w.serdeError cs} for '{String.ofList cs}'" := by
  have htext : fromUtf8 (messageJson w s message ++ bytesOf blanks) = some (cs ++ blanks) := by
    rw [← hcs, ← bytesOf_append, fromUtf8_bytesOf]
  rw [decodeMessage_of_trim w s htext (trim_messageJson w s hcs hblanks), hcs]

/-- What a message that is not nested too deep is decoded as. -/
theorem decode_within {blanks : List Char} {message message' : α}
    (hwithin : (s.write message).Within nestingLimit)
    (hblanks : ∀ c ∈ blanks, isWhitespace c = true) :
    decodeMessage w s (messageJson w s message ++ bytesOf blanks) = .ok message' ↔
      s.read (s.tag message) (s.content message) = some message' := by
  obtain ⟨cs, hcs⟩ := (isLine_messageJson w s message).utf8
  have hread := readDoc_print (numerals w.floats) Json.isBlank hwithin
  rw [decodeMessage_eq w s hcs hblanks, messageJson, hread, Option.bind_some, s.readDoc_eq]
  cases s.read (s.tag message) (s.content message) with
  | none => exact ⟨nofun, nofun⟩
  | some message'' =>
    show Except.ok message'' = .ok message' ↔ _
    rw [Except.ok.injEq, Option.some.injEq]

theorem isWhitespace_lineFeed : ∀ c ∈ ['\n'], isWhitespace c = true := by
  intro c hc
  rw [List.mem_singleton.mp hc]
  decide

/-- **A valid message is decoded as itself** just if its JSON is not nested too deep. -/
theorem decode_encode_iff {message : α} (h : s.valid message) :
    decodeMessage w s (encodeMessage w s message) = .ok message ↔
      (s.write message).Within nestingLimit := by
  by_cases hdeep : (s.write message).Within nestingLimit
  · have hread := (decode_within w s hdeep isWhitespace_lineFeed).mpr (s.read_content message h)
    exact iff_of_true hread hdeep
  · obtain ⟨cs, hcs⟩ := (isLine_messageJson w s message).utf8
    have hread := readDoc_deep (numerals w.floats) Json.isBlank hdeep
    have hdecode := decodeMessage_eq w s hcs isWhitespace_lineFeed
    rw [messageJson, hread, Option.bind_none] at hdecode
    refine iff_of_false (fun hok => ?_) hdeep
    exact nomatch hdecode.symm.trans hok

/-- A message of which only a part arrived cannot be decoded. -/
theorem decode_take {message message' : α} {n : ℕ} (hn : n < (messageJson w s message).length) :
    decodeMessage w s ((messageJson w s message).take n) ≠ .ok message' := by
  intro hok
  obtain ⟨text, htext⟩ := fromUtf8_of_decode w s hok
  have hbytes : bytesOf text = (messageJson w s message).take n := bytesOf_of_fromUtf8 htext
  -- trimming such a part only cuts off more of its end
  have hhead : ∀ c ∈ text.head?, isWhitespace c = false := by
    obtain ⟨t, ht⟩ := print_object_eq (numerals w.floats) ((s.tagKey, .string (s.tag message)) ::
      ((s.content message).map fun c => (s.contentKey, c)).toList)
    cases text with
    | nil => exact fun c hc => (nomatch hc)
    | cons c text =>
      cases n with
      | zero => exact absurd (List.append_eq_nil_iff.mp hbytes).1 (utf8EncodeChar_ne_nil c)
      | succ n =>
        have hbytes' : bytesOf (c :: text) = 0x7B :: (t ++ [0x7D]).take n :=
          hbytes.trans (congrArg (List.take (n + 1)) ht)
        obtain ⟨c', ds, hcons, hc'⟩ := head_of_bytesOf hbytes' (by decide)
        intro a ha
        rw [hcons, List.head?_cons, Option.mem_some_iff] at ha
        exact isWhitespace_brace (Or.inl (ha ▸ hc'))
  obtain ⟨rest, hrest⟩ := trimMatches_prefix hhead
  have hprefix : bytesOf (trimMatches isWhitespace text) <+: messageJson w s message := by
    refine List.IsPrefix.trans ⟨bytesOf rest, ?_⟩ (List.take_prefix n _)
    rw [← bytesOf_append, hrest, hbytes]
  have hlength : (bytesOf (trimMatches isWhitespace text)).length <
      (messageJson w s message).length := by
    have hle := congrArg (fun t => (bytesOf t).length) hrest
    simp only [bytesOf_append, List.length_append, hbytes, List.length_take] at hle
    omega
  have hnone : readDoc (numerals w.floats) Json.isBlank nestingLimit
      (bytesOf (trimMatches isWhitespace text)) = none := by
    rw [List.prefix_iff_eq_take.mp hprefix]
    exact readDoc_take (numerals w.floats) Json.isBlank hlength
  rw [decodeMessage_of_trim w s htext rfl, hnone] at hok
  cases hok

end Message

/-! ### Lines -/

/-- The lines are what `readLine` reads until nothing is left. -/
theorem lines_eq {b : Bytes} (h : b ≠ []) : lines b = (readLine b).1 :: lines (readLine b).2 := by
  induction b with
  | nil => exact absurd rfl h
  | cons c rest ih =>
    by_cases hc : c = 0x0A
    · rw [lines, if_pos hc, readLine, if_pos hc]
    · rw [lines, if_neg hc, readLine, if_neg hc]
      cases rest with
      | nil => rfl
      | cons c' rest' =>
        rw [ih (List.cons_ne_nil _ _)]

/-- A text without a line feed is read up to the next one. -/
theorem lines_append {l : Bytes} (h : 0x0A ∉ l) (rest : Bytes) :
    lines (l ++ 0x0A :: rest) = (l ++ [0x0A]) :: lines rest := by
  induction l with
  | nil => rfl
  | cons c l ih =>
    rw [List.mem_cons, not_or] at h
    rw [List.cons_append, lines, if_neg (Ne.symm h.1), ih h.2]
    rfl

/-- What arrived of a line is read as it is. -/
theorem readLine_take {l : Bytes} (h : 0x0A ∉ l) (n : ℕ) :
    (readLine ((l ++ [0x0A]).take n)).1 = (l ++ [0x0A]).take n := by
  induction l generalizing n with
  | nil =>
    cases n with
    | zero => rfl
    | succ n =>
      rw [List.nil_append, List.take_succ_cons, List.take_nil]
      rfl
  | cons c l ih =>
    rw [List.mem_cons, not_or] at h
    cases n with
    | zero => rfl
    | succ n =>
      show (readLine (c :: (l ++ [0x0A]).take n)).1 = c :: (l ++ [0x0A]).take n
      rw [readLine, if_neg (Ne.symm h.1), ih h.2]

/-- Encoded messages are the lines of what was sent. -/
theorem lines_encode {α : Type} (s : Adjacent (Number w.floats) α) (messages : List α) :
    lines (messages.flatMap (encodeMessage w s)) = messages.map (encodeMessage w s) := by
  induction messages with
  | nil => rfl
  | cons message messages ih =>
    rw [List.flatMap_cons, List.map_cons, ← ih, encodeMessage, List.append_assoc]
    exact lines_append (isLine_messageJson w s message).noFeed _

/-! ### Nesting -/

/-- A bound that the kernel computes. -/
theorem within_of_ble {N α : Type} (s : Schema N α) {n : ℕ} (h : s.nesting.ble n = true) (a : α) :
    (s.write a).Within n := (s.within a).mono (Nat.le_of_ble_eq_true h)

/-- No request is nested too deep. -/
theorem within_request (r : IpcRequest F) : (w.request.write r).Within nestingLimit := by
  apply w.request.within_write.mpr
  intro c hc
  cases r with
  | getLatencyReport durationSecs =>
    cases hc
    exact within_of_ble w.getLatencyReport rfl durationSecs
  | launchOptimizedGame autoRelaunchGui =>
    cases hc
    exact within_of_ble w.launchOptimizedGame rfl autoRelaunchGui
  | _ => cases hc

/-- The nesting of a response is that of its manifest, and one more. -/
theorem within_response_iff (r : IpcResponse F w.Value) :
    (w.response.write r).Within nestingLimit ↔ r.NestedAtMost 126 := by
  rw [nestingLimit, w.response.within_write]
  cases r with
  | systemManifest manifest =>
    exact ⟨fun h => h _ rfl, fun h c hc => by cases hc; exact h⟩
  | pong => exact ⟨fun _ => trivial, fun _ c hc => (nomatch hc)⟩
  | status version running optimized profile =>
    exact iff_of_true (fun c hc => by cases hc; exact within_of_ble w.status rfl _) trivial
  | optimizationSuccess id mode scheme audio adapter qos =>
    exact iff_of_true (fun c hc => by cases hc; exact within_of_ble w.optimizationSuccess rfl _)
      trivial
  | rollbackSuccess message =>
    exact iff_of_true (fun c hc => by cases hc; exact within_of_ble (w.oneStr _) rfl _) trivial
  | workingSetTrimmed bytes =>
    exact iff_of_true (fun c hc => by cases hc; exact within_of_ble (w.oneU64 _) rfl _) trivial
  | bloatwarePurged count =>
    exact iff_of_true (fun c hc => by cases hc; exact within_of_ble (w.oneU64 _) rfl _) trivial
  | latencyReport report =>
    exact iff_of_true (fun c hc => by cases hc; exact within_of_ble w.latencyReport rfl _) trivial
  | bufferbloatReport report =>
    exact iff_of_true (fun c hc => by cases hc; exact within_of_ble w.bufferbloatReport rfl _)
      trivial
  | gameLaunchAcknowledged message =>
    exact iff_of_true (fun c hc => by cases hc; exact within_of_ble (w.oneStr _) rfl _) trivial
  | error code message =>
    exact iff_of_true (fun c hc => by cases hc; exact within_of_ble w.error rfl _) trivial

/-! ### Cut requests -/

/-- A request reads back just if its duration is finite. -/
theorem read_request_iff (r r' : IpcRequest F) :
    w.request.read (w.request.tag r) (w.request.content r) = some r' ↔
      r.Finite w.floats ∧ r' = r := by
  by_cases hr : r.Finite w.floats
  · rw [w.request.read_content r (valid_request w hr), Option.some.injEq]
    exact ⟨fun heq => ⟨hr, heq.symm⟩, fun h => h.2.symm⟩
  · cases r with
    | getLatencyReport durationSecs =>
      -- the duration was written as `null`
      have hwrite : (Schema.f64 w.floats).write durationSecs = .null := dif_neg hr
      have hnone : w.getLatencyReport.read (w.getLatencyReport.write durationSecs) = none := by
        show w.getLatencyReport.read
          (.object [("duration_secs", (Schema.f64 w.floats).write durationSecs)]) = none
        rw [hwrite]
        rfl
      refine iff_of_false (fun h => ?_) fun h => hr h.1
      exact nomatch (congrArg (Option.map IpcRequest.getLatencyReport) hnone).symm.trans h
    | _ => exact absurd trivial hr

/-- **A request of which the first bytes arrived** is decoded just if its JSON is among them. -/
theorem decode_request_take_iff (r r' : IpcRequest F) (n : ℕ) :
    decodeMessage w w.request ((encodeMessage w w.request r).take n) = .ok r' ↔
      ((messageJson w w.request r).length ≤ n ∧ r.Finite w.floats) ∧ r' = r := by
  have hwithin := within_request w r
  by_cases hn : (messageJson w w.request r).length ≤ n
  · obtain ⟨blanks, hblanks, htake⟩ : ∃ blanks : List Char,
        (∀ c ∈ blanks, isWhitespace c = true) ∧ (encodeMessage w w.request r).take n =
          messageJson w w.request r ++ bytesOf blanks := by
      refine ⟨['\n'].take (n - (messageJson w w.request r).length), ?_, ?_⟩
      · exact fun c hc => isWhitespace_lineFeed c (List.mem_of_mem_take hc)
      · rw [encodeMessage, List.take_append, List.take_of_length_le hn]
        cases n - (messageJson w w.request r).length with
        | zero => rfl
        | succ k =>
          rw [List.take_succ_cons, List.take_succ_cons, List.take_nil, List.take_nil]
          rfl
    rw [htake, decode_within w w.request hwithin hblanks, read_request_iff, and_assoc]
    exact (and_iff_right hn).symm
  · have hlt : n < (messageJson w w.request r).length := by omega
    rw [encodeMessage, List.take_append_of_le_length hlt.le]
    exact iff_of_false (decode_take w w.request hlt) fun h => hn h.1.1

/-! ### The round trip -/

/-- The only line feed of a text is its last byte. -/
def EndsLine (b : Bytes) : Prop := ∃ l, b = l ++ [0x0A] ∧ 0x0A ∉ l

theorem endsLine_encodeMessage {α : Type} (s : Adjacent (Number w.floats) α) (message : α) :
    EndsLine (encodeMessage w s message) :=
  ⟨messageJson w s message, rfl, (isLine_messageJson w s message).noFeed⟩

/-- Every message of a stream is decoded as itself, or none of those that are nested too deep. -/
theorem decode_lines_iff {α : Type} (s : Adjacent (Number w.floats) α) {messages : List α}
    (h : ∀ message ∈ messages, s.valid message) :
    (lines (messages.flatMap (encodeMessage w s))).map (decodeMessage w s) = messages.map .ok ↔
      ∀ message ∈ messages, (s.write message).Within nestingLimit := by
  rw [lines_encode, List.map_map, List.map_inj_left]
  exact forall₂_congr fun message hmessage => decode_encode_iff w s (h message hmessage)

/-- **Round trip of the framing.**  Every message is encoded as one line.  A request with finite
numbers is decoded as what it was, and so is a stream of them; a response with finite numbers is
just if its manifest has at most 126 arrays and objects inside one another, and a stream of
responses if that holds of each. -/
theorem framing_roundtrip :
    (∀ r : IpcRequest F, EndsLine (encodeMessage w w.request r) ∧ (r.Finite w.floats →
      decodeMessage w w.request (encodeMessage w w.request r) = .ok r)) ∧
    (∀ r : IpcResponse F w.Value, EndsLine (encodeMessage w w.response r) ∧ (r.Finite w.floats →
      (decodeMessage w w.response (encodeMessage w w.response r) = .ok r ↔
        r.NestedAtMost 126))) ∧
    (∀ rs : List (IpcRequest F), (∀ r ∈ rs, r.Finite w.floats) →
      (lines (rs.flatMap (encodeMessage w w.request))).map (decodeMessage w w.request) =
        rs.map .ok) ∧
    ∀ rs : List (IpcResponse F w.Value), (∀ r ∈ rs, r.Finite w.floats) →
      ((lines (rs.flatMap (encodeMessage w w.response))).map (decodeMessage w w.response) =
        rs.map .ok ↔ ∀ r ∈ rs, r.NestedAtMost 126) := by
  refine ⟨fun r => ⟨endsLine_encodeMessage w _ r, fun hr => ?_⟩,
    fun r => ⟨endsLine_encodeMessage w _ r, fun hr => ?_⟩, fun rs hrs => ?_, fun rs hrs => ?_⟩
  · exact (decode_encode_iff w w.request (valid_request w hr)).mpr (within_request w r)
  · rw [decode_encode_iff w w.response (valid_response w hr), within_response_iff]
  · apply (decode_lines_iff w w.request fun r hr => valid_request w (hrs r hr)).mpr
    exact fun r _ => within_request w r
  · rw [decode_lines_iff w w.response fun r hr => valid_response w (hrs r hr)]
    exact forall₂_congr fun r _ => within_response_iff w r

/-- A wire with numbers in tenths. -/
def Wire.tenths : Wire (Option ℕ) :=
  ⟨Text.Json.tenths, fun _ => "invalid utf-8 sequence", fun _ => "recursion limit exceeded"⟩

example : encodeMessage Wire.tenths Wire.tenths.request (.getLatencyReport (some 25)) =
    bytesOf
      "\x7b\"type\":\"GetLatencyReport\",\"payload\":\x7b\"duration_secs\":2.5\x7d\x7d\n".toList := by
  decide +kernel

/-- Two requests in a row. -/
theorem framing_roundtrip_tenths :
    (lines ([.getLatencyReport (some 25), .shutdownDaemon].flatMap
      (encodeMessage Wire.tenths Wire.tenths.request))).map
        (decodeMessage Wire.tenths Wire.tenths.request) =
          [.ok (.getLatencyReport (some 25)), .ok .shutdownDaemon] := by
  apply (framing_roundtrip Wire.tenths).2.2.1 [.getLatencyReport (some 25), .shutdownDaemon]
  intro r hr
  simp only [List.mem_cons, List.not_mem_nil, or_false] at hr
  rcases hr with rfl | rfl
  · rfl
  · trivial

/-- So many arrays inside one another. -/
def arrays (N : Type) : ℕ → Doc N
  | 0 => .null
  | n + 1 => .array [arrays N n]

theorem within_arrays_iff {N : Type} {n m : ℕ} : (arrays N n).Within m ↔ n ≤ m := by
  induction n generalizing m with
  | zero => exact iff_of_true (by cases m <;> trivial) (Nat.zero_le m)
  | succ n ih =>
    cases m with
    | zero => exact iff_of_false (fun h => h) (by omega)
    | succ m =>
      show (∀ t ∈ [arrays N n], t.Within m) ↔ _
      rw [List.forall_mem_singleton, ih]
      omega

theorem ordered_arrays {N : Type} (n : ℕ) : (arrays N n).Ordered := by
  induction n with
  | zero => exact .null
  | succ n ih => exact .array (List.forall_mem_singleton.mpr ih)

/-- **Counterexample.**  A manifest of 127 arrays inside one another is not decoded. -/
theorem deep_manifest_not_decoded :
    ¬ ∀ r : IpcResponse (Option ℕ) Wire.tenths.Value, r.Finite Wire.tenths.floats →
      decodeMessage Wire.tenths Wire.tenths.response
        (encodeMessage Wire.tenths Wire.tenths.response r) = .ok r := by
  intro hall
  have hdecoded := hall (.systemManifest ⟨arrays _ 127, ordered_arrays 127⟩) trivial
  have hnested := (decode_encode_iff Wire.tenths Wire.tenths.response
    (valid_response Wire.tenths (r := .systemManifest _) trivial)).mp hdecoded
  have hwithin := within_arrays_iff.mp ((within_response_iff Wire.tenths _).mp hnested)
  omega

end ValOpt
