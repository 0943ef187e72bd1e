import ValOpt.Ipc.Equiv.Framing
import ValOpt.Text.Json.Definite

/-!
# Messages that arrive in part

Of a message that was sent, the first bytes arrive.  They are decoded as that message or not at all
(`decode_take_iff`), also where a number is not finite or a manifest is nested too deep: what was
written for it is read by no other.
-/

namespace ValOpt

open Text Text.Json Text.Json.Schema

variable {F : Type} (w : Wire F)

/-! ### The schemas of the messages -/

theorem definite_driverLatencyStat : w.driverLatencyStat.Definite := by
  have hstr : (str : Schema (Number w.floats) String).Definite :=
    definite_of_valid fun _ => trivial
  have hu64 : (u64 w.floats).Definite := definite_of_valid fun _ => trivial
  have hbool : (bool : Schema (Number w.floats) Bool).Definite :=
    definite_of_valid fun _ => trivial
  exact definite_record (.cons _ hstr <| .cons _ hstr <| .cons _ hu64 <| .cons _ hu64 <|
    .cons _ hu64 <| .cons _ hu64 <| .cons _ (definite_f64 _) <| .cons _ hbool Fields.definite_nil) _

theorem definite_latencyReport : w.latencyReport.Definite := by
  have hu64 : (u64 w.floats).Definite := definite_of_valid fun _ => trivial
  have hbool : (bool : Schema (Number w.floats) Bool).Definite :=
    definite_of_valid fun _ => trivial
  have hopt : w.optStr.Definite := definite_of_valid fun _ _ _ => trivial
  have hstrs : (list (str : Schema (Number w.floats) String)).Definite :=
    definite_of_valid fun _ _ _ => trivial
  have hprovenance : w.telemetryProvenance.Definite := definite_of_valid fun _ =>
    ⟨trivial, trivial, trivial, trivial, trivial, trivial, trivial, fun _ _ => trivial, trivial⟩
  have hstatus : w.latencyMeasurementStatus.Definite := definite_of_valid fun _ => trivial
  have hstats := (definite_driverLatencyStat w).list
  exact definite_record (.cons _ hprovenance <| .cons _ hstatus <| .cons _ hu64 <| .cons _ hu64 <|
    .cons _ hu64 <| .cons _ hu64 <| .cons _ hopt <| .cons _ hopt <| .cons _ hstats <|
    .cons _ hstats <| .cons _ hbool <| .cons _ hstrs <| .cons _ (definite_f64 _)
    Fields.definite_nil) _

theorem definite_bufferbloatReport : w.bufferbloatReport.Definite := by
  have hf64 := definite_f64 w.floats
  have hstr : (str : Schema (Number w.floats) String).Definite :=
    definite_of_valid fun _ => trivial
  have hstrs : (list (str : Schema (Number w.floats) String)).Definite :=
    definite_of_valid fun _ _ _ => trivial
  have hgrade : w.bufferbloatGrade.Definite := definite_of_valid fun _ => trivial
  exact definite_record (.cons _ hf64 <| .cons _ hf64 <| .cons _ hf64 <| .cons _ hf64 <|
    .cons _ hf64 <| .cons _ hgrade <| .cons _ hf64 <| .cons _ hstr <| .cons _ hf64 <| .cons _ hstrs
    Fields.definite_nil) _

/-- A response is read as itself, or not at all. -/
theorem definite_response : w.response.Definite := by
  intro r r' hread
  cases r with
  | latencyReport report =>
    obtain ⟨report', hreport, -⟩ := Option.map_eq_some_iff.mp hread
    exact definite_latencyReport w report report' hreport
  | bufferbloatReport report =>
    obtain ⟨report', hreport, -⟩ := Option.map_eq_some_iff.mp hread
    exact definite_bufferbloatReport w report report' hreport
  | _ => trivial

/-! ### What is decoded -/

section Message

variable {α : Type} {s : Adjacent (Number w.floats) α}

/-- The JSON of a message and blanks behind it are decoded as that message, if at all. -/
theorem decode_blanks_iff (hs : s.Definite) {blanks : List Char} {message message' : α}
    (hblanks : ∀ c ∈ blanks, isWhitespace c = true) :
    decodeMessage w s (messageJson w s message ++ bytesOf blanks) = .ok message' ↔
      (s.valid message ∧ (s.write message).Within nestingLimit) ∧ message' = message := by
  by_cases hdeep : (s.write message).Within nestingLimit
  · rw [decode_within w s hdeep hblanks, hs.read_iff, and_iff_left hdeep]
  · obtain ⟨cs, hcs⟩ := (isLine_messageJson w s message).utf8
    have hread := readDoc_deep (numerals w.floats) Json.isBlank hdeep
    have hdecode := decodeMessage_eq w s hcs hblanks
    rw [messageJson, hread, Option.bind_none] at hdecode
    rw [messageJson, hdecode]
    exact iff_of_false (fun h => by cases h) fun h => hdeep h.1.2

/-- **The first bytes of a message** are decoded just if its JSON is among them and can be read, and
then as that message. -/
theorem decode_take_iff (hs : s.Definite) (message message' : α) (n : ℕ) :
    decodeMessage w s ((encodeMessage w s message).take n) = .ok message' ↔
      ((messageJson w s message).length ≤ n ∧ s.valid message ∧
        (s.write message).Within nestingLimit) ∧ message' = message := by
  by_cases hn : (messageJson w s message).length ≤ n
  · have hblanks : ∀ c ∈ ['\n'].take (n - (messageJson w s message).length),
        isWhitespace c = true := fun c hc => isWhitespace_lineFeed c (List.mem_of_mem_take hc)
    have htake : (encodeMessage w s message).take n = messageJson w s message ++
        bytesOf (['\n'].take (n - (messageJson w s message).length)) := by
      rw [encodeMessage, List.take_append, List.take_of_length_le hn]
      rcases n - (messageJson w s message).length with - | k
      · rfl
      · rw [List.take_succ_cons, List.take_succ_cons, List.take_nil, List.take_nil]
        rfl
    rw [htake, decode_blanks_iff w hs hblanks]
    simp only [hn, true_and]
  · have hlt : n < (messageJson w s message).length := by omega
    rw [encodeMessage, List.take_append_of_le_length hlt.le]
    exact iff_of_false (decode_take w s hlt) fun h => hn h.1.1

/-- A line that is cut is read up to the cut. -/
theorem readLine_encodeMessage (message : α) (n : ℕ) :
    (readLine ((encodeMessage w s message).take n)).1 = (encodeMessage w s message).take n :=
  readLine_take (isLine_messageJson w s message).noFeed n

end Message

end ValOpt
