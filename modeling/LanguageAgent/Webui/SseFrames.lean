import LanguageAgent.Domain.JsonText
import LanguageAgent.Webui.Client

/-! # Server-sent events read back

What the agent service frames, line by line through the Web UI's parser.
-/

namespace LanguageAgent.Webui.Client

open Gateway Queue

/-- `AgentService._sse_data` -/
def sseData (floats : FloatRepr) (payload : Dict) : List Char :=
  "data: ".toList ++ (Json.dumps floats (.obj payload) ++ "\n\n".toList)

variable {floats : FloatRepr} {loads : List Char → Except LoadsError Json}

/-- Printable ASCII ends no line. -/
theorem not_boundary {c : Char} (printable : isPrintable c = true) : Python.isLineBoundary c = false := by
  simp only [isPrintable, Bool.and_eq_true, decide_eq_true_eq] at printable
  simp only [Python.isLineBoundary, Bool.or_eq_false_iff, Bool.and_eq_false_iff, decide_eq_false_iff_not, beq_eq_false_iff_ne]
  omega

/-- A frame is a line with its data and an empty line. -/
theorem splitlines_frame (payload : Dict) (rest : List Char) :
    Python.splitlines (sseData floats payload ++ rest) =
      ("data: ".toList ++ Json.dumps floats (.obj payload)) :: [] :: Python.splitlines rest := by
  have whole : ∀ c ∈ "data: ".toList ++ Json.dumps floats (.obj payload), Python.isLineBoundary c = false := by
    intro c member
    apply not_boundary
    rcases List.mem_append.mp member with label | data
    · have printable : ("data: ".toList).all isPrintable = true := by decide
      exact List.all_eq_true.mp printable c label
    · exact List.all_eq_true.mp (Json.dumps_printable floats _) c data
  have framed : sseData floats payload ++ rest =
      ("data: ".toList ++ Json.dumps floats (.obj payload)) ++ '\n' :: ([] ++ '\n' :: rest) := by
    change "data: ".toList ++ (Json.dumps floats (.obj payload) ++ "\n\n".toList) ++ rest = _
    rw [List.append_assoc, List.append_assoc, List.append_assoc]
    rfl
  rw [framed, Python.splitlines_line whole, Python.splitlines_line (List.forall_mem_nil _)]

/-- The data of a frame is parsed as its payload. -/
theorem parseSseLine_data {payload : Dict} (inverts : loads (Json.dumps floats (.obj payload)) = .ok (.obj payload)) :
    parseSseLine loads ("data: ".toList ++ Json.dumps floats (.obj payload)) = .ok (some payload) := by
  obtain ⟨inner, shape⟩ := Json.dumps_obj floats payload
  have stripped : Python.strip (("data: ".toList ++ Json.dumps floats (.obj payload)).drop 5) =
      Json.dumps floats (.obj payload) := by
    change Python.strip (' ' :: Json.dumps floats (.obj payload)) = _
    rw [Python.strip_space (by decide), Python.strip_tight shape (by decide) (by decide)]
  have prefixed : "data:".toList.isPrefixOf ("data: ".toList ++ Json.dumps floats (.obj payload)) = true := rfl
  rw [parseSseLine, if_pos prefixed, stripped]
  rw [shape] at inverts ⊢
  simp only [inverts]

theorem parseSseLine_empty : parseSseLine loads [] = .ok none := rfl

/-- Every line of some frames is parsed without an error, and what is not dropped are the
    payloads in order. `json.loads` is to invert `json.dumps` on them. -/
theorem sse_frames_read_back {payloads : List Dict}
    (inverts : ∀ payload ∈ payloads, loads (Json.dumps floats (.obj payload)) = .ok (.obj payload)) :
    ∃ events, (Python.splitlines (payloads.flatMap (sseData floats))).mapM (parseSseLine loads) = .ok events ∧
      events.filterMap id = payloads := by
  induction payloads with
  | nil => exact ⟨[], rfl, rfl⟩
  | cons payload rest ih =>
      obtain ⟨events, parsed, same⟩ := ih fun other member => inverts other (List.mem_cons_of_mem _ member)
      refine ⟨some payload :: none :: events, ?_, ?_⟩
      · rw [List.flatMap_cons, splitlines_frame, List.mapM_cons, List.mapM_cons,
          parseSseLine_data (inverts payload List.mem_cons_self), parseSseLine_empty, parsed]
        rfl
      · exact congrArg (payload :: ·) same

/-! ## A token with a line separator -/

def halfFloats : FloatRepr where
  text _ := "0.5".toList
  plain _ := by decide

def separatorEvent : Dict := [("mode", .str "learning"), ("token", .str "a\u2028b")]

/-- `json.loads` on the text of this event. -/
def separatorLoads (text : List Char) : Except LoadsError Json :=
  if text = "\x7b\"mode\": \"learning\", \"token\": \"a\\u2028b\"\x7d".toList then .ok (.obj separatorEvent)
  else .error .decode

theorem separator_dumps : Json.dumps halfFloats (.obj separatorEvent) =
    "\x7b\"mode\": \"learning\", \"token\": \"a\\u2028b\"\x7d".toList := by
  simp only [separatorEvent, Json.dumps, Json.dumpsFields]
  decide

theorem sse_frames_read_back_demo : ∃ events,
    (Python.splitlines ([separatorEvent].flatMap (sseData halfFloats))).mapM (parseSseLine separatorLoads) = .ok events ∧
      events.filterMap id = [separatorEvent] := by
  apply sse_frames_read_back
  intro payload member
  obtain rfl := List.mem_singleton.mp member
  rw [separator_dumps, separatorLoads, if_pos rfl]

end LanguageAgent.Webui.Client
