import LanguageAgent.Agent.Turns
import LanguageAgent.Api.Chat
import LanguageAgent.Webui.WholeReplies

/-! # Full replies

What the chat displays of a full answer contains the text that is remembered of it, but for
a translation, of which it contains the translated text.
-/

namespace LanguageAgent.Webui

open Agent Api Client Gateway Queue

namespace Renderer

/-- The text stands somewhere in the other. -/
def Contains (text part : String) : Prop := part.toList <:+: text.toList

/-- A stripped line stays whole in the text. -/
theorem joined_contains {lines : List String} {line : String} (member : line ∈ lines)
    (tight : Python.stripText line = line) : Contains (joined lines) line := by
  have inText : ∃ before after, ("\n".intercalate lines).toList = before ++ (line.toList ++ after) := by
    induction lines with
    | nil => cases member
    | cons first rest ih =>
        by_cases last : rest = []
        · subst last
          obtain rfl := List.mem_singleton.mp member
          exact ⟨[], [], by simp⟩
        · rw [String.intercalate_cons_of_ne_nil last]
          rcases List.mem_cons.mp member with rfl | later
          · exact ⟨[], ("\n" ++ "\n".intercalate rest).toList, by simp⟩
          · obtain ⟨before, after, same⟩ := ih later
            exact ⟨first.toList ++ '\n' :: before, after, by simp [same]⟩
  obtain ⟨before, after, same⟩ := inText
  have stripped : Python.strip line.toList = line.toList := by
    simpa [Python.stripText] using congrArg String.toList tight
  rw [Contains, joined, same, String.toList_ofList]
  exact Python.infix_strip stripped before after

theorem stringValue_str (text : String) : stringValue (some (.str text)) = Python.stripText text := rfl

theorem stringValue_tight (value : Option Json) : Python.stripText (stringValue value) = stringValue value := by
  cases value with
  | none => rfl
  | some value =>
      cases value with
      | str text => exact Python.stripText_stripText text
      | _ => rfl

theorem ifTruthy_str {text : String} (some_ : Python.stripText text ≠ "") (second : Option Json) :
    (Json.ifTruthy (some (.str text))).or second = some (.str text) := by
  have present : text ≠ "" := by
    rintro rfl
    exact some_ rfl
  simp [Json.ifTruthy, Json.truthy, present]

variable {data result : Dict} {text : String}

theorem renderTranslation_contains (response : data.get? "response" = some (.str text))
    (some_ : Python.stripText text ≠ "") :
    Contains (renderTranslation data result)
      (if stringValue (data.get? "translated_text") = "" then Python.stripText text
        else stringValue (data.get? "translated_text")) := by
  simp only [renderTranslation, response, ifTruthy_str some_, stringValue_str, if_pos some_]
  by_cases translated : stringValue (data.get? "translated_text") = ""
  · rw [if_pos translated, if_neg (not_not.mpr translated)]
    exact joined_contains (by simp) (Python.stripText_stripText text)
  · rw [if_neg translated, if_pos translated]
    exact joined_contains (by simp) (stringValue_tight _)

theorem renderLearning_contains (response : data.get? "response" = some (.str text))
    (some_ : Python.stripText text ≠ "") : Contains (renderLearning data result) (Python.stripText text) := by
  simp only [renderLearning, response, ifTruthy_str some_, stringValue_str, if_neg some_]
  exact joined_contains (by simp) (Python.stripText_stripText text)

theorem renderDefinition_contains (response : data.get? "response" = some (.str text))
    (some_ : Python.stripText text ≠ "") : Contains (renderDefinition data result) (Python.stripText text) := by
  simp only [renderDefinition, response, ifTruthy_str some_, stringValue_str]
  -- a response that is no line yet is added, unless it is the meaning, which is one
  have added : ∀ (lines : List String) (meaning : String), (meaning ≠ "" → meaning ∈ lines) →
      Python.stripText text ∈ lines ++ if Python.stripText text ≠ "" ∧ Python.stripText text ∉ lines ∧
        Python.stripText text ≠ meaning then ["", Python.stripText text] else [] := by
    intro lines meaning given
    by_cases line : Python.stripText text ∈ lines
    · exact List.mem_append_left _ line
    · by_cases same : Python.stripText text = meaning
      · exact absurd (same ▸ given (same ▸ some_)) line
      · rw [if_pos ⟨some_, line, same⟩]
        simp
  exact joined_contains (added _ _ fun filled => by simp [filled]) (Python.stripText_stripText text)

end Renderer

section Results

open Renderer

variable {result : ChatResult}

/-- The text of a result that is displayed whatever else is: that of the answer, or what has
    been translated. -/
def headline (result : ChatResult) : String :=
  let translated := stringValue ((result.data.getD []).get? "translated_text")
  if result.mode = .translation ∧ translated ≠ "" then translated else Python.stripText result.response

/-- Without data a text is displayed as it is. -/
theorem renderChatResponse_plain (plain : result.data = none) (some_ : Python.stripText result.response ≠ "") :
    renderChatResponse (chatResponseFromResult result) = result.response := by
  have seen : Python.strip result.response.toList ≠ [] := by
    intro none
    exact some_ (by simp [Python.stripText, none])
  simp [renderChatResponse, chatResponseFromResult, plain, Dict.get?, List.lookup_cons, renderPlain, Dict.str?,
    Json.str?, seen]

theorem renderChatResponse_contains (whole : result.Whole) (some_ : Python.stripText result.response ≠ "") :
    Contains (renderChatResponse (chatResponseFromResult result)) (headline result) := by
  rcases whole with plain | ⟨answer, data, mode, response⟩
  · rw [renderChatResponse_plain plain some_, headline, plain]
    simpa [Contains, Python.stripText, stringValue, Dict.get?] using Python.strip_infix result.response.toList
  · have found : (chatResponseFromResult result).get? "data" = some (.obj answer.modelDump) := by
      simp [chatResponseFromResult, data, Dict.get?, List.lookup_cons]
    have text : Dict.get? answer.modelDump "response" = some (.str result.response) := by
      rw [response]
      cases answer <;> rfl
    rw [renderChatResponse, found]
    simp only [headline, mode, data, Option.getD_some]
    cases answer with
    | translation answer =>
        have contains := @renderTranslation_contains _ (chatResponseFromResult result) _ text some_
        simp only [ModeResponse.mode, true_and, ne_eq, ite_not]
        exact contains
    | definition answer => exact renderDefinition_contains text some_
    | learning answer => exact renderLearning_contains text some_

theorem headline_some (some_ : Python.stripText result.response ≠ "") : headline result ≠ "" := by
  unfold headline
  dsimp only
  split_ifs with translated
  · exact translated.2
  · exact some_

end Results

section Displaying

variable {chat : Chat} {userText selectedMode : String}

/-- The message that is there gets another content. -/
theorem Chat.ShowsOnly.becomes (waiting : chat.ShowsOnly .status) (c : Call) {assign : Message → Message}
    (keeps : ∀ message, (assign message).displayed = message.displayed) :
    (((chat.call c).edit .status assign).update .status).Displays .status (assign (chat.message .status)).content := by
  obtain ⟨text, status⟩ := Option.isSome_iff_exists.mp ((waiting.displayed .status).mpr rfl)
  have response : (chat.message .response).displayed = none := by
    simpa using (waiting.displayed .response).not.mpr (by decide)
  refine ⟨by simp [Chat.update, keeps, status], fun other different => ?_⟩
  cases other with
  | status => exact absurd rfl different
  | response =>
      simp only [Chat.update, Chat.call_message, Chat.edit_other different]
      exact response

/-- A full response with a text is displayed in place of the status. -/
theorem sendFullBackendResponse_displays (waiting : chat.ShowsOnly .status) {data : Dict}
    (some_ : Renderer.renderChatResponse data ≠ "") :
    ∃ after, sendFullBackendResponse userText selectedMode (.ok data) chat = (.ok (), after) ∧
      after.Displays .status (Renderer.renderChatResponse data) := by
  simp only [sendFullBackendResponse, if_neg some_]
  exact ⟨_, rfl, waiting.becomes .chatFull fun _ => rfl⟩

end Displaying

end LanguageAgent.Webui
