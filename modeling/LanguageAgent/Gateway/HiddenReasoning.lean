import LanguageAgent.Gateway.FilteredText
import LanguageAgent.Text.Hidden

/-! # Reasoning in a stream

What the filter lets through does not depend on what stands inside the think blocks.
-/

namespace LanguageAgent.Gateway

open Text ThinkStreamFilter

section Outputs

variable {before before' delta delta' text text' : List Char} {deltas deltas' : List (List Char)}

/-- What is let through of a delta, by all that has been read. -/
theorem letThrough_window : letThrough (window before delta) =
    if (readSoFar (before ++ delta)).inside = true ∧ (readSoFar (before ++ delta)).rest ≠ [] then []
    else thinkTags.emitted (window before delta) := by
  have inside : (readSoFar (before ++ delta)).inside = (window before delta).inside := Tags.resume_inside
  rw [inside]
  unfold letThrough
  by_cases none : (window before delta).passed = []
  · -- without a tag nothing is shown inside a block
    have quiet : window before delta = _ := Tags.resume_quiet none
    have shown : (window before delta).inside = true → thinkTags.emitted (window before delta) = [] := by
      intro inside
      rw [quiet] at inside ⊢
      replace inside : (readSoFar before).inside = true := inside
      simp [Tags.emitted, inside]
    cases inside : (window before delta).inside with
    | true => simp [shown inside]
    | false => simp
  · have rest : (readSoFar (before ++ delta)).rest = (window before delta).rest := by
      have whole : readSoFar (before ++ delta) = thinkTags.followed (readSoFar before) (window before delta) :=
        Tags.scan_append
      rw [whole, Tags.followed_passed none]
    rw [rest]

/-- Deltas of texts that are read alike let the same through. -/
theorem letThrough_same (same : Tags.SameRead (readSoFar before) (readSoFar before'))
    (later : Tags.SameRead (readSoFar (before ++ delta)) (readSoFar (before' ++ delta'))) :
    letThrough (window before delta) = letThrough (window before' delta') := by
  have shown : thinkTags.emitted (window before delta) = thinkTags.emitted (window before' delta') := by
    have whole : thinkTags.emitted (readSoFar (before ++ delta)) = thinkTags.emitted (readSoFar (before' ++ delta')) :=
      later.emitted
    rw [emitted_window, emitted_window, same.emitted] at whole
    exact List.append_cancel_left whole
  have more : (readSoFar (before ++ delta)).rest ≠ [] ↔ (readSoFar (before' ++ delta')).rest ≠ [] := by
    rw [← List.length_pos_iff, ← List.length_pos_iff, later.length]
  rw [letThrough_window, letThrough_window, shown, later.inside]
  simp only [more]

theorem outputs_same (alike : ∀ n, Tags.SameRead (readSoFar (text.take n)) (readSoFar (text'.take n)))
    (whole : before ++ deltas.flatten = text) (whole' : before' ++ deltas'.flatten = text')
    (size : before.length = before'.length) (sizes : deltas.map List.length = deltas'.map List.length) :
    outputs before deltas = outputs before' deltas' := by
  induction deltas generalizing before before' deltas' with
  | nil =>
      obtain rfl : deltas' = [] := by simpa using sizes.symm
      rfl
  | cons delta rest ih =>
      cases deltas' with
      | nil => cases sizes
      | cons delta' rest' =>
          obtain ⟨first, later⟩ := List.cons.inj sizes
          rw [List.flatten_cons, ← List.append_assoc] at whole whole'
          have longer : (before ++ delta).length = (before' ++ delta').length := by
            rw [List.length_append, List.length_append, size, first]
          have same := alike before.length
          have next := alike (before ++ delta).length
          rw [← whole, ← whole', List.take_left, longer, List.take_left] at next
          rw [← whole, ← whole', List.append_assoc, List.append_assoc, List.take_left, size, List.take_left] at same
          rw [outputs, outputs, letThrough_same same next, ih whole whole' longer later]

end Outputs

/-- Two streams in pieces of the same lengths, alike but for what is inside their think
    blocks: where no tag is searched for beyond a dotted `i`, they let the same through at
    every step. -/
theorem reasoning_hidden (python : StrLower) (deltas deltas' : List (List Char))
    (sizes : deltas.map List.length = deltas'.map List.length)
    (alike : thinkTags.Alike deltas.flatten deltas'.flatten)
    (unshifted : Unshifted [] deltas) (unshifted' : Unshifted [] deltas') :
    filtered python.lower deltas = filtered python.lower deltas' := by
  have same := outputs_same alike.sameRead (List.nil_append _) (List.nil_append _) rfl sizes
  have total : deltas.flatten.length = deltas'.flatten.length := by
    rw [List.length_flatten, List.length_flatten, sizes]
  have last := alike.sameRead deltas.flatten.length
  rw [List.take_length, total, List.take_length] at last
  rw [filtered_eq unshifted, filtered_eq unshifted', same, flush_eq, flush_eq]
  exact congrArg (fun rest => _ ++ [rest]) last.kept

deriving instance DecidableEq for Cut

/-- A block in two deltas. -/
theorem reasoning_hidden_two_deltas :
    filtered plainPython.lower ["<think>ab".toList, "</think>c".toList] =
      filtered plainPython.lower ["<think>xy".toList, "</think>c".toList] := by
  have opened : thinkTags.opening.cut ["<think>ab".toList, "</think>c".toList].flatten =
      some ⟨[], "<think>".toList, "ab</think>c".toList⟩ := by decide +kernel
  have opened' : thinkTags.opening.cut ["<think>xy".toList, "</think>c".toList].flatten =
      some ⟨[], "<think>".toList, "xy</think>c".toList⟩ := by decide +kernel
  have closed : thinkTags.closing.cut "ab</think>c".toList = some ⟨"ab".toList, "</think>".toList, "c".toList⟩ := by
    decide +kernel
  have closed' : thinkTags.closing.cut "xy</think>c".toList = some ⟨"xy".toList, "</think>".toList, "c".toList⟩ := by
    decide +kernel
  exact reasoning_hidden plainPython _ _ (by decide) (.block opened opened' closed closed' rfl (.clear (by decide +kernel)))
    ⟨by decide +kernel, by decide +kernel, trivial⟩ ⟨by decide +kernel, by decide +kernel, trivial⟩

/-- A dotted `i` in a block swallows a letter after it. -/
theorem reasoning_shifts :
    thinkTags.Alike ["<think>\u0130</think>ab".toList].flatten ["<think>x</think>ab".toList].flatten ∧
      filtered plainPython.lower ["<think>\u0130</think>ab".toList] ≠
        filtered plainPython.lower ["<think>x</think>ab".toList] := by
  have opened : thinkTags.opening.cut ["<think>\u0130</think>ab".toList].flatten =
      some ⟨[], "<think>".toList, "\u0130</think>ab".toList⟩ := by decide +kernel
  have opened' : thinkTags.opening.cut ["<think>x</think>ab".toList].flatten =
      some ⟨[], "<think>".toList, "x</think>ab".toList⟩ := by decide +kernel
  have closed : thinkTags.closing.cut "\u0130</think>ab".toList = some ⟨"\u0130".toList, "</think>".toList, "ab".toList⟩ := by
    decide +kernel
  have closed' : thinkTags.closing.cut "x</think>ab".toList = some ⟨"x".toList, "</think>".toList, "ab".toList⟩ := by
    decide +kernel
  exact ⟨.block opened opened' closed closed' rfl (.clear (by decide +kernel)), by decide +kernel⟩

end LanguageAgent.Gateway
