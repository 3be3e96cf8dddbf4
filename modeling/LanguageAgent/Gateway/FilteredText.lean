import LanguageAgent.Gateway.LoweredTags

/-! # The visible text of a stream

What the filter lets through of a reply that arrives in pieces.
-/

namespace LanguageAgent.Gateway

open Text

/-- The text outside the think blocks, whose tags may be in any case. -/
def visibleText (text : List Char) : List Char := (thinkTags.opening.layout thinkTags.closing text).visible

/-- The scan of all that has been read. -/
def readSoFar (before : List Char) : Scanned Char := thinkTags.scan false before

/-- The scan of what the filter has in hand at a delta. -/
def window (before delta : List Char) : Scanned Char := thinkTags.resume (readSoFar before) delta

/-- No tag is searched for beyond a dotted `i`: in a delta, no such letter stands before
    the end of a tag. -/
def Unshifted (before : List Char) : List (List Char) → Prop
  | [] => True
  | delta :: rest => dottedI ∉ (window before delta).passed ∧ Unshifted (before ++ delta) rest

/-- Where a delta ends inside a block, after its opening tag, it shows nothing. -/
def Lossless (before : List Char) : List (List Char) → Prop
  | [] => True
  | delta :: rest =>
      ((window before delta).inside = true → (window before delta).rest ≠ [] → (window before delta).shown = []) ∧
        Lossless (before ++ delta) rest

namespace ThinkStreamFilter

variable (lower : List Char → List Char)

/-- The outputs of `feed`, and the filter after them. -/
def feedAll (filter : ThinkStreamFilter) : List (List Char) → List (List Char) × ThinkStreamFilter
  | [] => ([], filter)
  | chunk :: rest =>
      let fed := filter.feed lower chunk
      let later := fed.2.feedAll rest
      (fed.1 :: later.1, later.2)

/-- The outputs for the deltas of a stream, and that of `flush`. -/
def filtered (deltas : List (List Char)) : List (List Char) :=
  let fed := feedAll lower {} deltas
  fed.1 ++ [fed.2.flush.1]

end ThinkStreamFilter

open ThinkStreamFilter

section Steps

variable {python : StrLower} {before delta text visibleParts : List Char} {deltas : List (List Char)} {inside : Bool}

/-- The filter that has read a text. -/
def reading (before : List Char) : ThinkStreamFilter where
  buffer := thinkTags.held (readSoFar before)
  insideThink := (readSoFar before).inside

/-- What the filter lets through: nothing where it ends inside a block with something read
    of it. -/
def letThrough (s : Scanned Char) : List Char := if s.inside = true ∧ s.rest ≠ [] then [] else thinkTags.emitted s

/-- The tag that is found, in the text as it is. -/
theorem drop_found {tag : List Char} {parts : Cut Char} (plain : PlainTag tag) (found : (loweredTag tag).cut text = some parts) :
    text.take parts.before.length = parts.before ∧ text.drop (parts.before.length + tag.length) = parts.after := by
  have whole := Pattern.cut_text found
  have size : (loweredTag tag).length = tag.length := List.length_map ..
  have hit : parts.hit.length = tag.length := by
    rw [← size]
    exact Pattern.cut_hit_length found (by rw [size]; exact List.length_pos_iff.mpr plain.some)
  constructor
  · rw [whole, List.take_left]
  · rw [whole, ← List.append_assoc, ← hit, ← List.length_append, List.drop_left]

/-! The loop, one tag at a time. -/

theorem feedLoop_nil : feedLoop python.lower inside visibleParts [] = (visibleParts, { insideThink := inside }) := by
  rw [feedLoop, dif_pos rfl]

theorem feedLoop_unclosed (more : text ≠ []) (missing : findTag python.lower thinkCloseTag text = none) :
    feedLoop python.lower true visibleParts text =
      ([], { buffer := overlapSuffix python.lower text thinkCloseTag, insideThink := true }) := by
  rw [feedLoop, dif_neg more, if_pos rfl]
  split
  · rfl
  · rename_i found
    cases missing.symm.trans found

theorem feedLoop_closed {closeIndex : Nat} (more : text ≠ []) (found : findTag python.lower thinkCloseTag text = some closeIndex) :
    feedLoop python.lower true visibleParts text =
      feedLoop python.lower false visibleParts (text.drop (closeIndex + thinkCloseTag.length)) := by
  rw [feedLoop, dif_neg more, if_pos rfl]
  split
  · rename_i missing
    cases missing.symm.trans found
  · rename_i again
    cases found.symm.trans again
    rfl

theorem feedLoop_clear (more : text ≠ []) (missing : findTag python.lower thinkOpenTag text = none) :
    feedLoop python.lower false visibleParts text =
      (visibleParts ++ text.take (text.length - (overlapSuffix python.lower text thinkOpenTag).length),
        { buffer := overlapSuffix python.lower text thinkOpenTag }) := by
  rw [feedLoop, dif_neg more, if_neg Bool.false_ne_true]
  split
  · rfl
  · rename_i found
    cases missing.symm.trans found

theorem feedLoop_opened {openIndex : Nat} (more : text ≠ []) (found : findTag python.lower thinkOpenTag text = some openIndex) :
    feedLoop python.lower false visibleParts text =
      feedLoop python.lower true (visibleParts ++ text.take openIndex) (text.drop (openIndex + thinkOpenTag.length)) := by
  rw [feedLoop, dif_neg more, if_neg Bool.false_ne_true]
  split
  · rename_i missing
    cases missing.symm.trans found
  · rename_i again
    cases found.symm.trans again
    rfl

theorem found_more {P : Pattern Char} {parts : Cut Char} (found : P.cut text = some parts) : text ≠ [] := by
  rintro rfl
  cases found

/-- A tag with no dotted `i` before it is found where it is. -/
theorem findTag_unshifted {tag : List Char} {parts : Cut Char} (plain : PlainTag tag)
    (found : (loweredTag tag).cut text = some parts) (unshifted : dottedI ∉ parts.before) :
    findTag python.lower tag text = some parts.before.length := by
  rw [findTag_eq plain, found, Option.map_some, List.count_eq_zero.mpr unshifted, Nat.add_zero]

theorem findTag_none {tag : List Char} (plain : PlainTag tag) (none : (loweredTag tag).cut text = none) :
    findTag python.lower tag text = .none := by
  rw [findTag_eq plain, none, Option.map_none]

/-- The loop is a scan that loses what it has collected where it ends inside a block. -/
theorem feedLoop_eq (unshifted : dottedI ∉ (thinkTags.scan inside text).passed) :
    feedLoop python.lower inside visibleParts text =
      (if (thinkTags.scan inside text).inside = true ∧ (thinkTags.scan inside text).rest ≠ [] then []
        else visibleParts ++ thinkTags.emitted (thinkTags.scan inside text),
        { buffer := thinkTags.held (thinkTags.scan inside text), insideThink := (thinkTags.scan inside text).inside }) := by
  induction inside, text using thinkTags.scan_induction generalizing visibleParts with
  | clear inside text none =>
      rw [Tags.scan_clear none]
      by_cases empty : text = []
      · subst empty
        rw [feedLoop_nil]
        cases inside <;> simp [Tags.emitted, Tags.held, Pattern.settled, Pattern.overlap]
      · cases inside with
        | true =>
            rw [feedLoop_unclosed empty (findTag_none thinkCloseTag_plain none), overlapSuffix_eq thinkCloseTag_plain,
              if_pos ⟨rfl, empty⟩]
            rfl
        | false =>
            rw [feedLoop_clear empty (findTag_none thinkOpenTag_plain none), overlapSuffix_eq thinkOpenTag_plain,
              ← Pattern.settled_eq, if_neg (by simp)]
            rfl
  | found inside text parts some ih =>
      have more := found_more some
      rw [Tags.scan_found some] at unshifted ⊢
      simp only [List.mem_append, not_or] at unshifted
      obtain ⟨before, -, later⟩ := unshifted
      cases inside with
      | true =>
          rw [feedLoop_closed more (findTag_unshifted thinkCloseTag_plain some before), (drop_found thinkCloseTag_plain some).2]
          exact ih later
      | false =>
          obtain ⟨taken, dropped⟩ := drop_found thinkOpenTag_plain some
          rw [feedLoop_opened more (findTag_unshifted thinkOpenTag_plain some before), taken, dropped]
          refine (ih later).trans ?_
          simp [Tags.emitted, Tags.held]

/-! ## The deltas -/

theorem feed_eq (unshifted : dottedI ∉ (window before delta).passed) :
    (reading before).feed python.lower delta = (letThrough (window before delta), reading (before ++ delta)) := by
  have inside : (readSoFar (before ++ delta)).inside = (window before delta).inside := Tags.resume_inside
  have held : thinkTags.held (readSoFar (before ++ delta)) = thinkTags.held (window before delta) := Tags.resume_held
  rw [letThrough, ← List.nil_append (thinkTags.emitted _), reading.eq_1 (before ++ delta), inside, held]
  exact feedLoop_eq unshifted

/-- What is let through of the deltas. -/
def outputs (before : List Char) : List (List Char) → List (List Char)
  | [] => []
  | delta :: rest => letThrough (window before delta) :: outputs (before ++ delta) rest

theorem feedAll_eq (unshifted : Unshifted before deltas) :
    (reading before).feedAll python.lower deltas = (outputs before deltas, reading (before ++ deltas.flatten)) := by
  induction deltas generalizing before with
  | nil => simp [feedAll, outputs]
  | cons delta rest ih =>
      obtain ⟨here, later⟩ := unshifted
      rw [feedAll, feed_eq here, ih later, outputs, List.flatten_cons, List.append_assoc]

theorem reading_nil : reading [] = {} := by
  have none : thinkTags.scan false [] = _ := Tags.scan_clear rfl
  simp [reading, readSoFar, none, Tags.held, Pattern.overlap]

theorem filtered_eq (unshifted : Unshifted [] deltas) :
    filtered python.lower deltas = outputs [] deltas ++ [(reading deltas.flatten).flush.1] := by
  rw [filtered, ← reading_nil, feedAll_eq unshifted, List.nil_append]

/-- The flush gives what is kept outside of blocks. -/
theorem flush_eq : (reading before).flush.1 =
    if (readSoFar before).inside then [] else thinkTags.held (readSoFar before) := by
  unfold ThinkStreamFilter.flush reading
  cases (readSoFar before).inside <;> rfl

theorem visibleText_eq : visibleText text = thinkTags.emitted (readSoFar text) ++ (reading text).flush.1 := by
  rw [flush_eq]
  exact Tags.visible_eq

/-- What can be shown after a delta. -/
theorem emitted_window : thinkTags.emitted (readSoFar (before ++ delta)) =
    thinkTags.emitted (readSoFar before) ++ thinkTags.emitted (window before delta) :=
  Tags.resume_emitted

theorem letThrough_length {s : Scanned Char} : (letThrough s).length ≤ (thinkTags.emitted s).length := by
  unfold letThrough
  split_ifs <;> simp

/-- What is let through is no more than what can be shown. -/
theorem outputs_length :
    (thinkTags.emitted (readSoFar before)).length + (outputs before deltas).flatten.length ≤
      (thinkTags.emitted (readSoFar (before ++ deltas.flatten))).length := by
  induction deltas generalizing before with
  | nil => simp [outputs]
  | cons delta rest ih =>
      have later := @ih (before ++ delta)
      have here := @letThrough_length (window before delta)
      rw [emitted_window, List.append_assoc, List.length_append] at later
      rw [outputs, List.flatten_cons, List.flatten_cons, List.length_append]
      omega

/-- Everything that can be shown is let through where nothing is lost. -/
theorem outputs_iff :
    thinkTags.emitted (readSoFar before) ++ (outputs before deltas).flatten =
      thinkTags.emitted (readSoFar (before ++ deltas.flatten)) ↔ Lossless before deltas := by
  induction deltas generalizing before with
  | nil => simp [outputs, Lossless]
  | cons delta rest ih =>
      have later := @ih (before ++ delta)
      rw [emitted_window, List.append_assoc, List.append_assoc] at later
      rw [outputs, Lossless, List.flatten_cons, List.flatten_cons]
      by_cases ends : (window before delta).inside = true ∧ (window before delta).rest ≠ []
      · have lost : letThrough (window before delta) = [] := if_pos ends
        have shown : thinkTags.emitted (window before delta) = (window before delta).shown := by
          simp [Tags.emitted, ends.1]
        rw [lost, List.nil_append]
        rw [shown] at later
        constructor
        · intro whole
          -- nothing that is shown later makes up for what is lost here
          have size := @outputs_length (before ++ delta) rest
          rw [emitted_window, shown, List.append_assoc, ← whole] at size
          simp only [List.length_append] at size
          have none : (window before delta).shown = [] := List.eq_nil_of_length_eq_zero (by omega)
          rw [none, List.nil_append] at later
          exact ⟨fun _ _ => none, later.mp whole⟩
        · rintro ⟨here, lossless⟩
          have none := here ends.1 ends.2
          rw [none, List.nil_append] at later
          exact later.mpr lossless
      · have kept : letThrough (window before delta) = thinkTags.emitted (window before delta) := if_neg ends
        rw [kept, later]
        exact (and_iff_right fun inside more => absurd ⟨inside, more⟩ ends).symm

end Steps

/-- Where no tag is searched for beyond a dotted `i`: the visible text is let through
    exactly where nothing is lost. -/
theorem filtered_visible_iff (python : StrLower) (deltas : List (List Char)) (unshifted : Unshifted [] deltas) :
    (filtered python.lower deltas).flatten = visibleText deltas.flatten ↔ Lossless [] deltas := by
  have start : thinkTags.emitted (readSoFar []) = [] := by
    have none : thinkTags.scan false [] = _ := Tags.scan_clear rfl
    simp [readSoFar, none, Tags.emitted, Pattern.settled]
  have whole := @outputs_iff [] deltas
  rw [start, List.nil_append, List.nil_append] at whole
  rw [filtered_eq unshifted, visibleText_eq, List.flatten_append, List.flatten_singleton]
  exact (List.append_left_inj _).trans whole

/-- A block that begins and ends between two deltas. -/
theorem filtered_visible_two_deltas :
    (filtered plainPython.lower ["Molo <thi".toList, "nk>hello</think>!".toList]).flatten = "Molo !".toList := by
  have unshifted : Unshifted [] ["Molo <thi".toList, "nk>hello</think>!".toList] :=
    ⟨by decide +kernel, by decide +kernel, trivial⟩
  have lossless : Lossless [] ["Molo <thi".toList, "nk>hello</think>!".toList] :=
    ⟨by decide +kernel, by decide +kernel, trivial⟩
  have visible := (filtered_visible_iff plainPython _ unshifted).mpr lossless
  exact visible.trans (by decide +kernel)

/-- The text before a block is lost where a delta ends in the block. -/
theorem text_before_block_lost :
    (filtered plainPython.lower ["abc<think>xyz".toList]).flatten ≠ visibleText ["abc<think>xyz".toList].flatten := by
  decide +kernel

end LanguageAgent.Gateway
