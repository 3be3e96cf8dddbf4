import LanguageAgent.Gateway.FilteredText
import LanguageAgent.Gateway.ReplyText

/-! # What the filter holds back

A stream without a think block goes through the filter as it is, up to what may still
become an opening tag.
-/

namespace LanguageAgent.Gateway

open Text ThinkStreamFilter

/-- The lowered text begins the tag and is not all of it. -/
def BeginsTag (tag low : List Char) : Prop := low <+: tag ∧ low ≠ tag

/-- The longest suffix of the text that is lowered to the beginning of an opening tag. -/
structure LongestBegun (lower : List Char → List Char) (text suffix : List Char) : Prop where
  isSuffix : suffix <:+ text
  begins : BeginsTag thinkOpenTag (lower suffix)
  longest : ∀ other, other <:+ text → BeginsTag thinkOpenTag (lower other) → other.length ≤ suffix.length

section Overlaps

variable {python : StrLower} {tag text low : List Char}

/-- A text that is lowered to the beginning of a tag keeps its length. -/
theorem lowered_length (lowered : Lowered text low) (ascii : ∀ letter ∈ low, letter.toNat < 128) :
    low.length = text.length := by
  induction lowered with
  | nil => rfl
  | dotted =>
      have mark := ascii '\u0307' (List.mem_cons_of_mem _ List.mem_cons_self)
      exact absurd mark (by decide)
  | letter different lowers lowered ih =>
      rw [List.length_cons, List.length_cons, ih fun letter member => ascii letter (List.mem_cons_of_mem _ member)]

/-- A text is lowered to the beginning of a tag where it is short and meets the tag. -/
theorem beginsTag_iff (plain : PlainTag tag) :
    BeginsTag tag (python.lower text) ↔ text.length < tag.length ∧ (loweredTag tag).meets text = true := by
  have lowered := python.lowered text
  constructor
  · rintro ⟨isPrefix, part⟩
    have size := lowered_length lowered fun letter member => plain.ascii letter (isPrefix.subset member)
    have shorter : (python.lower text).length < tag.length :=
      lt_of_le_of_ne isPrefix.length_le fun same => part (isPrefix.eq_of_length same)
    rw [size] at shorter
    have taken : python.lower text = tag.take text.length := by
      rw [← size]
      exact List.prefix_iff_eq_take.mp isPrefix
    exact ⟨shorter, (meets_lowered lowered plain.ascii shorter.le).mp taken⟩
  · rintro ⟨short, met⟩
    have taken := (meets_lowered lowered plain.ascii short.le).mpr met
    rw [BeginsTag, taken]
    refine ⟨List.take_prefix _ _, fun whole => ?_⟩
    have size := congrArg List.length whole
    rw [List.length_take] at size
    omega

theorem overlap_longestBegun : LongestBegun python.lower text (thinkTags.opening.overlap text) := by
  have size : thinkTags.opening.length = thinkOpenTag.length := List.length_map ..
  have some : 0 < thinkTags.opening.length := by
    rw [size]
    decide
  obtain ⟨short, met⟩ := @Pattern.overlap_meets _ thinkTags.opening text some
  rw [size] at short
  refine ⟨Pattern.overlap_suffix, (beginsTag_iff thinkOpenTag_plain).mpr ⟨short, met⟩, ?_⟩
  intro other isSuffix begun
  obtain ⟨short, met⟩ := (beginsTag_iff thinkOpenTag_plain).mp begun
  exact Pattern.overlap_longest isSuffix (by rwa [size]) met

/-- A text whose lowered form does not contain a tag is not cut at one. -/
theorem cut_of_lowered (plain : PlainTag tag) (free : ¬ tag <:+: python.lower text) : (loweredTag tag).cut text = none := by
  have none : findTag python.lower tag text = .none := by
    cases found : (literally tag).cut (python.lower text) with
    | none => rw [findTag, found, Option.map_none]
    | some parts =>
        have begun := literally_begins.mp (Pattern.cut_begins found)
        have later : parts.hit ++ parts.after <:+ python.lower text := by
          conv => rhs; rw [Pattern.cut_text found]
          exact List.suffix_append _ _
        exact absurd (begun.isInfix.trans later.isInfix) free
  rw [findTag_eq plain] at none
  exact Option.map_eq_none_iff.mp none

end Overlaps

section Streams

variable {python : StrLower} {before delta : List Char} {deltas : List (List Char)}

theorem readSoFar_clear (clear : thinkTags.opening.cut before = none) : readSoFar before = ⟨[], [], false, before⟩ :=
  Tags.scan_clear clear

/-- Without a tag, what is in hand at a delta is what has been held and the delta. -/
theorem window_clear (clear : thinkTags.opening.cut (before ++ delta) = none) :
    window before delta = ⟨[], [], false, thinkTags.opening.overlap before ++ delta⟩ := by
  have earlier := Pattern.cut_prefix clear
  rw [Pattern.cut_overlap earlier, Option.map_eq_none_iff] at clear
  rw [window, readSoFar_clear earlier]
  exact Tags.scan_clear clear

/-- Without a tag nothing is searched for beyond a dotted `i`, and nothing is lost. -/
theorem clear_stream (clear : thinkTags.opening.cut (before ++ deltas.flatten) = none) :
    Unshifted before deltas ∧ Lossless before deltas := by
  induction deltas generalizing before with
  | nil => exact ⟨trivial, trivial⟩
  | cons delta rest ih =>
      rw [List.flatten_cons, ← List.append_assoc] at clear
      obtain ⟨unshifted, lossless⟩ := ih clear
      have here := window_clear (Pattern.cut_prefix clear)
      constructor
      · refine ⟨?_, unshifted⟩
        rw [here]
        exact List.not_mem_nil
      · refine ⟨?_, lossless⟩
        rw [here]
        exact fun inside => absurd inside Bool.false_ne_true

/-- What has been let through of a stream without a tag, and what is held. -/
theorem feedAll_clear (clear : thinkTags.opening.cut deltas.flatten = none) :
    (feedAll python.lower {} deltas).1.flatten = thinkTags.opening.settled deltas.flatten ∧
      (feedAll python.lower {} deltas).2 = ⟨thinkTags.opening.overlap deltas.flatten, false⟩ := by
  obtain ⟨unshifted, lossless⟩ := @clear_stream [] deltas clear
  have whole := outputs_iff.mpr lossless
  have fed := @feedAll_eq python [] deltas unshifted
  rw [reading_nil, List.nil_append] at fed
  rw [readSoFar_clear rfl, List.nil_append, readSoFar_clear clear] at whole
  rw [fed]
  refine ⟨whole, ?_⟩
  rw [reading, readSoFar_clear clear]
  rfl

end Streams

/-- A text whose lowered form contains no opening tag, in any pieces: at every step what
    has been let through and the buffer are what has been fed, the buffer is the longest
    suffix that is lowered to the beginning of an opening tag, and the flush gives the rest. -/
theorem held_back (python : StrLower) (deltas : List (List Char)) (free : ¬ thinkOpenTag <:+: python.lower deltas.flatten) :
    (filtered python.lower deltas).flatten = deltas.flatten ∧
      ∀ fed later, deltas = fed ++ later →
        (feedAll python.lower {} fed).1.flatten ++ (feedAll python.lower {} fed).2.buffer = fed.flatten ∧
          LongestBegun python.lower fed.flatten (feedAll python.lower {} fed).2.buffer := by
  have clear : thinkTags.opening.cut deltas.flatten = none := cut_of_lowered thinkOpenTag_plain free
  constructor
  · obtain ⟨shown, kept⟩ := @feedAll_clear python deltas clear
    rw [filtered, List.flatten_append, shown, kept]
    simp [ThinkStreamFilter.flush]
  · rintro fed later rfl
    rw [List.flatten_append] at clear
    obtain ⟨shown, kept⟩ := @feedAll_clear python fed (Pattern.cut_prefix clear)
    rw [shown, kept]
    exact ⟨Pattern.settled_overlap, overlap_longestBegun⟩

/-- Partial tags, a stray closing tag and an empty piece. -/
theorem held_back_partial_tags :
    (filtered plainPython.lower ["a <thi".toList, [], "s</thi".toList, "nk> <TH".toList]).flatten =
      "a <this</think> <TH".toList := by
  have free : ¬ thinkOpenTag <:+: plainPython.lower ["a <thi".toList, [], "s</thi".toList, "nk> <TH".toList].flatten := by
    decide +kernel
  exact (held_back plainPython _ free).1.trans (by decide +kernel)

end LanguageAgent.Gateway
