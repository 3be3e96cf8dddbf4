import LanguageAgent.Gateway.LlamaServer
import Mathlib.Data.List.Perm.Basic

/-! # What a whole reply shows

`_extract_message_content` against the text outside the think blocks. The two are told
apart by counting: `replace` takes whole tags out of what the regular expression leaves.
-/

namespace LanguageAgent.Gateway

open Text Queue

/-- The text outside the think blocks, whose tags may be in any case. -/
def visible (content : List Char) : List Char :=
  ((inAnyCase thinkOpenTag).layout (inAnyCase thinkCloseTag) content).visible

/-- A think block that is never closed, from its tag on. -/
def cutOff (content : List Char) : List Char :=
  ((inAnyCase thinkOpenTag).layout (inAnyCase thinkCloseTag) content).cutOff

/-- `re.IGNORECASE` takes nothing for a tag that is not one in ASCII letters. -/
def AsciiTags (content : List Char) : Prop :=
  ∀ suffix, suffix <:+ content →
    (ignoringCase thinkOpenTag).begins suffix = (inAnyCase thinkOpenTag).begins suffix ∧
      (ignoringCase thinkCloseTag).begins suffix = (inAnyCase thinkCloseTag).begins suffix

instance (content : List Char) : Decidable (AsciiTags content) :=
  decidable_of_iff (∀ suffix ∈ content.tails,
    (ignoringCase thinkOpenTag).begins suffix = (inAnyCase thinkOpenTag).begins suffix ∧
      (ignoringCase thinkCloseTag).begins suffix = (inAnyCase thinkCloseTag).begins suffix)
    (by simp only [AsciiTags, List.mem_tails])

/-- Neither tag occurs in lower case. -/
def TagFree (text : List Char) : Prop := ¬ thinkOpenTag <:+: text ∧ ¬ thinkCloseTag <:+: text

/-- Every block is closed, and removing the blocks leaves no tag. -/
structure Settled (content : List Char) : Prop where
  ascii : AsciiTags content
  closed : cutOff content = []
  tagFree : TagFree (visible content)

/-- The letters of a text that are no white space. -/
def letters (text : List Char) : List Char := text.filter fun c => !Python.isSpace c

/-- The letters are those of a number of tags in lower case, in some order. -/
def TagLetters (text : List Char) : Prop :=
  ∃ opens closes : Nat, (letters text).Perm
    ((List.replicate opens thinkOpenTag).flatten ++ (List.replicate closes thinkCloseTag).flatten)

/-! ## Removing tags -/

section Removal

variable {tag text : List Char}

theorem literally_begins : (literally tag).begins text = true ↔ tag <+: text := by
  induction tag generalizing text with
  | nil => exact ⟨fun _ => List.nil_prefix, fun _ => Pattern.begins_nil⟩
  | cons letter rest ih =>
      cases text with
      | nil => exact ⟨nofun, fun isPrefix => absurd (List.prefix_nil.mp isPrefix) (List.cons_ne_nil _ _)⟩
      | cons c text =>
          have unfolded : (literally (letter :: rest)).begins (c :: text) =
              (c == letter && (literally rest).begins text) := rfl
          rw [unfolded, List.cons_prefix_cons, ← ih, Bool.and_eq_true, beq_iff_eq, eq_comm]

theorem removeAll_free (free : ¬ tag <:+: text) : removeAll tag text = text := by
  induction text with
  | nil => rw [removeAll]
  | cons c rest ih =>
      have here : ¬ (literally tag).begins (c :: rest) = true :=
        fun begun => free (literally_begins.mp begun).isInfix
      have later : ¬ tag <:+: rest := fun inside => free (inside.trans (List.suffix_cons c rest).isInfix)
      rw [removeAll, if_neg here, ih later]

/-- `replace` takes out a number of tags, and none only where there is none. -/
theorem removeAll_perm (nonempty : tag ≠ []) (text : List Char) :
    ∃ count, text.Perm (removeAll tag text ++ (List.replicate count tag).flatten) ∧
      (count = 0 → ¬ tag <:+: text) := by
  fun_induction removeAll tag text with
  | case1 => exact ⟨0, .refl _, fun _ inside => nonempty (List.infix_nil.mp inside)⟩
  | case2 c rest begun ih =>
      obtain ⟨count, perm, _⟩ := ih
      obtain ⟨after, whole⟩ := literally_begins.mp begun
      have dropped : rest.drop (tag.length - 1) = after := by
        obtain ⟨letter, tail, rfl⟩ := List.exists_cons_of_ne_nil nonempty
        obtain ⟨rfl, rfl⟩ := List.cons.inj whole
        exact List.drop_left
      rw [dropped] at perm ⊢
      refine ⟨count + 1, ?_, nofun⟩
      rw [← whole, List.replicate_succ, List.flatten_cons]
      exact (perm.append_left tag).trans (List.perm_append_comm_assoc _ _ _)
  | case3 c rest clear ih =>
      obtain ⟨count, perm, none⟩ := ih
      refine ⟨count, perm.cons c, fun zero inside => ?_⟩
      rcases List.infix_cons_iff.mp inside with here | later
      · exact clear (literally_begins.mpr here)
      · exact none zero later

end Removal

/-! ## White space -/

section Letters

variable {text : List Char}

private theorem letters_dropWhile : letters (text.dropWhile Python.isSpace) = letters text := by
  induction text with
  | nil => rfl
  | cons c rest ih =>
      cases space : Python.isSpace c with
      | true =>
          rw [List.dropWhile_cons_of_pos space, ih, letters, letters, List.filter_cons_of_neg]
          rw [space]
          decide
      | false => rw [List.dropWhile_cons_of_neg (by rw [space]; decide)]

theorem letters_strip : letters (Python.strip text) = letters text := by
  unfold Python.strip
  have reversed : ∀ text, letters text.reverse = (letters text).reverse := fun text => List.filter_reverse
  rw [reversed, letters_dropWhile, reversed, letters_dropWhile, List.reverse_reverse]

theorem letters_append (first second : List Char) :
    letters (first ++ second) = letters first ++ letters second := List.filter_append ..

/-- The tags contain no white space. -/
theorem letters_tags (count : Nat) {tag : List Char} (solid : letters tag = tag) :
    letters (List.replicate count tag).flatten = (List.replicate count tag).flatten := by
  induction count with
  | zero => rfl
  | succ count ih => rw [List.replicate_succ, List.flatten_cons, letters_append, solid, ih]

end Letters

/-! ## The text of a reply -/

section Reply

variable {content : List Char}

theorem subThinkBlocks_ascii (ascii : AsciiTags content) :
    subThinkBlocks content = visible content ++ cutOff content := by
  have same : (ignoringCase thinkOpenTag).layout (ignoringCase thinkCloseTag) content =
      (inAnyCase thinkOpenTag).layout (inAnyCase thinkCloseTag) content :=
    Pattern.layout_congr (by simp only [ignoringCase, inAnyCase, List.length_map])
      (by simp only [ignoringCase, inAnyCase, List.length_map]) ascii
  rw [subThinkBlocks_eq, same, Layout.dropClosed_eq]
  rfl

theorem stripThinkBlocks_settled (settled : Settled content) :
    stripThinkBlocks content = visible content := by
  have rest : subThinkBlocks content = visible content := by
    rw [subThinkBlocks_ascii settled.ascii, settled.closed, List.append_nil]
  rw [stripThinkBlocks, rest, removeAll_free settled.tagFree.1, removeAll_free settled.tagFree.2]

theorem thinkOpenTag_solid : thinkOpenTag ≠ [] ∧ letters thinkOpenTag = thinkOpenTag := by
  decide +kernel

theorem thinkCloseTag_solid : thinkCloseTag ≠ [] ∧ letters thinkCloseTag = thinkCloseTag := by
  decide +kernel

private theorem flatten_replicate_eq_nil {count : Nat} {tag : List Char} (nonempty : tag ≠ [])
    (empty : (List.replicate count tag).flatten = []) : count = 0 := by
  cases count with
  | zero => rfl
  | succ count => exact absurd (List.append_eq_nil_iff.mp empty).1 nonempty

/-- Where the right text is returned, the tags `replace` has removed make up the block
    that is never closed. -/
theorem settled_of_strip (ascii : AsciiTags content)
    (same : Python.strip (stripThinkBlocks content) = Python.strip (visible content)) :
    Settled content ∨ (cutOff content ≠ [] ∧ TagLetters (cutOff content)) := by
  obtain ⟨opens, opened, noOpen⟩ := removeAll_perm thinkOpenTag_solid.1 (subThinkBlocks content)
  obtain ⟨closes, closed, noClose⟩ :=
    removeAll_perm thinkCloseTag_solid.1 (removeAll thinkOpenTag (subThinkBlocks content))
  have removed : (visible content ++ cutOff content).Perm (stripThinkBlocks content ++
      ((List.replicate closes thinkCloseTag).flatten ++ (List.replicate opens thinkOpenTag).flatten)) := by
    rw [← List.append_assoc, ← subThinkBlocks_ascii ascii]
    exact opened.trans (closed.append_right _)
  have kept : letters (stripThinkBlocks content) = letters (visible content) := by
    rw [← letters_strip, same, letters_strip]
  have counted : (letters (cutOff content)).Perm
      ((List.replicate closes thinkCloseTag).flatten ++ (List.replicate opens thinkOpenTag).flatten) := by
    have filtered : (letters (visible content ++ cutOff content)).Perm (letters _) :=
      removed.filter fun c => !Python.isSpace c
    rw [letters_append, letters_append, letters_append, letters_tags closes thinkCloseTag_solid.2,
      letters_tags opens thinkOpenTag_solid.2, kept] at filtered
    exact (List.perm_append_left_iff _).mp filtered
  by_cases complete : cutOff content = []
  · left
    rw [complete] at counted
    have none := List.append_eq_nil_iff.mp (List.nil_perm.mp counted)
    have clear := noOpen (flatten_replicate_eq_nil thinkOpenTag_solid.1 none.2)
    have clear' := noClose (flatten_replicate_eq_nil thinkCloseTag_solid.1 none.1)
    rw [removeAll_free clear] at clear'
    rw [subThinkBlocks_ascii ascii, complete, List.append_nil] at clear clear'
    exact ⟨ascii, complete, clear, clear'⟩
  · exact .inr ⟨complete, opens, closes, counted.trans List.perm_append_comm⟩

theorem extractMessageContent_text {payload : Json} (text : messageText payload = some content) :
    extractMessageContent payload = .ok (Python.strip (stripThinkBlocks content)) := by
  have finds := extractMessageContent_finds payload
  rw [text] at finds
  cases found : extractMessageContent payload with
  | ok shown =>
      rw [found] at finds
      exact congrArg Except.ok (Option.some.inj finds).symm
  | error error =>
      rw [found] at finds
      cases finds.1

/-- The text returned for a reply is the text outside its think blocks where every block is
    closed and no tag is left over; and elsewhere it is not, unless a block that is never
    closed is written in the letters of the tags alone. -/
theorem extractMessageContent_visible {payload : Json} (text : messageText payload = some content) :
    (Settled content → extractMessageContent payload = .ok (Python.strip (visible content))) ∧
    (extractMessageContent payload = .ok (Python.strip (visible content)) →
      Settled content ∨ ¬ AsciiTags content ∨ (cutOff content ≠ [] ∧ TagLetters (cutOff content))) := by
  rw [extractMessageContent_text text]
  constructor
  · intro settled
    rw [stripThinkBlocks_settled settled]
  · intro same
    by_cases ascii : AsciiTags content
    · rcases settled_of_strip ascii (Except.ok.inj same) with settled | spelled
      · exact .inl settled
      · exact .inr (.inr spelled)
    · exact .inr (.inl ascii)

end Reply

/-! ## A reply that is cut off -/

/-- A response whose message has this content. -/
def responseWith (content : String) : Json :=
  .obj [("choices", .arr [.obj [("message", .obj [("content", .str content)])]])]

theorem messageText_responseWith (content : String) :
    messageText (responseWith content) = some content.toList := by
  simp [messageText, responseWith, field, firstItem, Dict.get?, Json.str?]

theorem extractMessageContent_visible_demo :
    extractMessageContent (responseWith "<Think>a</THINK> b") =
      .ok (Python.strip (visible "<Think>a</THINK> b".toList)) :=
  (extractMessageContent_visible (messageText_responseWith _)).1
    ⟨by decide +kernel, by decide +kernel, by decide +kernel, by decide +kernel⟩

/-- The reasoning of a reply that ends inside a think block is shown. -/
theorem unclosed_block_shown :
    visible "<think>abc".toList = [] ∧
      extractMessageContent (responseWith "<think>abc") = .ok "abc".toList := by
  refine ⟨by decide +kernel, ?_⟩
  rw [extractMessageContent_text (messageText_responseWith _)]
  exact congrArg Except.ok (by decide +kernel)

end LanguageAgent.Gateway
