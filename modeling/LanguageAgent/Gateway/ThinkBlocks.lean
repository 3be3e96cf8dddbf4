import LanguageAgent.Text.Blocks
import LanguageAgent.Python.Text

/-! # Think blocks of a whole reply

`_THINK_BLOCK_PATTERN` and `_strip_think_blocks` of the llama-server gateway.
-/

namespace LanguageAgent.Gateway

open Text

def thinkOpenTag : List Char := "<think>".toList

def thinkCloseTag : List Char := "</think>".toList

/-- The characters `re.IGNORECASE` takes for a letter of the tags: both cases, the
    dotless and the dotted `i`, and the Kelvin sign. -/
def ignoreCase (letter c : Char) : Bool :=
  c.toLower == letter || (letter == 'i' && (c == '\u0130' || c == '\u0131')) ||
    (letter == 'k' && c == '\u212A')

/-- A tag letter by letter. -/
def literally (tag : List Char) : Pattern Char := tag.map fun letter c => c == letter

/-- A tag in any case of its ASCII letters. -/
def inAnyCase (tag : List Char) : Pattern Char := tag.map fun letter c => c.toLower == letter

/-- A tag as `re.IGNORECASE` reads it. -/
def ignoringCase (tag : List Char) : Pattern Char := tag.map ignoreCase

/-- `_THINK_BLOCK_PATTERN.sub("", content)` with `<think>.*?</think>`: an opening tag
    matches where any closing tag follows, and the match ends with the first of these. -/
def subThinkBlocks : List Char → List Char
  | [] => []
  | c :: rest =>
      if (ignoringCase thinkOpenTag).begins (c :: rest) then
        match _closed : (ignoringCase thinkCloseTag).cut (rest.drop 6) with
        | some parts => subThinkBlocks parts.after
        | none => c :: subThinkBlocks rest
      else c :: subThinkBlocks rest
termination_by text => text.length
decreasing_by
  · have shorter := Pattern.cut_shorter _closed
    rw [List.length_drop] at shorter
    rw [List.length_cons]
    omega
  · exact Nat.lt_succ_self _
  · exact Nat.lt_succ_self _

/-- `text.replace(tag, "")` -/
def removeAll (tag : List Char) : List Char → List Char
  | [] => []
  | c :: rest =>
      if (literally tag).begins (c :: rest) then removeAll tag (rest.drop (tag.length - 1))
      else c :: removeAll tag rest
termination_by text => text.length
decreasing_by
  · rw [List.length_drop, List.length_cons]
    omega
  · exact Nat.lt_succ_self _

/-- `_strip_think_blocks` -/
def stripThinkBlocks (content : List Char) : List Char :=
  removeAll thinkCloseTag (removeAll thinkOpenTag (subThinkBlocks content))

/-! ## The regular expression and the blocks -/

section Regex

variable {text : List Char} {c : Char} {parts : Cut Char}

private theorem sub_here (begun : (ignoringCase thinkOpenTag).begins (c :: text) = true)
    (closed : (ignoringCase thinkCloseTag).cut (text.drop 6) = some parts) :
    subThinkBlocks (c :: text) = subThinkBlocks parts.after := by
  rw [subThinkBlocks, if_pos begun]
  split
  · rename_i again
    cases closed.symm.trans again
    rfl
  · rename_i unclosed
    cases closed.symm.trans unclosed

private theorem sub_later
    (nothing : (ignoringCase thinkOpenTag).begins (c :: text) = true →
      (ignoringCase thinkCloseTag).cut (text.drop 6) = none) :
    subThinkBlocks (c :: text) = c :: subThinkBlocks text := by
  rw [subThinkBlocks]
  split
  · rename_i begun
    split
    · rename_i closed
      cases (nothing begun).symm.trans closed
    · rfl
  · rfl

/-- Where no opening tag can be closed, nothing is removed. -/
private theorem sub_unclosed (unclosed : (ignoringCase thinkCloseTag).cut (text.drop 6) = none) :
    subThinkBlocks text = text := by
  induction text with
  | nil => rw [subThinkBlocks]
  | cons c rest ih =>
      have later : (ignoringCase thinkCloseTag).cut (rest.drop 6) = none := by
        apply Pattern.cut_none_suffix unclosed
        have shorter := List.drop_suffix 1 ((c :: rest).drop 6)
        rwa [List.drop_drop] at shorter
      rw [sub_later fun _ => later, ih later]

private theorem open_length : (ignoringCase thinkOpenTag).length - 1 = 6 := by
  rw [ignoringCase, List.length_map]
  decide +kernel

private theorem sub_clear (clear : (ignoringCase thinkOpenTag).cut text = none) :
    subThinkBlocks text = text := by
  induction text with
  | nil => rw [subThinkBlocks]
  | cons c rest ih =>
      cases begun : (ignoringCase thinkOpenTag).begins (c :: rest) with
      | true => cases (Pattern.cut_here begun).symm.trans clear
      | false =>
          rw [Pattern.cut_later begun, Option.map_eq_none_iff] at clear
          rw [sub_later fun here => absurd (begun.symm.trans here) Bool.false_ne_true, ih clear]

/-- What stands before the first opening tag stays. -/
private theorem sub_before (found : (ignoringCase thinkOpenTag).cut text = some parts) :
    ∃ c rest, parts.hit ++ parts.after = c :: rest ∧ parts.after = rest.drop 6 ∧
      (ignoringCase thinkOpenTag).begins (c :: rest) = true ∧
      subThinkBlocks text = parts.before ++ subThinkBlocks (c :: rest) := by
  induction text generalizing parts with
  | nil => cases found
  | cons c rest ih =>
      cases begun : (ignoringCase thinkOpenTag).begins (c :: rest) with
      | true =>
          cases (Pattern.cut_here begun).symm.trans found
          refine ⟨c, rest, ?_, ?_, begun, rfl⟩
          · exact congrArg (c :: ·) (List.take_append_drop _ rest)
          · rw [open_length]
      | false =>
          obtain ⟨inner, deeper, rfl⟩ :=
            Option.map_eq_some_iff.mp ((Pattern.cut_later begun).symm.trans found)
          obtain ⟨c', rest', whole, after, begun', same⟩ := ih deeper
          refine ⟨c', rest', whole, after, begun', ?_⟩
          rw [sub_later fun here => absurd (begun.symm.trans here) Bool.false_ne_true, same]
          rfl

/-- The regular expression drops the blocks that are closed, and only these. -/
theorem subThinkBlocks_eq (text : List Char) :
    subThinkBlocks text =
      ((ignoringCase thinkOpenTag).layout (ignoringCase thinkCloseTag) text).dropClosed := by
  induction text using
    Pattern.layout_induction (ignoringCase thinkOpenTag) (ignoringCase thinkCloseTag) with
  | clear text found => rw [Pattern.layout_clear found, sub_clear found, Layout.dropClosed]
  | unclosed text parts found closed =>
      obtain ⟨c, rest, whole, after, begun, same⟩ := sub_before found
      rw [after] at closed
      rw [Pattern.layout_unclosed found (after ▸ closed), same, sub_later fun _ => closed,
        sub_unclosed closed, Layout.dropClosed, whole]
  | block text parts inner found closed ih =>
      obtain ⟨c, rest, whole, after, begun, same⟩ := sub_before found
      rw [Pattern.layout_block found closed, same, sub_here begun (after ▸ closed), ih,
        Layout.dropClosed]

end Regex

end LanguageAgent.Gateway
