import LanguageAgent.Text.Pattern

/-! # Blocks between two patterns

A block runs from an opening pattern to the next closing one, or to the end of the
text. What lies outside the blocks is visible.
-/

namespace Text

/-- A text as its visible parts and its blocks. -/
inductive Layout (α : Type) where
  | clear (text : List α)
  /-- The last block is never closed. -/
  | unclosed (before opening interior : List α)
  /-- A block, with both its ends. -/
  | block (before hidden : List α) (rest : Layout α)

namespace Layout

variable {α : Type}

def text : Layout α → List α
  | clear text => text
  | unclosed before opening interior => before ++ (opening ++ interior)
  | block before hidden rest => before ++ (hidden ++ rest.text)

/-- What lies outside the blocks. -/
def visible : Layout α → List α
  | clear text => text
  | unclosed before _ _ => before
  | block before _ rest => before ++ rest.visible

/-- The block that is never closed, from its opening on. -/
def cutOff : Layout α → List α
  | clear _ => []
  | unclosed _ opening interior => opening ++ interior
  | block _ _ rest => rest.cutOff

/-- The text without those of its blocks that are closed. -/
def dropClosed : Layout α → List α
  | clear text => text
  | unclosed before opening interior => before ++ (opening ++ interior)
  | block before _ rest => before ++ rest.dropClosed

theorem dropClosed_eq (layout : Layout α) : layout.dropClosed = layout.visible ++ layout.cutOff := by
  induction layout with
  | clear text => exact (List.append_nil text).symm
  | unclosed before opening interior => rfl
  | block before hidden rest ih => rw [dropClosed, ih, visible, cutOff, List.append_assoc]

end Layout

namespace Pattern

variable {α : Type}

/-- The blocks of a text. -/
def layout (opening closing : Pattern α) (text : List α) : Layout α :=
  match _found : opening.cut text with
  | none => .clear text
  | some ⟨before, tag, inside⟩ =>
      match _closed : closing.cut inside with
      | none => .unclosed before tag inside
      | some ⟨interior, last, after⟩ => .block before (tag ++ (interior ++ last)) (layout opening closing after)
termination_by text.length
decreasing_by exact Nat.lt_trans (cut_shorter _closed) (cut_shorter _found)

variable {opening closing : Pattern α} {text : List α} {parts inner : Cut α}

theorem layout_clear (clear : opening.cut text = none) : opening.layout closing text = .clear text := by
  rw [layout]
  split
  · rfl
  · rename_i found
    cases clear.symm.trans found

theorem layout_unclosed (found : opening.cut text = some parts)
    (unclosed : closing.cut parts.after = none) :
    opening.layout closing text = .unclosed parts.before parts.hit parts.after := by
  rw [layout]
  split
  · rename_i clear
    cases clear.symm.trans found
  · rename_i again
    cases found.symm.trans again
    split
    · rfl
    · rename_i closed
      cases unclosed.symm.trans closed

theorem layout_block (found : opening.cut text = some parts)
    (closed : closing.cut parts.after = some inner) :
    opening.layout closing text = .block parts.before (parts.hit ++ (inner.before ++ inner.hit))
      (opening.layout closing inner.after) := by
  rw [layout]
  split
  · rename_i clear
    cases clear.symm.trans found
  · rename_i again
    cases found.symm.trans again
    split
    · rename_i unclosed
      cases unclosed.symm.trans closed
    · rename_i again
      cases closed.symm.trans again
      rfl

/-- Induction along the blocks of a text. -/
theorem layout_induction (opening closing : Pattern α) {motive : List α → Prop}
    (clear : ∀ text, opening.cut text = none → motive text)
    (unclosed : ∀ text parts, opening.cut text = some parts → closing.cut parts.after = none → motive text)
    (block : ∀ text parts inner, opening.cut text = some parts → closing.cut parts.after = some inner →
      motive inner.after → motive text) (text : List α) : motive text := by
  fun_induction layout opening closing text with
  | case1 text found => exact clear text found
  | case2 text before tag inside found closed => exact unclosed text _ found closed
  | case3 text before tag inside found interior last after closed ih => exact block text _ _ found closed ih

/-- Patterns that begin the same suffixes of a text lay it out alike. -/
theorem layout_congr {opening' closing' : Pattern α} (size : opening.length = opening'.length)
    (size' : closing.length = closing'.length)
    (agree : ∀ suffix, suffix <:+ text → opening.begins suffix = opening'.begins suffix ∧
      closing.begins suffix = closing'.begins suffix) :
    opening.layout closing text = opening'.layout closing' text := by
  induction text using layout_induction opening closing with
  | clear text found =>
      have same := cut_congr size fun suffix isSuffix => (agree suffix isSuffix).1
      rw [layout_clear found, layout_clear (same ▸ found)]
  | unclosed text parts found closed =>
      have same := cut_congr size fun suffix isSuffix => (agree suffix isSuffix).1
      have same' := cut_congr size' fun suffix isSuffix =>
        (agree suffix (isSuffix.trans (cut_suffix found))).2
      rw [layout_unclosed found closed, layout_unclosed (same ▸ found) (same' ▸ closed)]
  | block text parts inner found closed ih =>
      have same := cut_congr size fun suffix isSuffix => (agree suffix isSuffix).1
      have same' := cut_congr size' fun suffix isSuffix =>
        (agree suffix (isSuffix.trans (cut_suffix found))).2
      have later := ih fun suffix isSuffix =>
        agree suffix (isSuffix.trans ((cut_suffix closed).trans (cut_suffix found)))
      have alike := layout_block (same ▸ found) (same' ▸ closed)
      rw [layout_block found closed, later, alike]

end Pattern

end Text
