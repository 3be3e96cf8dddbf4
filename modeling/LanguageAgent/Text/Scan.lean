import LanguageAgent.Text.Blocks
import LanguageAgent.Text.Overlap

/-! # Reading blocks piece by piece

A scan reads a text with blocks from outside or inside a block on, and can be continued
from the overlap it ends with.
-/

namespace Text

variable {α : Type}

/-- What has been read of a text. -/
structure Scanned (α : Type) where
  /-- The text up to the end of its last tag. -/
  passed : List α
  /-- What lies outside the blocks of it. -/
  shown : List α
  inside : Bool
  rest : List α

/-- The tag that opens a block outside of one, and the tag that closes it inside. -/
structure Tags (α : Type) where
  opening : Pattern α
  closing : Pattern α

namespace Tags

def next (tags : Tags α) (inside : Bool) : Pattern α := if inside then tags.closing else tags.opening

def scan (tags : Tags α) (inside : Bool) (text : List α) : Scanned α :=
  match _found : (tags.next inside).cut text with
  | none => ⟨[], [], inside, text⟩
  | some ⟨before, hit, after⟩ =>
      let later := tags.scan (!inside) after
      { later with
        passed := before ++ (hit ++ later.passed)
        shown := (if inside then [] else before) ++ later.shown }
termination_by text.length
decreasing_by exact Pattern.cut_shorter _found

/-- What may be the beginning of the next tag. -/
def held (tags : Tags α) (s : Scanned α) : List α := (tags.next s.inside).overlap s.rest

/-- What is certain to be outside of blocks. -/
def emitted (tags : Tags α) (s : Scanned α) : List α :=
  s.shown ++ if s.inside then [] else (tags.next s.inside).settled s.rest

/-- The scan goes on with what it has kept. -/
def resume (tags : Tags α) (s : Scanned α) (more : List α) : Scanned α := tags.scan s.inside (tags.held s ++ more)

/-- A scan, and one that goes on from it. -/
def followed (tags : Tags α) (s later : Scanned α) : Scanned α :=
  let between := (tags.next s.inside).settled s.rest
  match later.passed with
  | [] => { s with rest := between ++ later.rest }
  | passed =>
      { later with
        passed := s.passed ++ (between ++ passed)
        shown := s.shown ++ ((if s.inside then [] else between) ++ later.shown) }

variable {tags : Tags α} {inside : Bool} {text more : List α} {parts : Cut α}

theorem scan_clear (clear : (tags.next inside).cut text = none) : tags.scan inside text = ⟨[], [], inside, text⟩ := by
  rw [scan]
  split
  · rfl
  · rename_i found
    cases clear.symm.trans found

theorem scan_found (found : (tags.next inside).cut text = some parts) :
    tags.scan inside text =
      { tags.scan (!inside) parts.after with
        passed := parts.before ++ (parts.hit ++ (tags.scan (!inside) parts.after).passed)
        shown := (if inside then [] else parts.before) ++ (tags.scan (!inside) parts.after).shown } := by
  rw [scan]
  split
  · rename_i clear
    cases clear.symm.trans found
  · rename_i again
    cases found.symm.trans again
    rfl

/-- Induction along the tags of a text. -/
theorem scan_induction (tags : Tags α) {motive : Bool → List α → Prop}
    (clear : ∀ inside text, (tags.next inside).cut text = none → motive inside text)
    (found : ∀ inside text parts, (tags.next inside).cut text = some parts → motive (!inside) parts.after →
      motive inside text) (inside : Bool) (text : List α) : motive inside text := by
  fun_induction scan tags inside text with
  | case1 inside text none => exact clear inside text none
  | case2 inside text before hit after some later ih => exact found inside text _ some ih

/-- A tag that is found has been passed. -/
theorem passed_nil (none : (tags.scan inside text).passed = []) : (tags.next inside).cut text = .none := by
  cases found : (tags.next inside).cut text with
  | none => rfl
  | some parts =>
      rw [scan_found found] at none
      have hit := Pattern.cut_hit found
      simp_all

theorem passed_found (found : (tags.next inside).cut text = some parts) : (tags.scan inside text).passed ≠ [] := by
  rw [scan_found found]
  have hit := Pattern.cut_hit found
  simp [hit]

variable {s later : Scanned α}

theorem followed_rest (none : later.passed = []) :
    tags.followed s later = { s with rest := (tags.next s.inside).settled s.rest ++ later.rest } := by
  rw [followed, none]

theorem followed_passed (some : later.passed ≠ []) :
    tags.followed s later =
      { later with
        passed := s.passed ++ ((tags.next s.inside).settled s.rest ++ later.passed)
        shown := s.shown ++ ((if s.inside then [] else (tags.next s.inside).settled s.rest) ++ later.shown) } := by
  unfold followed
  split
  · rename_i none
    exact absurd none some
  · rfl

/-- A text is scanned piece by piece. -/
theorem scan_append :
    tags.scan inside (text ++ more) =
      tags.followed (tags.scan inside text) (tags.resume (tags.scan inside text) more) := by
  induction inside, text using tags.scan_induction with
  | clear inside text none =>
      have longer : (tags.next inside).cut (text ++ more) = _ := Pattern.cut_overlap none
      rw [scan_clear none]
      simp only [resume, held]
      cases later : (tags.next inside).cut ((tags.next inside).overlap text ++ more) with
      | none =>
          rw [later] at longer
          rw [scan_clear longer, scan_clear later, followed_rest rfl, Pattern.settled_overlap_append]
      | some parts =>
          rw [later] at longer
          rw [followed_passed (passed_found later), scan_found longer, scan_found later]
          cases inside <;> simp
  | found inside text parts some ih =>
      have longer : (tags.next inside).cut (text ++ more) = _ := Pattern.cut_append some
      rw [scan_found longer, scan_found some]
      dsimp only
      rw [ih]
      have same : tags.resume { tags.scan (!inside) parts.after with
          passed := parts.before ++ (parts.hit ++ (tags.scan (!inside) parts.after).passed)
          shown := (if inside then [] else parts.before) ++ (tags.scan (!inside) parts.after).shown } more =
        tags.resume (tags.scan (!inside) parts.after) more := rfl
      rw [same]
      by_cases none : (tags.resume (tags.scan (!inside) parts.after) more).passed = []
      · rw [followed_rest none, followed_rest none]
      · rw [followed_passed none, followed_passed none]
        simp

/-- Without another tag the scan stays where it is. -/
theorem resume_quiet (none : (tags.resume s more).passed = []) :
    tags.resume s more = ⟨[], [], s.inside, tags.held s ++ more⟩ :=
  scan_clear (passed_nil none)

theorem resume_inside : (tags.scan inside (text ++ more)).inside = (tags.resume (tags.scan inside text) more).inside := by
  rw [scan_append]
  by_cases none : (tags.resume (tags.scan inside text) more).passed = []
  · rw [followed_rest none, resume_quiet none]
  · rw [followed_passed none]

theorem resume_held : tags.held (tags.scan inside (text ++ more)) = tags.held (tags.resume (tags.scan inside text) more) := by
  rw [scan_append]
  by_cases none : (tags.resume (tags.scan inside text) more).passed = []
  · rw [followed_rest none, resume_quiet none]
    simp only [held, Pattern.settled_overlap_append]
    exact Pattern.overlap_append.1
  · rw [followed_passed none]
    rfl

/-- What is certain to be outside is only added to. -/
theorem resume_emitted :
    tags.emitted (tags.scan inside (text ++ more)) =
      tags.emitted (tags.scan inside text) ++ tags.emitted (tags.resume (tags.scan inside text) more) := by
  rw [scan_append]
  by_cases none : (tags.resume (tags.scan inside text) more).passed = []
  · rw [followed_rest none, resume_quiet none]
    simp only [emitted, held, Pattern.settled_overlap_append]
    rw [Pattern.overlap_append.2]
    cases (tags.scan inside text).inside <;> simp
  · rw [followed_passed none]
    simp only [emitted]
    cases (tags.scan inside text).inside <;> simp

/-! ## The blocks of a text -/

/-- What lies outside the blocks is what has been emitted and what is still kept. -/
theorem visible_eq :
    (tags.opening.layout tags.closing text).visible =
      tags.emitted (tags.scan false text) ++
        if (tags.scan false text).inside then [] else tags.held (tags.scan false text) := by
  have whole (s : Scanned α) : tags.emitted s ++ (if s.inside then [] else tags.held s) =
      s.shown ++ if s.inside then [] else s.rest := by
    cases inside : s.inside <;> simp [emitted, held, inside]
  rw [whole]
  induction text using Pattern.layout_induction tags.opening tags.closing with
  | clear text none =>
      have here : tags.scan false text = _ := scan_clear none
      rw [Pattern.layout_clear none, here]
      rfl
  | unclosed text parts found none =>
      have here : tags.scan false text = _ := scan_found found
      have later : tags.scan true parts.after = _ := scan_clear none
      rw [Pattern.layout_unclosed found none, here]
      simp [later, Layout.visible]
  | block text parts inner found closed ih =>
      have here : tags.scan false text = _ := scan_found found
      have later : tags.scan true parts.after = _ := scan_found closed
      rw [Pattern.layout_block found closed, here]
      simp [later, Layout.visible, ih]

end Tags

end Text
