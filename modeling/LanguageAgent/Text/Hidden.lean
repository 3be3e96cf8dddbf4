import LanguageAgent.Text.Scan

/-! # Texts that differ inside their blocks

How far such texts have been read on both sides, piece by piece, cannot be told apart from
what lies outside the blocks.
-/

namespace Text

variable {α : Type}

namespace Pattern

variable {P : Pattern α} {text : List α} {parts : Cut α} {n : Nat}

/-- A part of the text with the whole match. -/
theorem cut_take (found : P.cut text = some parts) (whole : (parts.before ++ parts.hit).length ≤ n) :
    P.cut (text.take n) = some { parts with after := parts.after.take (n - (parts.before ++ parts.hit).length) } := by
  have taken : text.take n =
      (parts.before ++ parts.hit) ++ parts.after.take (n - (parts.before ++ parts.hit).length) := by
    conv => lhs; rw [cut_text found, ← List.append_assoc, List.take_append]
    rw [List.take_of_length_le whole]
  rw [taken, cut_append (cut_exact found), List.nil_append]

/-- A part of the text that ends before the match does. -/
theorem cut_take_short (found : P.cut text = some parts) (short : n < (parts.before ++ parts.hit).length) :
    P.cut (text.take n) = none := by
  cases early : P.cut (text.take n) with
  | none => rfl
  | some parts' =>
      have again : P.cut (text.take n ++ text.drop n) = _ := cut_append early
      rw [List.take_append_drop, found] at again
      obtain rfl := Option.some.inj again
      have size := congrArg List.length (cut_text early)
      simp only [List.length_append, List.length_take] at size short
      omega

/-- A part of the text that ends before anything follows the match. -/
theorem take_cut (found : P.cut text = some parts) (short : n ≤ (parts.before ++ parts.hit).length) :
    text.take n = (parts.before ++ parts.hit).take n := by
  conv => lhs; rw [cut_text found, ← List.append_assoc]
  exact List.take_append_of_le_length short

theorem cut_take_none (clear : P.cut text = none) : P.cut (text.take n) = none := by
  rw [← List.take_append_drop n text] at clear
  exact cut_prefix clear

end Pattern

namespace Tags

variable {tags : Tags α}

/-- The blocks of the texts are in the same places, and the texts are the same outside of
    what is between the tags of a block. -/
inductive Alike (tags : Tags α) : List α → List α → Prop where
  | clear {text : List α} : tags.opening.cut text = none → Alike tags text text
  | unclosed {text text' before opening interior interior' : List α} :
      tags.opening.cut text = some ⟨before, opening, interior⟩ →
      tags.opening.cut text' = some ⟨before, opening, interior'⟩ →
      tags.closing.cut interior = none → tags.closing.cut interior' = none →
      interior.length = interior'.length → Alike tags text text'
  | block {text text' before opening inside inside' interior interior' closing after after' : List α} :
      tags.opening.cut text = some ⟨before, opening, inside⟩ →
      tags.opening.cut text' = some ⟨before, opening, inside'⟩ →
      tags.closing.cut inside = some ⟨interior, closing, after⟩ →
      tags.closing.cut inside' = some ⟨interior', closing, after'⟩ →
      interior.length = interior'.length → Alike tags after after' → Alike tags text text'

/-- Two scans that can only differ in what is inside a block. -/
structure SameRead (s s' : Scanned α) : Prop where
  inside : s.inside = s'.inside
  shown : s.shown = s'.shown
  length : s.rest.length = s'.rest.length
  rest : s.inside = false → s.rest = s'.rest

theorem SameRead.refl (s : Scanned α) : SameRead s s := ⟨rfl, rfl, rfl, fun _ => rfl⟩

theorem SameRead.emitted {s s' : Scanned α} (same : SameRead s s') : tags.emitted s = tags.emitted s' := by
  obtain ⟨inside, shown, -, rest⟩ := same
  unfold Tags.emitted
  rw [← inside, shown]
  cases outside : s.inside with
  | true => rfl
  | false => rw [rest outside]

/-- What is kept outside of blocks. -/
theorem SameRead.kept {s s' : Scanned α} (same : SameRead s s') :
    (if s.inside then [] else tags.held s) = if s'.inside then [] else tags.held s' := by
  unfold Tags.held
  rw [← same.inside]
  cases outside : s.inside with
  | true => rfl
  | false => rw [same.rest outside]

/-- A tag on both sides, with the same before it where that can be seen. -/
theorem SameRead.found {inside : Bool} {text text' before before' hit hit' after after' : List α}
    (found : (tags.next inside).cut text = some ⟨before, hit, after⟩)
    (found' : (tags.next inside).cut text' = some ⟨before', hit', after'⟩) (seen : inside = false → before = before')
    (same : SameRead (tags.scan (!inside) after) (tags.scan (!inside) after')) :
    SameRead (tags.scan inside text) (tags.scan inside text') := by
  rw [scan_found found, scan_found found']
  refine ⟨same.inside, ?_, same.length, same.rest⟩
  dsimp only
  rw [same.shown]
  cases inside with
  | true => rfl
  | false => rw [seen rfl]

/-- An interior of which the end has not been read. -/
theorem SameRead.interior {text text' : List α} (clear : tags.closing.cut text = none) (clear' : tags.closing.cut text' = none)
    (size : text.length = text'.length) : SameRead (tags.scan true text) (tags.scan true text') := by
  have here : tags.scan true text = _ := scan_clear clear
  have here' : tags.scan true text' = _ := scan_clear clear'
  rw [here, here']
  exact ⟨rfl, rfl, size, fun outside => by cases outside⟩

/-- Alike texts are read alike. -/
theorem Alike.sameRead {text text' : List α} (alike : tags.Alike text text') (n : Nat) :
    SameRead (tags.scan false (text.take n)) (tags.scan false (text'.take n)) := by
  induction alike generalizing n with
  | clear none => exact .refl _
  | @unclosed text text' before opening interior interior' found found' none none' size =>
      by_cases short : n ≤ (before ++ opening).length
      · rw [Pattern.take_cut found short, Pattern.take_cut found' short]
        exact .refl _
      · have opened : (tags.next false).cut (text.take n) = _ := Pattern.cut_take found (by dsimp only; omega)
        have opened' : (tags.next false).cut (text'.take n) = _ := Pattern.cut_take found' (by dsimp only; omega)
        refine .found opened opened' (fun _ => rfl) ?_
        refine .interior (Pattern.cut_take_none none) (Pattern.cut_take_none none') ?_
        rw [List.length_take, List.length_take, size]
  | @block text text' before opening inside inside' interior interior' closing after after' found found' closed closed'
      size alike ih =>
      by_cases short : n ≤ (before ++ opening).length
      · rw [Pattern.take_cut found short, Pattern.take_cut found' short]
        exact .refl _
      · have opened : (tags.next false).cut (text.take n) = _ := Pattern.cut_take found (by dsimp only; omega)
        have opened' : (tags.next false).cut (text'.take n) = _ := Pattern.cut_take found' (by dsimp only; omega)
        refine .found opened opened' (fun _ => rfl) ?_
        obtain ⟨m, left⟩ : ∃ m, m = n - (before ++ opening).length := ⟨_, rfl⟩
        rw [← left]
        have sizes : (interior ++ closing).length = (interior' ++ closing).length := by
          rw [List.length_append, List.length_append, size]
        by_cases within : m < (interior ++ closing).length
        · refine .interior (Pattern.cut_take_short closed within)
            (Pattern.cut_take_short closed' (Nat.lt_of_lt_of_eq within sizes)) ?_
          have whole := congrArg List.length (Pattern.cut_text closed)
          have whole' := congrArg List.length (Pattern.cut_text closed')
          simp only [List.length_append] at whole whole' within
          dsimp only
          rw [List.length_take, List.length_take]
          omega
        · have ended : (tags.next true).cut (inside.take m) = _ := Pattern.cut_take closed (by dsimp only; omega)
          have ended' : (tags.next true).cut (inside'.take m) = _ := Pattern.cut_take closed' (by dsimp only; omega)
          refine .found ended ended' (fun outside => by cases outside) ?_
          rw [← sizes]
          exact ih _

end Tags

end Text
