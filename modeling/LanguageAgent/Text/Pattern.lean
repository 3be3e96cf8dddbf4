import Mathlib.Data.List.Infix
import Mathlib.Data.List.Forall2

/-! # Patterns in a text

A pattern is a list of tests, one for each position it covers. A text is any list.
-/

namespace Text

abbrev Pattern (α : Type) := List (α → Bool)

/-- A text cut at a match. -/
structure Cut (α : Type) where
  before : List α
  hit : List α
  after : List α

namespace Pattern

variable {α : Type}

/-- The pattern matches at the start of the text. -/
def begins : Pattern α → List α → Bool
  | [], _ => true
  | _ :: _, [] => false
  | test :: tests, c :: rest => test c && begins tests rest

/-- The leftmost match of a pattern that is not empty. -/
def cut (P : Pattern α) : List α → Option (Cut α)
  | [] => none
  | c :: rest =>
      if P.begins (c :: rest) then
        some ⟨[], c :: rest.take (P.length - 1), rest.drop (P.length - 1)⟩
      else (P.cut rest).map fun parts => { parts with before := c :: parts.before }

variable {P Q : Pattern α} {text : List α} {parts : Cut α} {c : α}

@[simp] theorem begins_nil : begins ([] : Pattern α) text = true := by cases text <;> rfl

@[simp] theorem begins_cons {test : α → Bool} :
    begins (test :: P) (c :: text) = (test c && begins P text) := rfl

theorem cut_here (begun : P.begins (c :: text) = true) :
    P.cut (c :: text) = some ⟨[], c :: text.take (P.length - 1), text.drop (P.length - 1)⟩ :=
  if_pos begun

theorem cut_later (clear : P.begins (c :: text) = false) :
    P.cut (c :: text) = (P.cut text).map fun parts => { parts with before := c :: parts.before } :=
  if_neg (by rw [clear]; exact Bool.false_ne_true)

/-- The three parts make up the text. -/
theorem cut_text (found : P.cut text = some parts) :
    text = parts.before ++ (parts.hit ++ parts.after) := by
  induction text generalizing parts with
  | nil => cases found
  | cons c rest ih =>
      cases begun : P.begins (c :: rest) with
      | true =>
          cases (cut_here begun).symm.trans found
          exact congrArg (c :: ·) (List.take_append_drop _ rest).symm
      | false =>
          obtain ⟨inner, deeper, rfl⟩ := Option.map_eq_some_iff.mp ((cut_later begun).symm.trans found)
          exact congrArg (c :: ·) (ih deeper)

theorem cut_hit (found : P.cut text = some parts) : parts.hit ≠ [] := by
  induction text generalizing parts with
  | nil => cases found
  | cons c rest ih =>
      cases begun : P.begins (c :: rest) with
      | true =>
          cases (cut_here begun).symm.trans found
          exact List.cons_ne_nil _ _
      | false =>
          obtain ⟨inner, deeper, rfl⟩ := Option.map_eq_some_iff.mp ((cut_later begun).symm.trans found)
          have shown : inner.hit ≠ [] := ih deeper
          exact shown

theorem cut_suffix (found : P.cut text = some parts) : parts.after <:+ text := by
  rw [cut_text found, ← List.append_assoc]
  exact List.suffix_append _ _

/-- The match begins with what is hit. -/
theorem cut_begins (found : P.cut text = some parts) : P.begins (parts.hit ++ parts.after) = true := by
  induction text generalizing parts with
  | nil => cases found
  | cons c rest ih =>
      cases begun : P.begins (c :: rest) with
      | true =>
          cases (cut_here begun).symm.trans found
          rw [List.cons_append, List.take_append_drop]
          exact begun
      | false =>
          obtain ⟨inner, deeper, rfl⟩ := Option.map_eq_some_iff.mp ((cut_later begun).symm.trans found)
          have begins : P.begins (inner.hit ++ inner.after) = true := ih deeper
          exact begins

theorem cut_shorter (found : P.cut text = some parts) : parts.after.length < text.length := by
  have size := congrArg List.length (cut_text found)
  have hit := List.length_pos_iff.mpr (cut_hit found)
  simp only [List.length_append] at size
  omega

/-- A text with a match in one of its suffixes has a match. -/
theorem cut_none_suffix {suffix : List α} (clear : P.cut text = none) (isSuffix : suffix <:+ text) :
    P.cut suffix = none := by
  induction text with
  | nil =>
      obtain rfl := List.suffix_nil.mp isSuffix
      exact clear
  | cons c rest ih =>
      rcases List.suffix_cons_iff.mp isSuffix with rfl | shorter
      · exact clear
      · cases begun : P.begins (c :: rest) with
        | true => cases (cut_here begun).symm.trans clear
        | false =>
            rw [cut_later begun, Option.map_eq_none_iff] at clear
            exact ih clear shorter

/-- Two patterns that begin the same suffixes of a text cut it alike. -/
theorem cut_congr (size : P.length = Q.length)
    (agree : ∀ suffix, suffix <:+ text → P.begins suffix = Q.begins suffix) :
    P.cut text = Q.cut text := by
  induction text with
  | nil => rfl
  | cons c rest ih =>
      simp only [cut]
      rw [agree _ (List.suffix_refl _), size,
        ih fun suffix isSuffix => agree suffix (isSuffix.trans (List.suffix_cons c rest))]

end Pattern

end Text
