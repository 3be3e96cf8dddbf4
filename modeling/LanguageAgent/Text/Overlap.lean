import LanguageAgent.Text.Pattern

/-! # Matches across the end of a text

What has been read of a text may end with the beginning of a match. The overlap is the
part that has to be kept until more is read.
-/

namespace Text.Pattern

variable {α : Type}

/-- All of the text is as the first tests of the pattern say. -/
def meets : Pattern α → List α → Bool
  | _, [] => true
  | [], _ :: _ => false
  | test :: tests, c :: rest => test c && meets tests rest

/-- The longest suffix that may begin a match, shorter than the pattern. -/
def overlap (P : Pattern α) : List α → List α
  | [] => []
  | c :: rest => if rest.length + 1 < P.length ∧ P.meets (c :: rest) = true then c :: rest else P.overlap rest

/-- What stands before the overlap. -/
def settled (P : Pattern α) : List α → List α
  | [] => []
  | c :: rest => if rest.length + 1 < P.length ∧ P.meets (c :: rest) = true then [] else c :: P.settled rest

variable {P : Pattern α} {text more : List α} {parts : Cut α} {c : α}

@[simp] theorem meets_nil : P.meets [] = true := by cases P <;> rfl

@[simp] theorem meets_cons {test : α → Bool} : meets (test :: P) (c :: text) = (test c && P.meets text) := rfl

@[simp] theorem settled_overlap : P.settled text ++ P.overlap text = text := by
  induction text with
  | nil => rfl
  | cons c rest ih =>
      unfold settled overlap
      split_ifs <;> simp [ih]

@[simp] theorem settled_overlap_append : P.settled text ++ (P.overlap text ++ more) = text ++ more := by
  rw [← List.append_assoc, settled_overlap]

/-! ## Where a match begins -/

theorem begins_length (begun : P.begins text = true) : P.length ≤ text.length := by
  induction P generalizing text with
  | nil => exact Nat.zero_le _
  | cons test tests ih =>
      cases text with
      | nil => simp [begins] at begun
      | cons c rest =>
          rw [begins_cons, Bool.and_eq_true] at begun
          have shorter := ih begun.2
          simp only [List.length_cons]
          omega

/-- Whether a match begins is decided by as many characters as the pattern is long. -/
theorem begins_append (long : P.length ≤ text.length) : P.begins (text ++ more) = P.begins text := by
  induction P generalizing text with
  | nil => simp
  | cons test tests ih =>
      cases text with
      | nil => simp at long
      | cons c rest =>
          rw [List.cons_append, begins_cons, begins_cons, ih (by simpa using long)]

theorem begins_more (begun : P.begins text = true) : P.begins (text ++ more) = true := by
  rw [begins_append (begins_length begun), begun]

theorem meets_of_begins (short : text.length ≤ P.length) (begun : P.begins (text ++ more) = true) :
    P.meets text = true := by
  induction P generalizing text with
  | nil =>
      obtain rfl := List.length_eq_zero_iff.mp (Nat.le_zero.mp short)
      rfl
  | cons test tests ih =>
      cases text with
      | nil => rfl
      | cons c rest =>
          rw [List.cons_append, begins_cons, Bool.and_eq_true] at begun
          rw [meets_cons, begun.1, ih (by simpa using short) begun.2]
          rfl

theorem meets_prefix (met : P.meets (text ++ more) = true) : P.meets text = true := by
  induction P generalizing text with
  | nil =>
      cases text with
      | nil => rfl
      | cons c rest => cases met
  | cons test tests ih =>
      cases text with
      | nil => rfl
      | cons c rest =>
          rw [List.cons_append, meets_cons, Bool.and_eq_true] at met
          rw [meets_cons, met.1, ih met.2]
          rfl

/-! ## The overlap of a longer text -/

theorem overlap_cons_whole (whole : text.length + 1 < P.length ∧ P.meets (c :: text) = true) :
    P.overlap (c :: text) = c :: text ∧ P.settled (c :: text) = [] :=
  ⟨if_pos whole, if_pos whole⟩

theorem overlap_cons_later (later : ¬ (text.length + 1 < P.length ∧ P.meets (c :: text) = true)) :
    P.overlap (c :: text) = P.overlap text ∧ P.settled (c :: text) = c :: P.settled text :=
  ⟨if_neg later, if_neg later⟩

theorem overlap_append :
    P.overlap (text ++ more) = P.overlap (P.overlap text ++ more) ∧
      P.settled (text ++ more) = P.settled text ++ P.settled (P.overlap text ++ more) := by
  induction text with
  | nil => exact ⟨rfl, rfl⟩
  | cons c rest ih =>
      by_cases whole : rest.length + 1 < P.length ∧ P.meets (c :: rest) = true
      · rw [(overlap_cons_whole whole).1, (overlap_cons_whole whole).2]
        exact ⟨rfl, rfl⟩
      · have later : ¬ ((rest ++ more).length + 1 < P.length ∧ P.meets (c :: (rest ++ more)) = true) := by
          rintro ⟨short, met⟩
          rw [List.length_append] at short
          exact whole ⟨by omega, meets_prefix met⟩
        rw [(overlap_cons_later whole).1, (overlap_cons_later whole).2, List.cons_append, List.cons_append,
          (overlap_cons_later later).1, (overlap_cons_later later).2]
        exact ⟨ih.1, congrArg (c :: ·) ih.2⟩

/-- What is as long as the pattern is not in the overlap. -/
theorem overlap_drop : P.overlap text = P.overlap (text.drop (text.length - (P.length - 1))) := by
  induction text with
  | nil => simp
  | cons c rest ih =>
      by_cases short : rest.length + 1 < P.length
      · have none : (c :: rest).length - (P.length - 1) = 0 := by
          rw [List.length_cons]
          omega
        rw [none, List.drop_zero]
      · have one : (c :: rest).length - (P.length - 1) = rest.length - (P.length - 1) + 1 := by
          rw [List.length_cons]
          omega
        rw [(overlap_cons_later fun whole => short whole.1).1, one, List.drop_succ_cons]
        exact ih

/-- What stands before the overlap, by its length. -/
theorem settled_eq : P.settled text = text.take (text.length - (P.overlap text).length) := by
  have whole : P.settled text ++ P.overlap text = text := settled_overlap
  have size := congrArg List.length whole
  rw [List.length_append] at size
  have left : text.length - (P.overlap text).length = (P.settled text).length := by omega
  calc
    P.settled text = (P.settled text ++ P.overlap text).take (P.settled text).length := List.take_left.symm
    _ = text.take (text.length - (P.overlap text).length) := by rw [whole, left]

theorem overlap_suffix : P.overlap text <:+ text :=
  ⟨P.settled text, settled_overlap⟩

/-- The overlap may begin a match. -/
theorem overlap_meets (some : 0 < P.length) : (P.overlap text).length < P.length ∧ P.meets (P.overlap text) = true := by
  induction text with
  | nil => exact ⟨some, meets_nil⟩
  | cons c rest ih =>
      by_cases whole : rest.length + 1 < P.length ∧ P.meets (c :: rest) = true
      · rw [(overlap_cons_whole whole).1]
        exact whole
      · rw [(overlap_cons_later whole).1]
        exact ih

/-- No longer suffix may begin a match. -/
theorem overlap_longest {suffix : List α} (isSuffix : suffix <:+ text) (short : suffix.length < P.length)
    (met : P.meets suffix = true) : suffix.length ≤ (P.overlap text).length := by
  induction text with
  | nil =>
      obtain rfl := List.suffix_nil.mp isSuffix
      exact Nat.zero_le _
  | cons c rest ih =>
      by_cases whole : rest.length + 1 < P.length ∧ P.meets (c :: rest) = true
      · rw [(overlap_cons_whole whole).1]
        exact isSuffix.length_le
      · rw [(overlap_cons_later whole).1]
        rcases List.suffix_cons_iff.mp isSuffix with rfl | shorter
        · exact absurd ⟨short, met⟩ whole
        · exact ih shorter

/-! ## The first match of a longer text -/

theorem cut_length (found : P.cut text = some parts) : P.length ≤ text.length := by
  induction text generalizing parts with
  | nil => cases found
  | cons c rest ih =>
      cases begun : P.begins (c :: rest) with
      | true => exact begins_length begun
      | false =>
          obtain ⟨inner, deeper, -⟩ := Option.map_eq_some_iff.mp ((cut_later begun).symm.trans found)
          exact Nat.le_succ_of_le (ih deeper)

/-- A match is as long as the pattern. -/
theorem cut_hit_length (found : P.cut text = some parts) (some : 0 < P.length) : parts.hit.length = P.length := by
  induction text generalizing parts with
  | nil => cases found
  | cons c rest ih =>
      cases begun : P.begins (c :: rest) with
      | true =>
          have long := begins_length begun
          rw [List.length_cons] at long
          cases (cut_here begun).symm.trans found
          rw [List.length_cons, List.length_take]
          omega
      | false =>
          obtain ⟨inner, deeper, rfl⟩ := Option.map_eq_some_iff.mp ((cut_later begun).symm.trans found)
          have size : inner.hit.length = P.length := ih deeper
          exact size

/-- A match that is found stays the first, whatever follows. -/
theorem cut_append (found : P.cut text = some parts) :
    P.cut (text ++ more) = some { parts with after := parts.after ++ more } := by
  induction text generalizing parts with
  | nil => cases found
  | cons c rest ih =>
      have long := cut_length found
      cases begun : P.begins (c :: rest) with
      | true =>
          rw [List.length_cons] at long
          cases (cut_here begun).symm.trans found
          have begun' : P.begins (c :: (rest ++ more)) = true := begins_more begun
          rw [List.cons_append, cut_here begun', List.take_append_of_le_length (by omega),
            List.drop_append_of_le_length (by omega)]
      | false =>
          obtain ⟨inner, deeper, rfl⟩ := Option.map_eq_some_iff.mp ((cut_later begun).symm.trans found)
          have begun' : P.begins (c :: (rest ++ more)) = false := (begins_append long).trans begun
          rw [List.cons_append, cut_later begun', ih deeper]
          rfl

/-- What follows a match has no part in it. -/
theorem cut_exact (found : P.cut text = some parts) :
    P.cut (parts.before ++ parts.hit) = some { parts with after := [] } := by
  induction text generalizing parts with
  | nil => cases found
  | cons c rest ih =>
      cases begun : P.begins (c :: rest) with
      | true =>
          have long := begins_length begun
          rw [List.length_cons] at long
          cases (cut_here begun).symm.trans found
          have size : (rest.take (P.length - 1)).length = P.length - 1 := by
            rw [List.length_take]
            omega
          have covers : P.length ≤ (c :: rest.take (P.length - 1)).length := by
            rw [List.length_cons, size]
            omega
          have begun' : P.begins (c :: rest.take (P.length - 1)) = true := by
            have whole : c :: rest.take (P.length - 1) ++ rest.drop (P.length - 1) = c :: rest :=
              congrArg (c :: ·) (List.take_append_drop _ rest)
            rw [← begins_append covers, whole, begun]
          rw [List.nil_append, cut_here begun', List.take_take, min_self, List.drop_of_length_le (by omega)]
      | false =>
          obtain ⟨inner, deeper, rfl⟩ := Option.map_eq_some_iff.mp ((cut_later begun).symm.trans found)
          have exact := ih deeper
          have begun' : P.begins (c :: (inner.before ++ inner.hit)) = false := by
            have long := cut_length exact
            rw [← begun, cut_text deeper, ← List.append_assoc, ← List.cons_append]
            exact (begins_append (Nat.le_succ_of_le long)).symm
          rw [List.cons_append, cut_later begun', exact]
          rfl

/-- Where nothing has been found yet, the first match begins in the overlap or later. -/
theorem cut_overlap (clear : P.cut text = none) :
    P.cut (text ++ more) =
      (P.cut (P.overlap text ++ more)).map fun parts => { parts with before := P.settled text ++ parts.before } := by
  induction text with
  | nil => simp [overlap, settled]
  | cons c rest ih =>
      cases begun : P.begins (c :: rest) with
      | true => cases (cut_here begun).symm.trans clear
      | false =>
          by_cases whole : rest.length + 1 < P.length ∧ P.meets (c :: rest) = true
          · rw [(overlap_cons_whole whole).1, (overlap_cons_whole whole).2]
            simp
          · rw [cut_later begun, Option.map_eq_none_iff] at clear
            -- a match that begins here would lie in the text, or its beginning would be kept
            have later : P.begins (c :: (rest ++ more)) = false := by
              by_cases long : P.length ≤ rest.length + 1
              · exact (begins_append (show P.length ≤ (c :: rest).length from long)).trans begun
              · by_contra here
                have here : P.begins ((c :: rest) ++ more) = true := by simpa using here
                have short : (c :: rest).length ≤ P.length := by
                  rw [List.length_cons]
                  omega
                exact whole ⟨by omega, meets_of_begins short here⟩
            rw [(overlap_cons_later whole).1, (overlap_cons_later whole).2, List.cons_append, cut_later later, ih clear]
            simp [Function.comp_def]

theorem cut_prefix (clear : P.cut (text ++ more) = none) : P.cut text = none := by
  cases found : P.cut text with
  | none => rfl
  | some parts =>
      rw [cut_append found] at clear
      cases clear

end Text.Pattern
