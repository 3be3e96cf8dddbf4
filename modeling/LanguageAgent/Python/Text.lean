import Mathlib.Data.List.DropRight

/-! # Python's text operations -/

namespace Python

/-- `str.isspace` of one character. -/
def isSpace (c : Char) : Bool :=
  let code := c.toNat
  (9 ≤ code && code ≤ 13) || (28 ≤ code && code ≤ 32) || code == 0x85 || code == 0xA0 || code == 0x1680 ||
    (0x2000 ≤ code && code ≤ 0x200A) || code == 0x2028 || code == 0x2029 || code == 0x202F ||
    code == 0x205F || code == 0x3000

/-- `str.strip` -/
def strip (text : List Char) : List Char :=
  ((text.dropWhile isSpace).reverse.dropWhile isSpace).reverse

/-- A text without space around it is left as it is. -/
theorem strip_tight {text inner : List Char} {first last : Char} (tight : text = first :: (inner ++ [last]))
    (starts : isSpace first = false) (ends : isSpace last = false) : strip text = text := by
  subst tight
  simp [strip, starts, ends]

theorem strip_space {text : List Char} {c : Char} (space : isSpace c = true) : strip (c :: text) = strip text := by
  simp [strip, space]

/-- A text that is stripped is left as it is. -/
theorem strip_strip (text : List Char) : strip (strip text) = strip text := by
  have starts : (strip text).dropWhile isSpace = strip text := by
    refine List.dropWhile_eq_self_iff.mpr fun some => ?_
    have isPrefix : strip text <+: text.dropWhile isSpace := List.reverse_suffix.mp (by
      rw [strip, List.reverse_reverse]
      exact List.dropWhile_suffix _)
    have whole : 0 < (text.dropWhile isSpace).length := some.trans_le isPrefix.length_le
    have first := List.dropWhile_get_zero_not isSpace text whole
    have same := isPrefix.getElem some
    simpa [same] using first
  have ends : (strip text).reverse.dropWhile isSpace = (strip text).reverse := by
    rw [strip, List.reverse_reverse, List.dropWhile_idempotent]
  conv => lhs; rw [strip]
  rw [starts, ends, List.reverse_reverse]

theorem strip_infix (text : List Char) : strip text <:+: text := by
  have ends : strip text <+: text.dropWhile isSpace := List.reverse_suffix.mp (by
    rw [strip, List.reverse_reverse]
    exact List.dropWhile_suffix _)
  exact ends.isInfix.trans (List.dropWhile_suffix _).isInfix

/-- Neither end of a stripped text is space. -/
theorem dropWhile_of_strip {text : List Char} (tight : strip text = text) :
    text.dropWhile isSpace = text ∧ text.reverse.dropWhile isSpace = text.reverse := by
  have starts : text.dropWhile isSpace = text := by
    refine (List.dropWhile_suffix isSpace).eq_of_length (le_antisymm (List.dropWhile_suffix isSpace).length_le ?_)
    calc text.length = (strip text).length := by rw [tight]
      _ ≤ (text.dropWhile isSpace).length := by
        rw [strip, List.length_reverse]
        exact (List.dropWhile_suffix isSpace).length_le.trans_eq List.length_reverse
  refine ⟨starts, ?_⟩
  rw [strip, starts] at tight
  exact List.reverse_eq_iff.mp tight

theorem dropWhile_keeps {inner : List Char} (starts : inner.dropWhile isSpace = inner) (some_ : inner ≠ [])
    (before after : List Char) :
    ∃ left, (before ++ (inner ++ after)).dropWhile isSpace = left ++ (inner ++ after) := by
  have kept : (inner ++ after).dropWhile isSpace = inner ++ after := by
    rw [List.dropWhile_append, starts, if_neg (by simpa using some_)]
  rw [List.dropWhile_append]
  split
  · exact ⟨[], kept⟩
  · exact ⟨_, rfl⟩

/-- What is stripped stays whole wherever it stands. -/
theorem infix_strip {inner : List Char} (tight : strip inner = inner) (before after : List Char) :
    inner <:+: strip (before ++ (inner ++ after)) := by
  by_cases none : inner = []
  · exact none ▸ List.nil_infix
  · obtain ⟨starts, ends⟩ := dropWhile_of_strip tight
    obtain ⟨left, first⟩ := dropWhile_keeps starts none before after
    obtain ⟨right, last⟩ := dropWhile_keeps ends (by simpa using none) after.reverse left.reverse
    refine ⟨left, right.reverse, ?_⟩
    rw [strip, first, List.reverse_append, List.reverse_append, List.append_assoc after.reverse, last]
    simp

/-- `strip` of a string. -/
def stripText (text : String) : String := String.ofList (strip text.toList)

theorem stripText_stripText (text : String) : stripText (stripText text) = stripText text := by
  simp [stripText, strip_strip]

/-- `str.isascii` -/
def isAscii (text : String) : Bool := text.toList.all fun c => decide (c.toNat < 128)

/-- A character at which `str.splitlines` splits. -/
def isLineBoundary (c : Char) : Bool :=
  let code := c.toNat
  (0x0A ≤ code && code ≤ 0x0D) || (0x1C ≤ code && code ≤ 0x1E) || code == 0x85 || code == 0x2028 || code == 0x2029

/-- The lines after what has been read of the first. -/
def splitlinesFrom (line : List Char) : List Char → List (List Char)
  | [] => if line = [] then [] else [line]
  | '\r' :: '\n' :: rest => line :: splitlinesFrom [] rest
  | c :: rest => if isLineBoundary c then line :: splitlinesFrom [] rest else splitlinesFrom (line ++ [c]) rest

/-- `str.splitlines` -/
def splitlines (text : List Char) : List (List Char) := splitlinesFrom [] text

theorem splitlinesFrom_more {line text rest : List Char} (whole : ∀ c ∈ text, isLineBoundary c = false) :
    splitlinesFrom line (text ++ rest) = splitlinesFrom (line ++ text) rest := by
  induction text generalizing line with
  | nil => rw [List.nil_append, List.append_nil]
  | cons c more ih =>
      have inside := whole c List.mem_cons_self
      rw [List.cons_append, splitlinesFrom, if_neg (by simp [inside]),
        ih fun other member => whole other (List.mem_cons_of_mem _ member), List.append_assoc]
      · rfl
      · rintro tail rfl
        cases inside

/-- A line that is ended by a newline. -/
theorem splitlines_line {line rest : List Char} (whole : ∀ c ∈ line, isLineBoundary c = false) :
    splitlines (line ++ '\n' :: rest) = line :: splitlines rest := by
  rw [splitlines, splitlinesFrom_more whole, splitlinesFrom, if_pos (by decide)]
  · rfl
  · intro tail impossible
    cases impossible

/-- `str.rstrip` -/
def rstrip (text : List Char) : List Char := text.rdropWhile isSpace

/-- Every character that splits lines is space. -/
theorem isSpace_of_isLineBoundary {c : Char} (splits : isLineBoundary c = true) : isSpace c = true := by
  simp only [isLineBoundary, isSpace, Bool.or_eq_true, Bool.and_eq_true, decide_eq_true_eq, beq_iff_eq] at splits ⊢
  omega

theorem rstrip_prefix (text : List Char) : rstrip text <+: text := List.rdropWhile_prefix _ _

/-- Only a text of space is stripped to nothing. -/
theorem rstrip_eq_nil {text : List Char} : rstrip text = [] ↔ strip text = [] := by
  rw [rstrip, List.rdropWhile_eq_nil_iff, strip, List.reverse_eq_nil_iff, List.dropWhile_eq_nil_iff]
  constructor
  · intro space c member
    exact space c ((List.dropWhile_suffix _).subset (List.mem_reverse.mp member))
  · intro space c member
    rw [← List.takeWhile_append_dropWhile (p := isSpace) (l := text)] at member
    rcases List.mem_append.mp member with front | back
    · exact List.mem_takeWhile_imp front
    · exact space c (List.mem_reverse.mpr back)

/-- A newline after a text whose last character does not split lines begins a new one. -/
theorem splitlinesFrom_append {line text rest : List Char} (last : ∀ c ∈ text.getLast?, isLineBoundary c = false)
    (some_ : line ++ text ≠ []) :
    splitlinesFrom line (text ++ '\n' :: rest) = splitlinesFrom line text ++ splitlinesFrom [] rest := by
  induction line, text using splitlinesFrom.induct with
  | case1 => simp at some_
  | case2 line nonempty =>
      rw [List.nil_append, splitlinesFrom, splitlinesFrom, if_neg nonempty, if_pos (by decide)]
      · rfl
      · intro tail impossible
        cases impossible
  | case3 line more ih =>
      cases more with
      | nil => simp [isLineBoundary] at last
      | cons c more =>
          rw [List.cons_append, List.cons_append, splitlinesFrom, splitlinesFrom, ih (by simpa using last) (by simp)]
          rfl
  | case4 line c more single splits ih =>
      cases more with
      | nil => simp [splits] at last
      | cons d more =>
          rw [List.cons_append, splitlinesFrom, splitlinesFrom, if_pos splits, if_pos splits,
            ih (by simpa using last) (by simp)]
          · rfl
          · exact single
          · rintro tail rfl same
            obtain rfl := (List.cons.inj same).1
            exact single more rfl rfl
  | case5 line c more single whole ih =>
      have kept : ∀ d ∈ more.getLast?, isLineBoundary d = false := by
        intro d found
        cases more with
        | nil => cases found
        | cons e more => exact last d (by simpa using found)
      rw [List.cons_append, splitlinesFrom, splitlinesFrom, if_neg whole, if_neg whole, ih kept (by simp)]
      · exact single
      · rintro tail rfl
        exact absurd (by decide) whole

theorem splitlines_single {line : List Char} (some_ : line ≠ []) (whole : ∀ c ∈ line, isLineBoundary c = false) :
    splitlines line = [line] := by
  have read := @splitlinesFrom_more [] line [] whole
  rw [List.append_nil, List.nil_append, splitlinesFrom, if_neg some_] at read
  exact read

/-- A line after what a text has visibly is one of the lines. -/
theorem splitlines_rstrip {text line : List Char} (visible : strip text ≠ []) (some_ : line ≠ [])
    (whole : ∀ c ∈ line, isLineBoundary c = false) :
    splitlines (rstrip text ++ '\n' :: '\n' :: line) = splitlines (rstrip text) ++ [[], line] := by
  have kept : rstrip text ≠ [] := fun blank => visible (rstrip_eq_nil.mp blank)
  have last : ∀ c ∈ (rstrip text).getLast?, isLineBoundary c = false := by
    intro c found
    rw [List.getLast?_eq_some_getLast kept] at found
    obtain rfl := Option.some.inj found
    refine Bool.eq_false_iff.mpr fun splits => ?_
    exact List.rdropWhile_last_not isSpace text kept (isSpace_of_isLineBoundary splits)
  rw [splitlines, splitlinesFrom_append last (by simpa using kept)]
  have empty := @splitlines_line [] line (List.forall_mem_nil _)
  rw [List.nil_append, splitlines_single some_ whole] at empty
  exact congrArg _ empty

/-- The occurrences of a text that do not overlap, after some characters are skipped. -/
def countFrom (sub : List Char) : Nat → List Char → Nat
  | _, [] => 0
  | skip + 1, _ :: rest => countFrom sub skip rest
  | 0, c :: rest =>
      if sub.isPrefixOf (c :: rest) then countFrom sub (sub.length - 1) rest + 1 else countFrom sub 0 rest

/-- `text.count(sub)`, for a text that is not empty. -/
def count (sub text : List Char) : Nat := countFrom sub 0 text

end Python
