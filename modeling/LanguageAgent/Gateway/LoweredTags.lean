import LanguageAgent.Gateway.ThinkFilter
import LanguageAgent.Text.Scan

/-! # Tags in a lowered text

The filter looks for its tags in what `str.lower` makes of a text. Where that is longer
than the text, they are found too far on.
-/

namespace LanguageAgent.Gateway

open Text

/-- The character that `str.lower` makes two of. -/
def dottedI : Char := '\u0130'

/-- `str.lower` of any other character: an ASCII letter in lower case, `k` for the Kelvin
    sign, and nothing of ASCII for the rest. -/
inductive LowersTo : Char → Char → Prop where
  | ascii {c : Char} : c.toNat < 128 → LowersTo c c.toLower
  | kelvin : LowersTo '\u212A' 'k'
  | other {c l : Char} : 128 ≤ c.toNat → c ≠ '\u212A' → 128 ≤ l.toNat → LowersTo c l

/-- A text and what `str.lower` makes of it. -/
inductive Lowered : List Char → List Char → Prop where
  | nil : Lowered [] []
  | dotted {text low : List Char} : Lowered text low → Lowered (dottedI :: text) ('i' :: '\u0307' :: low)
  | letter {c l : Char} {text low : List Char} : c ≠ dottedI → LowersTo c l → Lowered text low →
      Lowered (c :: text) (l :: low)

/-- `str.lower`. A letter may be lowered in another way at the end of a word. -/
structure StrLower where
  lower : List Char → List Char
  lowered : ∀ text, Lowered text (lower text)

/-- `str.lower` where no letter but the Kelvin sign and the dotted `i` is outside of ASCII. -/
def plainLower : List Char → List Char
  | [] => []
  | c :: rest =>
      if c = dottedI then 'i' :: '\u0307' :: plainLower rest
      else if c = '\u212A' then 'k' :: plainLower rest
      else c.toLower :: plainLower rest

/-- The character is lowered to the letter. -/
def lowersTo (letter c : Char) : Bool := c.toLower == letter || (letter == 'k' && c == '\u212A')

/-- A tag in any case, as `str.lower` has it. -/
def loweredTag (tag : List Char) : Pattern Char := tag.map lowersTo

def thinkTags : Tags Char := ⟨loweredTag thinkOpenTag, loweredTag thinkCloseTag⟩

/-- ASCII letters that do not end with an `i`. -/
structure PlainTag (tag : List Char) : Prop where
  ascii : ∀ letter ∈ tag, letter.toNat < 128
  last : tag.getLast? ≠ some 'i'
  some : tag ≠ []

theorem thinkOpenTag_plain : PlainTag thinkOpenTag := by
  have ascii : thinkOpenTag.all (fun letter => letter.toNat < 128) = true := by decide +kernel
  exact ⟨by simpa using ascii, by decide +kernel, by decide +kernel⟩

theorem thinkCloseTag_plain : PlainTag thinkCloseTag := by
  have ascii : thinkCloseTag.all (fun letter => letter.toNat < 128) = true := by decide +kernel
  exact ⟨by simpa using ascii, by decide +kernel, by decide +kernel⟩

section Letters

variable {letter c l : Char} {tag text low : List Char}

/-- Outside of ASCII there is nothing to lower. -/
theorem toLower_beyond (beyond : 128 ≤ c.toNat) : c.toLower = c := by
  have size : c.toNat = c.val.toNat := rfl
  unfold Char.toLower
  rw [dif_neg]
  simp only [ge_iff_le, UInt32.le_iff_toNat_le, not_and]
  intro _ upper
  have small : c.val.toNat ≤ 90 := upper
  omega

theorem lowersTo_beyond (beyond : 128 ≤ c.toNat) (ordinary : c ≠ '\u212A') (ascii : letter.toNat < 128) :
    lowersTo letter c = false := by
  have apart : c ≠ letter := by
    rintro rfl
    omega
  simp [lowersTo, toLower_beyond beyond, ordinary, apart]

theorem lowersTo_iff (lowers : LowersTo c l) (ascii : letter.toNat < 128) : lowersTo letter c = (l == letter) := by
  cases lowers with
  | ascii small =>
      have apart : c ≠ '\u212A' := by
        rintro rfl
        exact absurd small (by decide)
      simp [lowersTo, apart]
  | kelvin =>
      have unchanged : Char.toLower '\u212A' = '\u212A' := by decide
      have apart : '\u212A' ≠ letter := by
        rintro rfl
        exact absurd ascii (by decide)
      rw [lowersTo, unchanged, Bool.beq_comm (a := letter), beq_eq_false_iff_ne.mpr apart]
      simp
  | other beyond ordinary beyond' =>
      rw [lowersTo_beyond beyond ordinary ascii]
      have apart : l ≠ letter := by
        rintro rfl
        omega
      simp [apart]

theorem lowersTo_dottedI (ascii : letter.toNat < 128) : lowersTo letter dottedI = false :=
  lowersTo_beyond (by decide) (by decide) ascii

theorem plainLower_lowered : Lowered text (plainLower text) := by
  induction text with
  | nil => exact .nil
  | cons c rest ih =>
      unfold plainLower
      split_ifs with dotted kelvin
      · exact dotted ▸ .dotted ih
      · exact kelvin ▸ .letter (by decide) .kelvin ih
      · by_cases ascii : c.toNat < 128
        · exact .letter dotted (.ascii ascii) ih
        · rw [toLower_beyond (Nat.le_of_not_lt ascii)]
          exact .letter dotted (.other (Nat.le_of_not_lt ascii) kelvin (Nat.le_of_not_lt ascii)) ih

end Letters

def plainPython : StrLower := ⟨plainLower, fun _ => plainLower_lowered⟩

/-! ## Where a tag begins -/

section Begins

variable {tag text low : List Char}

theorem last_tail {letter : Char} (last : (letter :: tag).getLast? ≠ some 'i') : tag.getLast? ≠ some 'i' := by
  cases tag with
  | nil => simp
  | cons next rest => rwa [List.getLast?_cons_cons] at last

/-- The mark that is left of the dotted `i` is in no tag. -/
theorem begins_mark (ascii : ∀ letter ∈ tag, letter.toNat < 128) (some : tag ≠ []) :
    (literally tag).begins ('\u0307' :: low) = false := by
  cases tag with
  | nil => exact absurd rfl some
  | cons letter tag =>
      have apart : '\u0307' ≠ letter := by
        rintro rfl
        exact absurd (ascii _ List.mem_cons_self) (by decide)
      simp [literally, apart]

/-- A tag begins a lowered text where it begins the text. -/
theorem begins_lowered (lowered : Lowered text low) (ascii : ∀ letter ∈ tag, letter.toNat < 128)
    (last : tag.getLast? ≠ some 'i') : (literally tag).begins low = (loweredTag tag).begins text := by
  induction tag generalizing text low with
  | nil => simp [literally, loweredTag]
  | cons letter tag ih =>
      have here := ascii letter List.mem_cons_self
      have there : ∀ letter ∈ tag, letter.toNat < 128 := fun letter member => ascii letter (List.mem_cons_of_mem _ member)
      cases lowered with
      | nil => rfl
      | @dotted text low lowered =>
          have never : (loweredTag (letter :: tag)).begins (dottedI :: text) = false := by
            simp [loweredTag, lowersTo_dottedI here]
          refine Eq.trans ?_ never.symm
          cases tag with
          | nil =>
              have apart : 'i' ≠ letter := by simpa [eq_comm] using last
              simp [literally, apart]
          | cons next rest =>
              have stops : (literally (next :: rest)).begins ('\u0307' :: low) = false :=
                begins_mark there (List.cons_ne_nil next rest)
              simp only [literally, List.map_cons, Pattern.begins_cons] at stops ⊢
              rw [stops, Bool.and_false]
      | letter different lowers lowered =>
          have later := ih lowered there (last_tail last)
          simp only [literally, loweredTag, List.map_cons, Pattern.begins_cons] at later ⊢
          rw [later, lowersTo_iff lowers here]

/-- The end of a text is lowered to the beginning of a tag where it meets the tag. -/
theorem meets_lowered (lowered : Lowered text low) (ascii : ∀ letter ∈ tag, letter.toNat < 128)
    (short : text.length ≤ tag.length) : low = tag.take text.length ↔ (loweredTag tag).meets text = true := by
  induction lowered generalizing tag with
  | nil => simp
  | @dotted text low lowered ih =>
      cases tag with
      | nil => simp at short
      | cons letter tag =>
          have here := ascii letter List.mem_cons_self
          simp only [loweredTag, List.map_cons, Pattern.meets_cons, lowersTo_dottedI here, Bool.false_and,
            Bool.false_eq_true, iff_false, List.length_cons, List.take_succ_cons, List.cons.injEq, not_and]
          intro _ marked
          have member : '\u0307' ∈ tag := List.mem_of_mem_take (marked ▸ List.mem_cons_self)
          exact absurd (ascii _ (List.mem_cons_of_mem _ member)) (by decide)
  | @letter c l text low different lowers lowered ih =>
      cases tag with
      | nil => simp at short
      | cons letter tag =>
          have here := ascii letter List.mem_cons_self
          have later : low = tag.take text.length ↔ (loweredTag tag).meets text = true :=
            ih (fun letter member => ascii letter (List.mem_cons_of_mem _ member)) (by simpa using short)
          simp only [loweredTag, List.map_cons, Pattern.meets_cons, lowersTo_iff lowers here, List.length_cons,
            List.take_succ_cons, List.cons.injEq, Bool.and_eq_true, beq_iff_eq]
          exact and_congr_right fun _ => later

/-- A tag is found in a lowered text where it is in the text, but moved by the characters
    that have become two. -/
theorem cut_lowered (lowered : Lowered text low) (plain : PlainTag tag) :
    ((literally tag).cut low).map (fun parts => parts.before.length) =
      ((loweredTag tag).cut text).map fun parts => parts.before.length + parts.before.count dottedI := by
  induction lowered with
  | nil => rfl
  | @dotted text low lowered ih =>
      have here := begins_lowered (.dotted lowered) plain.ascii plain.last
      have next : (literally tag).begins ('\u0307' :: low) = false := begins_mark plain.ascii plain.some
      have never : (loweredTag tag).begins (dottedI :: text) = false := by
        cases tag with
        | nil => exact absurd rfl plain.some
        | cons letter tag => simp [loweredTag, lowersTo_dottedI (plain.ascii letter List.mem_cons_self)]
      rw [Pattern.cut_later never, Pattern.cut_later (here.trans never), Pattern.cut_later next]
      cases inLow : (literally tag).cut low <;> cases inText : (loweredTag tag).cut text <;>
        simp [inLow, inText] at ih ⊢
      omega
  | @letter c l text low different lowers lowered ih =>
      have here := begins_lowered (.letter different lowers lowered) plain.ascii plain.last
      cases begun : (loweredTag tag).begins (c :: text) with
      | true =>
          rw [Pattern.cut_here begun, Pattern.cut_here (here.trans begun)]
          rfl
      | false =>
          rw [Pattern.cut_later begun, Pattern.cut_later (here.trans begun)]
          cases inLow : (literally tag).cut low <;> cases inText : (loweredTag tag).cut text <;>
            simp [inLow, inText, different] at ih ⊢
          omega

end Begins

/-! ## The searches of the filter -/

section Searches

variable {python : StrLower} {tag text : List Char}

theorem findTag_eq (plain : PlainTag tag) :
    findTag python.lower tag text =
      ((loweredTag tag).cut text).map fun parts => parts.before.length + parts.before.count dottedI :=
  cut_lowered (python.lowered text) plain

theorem overlapUpTo_eq (plain : PlainTag tag) {limit : Nat} (inText : limit ≤ text.length) (inTag : limit < tag.length) :
    overlapUpTo python.lower text tag limit = (loweredTag tag).overlap (text.drop (text.length - limit)) := by
  induction limit with
  | zero => simp [overlapUpTo, Pattern.overlap]
  | succ limit ih =>
      -- the suffix of this length, and the next shorter one
      obtain ⟨c, rest, suffix⟩ : ∃ c rest, text.drop (text.length - (limit + 1)) = c :: rest := by
        apply List.exists_cons_of_length_pos
        rw [List.length_drop]
        omega
      have shorter : text.drop (text.length - limit) = rest := by
        have step : text.length - limit = text.length - (limit + 1) + 1 := by omega
        rw [step, ← List.drop_drop, suffix]
        rfl
      have size : rest.length = limit := by
        have sizes := congrArg List.length suffix
        rw [List.length_drop, List.length_cons] at sizes
        omega
      have short : rest.length + 1 < (loweredTag tag).length := by
        rw [loweredTag, List.length_map, size]
        exact inTag
      have met : python.lower (c :: rest) = tag.take (limit + 1) ↔ (loweredTag tag).meets (c :: rest) = true := by
        rw [← size]
        exact meets_lowered (python.lowered (c :: rest)) plain.ascii (by rw [List.length_cons, size]; omega)
      rw [overlapUpTo, suffix, ih (by omega) (by omega), shorter]
      by_cases here : (loweredTag tag).meets (c :: rest) = true
      · rw [if_pos (met.mpr here), (Pattern.overlap_cons_whole ⟨short, here⟩).1]
      · rw [if_neg (met.not.mpr here), (Pattern.overlap_cons_later fun whole => here whole.2).1]

theorem overlapSuffix_eq (plain : PlainTag tag) :
    overlapSuffix python.lower text tag = (loweredTag tag).overlap text := by
  have some := List.length_pos_iff.mpr plain.some
  have size : (loweredTag tag).length = tag.length := List.length_map ..
  rw [overlapSuffix, overlapUpTo_eq plain (min_le_left ..) (by omega), @Pattern.overlap_drop _ _ text, size]
  have same : text.length - min text.length (tag.length - 1) = text.length - (tag.length - 1) := by omega
  rw [same]

end Searches

end LanguageAgent.Gateway
