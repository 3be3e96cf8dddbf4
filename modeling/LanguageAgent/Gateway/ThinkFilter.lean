import LanguageAgent.Gateway.ThinkBlocks

/-! # The think filter of a stream

`_ThinkStreamFilter` of the llama-server gateway. `lower` is `str.lower`, whose tables are
Python's; it may change the length of a text.
-/

namespace LanguageAgent.Gateway

open Text

variable (lower : List Char → List Char)

/-- `text.lower().find(tag)` -/
def findTag (tag text : List Char) : Option Nat :=
  ((literally tag).cut (lower text)).map fun parts => parts.before.length

/-- The longest of the last `limit` suffixes whose lowered text begins the tag. -/
def overlapUpTo (text tag : List Char) : Nat → List Char
  | 0 => []
  | limit + 1 =>
      let suffix := text.drop (text.length - (limit + 1))
      if lower suffix = tag.take (limit + 1) then suffix else overlapUpTo text tag limit

/-- `_overlap_suffix` -/
def overlapSuffix (text tag : List Char) : List Char :=
  overlapUpTo lower text tag (min text.length (tag.length - 1))

structure ThinkStreamFilter where
  buffer : List Char := []
  insideThink : Bool := false

/-- The loop of `feed`. Where a block is still open, what has been collected is not
    returned. -/
def feedLoop (insideThink : Bool) (visibleParts text : List Char) : List Char × ThinkStreamFilter :=
  if _more : text = [] then (visibleParts, { insideThink })
  else if insideThink then
    match findTag lower thinkCloseTag text with
    | none => ([], { buffer := overlapSuffix lower text thinkCloseTag, insideThink })
    | some closeIndex => feedLoop false visibleParts (text.drop (closeIndex + thinkCloseTag.length))
  else
    match findTag lower thinkOpenTag text with
    | none =>
        let tail := overlapSuffix lower text thinkOpenTag
        (visibleParts ++ text.take (text.length - tail.length), { buffer := tail, insideThink })
    | some openIndex =>
        feedLoop true (visibleParts ++ text.take openIndex) (text.drop (openIndex + thinkOpenTag.length))
termination_by text.length
decreasing_by
  all_goals
    have tags : 0 < thinkCloseTag.length ∧ 0 < thinkOpenTag.length := by decide
    have some_text := List.length_pos_iff.mpr _more
    rw [List.length_drop]
    omega

def ThinkStreamFilter.feed (filter : ThinkStreamFilter) (chunk : List Char) : List Char × ThinkStreamFilter :=
  feedLoop lower filter.insideThink [] (filter.buffer ++ chunk)

def ThinkStreamFilter.flush (filter : ThinkStreamFilter) : List Char × ThinkStreamFilter :=
  if filter.insideThink then ([], { filter with buffer := [] })
  else (filter.buffer, { filter with buffer := [] })

end LanguageAgent.Gateway
