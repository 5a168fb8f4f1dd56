/-
The paragraphs of a text, said without the function that cuts them.

A text has exactly one division into parts that join back to it with an empty line between them, hold no
empty line, and do not end with a newline unless they are last (`isDivision_iff`). The last condition
decides what becomes of three newlines in a row: the first two are the separator. The three ways in which a
text goes on, at its end, at an empty line or with any other character, each say what a division looks like
there, so that the divisions of a text are counted along the text.

Lowercase makes no newline and loses none, so an empty line in a keyword is an empty line in its lowercase
and cannot be found in any paragraph (`blankLine_lower_iff`).
-/
import ShardSearch.Proofs.CaseStability

namespace ShardSearch

namespace Text

/-- The two newlines that end a paragraph. -/
def blankLine : List Char := ['\n', '\n']

theorem occursIn_iff {needle s : List Char} : occursIn needle s = true ↔ needle <:+: s := by
  induction s with
  | nil => rw [occursIn, List.isEmpty_iff, List.infix_nil]
  | cons c s ih => rw [occursIn, Bool.or_eq_true, List.isPrefixOf_iff_prefix, ih, List.infix_cons_iff]

/-! ## Newlines in lowercase -/

theorem lowerIn_newline (before after : List Char) : lowerIn before '\n' after = ['\n'] := by
  have hself : lowerChar '\n' = ['\n'] := by decide +kernel
  rw [lowerIn, if_neg (by decide), hself]

theorem newline_not_mem_lowerChar {c : Char} (hc : c ≠ '\n') : '\n' ∉ lowerChar c := by
  unfold lowerChar
  split
  next => decide
  next =>
    rw [List.mem_singleton]
    intro hnewline
    rcases lowerSimple_cases c with hself | ⟨r, hr, hcovers, hsmall⟩
    · exact hc (hself.symm.trans hnewline.symm)
    · have htext := List.all_eq_true.mp caseRuns_isText r hr
      have hspace : ' '.toNat ≤ '\n'.toNat := by
        rw [hnewline, hsmall]
        exact (CaseRun.space_le_small htext).trans (CaseRun.small_bounds htext hcovers).1
      exact absurd hspace (by decide)

theorem newline_not_mem_lowerIn {c : Char} (hc : c ≠ '\n') (before after : List Char) :
    '\n' ∉ lowerIn before c after := by
  rcases lowerIn_cases before c after with h | ⟨-, h⟩ <;> rw [h]
  · exact newline_not_mem_lowerChar hc
  · decide

theorem newline_prefix_lowerAfter_iff {before s : List Char} : ['\n'] <+: lowerAfter before s ↔ ['\n'] <+: s := by
  cases s with
  | nil => simp [lowerAfter]
  | cons c s =>
    by_cases hc : c = '\n'
    · subst hc
      simp [lowerAfter, lowerIn_newline]
    · have hnot := newline_not_mem_lowerIn hc before s
      obtain ⟨d, ds, hd⟩ := List.exists_cons_of_ne_nil (lowerIn_ne_nil before c s)
      rw [hd, List.mem_cons, not_or] at hnot
      simp [lowerAfter, hd, hnot.1, Ne.symm hc]

theorem blankLine_append_iff {x s : List Char} (h : '\n' ∉ x) : blankLine <:+: x ++ s ↔ blankLine <:+: s := by
  induction x with
  | nil => rfl
  | cons c x ih =>
    rw [List.mem_cons, not_or] at h
    rw [List.cons_append, List.infix_cons_iff, ih h.2]
    simp [blankLine, h.1]

theorem blankLine_lowerAfter_iff {before s : List Char} :
    blankLine <:+: lowerAfter before s ↔ blankLine <:+: s := by
  induction s generalizing before with
  | nil => rfl
  | cons c s ih =>
    rw [lowerAfter]
    by_cases hc : c = '\n'
    · subst hc
      rw [lowerIn_newline, List.singleton_append, List.infix_cons_iff, List.infix_cons_iff, ih]
      simp only [blankLine, List.cons_prefix_cons, true_and, newline_prefix_lowerAfter_iff]
    · rw [blankLine_append_iff (newline_not_mem_lowerIn hc before s), ih,
        ← blankLine_append_iff (x := [c]) (by simpa using Ne.symm hc), List.singleton_append]

/-- A text has an empty line exactly if its lowercase has one. -/
theorem blankLine_lower_iff {s : List Char} : blankLine <:+: lower s ↔ blankLine <:+: s :=
  blankLine_lowerAfter_iff

end Text

namespace Passage

open Text

/-! ## The division of a text -/

/-- A division of a text at its empty lines, each one found as early as possible. -/
structure IsDivision (text : List Char) (parts : List (List Char)) : Prop where
  ne_nil : parts ≠ []
  joined : blankLine.intercalate parts = text
  whole : ∀ p ∈ parts, ¬ blankLine <:+: p
  early : ∀ p ∈ parts.dropLast, p.getLast? ≠ some '\n'

theorem isDivision_singleton_iff {text p : List Char} :
    IsDivision text [p] ↔ p = text ∧ ¬ blankLine <:+: p := by
  constructor
  · intro h
    exact ⟨by simpa using h.joined, h.whole p (by simp)⟩
  · rintro ⟨rfl, hp⟩
    exact ⟨by simp, by simp, by simpa using hp, by simp⟩

theorem isDivision_cons_iff {text p q : List Char} {ps : List (List Char)} :
    IsDivision text (p :: q :: ps) ↔ ¬ blankLine <:+: p ∧ p.getLast? ≠ some '\n' ∧
      ∃ rest, text = p ++ (blankLine ++ rest) ∧ IsDivision rest (q :: ps) := by
  constructor
  · intro h
    refine ⟨h.whole p (by simp), h.early p (by simp), blankLine.intercalate (q :: ps), ?_, by simp, rfl,
      fun p' hp' => h.whole p' (List.mem_cons_of_mem p hp'), fun p' hp' => h.early p' ?_⟩
    · rw [← h.joined, List.intercalate_cons_cons, List.append_assoc]
    · exact List.mem_cons_of_mem p hp'
  · rintro ⟨hwhole, hearly, rest, rfl, h⟩
    refine ⟨by simp, ?_, List.forall_mem_cons.mpr ⟨hwhole, h.whole⟩, ?_⟩
    · rw [List.intercalate_cons_cons, h.joined, List.append_assoc]
    · rw [List.dropLast_cons_cons]
      exact List.forall_mem_cons.mpr ⟨hearly, h.early⟩

theorem isDivision_nil_iff {parts : List (List Char)} : IsDivision [] parts ↔ parts = [[]] := by
  match parts with
  | [] => exact ⟨fun h => absurd rfl h.ne_nil, by simp⟩
  | [p] =>
    rw [isDivision_singleton_iff]
    constructor
    · rintro ⟨rfl, -⟩
      rfl
    · intro h
      cases h
      exact ⟨rfl, by simp [blankLine]⟩
  | p :: q :: ps =>
    rw [isDivision_cons_iff]
    simp [blankLine]

/-- At an empty line a part ends that has not begun. -/
theorem isDivision_blankLine_iff {rest : List Char} {parts : List (List Char)} :
    IsDivision ('\n' :: '\n' :: rest) parts ↔ ∃ ps, parts = [] :: ps ∧ IsDivision rest ps := by
  constructor
  · intro h
    match parts, h with
    | [], h => exact absurd rfl h.ne_nil
    | [p], h =>
      obtain ⟨rfl, hwhole⟩ := isDivision_singleton_iff.mp h
      exact absurd ⟨[], rest, rfl⟩ hwhole
    | p :: q :: ps, h =>
      obtain ⟨hwhole, hearly, rest', htext, hrest⟩ := isDivision_cons_iff.mp h
      match p, htext with
      | [], htext =>
        cases htext
        exact ⟨q :: ps, rfl, hrest⟩
      | [c], htext =>
        cases htext
        exact absurd rfl hearly
      | c :: d :: p, htext =>
        cases htext
        exact absurd ⟨[], p, rfl⟩ hwhole
  · rintro ⟨ps, rfl, h⟩
    obtain ⟨q, ps, rfl⟩ := List.exists_cons_of_ne_nil h.ne_nil
    exact isDivision_cons_iff.mpr ⟨by simp [blankLine], by simp, rest, rfl, h⟩

/-- Any other character belongs to the part that goes on after it. -/
theorem isDivision_other_iff {c : Char} {rest : List Char} (hc : ¬ blankLine <+: c :: rest)
    {parts : List (List Char)} :
    IsDivision (c :: rest) parts ↔ ∃ p ps, parts = (c :: p) :: ps ∧ IsDivision rest (p :: ps) := by
  constructor
  · intro h
    match parts, h with
    | [], h => exact absurd rfl h.ne_nil
    | [p], h =>
      obtain ⟨rfl, hwhole⟩ := isDivision_singleton_iff.mp h
      refine ⟨rest, [], rfl, isDivision_singleton_iff.mpr ⟨rfl, fun hinfix => hwhole ?_⟩⟩
      exact List.infix_cons_iff.mpr (.inr hinfix)
    | p :: q :: ps, h =>
      obtain ⟨hwhole, hearly, rest', htext, hrest⟩ := isDivision_cons_iff.mp h
      cases p with
      | nil => exact absurd ⟨rest', htext.symm⟩ hc
      | cons d p =>
        cases htext
        refine ⟨p, q :: ps, rfl, isDivision_cons_iff.mpr ⟨fun hinfix => hwhole ?_, fun hlast => hearly ?_, rest', rfl,
          hrest⟩⟩
        · exact List.infix_cons_iff.mpr (.inr hinfix)
        · rw [List.getLast?_cons, hlast]
          rfl
  · rintro ⟨p, ps, rfl, h⟩
    match ps, h with
    | [], h =>
      obtain ⟨rfl, hwhole⟩ := isDivision_singleton_iff.mp h
      refine isDivision_singleton_iff.mpr ⟨rfl, fun hinfix => ?_⟩
      exact (List.infix_cons_iff.mp hinfix).elim hc hwhole
    | q :: ps, h =>
      obtain ⟨hwhole, hearly, rest', rfl, hrest⟩ := isDivision_cons_iff.mp h
      refine isDivision_cons_iff.mpr ⟨fun hinfix => ?_, fun hlast => ?_, rest', rfl, hrest⟩
      · refine (List.infix_cons_iff.mp hinfix).elim (fun hprefix => hc ?_) hwhole
        exact hprefix.trans (List.prefix_append (c :: p) _)
      · cases p with
        | nil =>
          -- a newline before an empty line would have made an earlier one
          cases hlast
          exact hc ⟨'\n' :: rest', rfl⟩
        | cons d p =>
          rw [List.getLast?_cons_cons] at hlast
          exact hearly hlast

/-- The paragraphs of a text are its only division. -/
theorem isDivision_iff {text : List Char} {parts : List (List Char)} :
    IsDivision text parts ↔ parts = paragraphs text := by
  fun_induction paragraphs text generalizing parts with
  | case1 => exact isDivision_nil_iff
  | case2 rest ih =>
    rw [isDivision_blankLine_iff]
    simp only [ih, exists_eq_right]
  | case3 c rest hc hnil ih =>
    exact absurd hnil (ih.mpr rfl).ne_nil
  | case4 c rest hc p ps hps ih =>
    have hother : ¬ blankLine <+: c :: rest := by
      rintro ⟨rest', h⟩
      cases h
      exact hc rest' rfl rfl
    rw [isDivision_other_iff hother]
    simp only [ih, hps]
    constructor
    · rintro ⟨p', ps', rfl, heq⟩
      cases heq
      rfl
    · rintro rfl
      exact ⟨p, ps, rfl, rfl⟩

/-! ## The passages of a text -/

theorem mentions_iff {keyword p : List Char} : mentions keyword p = true ↔ lower keyword <:+: lower p := by
  rw [mentions, occursIn_iff]

theorem select_eq (text keyword : String) (limit : Nat) : select text keyword limit =
    (((paragraphs text.toList).filter fun p => lower keyword.toList <:+: lower p).take limit).map
      String.ofList := by
  have hmentions : mentions keyword.toList = fun p => decide (lower keyword.toList <:+: lower p) := by
    funext p
    rw [Bool.eq_iff_iff, mentions_iff, decide_eq_true_iff]
  rw [select, matching, hmentions]

/-- No paragraph holds an empty line, in any case of its letters. -/
theorem not_mentions_of_blankLine {text keyword p : List Char} (hp : p ∈ paragraphs text)
    (hkeyword : blankLine <:+: keyword) : ¬ lower keyword <:+: lower p := by
  intro hinfix
  have hlower : blankLine <:+: lower p := (blankLine_lower_iff.mpr hkeyword).trans hinfix
  exact (isDivision_iff.mpr rfl).whole p hp (blankLine_lower_iff.mp hlower)

/-- **The passages that are selected are exactly the paragraphs that mention the keyword.** A text has one
division into paragraphs. Selecting gives the first of them whose lowercase holds the lowercase of the
keyword, as they stand in the text and in their order, up to the limit. So nothing is selected for a keyword
with an empty line in it, and a larger limit only adds passages at the end. -/
theorem select_by_division (text keyword : String) :
    ∃ parts : List (List Char), (∀ parts', IsDivision text.toList parts' ↔ parts' = parts) ∧
      (∀ limit, select text keyword limit =
          ((parts.filter fun p => lower keyword.toList <:+: lower p).take limit).map String.ofList ∧
        (select text keyword limit).length =
          min limit (parts.countP fun p => lower keyword.toList <:+: lower p)) ∧
      (blankLine <:+: keyword.toList → ∀ limit, select text keyword limit = []) ∧
      ∀ limit limit', limit ≤ limit' → select text keyword limit <+: select text keyword limit' := by
  refine ⟨paragraphs text.toList, fun _ => isDivision_iff, fun limit => ⟨select_eq text keyword limit, ?_⟩,
    fun hkeyword limit => ?_, fun limit limit' hle => ?_⟩
  · rw [select_eq, List.length_map, List.length_take, List.countP_eq_length_filter]
  · have hnone : ((paragraphs text.toList).filter fun p => lower keyword.toList <:+: lower p) = [] := by
      rw [List.filter_eq_nil_iff]
      intro p hp
      simpa using not_mentions_of_blankLine hp hkeyword
    rw [select_eq, hnone, List.take_nil, List.map_nil]
  · rw [select_eq, select_eq]
    exact (List.take_prefix_take_left hle).map String.ofList

/-- A text of three paragraphs: after the first there are three newlines, and the last is empty. -/
def threeParagraphs : String := "ΟΔΟΣ\n\n\nοδος\nstreet\n\n"

/-- The third newline belongs to the paragraph after it, the final sigmas agree, and the larger limit only
adds a passage. -/
theorem select_by_division_sigma :
    IsDivision threeParagraphs.toList ["ΟΔΟΣ".toList, "\nοδος\nstreet".toList, []] ∧
    select threeParagraphs "Οδος" 1 = ["ΟΔΟΣ"] ∧
    select threeParagraphs "Οδος" 1 <+: select threeParagraphs "Οδος" 7 ∧
    select threeParagraphs "\n\n" 7 = [] := by
  obtain ⟨parts, hparts, hselect, -, hmore⟩ := select_by_division threeParagraphs "Οδος"
  obtain ⟨-, -, -, hblank, -⟩ := select_by_division threeParagraphs "\n\n"
  have hdivision : IsDivision threeParagraphs.toList ["ΟΔΟΣ".toList, "\nοδος\nstreet".toList, []] :=
    isDivision_iff.mpr (by decide +kernel)
  have hfirst : select threeParagraphs "Οδος" 1 = ["ΟΔΟΣ"] := by
    rw [(hselect 1).1, ← (hparts _).mp hdivision]
    decide +kernel
  exact ⟨hdivision, hfirst, hmore 1 7 (by decide), hblank (by decide) 7⟩

end Passage

end ShardSearch
