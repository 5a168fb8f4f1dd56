/-
Marking a keyword in a text never fails and changes nothing but the marks.

The occurrences are found in the lowercase of the text and are cut out of the text itself. Where lowercase
keeps the width of every character it is made character by character, the sigma at the end of a word
included, so the text and its lowercase have their characters at the same offsets (`aligned_lower`). A place
of the one is then a place of the other, and every cut falls between two characters.

Which occurrences are meant is said without the loop that finds them: they lie apart, and every occurrence
begins inside one of them. There is only one such list (`leftmost_iff`). How a marked piece looks is likewise
said by its sequences and not by the function that writes them (`Shown`).
-/
import ShardSearch.Proofs.ByteOffsets
import ShardSearch.Proofs.Paragraphs

namespace ShardSearch

namespace Text

theorem width_pos {s : List Char} (h : s ≠ []) : 0 < width s := by
  obtain ⟨c, s, rfl⟩ := List.exists_cons_of_ne_nil h
  have := c.utf8Size_pos
  simp only [width_cons]
  omega

theorem width_le_of_prefix {a b : List Char} (h : a <+: b) : width a ≤ width b := by
  obtain ⟨t, rfl⟩ := h
  rw [width_append]
  omega

theorem prefix_of_width_le {a b s : List Char} (ha : a <+: s) (hb : b <+: s) (hle : width a ≤ width b) :
    a <+: b := by
  rcases List.prefix_or_prefix_of_prefix ha hb with h | ⟨t, rfl⟩
  · exact h
  · rw [width_append] at hle
    have ht : t = [] := by
      by_contra hne
      have := width_pos hne
      omega
    rw [ht, List.append_nil]

/-! ## Leftmost occurrences -/

/-- A needle stands in a text at a byte offset. -/
def OccursAt (needle text : List Char) (n : Nat) : Prop :=
  ∃ a b, text = a ++ (needle ++ b) ∧ width a = n

/-- The offsets of the leftmost occurrences that do not overlap, in the order of the text. -/
structure Leftmost (needle text : List Char) (starts : List Nat) : Prop where
  occurs : ∀ n ∈ starts, OccursAt needle text n
  apart : starts.Pairwise fun m n => m + width needle ≤ n
  /-- No occurrence is passed over, unless it begins inside one that was taken. -/
  covers : ∀ n, OccursAt needle text n → ∃ m ∈ starts, m ≤ n ∧ n < m + width needle

/-- What the search knows of the rest of a text that begins at an offset, when the first `skip` characters
of it are taken. -/
structure LeftmostFrom (needle : List Char) (skip offset : Nat) (s : List Char) (starts : List Nat) : Prop where
  occurs : ∀ n ∈ starts, ∃ a b, s = a ++ (needle ++ b) ∧ n = offset + width a ∧ skip ≤ a.length
  apart : starts.Pairwise fun m n => m + width needle ≤ n
  covers : ∀ a b, s = a ++ (needle ++ b) → skip ≤ a.length →
    ∃ m ∈ starts, m ≤ offset + width a ∧ offset + width a < m + width needle

namespace LeftmostFrom

variable {needle : List Char} {skip offset : Nat} {c : Char} {s : List Char} {starts : List Nat}

theorem nil (hne : needle ≠ []) : LeftmostFrom needle skip offset [] [] where
  occurs := by simp
  apart := .nil
  covers a b hs := by
    simp only [List.nil_eq, List.append_eq_nil_iff] at hs
    exact absurd hs.2.1 hne

theorem skipped (h : LeftmostFrom needle skip (offset + c.utf8Size) s starts) :
    LeftmostFrom needle (skip + 1) offset (c :: s) starts where
  occurs n hn := by
    obtain ⟨a, b, rfl, rfl, hskip⟩ := h.occurs n hn
    exact ⟨c :: a, b, rfl, by rw [width_cons]; omega, by simpa using hskip⟩
  apart := h.apart
  covers a b hs hskip := by
    cases a with
    | nil => simp at hskip
    | cons d a =>
      cases hs
      obtain ⟨m, hm, hle, hlt⟩ := h.covers a b rfl (by simpa using hskip)
      exact ⟨m, hm, by rw [width_cons]; omega, by rw [width_cons]; omega⟩

theorem passed (hnot : ¬ needle <+: c :: s) (h : LeftmostFrom needle 0 (offset + c.utf8Size) s starts) :
    LeftmostFrom needle 0 offset (c :: s) starts where
  occurs n hn := by
    obtain ⟨a, b, rfl, rfl, -⟩ := h.occurs n hn
    exact ⟨c :: a, b, rfl, by rw [width_cons]; omega, by simp⟩
  apart := h.apart
  covers a b hs _ := by
    cases a with
    | nil => exact absurd ⟨b, hs.symm⟩ hnot
    | cons d a =>
      cases hs
      obtain ⟨m, hm, hle, hlt⟩ := h.covers a b rfl (by simp)
      exact ⟨m, hm, by rw [width_cons]; omega, by rw [width_cons]; omega⟩

/-- An occurrence at the front is taken, and the next one begins no earlier than after it. -/
theorem taken {b : List Char} (h : LeftmostFrom (c :: needle) needle.length (offset + c.utf8Size) (needle ++ b) starts) :
    LeftmostFrom (c :: needle) 0 offset (c :: (needle ++ b)) (offset :: starts) where
  occurs := by
    refine List.forall_mem_cons.mpr ⟨⟨[], b, rfl, by simp, by simp⟩, fun n hn => ?_⟩
    obtain ⟨a, b', hs, rfl, -⟩ := h.occurs n hn
    exact ⟨c :: a, b', by rw [hs]; rfl, by rw [width_cons]; omega, by simp⟩
  apart := by
    refine List.pairwise_cons.mpr ⟨fun n hn => ?_, h.apart⟩
    obtain ⟨a, b', hs, rfl, hskip⟩ := h.occurs n hn
    have hprefix : needle <+: a :=
      List.prefix_of_prefix_length_le ⟨b, rfl⟩ ⟨_, hs.symm⟩ hskip
    have := width_le_of_prefix hprefix
    simp only [width_cons]
    omega
  covers a b' hs _ := by
    cases a with
    | nil => exact ⟨offset, by simp, by simp, by simpa using .inl c.utf8Size_pos⟩
    | cons d a =>
      obtain ⟨rfl, hrest⟩ := List.cons_eq_cons.mp hs
      by_cases hskip : needle.length ≤ a.length
      · obtain ⟨m, hm, hle, hlt⟩ := h.covers a b' hrest hskip
        simp only [width_cons] at hlt ⊢
        exact ⟨m, List.mem_cons_of_mem _ hm, by omega, by omega⟩
      · -- it begins inside the occurrence at the front
        obtain ⟨t, rfl⟩ : a <+: needle :=
          List.prefix_of_prefix_length_le ⟨_, hrest.symm⟩ ⟨b, rfl⟩ (by omega)
        have ht : 0 < width t := width_pos (by rintro rfl; simp at hskip)
        refine ⟨offset, by simp, by omega, ?_⟩
        simp only [width_cons, width_append]
        omega

end LeftmostFrom

theorem occurrencesFrom_leftmost {needle : List Char} (hne : needle ≠ []) (skip offset : Nat) (s : List Char) :
    LeftmostFrom needle skip offset s (occurrencesFrom needle skip offset s) := by
  induction s generalizing skip offset with
  | nil => exact .nil hne
  | cons c s ih =>
    cases skip with
    | succ skip => exact (ih skip _).skipped
    | zero =>
      rw [occurrencesFrom]
      split
      next hprefix =>
        obtain ⟨b, hb⟩ := List.isPrefixOf_iff_prefix.mp hprefix
        obtain ⟨d, needle, rfl⟩ := List.exists_cons_of_ne_nil hne
        obtain ⟨rfl, rfl⟩ := List.cons_eq_cons.mp hb
        exact (ih _ _).taken
      next hprefix => exact (ih 0 _).passed fun h => hprefix (List.isPrefixOf_iff_prefix.mpr h)

theorem occurrences_leftmost {needle : List Char} (hne : needle ≠ []) (text : List Char) :
    Leftmost needle text (occurrences needle text) := by
  have h : LeftmostFrom needle 0 0 text (occurrences needle text) := occurrencesFrom_leftmost hne 0 0 text
  refine ⟨fun n hn => ?_, h.apart, ?_⟩
  · obtain ⟨a, b, hs, hwidth, -⟩ := h.occurs n hn
    exact ⟨a, b, hs, by omega⟩
  · rintro n ⟨a, b, hs, rfl⟩
    simpa using h.covers a b hs (by simp)

namespace Leftmost

variable {needle text : List Char} {starts starts' : List Nat}

theorem increasing (hne : needle ≠ []) (h : Leftmost needle text starts) : starts.Pairwise (· < ·) := by
  have hpos := width_pos hne
  exact h.apart.imp fun hmn => by omega

theorem apart_of_lt (h : Leftmost needle text starts) {m n : Nat} (hm : m ∈ starts) (hn : n ∈ starts)
    (hlt : m < n) : m + width needle ≤ n := by
  obtain ⟨i, hi, rfl⟩ := List.mem_iff_getElem.mp hm
  obtain ⟨j, hj, rfl⟩ := List.mem_iff_getElem.mp hn
  have hapart := List.pairwise_iff_getElem.mp h.apart
  rcases Nat.lt_trichotomy i j with hij | rfl | hji
  · exact hapart i j hi hj hij
  · omega
  · have := hapart j i hj hi hji
    omega

/-- The first occurrence on which two lists disagree would begin inside one on which they agree. -/
theorem mem_of_agree (h : Leftmost needle text starts) (h' : Leftmost needle text starts') {n : Nat}
    (hagree : ∀ m < n, m ∈ starts ↔ m ∈ starts') (hn : n ∈ starts) : n ∈ starts' := by
  obtain ⟨m, hm, hle, hlt⟩ := h'.covers n (h.occurs n hn)
  rcases hle.eq_or_lt with rfl | hmn
  · exact hm
  · have := h.apart_of_lt ((hagree m hmn).mpr hm) hn hmn
    omega

theorem mem_iff_mem (h : Leftmost needle text starts) (h' : Leftmost needle text starts') (n : Nat) :
    n ∈ starts ↔ n ∈ starts' := by
  induction n using Nat.strong_induction_on with
  | h n ih => exact ⟨h.mem_of_agree h' ih, h'.mem_of_agree h fun m hm => (ih m hm).symm⟩

end Leftmost

/-- There is one list of leftmost occurrences. -/
theorem leftmost_iff {needle text : List Char} (hne : needle ≠ []) {starts : List Nat} :
    Leftmost needle text starts ↔ starts = occurrences needle text := by
  have hfound := occurrences_leftmost hne text
  constructor
  · intro h
    exact (h.increasing hne).eq_of_mem_iff (hfound.increasing hne) (h.mem_iff_mem hfound)
  · rintro rfl
    exact hfound

/-! ## A text and its lowercase -/

/-- Two texts have their characters at the same offsets. -/
def Aligned (s t : List Char) : Prop := List.Forall₂ (fun c d => c.utf8Size = d.utf8Size) s t

theorem Aligned.width_eq {s t : List Char} (h : Aligned s t) : width s = width t := by
  induction h with
  | nil => rfl
  | cons hcd _ ih => simp only [width_cons, hcd, ih]

theorem Aligned.append {s a b : List Char} (h : Aligned s (a ++ b)) :
    ∃ a' b', s = a' ++ b' ∧ Aligned a' a ∧ Aligned b' b :=
  ⟨s.take a.length, s.drop a.length, (List.take_append_drop _ _).symm, List.forall₂_take_append _ _ _ h,
    List.forall₂_drop_append _ _ _ h⟩

theorem lowerIn_aligned {c : Char} (hc : width (lowerChar c) = c.utf8Size) (before after : List Char) :
    Aligned [c] (lowerIn before c after) := by
  have hdotted : c ≠ dottedCapitalI := by
    rintro rfl
    exact absurd hc (by decide)
  rcases lowerIn_cases before c after with h | ⟨rfl, h⟩ <;> rw [h]
  · rw [lowerChar, if_neg hdotted] at hc ⊢
    exact .cons (by simpa using hc.symm) .nil
  · exact .cons (by decide) .nil

theorem lowerAfter_aligned {s : List Char} (hs : ∀ c ∈ s, width (lowerChar c) = c.utf8Size)
    (before : List Char) : Aligned s (lowerAfter before s) := by
  induction s generalizing before with
  | nil => exact .nil
  | cons c s ih =>
    rw [lowerAfter]
    exact List.rel_append (lowerIn_aligned (hs c (by simp)) before s) (ih (fun d hd => hs d (by simp [hd])) _)

/-- Lowercase that keeps the width of every character keeps the place of every character. -/
theorem aligned_lower {s : List Char} (hs : ∀ c ∈ s, width (lowerChar c) = c.utf8Size) : Aligned s (lower s) :=
  lowerAfter_aligned hs []

/-- Where a needle stands in one text, an aligned text has something as wide. -/
theorem OccursAt.aligned {needle text lowered : List Char} {n : Nat} (hlowered : Aligned text lowered)
    (h : OccursAt needle lowered n) :
    ∃ a hit b, text = a ++ (hit ++ b) ∧ width a = n ∧ width hit = width needle := by
  obtain ⟨a, b, rfl, rfl⟩ := h
  obtain ⟨a', rest, rfl, ha, hrest⟩ := hlowered.append
  obtain ⟨hit, b', rfl, hhit, -⟩ := hrest.append
  exact ⟨a', hit, b', rfl, ha.width_eq, hhit.width_eq⟩

end Text

namespace Style

theorem intercalate_cons_head (sep : List Char) (c : Char) (part : List Char) (parts : List (List Char)) :
    sep.intercalate ((c :: part) :: parts) = c :: sep.intercalate (part :: parts) := by
  cases parts with
  | nil => simp
  | cons next parts => simp [List.intercalate_cons_cons]

theorem prefix_intercalate (sep part : List Char) (parts : List (List Char)) :
    part <+: sep.intercalate (part :: parts) := by
  cases parts with
  | nil => simp
  | cons next parts => exact ⟨_, (List.intercalate_cons_cons.trans (List.append_assoc ..)).symm⟩

/-- A text falls into the parts between its resets, and the style is opened again after each of them. -/
theorem exists_parts (opening s : List Char) :
    ∃ part parts, (∀ p ∈ part :: parts, ¬ reset <:+: p) ∧ s = reset.intercalate (part :: parts) ∧
      reopened opening s = (reset ++ opening).intercalate (part :: parts) := by
  fun_induction reopened opening s with
  | case1 => exact ⟨[], [], by decide, rfl, rfl⟩
  | case2 s ih =>
    obtain ⟨part, parts, hparts, hs, hshown⟩ := ih
    refine ⟨[], part :: parts, List.forall_mem_cons.mpr ⟨by decide, hparts⟩, ?_, ?_⟩
    · rw [List.intercalate_cons_cons, ← hs]
      rfl
    · rw [List.intercalate_cons_cons, ← hshown, List.nil_append]
  | case3 c s hreset ih =>
    obtain ⟨part, parts, hparts, hs, hshown⟩ := ih
    obtain ⟨hpart, hparts⟩ := List.forall_mem_cons.mp hparts
    refine ⟨c :: part, parts, List.forall_mem_cons.mpr ⟨fun hinfix => ?_, hparts⟩, ?_, ?_⟩
    · rcases List.infix_cons_iff.mp hinfix with hprefix | hinside
      · -- a reset at the front of the part is one at the front of the text
        have hfront : c :: part <+: c :: s := by
          rw [hs]
          exact List.cons_prefix_cons.mpr ⟨rfl, prefix_intercalate _ _ _⟩
        obtain ⟨rest, hrest⟩ := hprefix.trans hfront
        obtain ⟨rfl, rfl⟩ := List.cons_eq_cons.mp hrest
        exact hreset rest rfl rfl
      · exact hpart hinside
    · rw [intercalate_cons_head, ← hs]
    · rw [intercalate_cons_head, ← hshown]

theorem length_le_reopened (opening s : List Char) : s.length ≤ (reopened opening s).length := by
  fun_induction reopened opening s with
  | case1 => simp
  | case2 s ih =>
    simp only [List.length_cons, List.length_append, reset, List.length_nil]
    omega
  | case3 c s _ ih => simpa using ih

end Style

namespace Highlight

open Text

/-! ## Cutting -/

/-- The ranges of the marked pieces among pieces that begin at an offset. -/
def markedFrom (offset : Nat) : List Piece → List (Nat × Nat)
  | [] => []
  | .plain s :: ps => markedFrom (offset + width s) ps
  | .marked s :: ps => (offset, offset + width s) :: markedFrom (offset + width s) ps

/-- The slices that are taken of a text of `stop` bytes, after what stands before `cursor` has been dealt with:
up to each start, over `length` bytes from there, and at last up to the end. -/
def cuts (length stop : Nat) (cursor : Nat) : List Nat → List (Nat × Nat)
  | [] => [(cursor, stop)]
  | start :: starts => (cursor, start) :: (start, start + length) :: cuts length stop (start + length) starts

theorem markedFrom_eq_nil_iff {ps : List Piece} (offset : Nat) :
    markedFrom offset ps = [] ↔ ∀ s, .marked s ∉ ps := by
  induction ps generalizing offset with
  | nil => simp [markedFrom]
  | cons p ps ih =>
    cases p with
    | plain s => simp [markedFrom, ih]
    | marked s => exact ⟨by simp [markedFrom], fun h => absurd List.mem_cons_self (h s)⟩

/-- What cutting a text gives, from where the front of the text has been dealt with. -/
structure Cut (front rest : List Char) (length : Nat) (starts : List Nat) (ps : List Piece) : Prop where
  pieces : piecesFrom length (width front) starts rest = some ps
  joined : ps.flatMap Piece.text = rest
  marked : markedFrom (width front) ps = starts.map fun n => (n, n + length)
  slices : (cuts length (width (front ++ rest)) (width front) starts).map (fun r => slice? r.1 r.2 (front ++ rest)) =
    ps.map fun p => some p.text

theorem Cut.nil (front rest : List Char) (length : Nat) : Cut front rest length [] [.plain rest] where
  pieces := rfl
  joined := by simp [Piece.text]
  marked := by simp [markedFrom]
  slices := by
    have hslice := slice?_width front rest []
    rw [List.append_nil] at hslice
    simp [cuts, Piece.text, hslice]

theorem Cut.cons {front before hit rest : List Char} {starts : List Nat} {ps : List Piece}
    (h : Cut (front ++ (before ++ hit)) rest (width hit) starts ps) :
    Cut front (before ++ (hit ++ rest)) (width hit) (width (front ++ before) :: starts)
      (.plain before :: .marked hit :: ps) where
  pieces := by
    have hpieces := h.pieces
    simp only [width_append, ← Nat.add_assoc] at hpieces
    simp [piecesFrom, hpieces]
  joined := by simp [Piece.text, h.joined]
  marked := by
    have hmarked := h.marked
    simp only [width_append, ← Nat.add_assoc] at hmarked
    simp [markedFrom, hmarked]
  slices := by
    have hhit := slice?_width (front ++ before) hit rest
    have hslices := h.slices
    simp only [width_append, List.append_assoc, ← Nat.add_assoc] at hhit hslices
    simp [cuts, Piece.text, hhit, hslices, ← Nat.add_assoc]

/-- A text can be cut at parts of it that lie apart. -/
theorem exists_cut {length : Nat} {starts : List Nat} (front rest : List Char)
    (hhits : ∀ n ∈ starts, ∃ a hit b, front ++ rest = a ++ (hit ++ b) ∧ width a = n ∧ width hit = length)
    (hapart : starts.Pairwise fun m n => m + length ≤ n) (hfront : ∀ n ∈ starts, width front ≤ n) :
    ∃ ps, Cut front rest length starts ps := by
  induction starts generalizing front rest with
  | nil => exact ⟨_, .nil front rest length⟩
  | cons n starts ih =>
    obtain ⟨a, hit, b, htext, rfl, rfl⟩ := hhits n (by simp)
    obtain ⟨hlater, hrest⟩ := List.pairwise_cons.mp hapart
    obtain ⟨before, rfl⟩ : front <+: a :=
      prefix_of_width_le (List.prefix_append front rest) ⟨_, htext.symm⟩ (hfront _ (by simp))
    rw [List.append_assoc, List.append_cancel_left_eq] at htext
    subst htext
    obtain ⟨ps, hps⟩ := ih (front ++ (before ++ hit)) b
      (fun m hm => by simpa using hhits m (by simp [hm])) hrest fun m hm => by
        rw [← List.append_assoc, width_append]
        exact hlater m hm
    exact ⟨_, hps.cons⟩

/-! ## Colours -/

/-- How a piece is shown where styles are on: a plain one as it is, a marked one in bold yellow and then a
reset. A reset inside it would end the style early, so the style is opened again after each of those. -/
inductive Shown : Piece → List Char → Prop
  | plain (s : List Char) : Shown (.plain s) s
  | marked (part : List Char) (parts : List (List Char))
      (hparts : ∀ p ∈ part :: parts, ¬ "\x1b[0m".toList <:+: p) :
      Shown (.marked ("\x1b[0m".toList.intercalate (part :: parts)))
        ("\x1b[1;33m".toList ++ "\x1b[0m\x1b[1;33m".toList.intercalate (part :: parts) ++ "\x1b[0m".toList)

theorem Piece.render_shown (p : Piece) : Shown p (p.render true) := by
  cases p with
  | plain s => exact .plain s
  | marked s =>
    obtain ⟨part, parts, hparts, hs, hshown⟩ := Style.exists_parts Style.highlight.opening s
    have hopening : Style.reset ++ Style.highlight.opening = "\x1b[0m\x1b[1;33m".toList := by decide
    rw [Piece.render, Style.paint, if_pos rfl, hshown, hopening, hs]
    exact .marked part parts hparts

theorem forall₂_shown (ps : List Piece) : List.Forall₂ Shown ps (ps.map (Piece.render true)) := by
  rw [List.forall₂_map_right_iff, List.forall₂_same]
  exact fun p _ => p.render_shown

theorem length_lt_render_marked (s : List Char) : s.length < (Piece.render true (.marked s)).length := by
  have := Style.length_le_reopened Style.highlight.opening s
  have hreset : Style.reset.length = 4 := rfl
  simp only [Piece.render, Style.paint, if_true, List.length_append, hreset]
  omega

/-- Colours are seen exactly if a piece is marked. -/
theorem flatMap_render_on_ne_iff (ps : List Piece) :
    ps.flatMap (Piece.render true) ≠ ps.flatMap Piece.text ↔ ∃ s, .marked s ∈ ps := by
  constructor
  · intro hne
    by_contra hplain
    refine hne (List.flatMap_congr fun p hp => ?_)
    cases p with
    | plain s => rfl
    | marked s => exact absurd ⟨s, hp⟩ hplain
  · rintro ⟨s, hs⟩ heq
    have hlonger : (ps.map fun p => p.text.length).sum < (ps.map fun p => (p.render true).length).sum := by
      refine List.sum_lt_sum _ _ (fun p _ => ?_) ⟨_, hs, length_lt_render_marked s⟩
      cases p with
      | plain s => exact le_rfl
      | marked s => exact (length_lt_render_marked s).le
    have hlength := congrArg List.length heq
    rw [List.length_flatMap, List.length_flatMap] at hlength
    omega

/-! ## Marking -/

theorem keepsWidth_iff {text : List Char} :
    keepsWidth text = true ↔ ∀ c ∈ text, width (lowerChar c) = c.utf8Size := by
  simp [keepsWidth]

theorem pieces?_of_plain {text keyword : List Char} (h : keyword = [] ∨ ∃ c ∈ text, width (lowerChar c) ≠ c.utf8Size) :
    pieces? text keyword = some [.plain text] := by
  have hplain : (keyword.isEmpty || !keepsWidth text) = true := by
    rw [Bool.or_eq_true, List.isEmpty_iff, Bool.not_eq_true', ← Bool.not_eq_true, keepsWidth_iff]
    simpa using h
  rw [pieces?, if_pos hplain]

/-- A text that keeps its width is cut at the leftmost occurrences of the keyword. -/
theorem exists_pieces {text keyword : List Char} (hkeyword : keyword ≠ [])
    (hwidth : ∀ c ∈ text, width (lowerChar c) = c.utf8Size) :
    ∃ ps, pieces? text keyword = some ps ∧
      Cut [] text (width (lower keyword)) (occurrences (lower keyword) (lower text)) ps := by
  have hneedle : lower keyword ≠ [] := fun h => hkeyword (lower_eq_nil_iff.mp h)
  have hfound := occurrences_leftmost hneedle (lower text)
  obtain ⟨ps, hps⟩ := exists_cut [] text
    (fun n hn => (hfound.occurs n hn).aligned (aligned_lower hwidth)) hfound.apart (by simp)
  have hplain : ¬ (keyword.isEmpty || !keepsWidth text) = true := by
    rw [keepsWidth_iff.mpr hwidth]
    simpa using hkeyword
  refine ⟨ps, ?_, hps⟩
  rw [pieces?, if_neg hplain]
  exact hps.pieces

theorem flatMap_render_off (ps : List Piece) : ps.flatMap (Piece.render false) = ps.flatMap Piece.text := by
  refine List.flatMap_congr fun p _ => ?_
  cases p with
  | plain s => rfl
  | marked s => rfl

theorem render_of_pieces {text keyword : String} {ps : List Piece} (h : pieces? text.toList keyword.toList = some ps)
    (isOn : Bool) : render isOn text keyword = String.ofList (ps.flatMap (Piece.render isOn)) := by
  rw [render, render?, h]
  rfl

/-- What is shown with styles is each piece in its own colours. -/
theorem exists_shown {text keyword : String} {ps : List Piece} (h : pieces? text.toList keyword.toList = some ps) :
    ∃ shown, List.Forall₂ Shown ps shown ∧ render true text keyword = String.ofList shown.flatten :=
  ⟨_, forall₂_shown ps, by rw [render_of_pieces h, List.flatMap_def]⟩

theorem render_on_ne_iff {text keyword : String} {ps : List Piece} (h : pieces? text.toList keyword.toList = some ps)
    (hjoined : ps.flatMap Piece.text = text.toList) :
    render true text keyword ≠ text ↔ ∃ s, .marked s ∈ ps := by
  rw [← flatMap_render_on_ne_iff, hjoined, render_of_pieces h, not_iff_not]
  constructor
  · intro heq
    rw [← heq, String.toList_ofList]
  · intro heq
    rw [heq, String.ofList_toList]

theorem exists_marked_iff {text keyword : List Char} {ps : List Piece} (hkeyword : keyword ≠ [])
    (h : Cut [] text (width (lower keyword)) (occurrences (lower keyword) (lower text)) ps) :
    (∃ s, .marked s ∈ ps) ↔ Passage.mentions keyword text = true := by
  have hfound := occurrences_leftmost (fun h => hkeyword (lower_eq_nil_iff.mp h)) (lower text)
  have hmarked : (∃ s, .marked s ∈ ps) ↔ occurrences (lower keyword) (lower text) ≠ [] := by
    rw [← not_iff_not, not_exists, not_not, ← markedFrom_eq_nil_iff (width []), h.marked, List.map_eq_nil_iff]
  rw [hmarked, Passage.mentions_iff]
  constructor
  · intro hne
    obtain ⟨n, hn⟩ := List.exists_mem_of_ne_nil _ hne
    obtain ⟨a, b, htext, -⟩ := hfound.occurs n hn
    exact ⟨a, b, by rw [htext, List.append_assoc]⟩
  · rintro ⟨a, b, htext⟩
    obtain ⟨m, hm, -⟩ := hfound.covers (width a) ⟨a, b, by rw [← htext, List.append_assoc], rfl⟩
    exact List.ne_nil_of_mem hm

/-- **Marking never fails and never alters the text.** The pieces are there and make up the text, and what is
shown is each piece in turn, so without styles it is the text, and with styles the marked pieces and no others
are in bold yellow. With an empty keyword, or where a character has a lowercase of another width, the text is
shown as it is. Otherwise the marked pieces are those at the leftmost occurrences of the keyword's lowercase in
the lowercase of the text, every slice that is taken for them lies between two characters of the text, and a
piece is marked, and the text coloured, exactly if the text mentions the keyword. -/
theorem render_marks_leftmost (text keyword : String) :
    ∃ ps, pieces? text.toList keyword.toList = some ps ∧ ps.flatMap Piece.text = text.toList ∧
      (∀ isOn, render isOn text keyword = String.ofList (ps.flatMap (Piece.render isOn))) ∧
      (∃ shown, List.Forall₂ Shown ps shown ∧ render true text keyword = String.ofList shown.flatten) ∧
      render false text keyword = text ∧
      ((keyword = "" ∨ ∃ c ∈ text.toList, width (lowerChar c) ≠ c.utf8Size) →
        ∀ isOn, render isOn text keyword = text) ∧
      (keyword ≠ "" → (∀ c ∈ text.toList, width (lowerChar c) = c.utf8Size) →
        ∃ starts, (∀ starts', Leftmost (lower keyword.toList) (lower text.toList) starts' ↔ starts' = starts) ∧
          markedFrom 0 ps = starts.map (fun n => (n, n + width (lower keyword.toList))) ∧
          (cuts (width (lower keyword.toList)) (width text.toList) 0 starts).map
            (fun r => slice? r.1 r.2 text.toList) = ps.map (fun p => some p.text) ∧
          ((∃ s, .marked s ∈ ps) ↔ Passage.mentions keyword.toList text.toList = true) ∧
          (render true text keyword ≠ text ↔ Passage.mentions keyword.toList text.toList = true)) := by
  have hempty : keyword = "" ↔ keyword.toList = [] := by rw [String.toList_eq_nil_iff]
  by_cases hplain : keyword.toList = [] ∨ ∃ c ∈ text.toList, width (lowerChar c) ≠ c.utf8Size
  · have hpieces := pieces?_of_plain hplain
    have hrender (isOn : Bool) : render isOn text keyword = text := by
      simp [render_of_pieces hpieces, Piece.render]
    refine ⟨_, hpieces, by simp [Piece.text], render_of_pieces hpieces, exists_shown hpieces, hrender false,
      fun _ => hrender, fun hkeyword hwidth => ?_⟩
    rcases hplain with h | ⟨c, hc, h⟩
    · exact absurd (hempty.mpr h) hkeyword
    · exact absurd (hwidth c hc) h
  · obtain ⟨hkeyword, hwidth⟩ : keyword.toList ≠ [] ∧ ∀ c ∈ text.toList, width (lowerChar c) = c.utf8Size := by
      simpa using hplain
    obtain ⟨ps, hpieces, hcut⟩ := exists_pieces hkeyword hwidth
    have hoff : render false text keyword = text := by
      rw [render_of_pieces hpieces, flatMap_render_off, hcut.joined, String.ofList_toList]
    refine ⟨ps, hpieces, hcut.joined, render_of_pieces hpieces, exists_shown hpieces, hoff, fun h => ?_,
      fun _ _ => ?_⟩
    · rw [hempty] at h
      exact absurd h hplain
    · have hneedle : lower keyword.toList ≠ [] := fun h => hkeyword (lower_eq_nil_iff.mp h)
      have hmarked := exists_marked_iff hkeyword hcut
      exact ⟨_, fun _ => leftmost_iff hneedle, hcut.marked, hcut.slices, hmarked,
        (render_on_ne_iff hpieces hcut.joined).trans hmarked⟩

/-- Of the two sigmas of the word only the last one is final, so only there the keyword is found, and there it
is coloured. The lowercase of the dotted I is wider than it is, so nothing is marked beside it. A reset in the
text that is marked does not end its colour. -/
theorem render_marks_leftmost_sigma :
    (∃ ps, pieces? "ΟΣΟΣ.".toList "ΟΣ".toList = some ps ∧ markedFrom 0 ps = [(4, 8)]) ∧
    render true "ΟΣΟΣ." "ΟΣ" ≠ "ΟΣΟΣ." ∧ render true "ΟΣΟΣ." "ΟΣ" = "ΟΣ\x1b[1;33mΟΣ\x1b[0m." ∧
    render true "İi" "i" = "İi" ∧
    render true "a\x1b[0mb." "A\x1b[0mB" = "\x1b[1;33ma\x1b[0m\x1b[1;33mb\x1b[0m." := by
  obtain ⟨ps, hpieces, -, -, -, -, -, hmarks⟩ := render_marks_leftmost "ΟΣΟΣ." "ΟΣ"
  obtain ⟨starts, hstarts, hmarked, -, -, hcoloured⟩ :=
    hmarks (by decide) (keepsWidth_iff.mp (by decide +kernel))
  have hfound := (hstarts _).mp (occurrences_leftmost (by decide +kernel) _)
  obtain ⟨-, -, -, -, -, -, hplain, -⟩ := render_marks_leftmost "İi" "i"
  refine ⟨⟨ps, hpieces, ?_⟩, hcoloured.mpr (by decide +kernel), by decide +kernel,
    hplain (.inr ⟨'İ', by decide, by decide⟩) true, by decide +kernel⟩
  rw [hmarked, ← hfound]
  decide +kernel

end Highlight

end ShardSearch
