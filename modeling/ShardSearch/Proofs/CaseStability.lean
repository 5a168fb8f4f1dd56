/-
Lowercase is stable: a text in lowercase is its own lowercase.

The table of capitals is closed. No small letter of a run is a capital of some run, nor the dotted I
(`caseRuns_clear`). Two runs are compared as a whole, by where they lie and by their steps, so the table is
checked run against run and not capital by capital. After one pass no capital sigma is left either, so the
rule that looks at the neighbours of a character has nothing to decide in a second pass (`lower_lower`).

Everything that takes a keyword lowercases it before it does anything else, so none of it can tell a keyword
from its lowercase.
-/
import Mathlib
import ShardSearch.Engine
import ShardSearch.Highlight

namespace ShardSearch

namespace Text

/-! ## The table of capitals -/

namespace CaseRun

/-- The lowercase of a capital of a run. -/
def small (r : CaseRun) (n : Nat) : Nat := (n + r.shift).toNat

/-- Whether the steps of a run never meet those of another run. -/
def stepsOver (r q : CaseRun) : Bool :=
  (r.first == r.last || r.step % q.step == 0) && (r.small r.first - q.first) % q.step != 0

/-- Whether no small letter of a run is a capital of another run, given the first and the last of the small
letters: the two lie apart, or their steps never meet. -/
def clears (r : CaseRun) (lo hi : Nat) (q : CaseRun) : Bool :=
  bif q.first.ble hi then bif lo.ble q.last then r.stepsOver q else true else true

/-- Whether the small letters of a run are characters and none of them is a control character. -/
def isText (r : CaseRun) : Bool :=
  ' '.toNat ≤ r.small r.first &&
    (r.small r.last < 0xD800 || 0xDFFF < r.small r.first && r.small r.last < 0x110000)

theorem covers_iff {r : CaseRun} {n : Nat} :
    r.covers n = true ↔ r.first ≤ n ∧ n ≤ r.last ∧ r.step ∣ n - r.first := by
  simp [covers, and_assoc, Nat.dvd_iff_mod_eq_zero]

theorem space_le_small {r : CaseRun} (h : r.isText = true) : ' '.toNat ≤ r.small r.first := by
  simp only [isText, Bool.and_eq_true, decide_eq_true_eq] at h
  exact h.1

/-- The small letters of a run lie as far from one another as its capitals. -/
theorem small_eq {r : CaseRun} (h : r.isText = true) {n : Nat} (hn : r.first ≤ n) :
    r.small n = r.small r.first + (n - r.first) := by
  have hspace : 32 ≤ r.small r.first := space_le_small h
  simp only [small] at hspace ⊢
  omega

/-- The small letters of a run lie between the first and the last of them. -/
theorem small_bounds {r : CaseRun} (h : r.isText = true) {n : Nat} (hn : r.covers n = true) :
    r.small r.first ≤ r.small n ∧ r.small n ≤ r.small r.last := by
  obtain ⟨hfirst, hlast, -⟩ := covers_iff.mp hn
  rw [small_eq h hfirst, small_eq h (hfirst.trans hlast)]
  omega

theorem not_stepsOver {r q : CaseRun} (htext : r.isText = true) {n : Nat} (hn : r.covers n = true)
    (hq : q.covers (r.small n) = true) : r.stepsOver q = false := by
  obtain ⟨hfirst, hlast, hstep⟩ := covers_iff.mp hn
  obtain ⟨-, -, hmeets⟩ := covers_iff.mp hq
  rw [small_eq htext hfirst] at hmeets
  have hdvd (h : r.first = r.last ∨ q.step ∣ r.step) : q.step ∣ n - r.first := by
    rcases h with h | h
    · rw [show n - r.first = 0 by omega]
      exact dvd_zero _
    · exact h.trans hstep
  by_contra hover
  simp only [stepsOver, Bool.not_eq_false, Bool.and_eq_true, Bool.or_eq_true, beq_iff_eq, bne_iff_ne, ne_eq,
    ← Nat.dvd_iff_mod_eq_zero] at hover
  obtain ⟨hsteps, hapart⟩ := hover
  have hle : q.first ≤ r.small r.first := by
    by_contra hlt
    rw [Nat.sub_eq_zero_of_le (by omega)] at hapart
    exact hapart (dvd_zero _)
  rw [Nat.sub_add_comm hle] at hmeets
  exact hapart ((Nat.dvd_add_left (hdvd hsteps)).mp hmeets)

/-- A small letter of a run is no capital of a run that it clears. -/
theorem not_covers_small {r q : CaseRun} (htext : r.isText = true)
    (hclear : r.clears (r.small r.first) (r.small r.last) q = true) {n : Nat} (hn : r.covers n = true) :
    q.covers (r.small n) = false := by
  obtain ⟨hlo, hhi⟩ := small_bounds htext hn
  by_contra hq
  rw [Bool.not_eq_false] at hq
  obtain ⟨hqfirst, hqlast, -⟩ := covers_iff.mp hq
  simp only [clears, Nat.ble_eq_true_of_le (hqfirst.trans hhi), Nat.ble_eq_true_of_le (hlo.trans hqlast),
    cond_true] at hclear
  rw [not_stepsOver htext hn hq] at hclear
  cases hclear

end CaseRun

/-- The dotted I as a run of its own. -/
def dottedRun : CaseRun := ⟨0x130, 0x130, 1, 0⟩

theorem caseRuns_isText : (caseRuns.all CaseRun.isText) = true := by decide +kernel

theorem caseRuns_clear :
    (caseRuns.all fun r => (dottedRun :: caseRuns).all (r.clears (r.small r.first) (r.small r.last))) = true := by
  decide +kernel

/-! ## Single characters -/

theorem lowerSimple_of_not_covers {c : Char} (h : ∀ q ∈ caseRuns, q.covers c.toNat = false) :
    lowerSimple c = c := by
  have hnone : caseRuns.find? (·.covers c.toNat) = none := by
    rw [List.find?_eq_none]
    intro q hq
    simp [h q hq]
  rw [lowerSimple, hnone]

/-- A character is no capital, or its lowercase is a small letter of a run. -/
theorem lowerSimple_cases (c : Char) : lowerSimple c = c ∨
    ∃ r ∈ caseRuns, r.covers c.toNat = true ∧ (lowerSimple c).toNat = r.small c.toNat := by
  cases hfind : caseRuns.find? (·.covers c.toNat) with
  | none => exact .inl (by rw [lowerSimple, hfind])
  | some r =>
    have hcovers : r.covers c.toNat = true := by simpa using List.find?_some hfind
    have hmem := List.mem_of_find?_eq_some hfind
    have htext := List.all_eq_true.mp caseRuns_isText r hmem
    obtain ⟨hlo, hhi⟩ := CaseRun.small_bounds htext hcovers
    have hvalid : (r.small c.toNat).isValidChar := by
      simp only [CaseRun.isText, Bool.and_eq_true, Bool.or_eq_true, decide_eq_true_eq] at htext
      simp only [Nat.isValidChar]
      omega
    refine .inr ⟨r, hmem, hcovers, ?_⟩
    rw [lowerSimple, hfind]
    change (Char.ofNat (r.small c.toNat)).toNat = r.small c.toNat
    rw [Char.ofNat, dif_pos hvalid]
    rfl

/-- What a character becomes does not change any more. -/
theorem lowerChar_of_mem {c d : Char} (h : d ∈ lowerChar c) : lowerChar d = [d] := by
  by_cases hc : c = dottedCapitalI
  · rw [lowerChar, if_pos hc] at h
    rcases List.mem_pair.mp h with rfl | rfl <;> decide +kernel
  rw [lowerChar, if_neg hc, List.mem_singleton] at h
  subst h
  rcases lowerSimple_cases c with hself | ⟨r, hr, hcovers, hsmall⟩
  · rw [hself, lowerChar, if_neg hc, hself]
  have hclear (q : CaseRun) (hq : q ∈ dottedRun :: caseRuns) : q.covers (lowerSimple c).toNat = false := by
    rw [hsmall]
    exact CaseRun.not_covers_small (List.all_eq_true.mp caseRuns_isText r hr)
      (List.all_eq_true.mp (List.all_eq_true.mp caseRuns_clear r hr) q hq) hcovers
  have hundotted : lowerSimple c ≠ dottedCapitalI := by
    intro hdotted
    have := hclear dottedRun List.mem_cons_self
    rw [hdotted] at this
    cases this
  rw [lowerChar, if_neg hundotted, lowerSimple_of_not_covers fun q hq => hclear q (List.mem_cons_of_mem _ hq)]

/-! ## Texts -/

/-- In any context a character becomes what it becomes alone, but for the sigma at the end of a word. -/
theorem lowerIn_cases (before : List Char) (c : Char) (after : List Char) :
    lowerIn before c after = lowerChar c ∨ c = capitalSigma ∧ lowerIn before c after = [finalSigma] := by
  unfold lowerIn
  split
  next hc =>
    subst hc
    split
    · exact .inr ⟨rfl, rfl⟩
    · exact .inl (by decide +kernel)
  next => exact .inl rfl

theorem lowerChar_of_mem_lowerAfter {before s : List Char} {d : Char} (h : d ∈ lowerAfter before s) :
    lowerChar d = [d] := by
  induction s generalizing before with
  | nil => cases h
  | cons c s ih =>
    rw [lowerAfter, List.mem_append] at h
    rcases h with h | h
    · rcases lowerIn_cases before c s with hself | ⟨-, hfinal⟩
      · exact lowerChar_of_mem (hself ▸ h)
      · rw [hfinal, List.mem_singleton] at h
        subst h
        decide +kernel
    · exact ih h

theorem lowerAfter_of_fixed {s : List Char} (h : ∀ c ∈ s, lowerChar c = [c]) (before : List Char) :
    lowerAfter before s = s := by
  induction s generalizing before with
  | nil => rfl
  | cons c s ih =>
    have hc := h c List.mem_cons_self
    have hsigma : c ≠ capitalSigma := by
      rintro rfl
      exact absurd hc (by decide +kernel)
    rw [lowerAfter, lowerIn, if_neg hsigma, hc, ih fun d hd => h d (List.mem_cons_of_mem _ hd)]
    rfl

/-- Lowercase is its own lowercase. -/
theorem lower_lower (s : List Char) : lower (lower s) = lower s :=
  lowerAfter_of_fixed (fun _ hd => lowerChar_of_mem_lowerAfter hd) []

theorem toList_lowercase (s : String) : (lowercase s).toList = lower s.toList := by
  rw [lowercase, String.toList_ofList]

theorem lower_toList_lowercase (s : String) : lower (lowercase s).toList = lower s.toList := by
  rw [toList_lowercase, lower_lower]

theorem lowerIn_ne_nil (before : List Char) (c : Char) (after : List Char) : lowerIn before c after ≠ [] := by
  rcases lowerIn_cases before c after with h | ⟨-, h⟩ <;> rw [h]
  · unfold lowerChar
    split <;> simp
  · simp

theorem lower_eq_nil_iff {s : List Char} : lower s = [] ↔ s = [] := by
  cases s with
  | nil => simp [lower, lowerAfter]
  | cons c s => simp [lower, lowerAfter, lowerIn_ne_nil]

end Text

/-- **A keyword and its lowercase are the same keyword.** A search for the lowercase of a term is the search
for the term: it has the same result or error, makes the same requests and leaves the same store, in every
session and on every index. The lowercase of a keyword selects the same passages of a text, and marks the
same parts of it. -/
theorem lowercase_stable :
    (∀ (e : Engine) (source : Source) (term : String),
      e.trySearch source (Text.lowercase term) = e.trySearch source term) ∧
    (∀ (text keyword : String) (limit : Nat),
      Passage.select text (Text.lowercase keyword) limit = Passage.select text keyword limit) ∧
    ∀ text keyword : String,
      Highlight.pieces? text.toList (Text.lowercase keyword).toList =
        Highlight.pieces? text.toList keyword.toList ∧
      ∀ isOn, Highlight.render isOn text (Text.lowercase keyword) = Highlight.render isOn text keyword := by
  refine ⟨fun e source term => ?_, fun text keyword limit => ?_, fun text keyword => ?_⟩
  · rw [Engine.trySearch, Engine.trySearch, Text.lower_toList_lowercase]
  · have hmentions : Passage.mentions (Text.lowercase keyword).toList = Passage.mentions keyword.toList := by
      funext paragraph
      rw [Passage.mentions, Passage.mentions, Text.lower_toList_lowercase]
    rw [Passage.select, Passage.select, Passage.matching, Passage.matching, hmentions]
  · have hempty : (Text.lowercase keyword).toList.isEmpty = keyword.toList.isEmpty := by
      rw [Bool.eq_iff_iff, List.isEmpty_iff, List.isEmpty_iff, Text.toList_lowercase, Text.lower_eq_nil_iff]
    have hpieces : Highlight.pieces? text.toList (Text.lowercase keyword).toList =
        Highlight.pieces? text.toList keyword.toList := by
      simp only [Highlight.pieces?, hempty, Text.lower_toList_lowercase]
    refine ⟨hpieces, fun isOn => ?_⟩
    rw [Highlight.render, Highlight.render, Highlight.render?, Highlight.render?, hpieces]

end ShardSearch
