/-
The spelling of JSON scalars, and that the lexical readers accept exactly it.

The grammar is given as relations between a value and its texts: a character may be spelled as
itself, by a short escape, by a code unit or by a pair of them, and a number is spelled by the parts
of its literal. A reader is sound when what it read was spelled at the front of the text, and
complete when it reads every spelling that is followed by something that cannot continue it. Only
numbers need that proviso, a number ends where no digit, point or exponent follows (`Stops`).
-/
import Mathlib
import ShardSearch.Json.Scan

namespace ShardSearch.Json

theorem bind_eq_ok_iff {α β : Type} {x : Except Fault α} {f : α → Except Fault β} {y : β} :
    (x >>= f) = .ok y ↔ ∃ a, x = .ok a ∧ f a = .ok y := by
  cases x with
  | error e => simp [bind, Except.bind]
  | ok a => simp [bind, Except.bind]

/-! ## Blanks -/

/-- A text of blanks only. -/
def Blanks (s : List Char) : Prop := ∀ c ∈ s, isBlank c

@[simp]
theorem blanks_nil : Blanks [] := by simp [Blanks]

theorem skipBlanks_append {b s : List Char} (h : Blanks b) : skipBlanks (b ++ s) = skipBlanks s :=
  List.dropWhile_append_of_pos h

theorem skipBlanks_cons {c : Char} {s : List Char} (h : isBlank c = false) :
    skipBlanks (c :: s) = c :: s := by
  simp [skipBlanks, h]

theorem exists_blanks (s : List Char) : ∃ b, Blanks b ∧ s = b ++ skipBlanks s :=
  ⟨s.takeWhile isBlank, fun _ => List.mem_takeWhile_imp, List.takeWhile_append_dropWhile.symm⟩

theorem skipBlanks_eq_cons_iff {c : Char} {s rest : List Char} :
    skipBlanks s = c :: rest ↔ isBlank c = false ∧ ∃ b, Blanks b ∧ s = b ++ c :: rest := by
  constructor
  · intro h
    obtain ⟨b, hb, hs⟩ := exists_blanks s
    have hc := List.head?_dropWhile_not isBlank s
    rw [show s.dropWhile isBlank = c :: rest from h] at hc
    exact ⟨by simpa using hc, b, hb, by rw [hs, h]⟩
  · rintro ⟨hc, b, hb, rfl⟩
    rw [skipBlanks_append hb, skipBlanks_cons hc]

theorem skipBlanks_eq_nil_iff {s : List Char} : skipBlanks s = [] ↔ Blanks s := by
  simp [skipBlanks, Blanks]

/-! ## Numbers -/

/-- A run of at least one digit. -/
def Digits (ds : List Char) : Prop := ds ≠ [] ∧ ∀ c ∈ ds, c.isDigit

/-- A text does not start with a character of a kind. -/
def Clear (p : Char → Bool) (s : List Char) : Prop := ∀ c ∈ s.head?, p c = false

/-- The characters that can continue a number. -/
def continuesNumber (c : Char) : Bool := c.isDigit || c = '.' || c = 'e' || c = 'E'

/-- What a number may be followed by. -/
def Stops (s : List Char) : Prop := Clear continuesNumber s

/-- The sign of a number. -/
def minus (isNegative : Bool) : List Char := if isNegative then ['-'] else []

/-- The spelling of a fraction, which may be absent. -/
inductive FractionSpelled : Option (List Char) → List Char → Prop
  | absent : FractionSpelled none []
  | present {ds : List Char} : Digits ds → FractionSpelled (some ds) ('.' :: ds)

/-- The spelling of the sign of an exponent, which is a minus or not. -/
inductive PowerSignSpelled : Bool → List Char → Prop
  | bare : PowerSignSpelled false []
  | plus : PowerSignSpelled false ['+']
  | minus : PowerSignSpelled true ['-']

/-- The spelling of an exponent, which may be absent. -/
inductive PowerSpelled : Option (Bool × List Char) → List Char → Prop
  | absent : PowerSpelled none []
  | present {mark : Char} {down : Bool} {sign ds : List Char} : mark = 'e' ∨ mark = 'E' →
      PowerSignSpelled down sign → Digits ds → PowerSpelled (some (down, ds)) (mark :: (sign ++ ds))

/-- The spelling of a literal: its whole part starts with a zero only if it is one. -/
structure Literal.Spelled (l : Literal) (t : List Char) : Prop where
  whole : Digits l.whole
  noLeadingZero : ∀ d ds, l.whole ≠ '0' :: d :: ds
  parts : ∃ f p, FractionSpelled l.fraction f ∧ PowerSpelled l.power p ∧
    t = minus l.isNegative ++ (l.whole ++ (f ++ p))

@[simp]
theorem Clear.nil {p : Char → Bool} : Clear p [] := by simp [Clear]

@[simp]
theorem clear_cons {p : Char → Bool} {c : Char} {s : List Char} : Clear p (c :: s) ↔ p c = false := by
  simp [Clear]

theorem Clear.append {p : Char → Bool} {s t : List Char} (hs : Clear p s) (ht : Clear p t) :
    Clear p (s ++ t) := by
  cases s with
  | nil => simpa using ht
  | cons c s => simpa [clear_cons] using hs

theorem Stops.noDigit {s : List Char} (h : Stops s) : Clear Char.isDigit s := by
  intro c hc
  have := h c hc
  simp only [continuesNumber, Bool.or_eq_false_iff] at this
  exact this.1.1.1

theorem Digits.cons {ds : List Char} (h : Digits ds) : ∃ d rest, ds = d :: rest ∧ d.isDigit := by
  obtain ⟨hne, hall⟩ := h
  cases ds with
  | nil => exact absurd rfl hne
  | cons d rest => exact ⟨d, rest, rfl, hall d (by simp)⟩

theorem someDigits_eq_ok_iff {s ds rest : List Char} :
    someDigits s = .ok (ds, rest) ↔ Digits ds ∧ Clear Char.isDigit rest ∧ s = ds ++ rest := by
  have hspan : digits s = (s.takeWhile Char.isDigit, s.dropWhile Char.isDigit) :=
    List.span_eq_takeWhile_dropWhile ..
  constructor
  · intro h
    rw [someDigits, hspan] at h
    cases hds : s.takeWhile Char.isDigit with
    | nil => cases hrest : s.dropWhile Char.isDigit <;> simp [hds, hrest] at h
    | cons d ds' =>
      rw [hds] at h
      cases h
      refine ⟨⟨List.cons_ne_nil _ _, fun c hc => ?_⟩, fun c hc => ?_, ?_⟩
      · exact List.mem_takeWhile_imp (hds ▸ hc)
      · have := List.head?_dropWhile_not Char.isDigit s
        rw [hc] at this
        simpa using this
      · rw [← hds, List.takeWhile_append_dropWhile]
  · rintro ⟨hds, hrest, rfl⟩
    have htake : rest.takeWhile Char.isDigit = [] := by
      cases rest with
      | nil => rfl
      | cons c r => simp [clear_cons.mp hrest]
    have hdrop : rest.dropWhile Char.isDigit = rest := by
      cases rest with
      | nil => rfl
      | cons c r => simp [clear_cons.mp hrest]
    rw [someDigits, hspan, List.takeWhile_append_of_pos hds.2, List.dropWhile_append_of_pos hds.2,
      htake, hdrop, List.append_nil]
    obtain ⟨d, ds', rfl, -⟩ := hds.cons
    rfl

theorem wholePart_eq_ok_iff {s ds rest : List Char} : wholePart s = .ok (ds, rest) ↔
    Digits ds ∧ (∀ d r, ds ≠ '0' :: d :: r) ∧ Clear Char.isDigit rest ∧ s = ds ++ rest := by
  rw [wholePart, bind_eq_ok_iff]
  constructor
  · rintro ⟨⟨ds', rest'⟩, h, hz⟩
    obtain ⟨hds, hrest, hs⟩ := someDigits_eq_ok_iff.mp h
    dsimp only at hz
    split at hz
    · cases hz
    next hne =>
    cases hz
    exact ⟨hds, hne, hrest, hs⟩
  · rintro ⟨hds, hne, hrest, hs⟩
    refine ⟨(ds, rest), someDigits_eq_ok_iff.mpr ⟨hds, hrest, hs⟩, ?_⟩
    dsimp only
    split
    next => exact absurd rfl (hne _ _)
    next => rfl

theorem fractionPart_sound {s : List Char} {f : Option (List Char)} {rest : List Char}
    (h : fractionPart s = .ok (f, rest)) : ∃ t, FractionSpelled f t ∧ s = t ++ rest := by
  unfold fractionPart at h
  split at h
  · obtain ⟨⟨ds, rest'⟩, hds, hr⟩ := bind_eq_ok_iff.mp h
    cases hr
    obtain ⟨hd, -, rfl⟩ := someDigits_eq_ok_iff.mp hds
    exact ⟨_, .present hd, rfl⟩
  · cases h
    exact ⟨[], .absent, rfl⟩

theorem fractionPart_complete {f : Option (List Char)} {t rest : List Char} (h : FractionSpelled f t)
    (hd : Clear Char.isDigit rest) (hp : Clear (· = '.') rest) :
    fractionPart (t ++ rest) = .ok (f, rest) := by
  cases h with
  | absent =>
    unfold fractionPart
    split
    next heq =>
      rw [List.nil_append] at heq
      rw [heq, clear_cons] at hp
      simp at hp
    next => rfl
  | present hds => simp [fractionPart, someDigits_eq_ok_iff.mpr ⟨hds, hd, rfl⟩, bind, Except.bind]

theorem powerSign_sound (s : List Char) :
    ∃ t, PowerSignSpelled (powerSign s).1 t ∧ s = t ++ (powerSign s).2 := by
  unfold powerSign
  split
  · exact ⟨_, .plus, rfl⟩
  · exact ⟨_, .minus, rfl⟩
  · exact ⟨_, .bare, rfl⟩

theorem powerSign_complete {down : Bool} {sign ds rest : List Char} (h : PowerSignSpelled down sign)
    (hds : Digits ds) : powerSign (sign ++ (ds ++ rest)) = (down, ds ++ rest) := by
  cases h with
  | plus => rfl
  | minus => rfl
  | bare =>
    obtain ⟨d, r, rfl, hd⟩ := hds.cons
    unfold powerSign
    split
    next heq =>
      cases heq
      exact absurd hd (by decide)
    next heq =>
      cases heq
      exact absurd hd (by decide)
    next => rfl

theorem powerPart_sound {s : List Char} {p : Option (Bool × List Char)} {rest : List Char}
    (h : powerPart s = .ok (p, rest)) : ∃ t, PowerSpelled p t ∧ s = t ++ rest := by
  have marked {mark : Char} {s ds rest : List Char} (hm : mark = 'e' ∨ mark = 'E')
      (h : someDigits (powerSign s).2 = .ok (ds, rest)) :
      ∃ t, PowerSpelled (some ((powerSign s).1, ds)) t ∧ mark :: s = t ++ rest := by
    obtain ⟨hd, -, heq⟩ := someDigits_eq_ok_iff.mp h
    obtain ⟨sign, hsign, hs⟩ := powerSign_sound s
    exact ⟨_, .present hm hsign hd, by rw [hs, heq]; simp⟩
  unfold powerPart at h
  split at h
  · obtain ⟨⟨ds, rest'⟩, hds, hr⟩ := bind_eq_ok_iff.mp h
    cases hr
    exact marked (.inl rfl) hds
  · obtain ⟨⟨ds, rest'⟩, hds, hr⟩ := bind_eq_ok_iff.mp h
    cases hr
    exact marked (.inr rfl) hds
  · cases h
    exact ⟨[], .absent, rfl⟩

theorem powerPart_complete {p : Option (Bool × List Char)} {t rest : List Char} (h : PowerSpelled p t)
    (hr : Stops rest) : powerPart (t ++ rest) = .ok (p, rest) := by
  cases h with
  | absent =>
    unfold powerPart
    split
    next heq =>
      rw [List.nil_append] at heq
      rw [heq, Stops, clear_cons] at hr
      exact absurd hr (by decide)
    next heq =>
      rw [List.nil_append] at heq
      rw [heq, Stops, clear_cons] at hr
      exact absurd hr (by decide)
    next => rfl
  | present hm hsign hds =>
    have hd := someDigits_eq_ok_iff.mpr ⟨hds, hr.noDigit, rfl⟩
    rcases hm with rfl | rfl <;>
      simp [powerPart, powerSign_complete hsign hds, hd, bind, Except.bind]

theorem numberSign_sound (s : List Char) : s = minus (numberSign s).1 ++ (numberSign s).2 := by
  unfold numberSign
  split
  · rfl
  · rfl

theorem numberSign_complete {isNegative : Bool} {ds rest : List Char} (h : Digits ds) :
    numberSign (minus isNegative ++ (ds ++ rest)) = (isNegative, ds ++ rest) := by
  cases isNegative with
  | true => rfl
  | false =>
    obtain ⟨d, r, rfl, hd⟩ := h.cons
    unfold numberSign
    split
    next heq =>
      cases heq
      exact absurd hd (by decide)
    next => rfl

theorem literal_sound {s rest : List Char} {l : Literal} (h : literal s = .ok (l, rest)) :
    ∃ t, l.Spelled t ∧ s = t ++ rest := by
  have hs := numberSign_sound s
  rw [literal] at h
  generalize numberSign s = signed at h hs
  obtain ⟨isNegative, s₀⟩ := signed
  obtain ⟨⟨whole, s₁⟩, hwhole, h⟩ := bind_eq_ok_iff.mp h
  obtain ⟨⟨f, s₂⟩, hf, h⟩ := bind_eq_ok_iff.mp h
  obtain ⟨⟨p, s₃⟩, hp, h⟩ := bind_eq_ok_iff.mp h
  cases h
  obtain ⟨hdigits, hzero, -, rfl⟩ := wholePart_eq_ok_iff.mp hwhole
  obtain ⟨tf, htf, rfl⟩ := fractionPart_sound hf
  obtain ⟨tp, htp, rfl⟩ := powerPart_sound hp
  exact ⟨_, ⟨hdigits, hzero, tf, tp, htf, htp, rfl⟩, by simp [hs]⟩

theorem FractionSpelled.noDigit {f : Option (List Char)} {t : List Char} (h : FractionSpelled f t) :
    Clear Char.isDigit t := by
  cases h with
  | absent => exact .nil
  | present _ => exact clear_cons.mpr (by decide)

theorem PowerSpelled.noDigit {p : Option (Bool × List Char)} {t : List Char} (h : PowerSpelled p t) :
    Clear Char.isDigit t := by
  cases h with
  | absent => exact .nil
  | present hm _ _ => rcases hm with rfl | rfl <;> exact clear_cons.mpr (by decide)

theorem PowerSpelled.noPoint {p : Option (Bool × List Char)} {t : List Char} (h : PowerSpelled p t) :
    Clear (· = '.') t := by
  cases h with
  | absent => exact .nil
  | present hm _ _ => rcases hm with rfl | rfl <;> exact clear_cons.mpr (by decide)

theorem literal_complete {l : Literal} {t rest : List Char} (h : l.Spelled t) (hr : Stops rest) :
    literal (t ++ rest) = .ok (l, rest) := by
  obtain ⟨hwhole, hzero, f, p, hf, hp, rfl⟩ := h
  have hpoint : Clear (· = '.') rest := by
    intro c hc
    have := hr c hc
    simp only [continuesNumber, Bool.or_eq_false_iff] at this
    exact this.1.1.2
  have hdigit : Clear Char.isDigit (p ++ rest) := hp.noDigit.append hr.noDigit
  have hsign : numberSign (minus l.isNegative ++ (l.whole ++ (f ++ (p ++ rest)))) =
      (l.isNegative, l.whole ++ (f ++ (p ++ rest))) := numberSign_complete hwhole
  have hw := wholePart_eq_ok_iff.mpr ⟨hwhole, hzero, hf.noDigit.append hdigit, rfl⟩
  have hfr := fractionPart_complete hf hdigit (hp.noPoint.append hpoint)
  simp only [List.append_assoc, literal, hsign, hw, hfr, powerPart_complete hp hr, bind, Except.bind]

/-! ## Strings -/

/-- A code unit, spelled by four hexadecimal digits. -/
inductive CodeUnit : Nat → List Char → Prop
  | digits {a b c d : Char} {w x y z : Nat} : hexValue? a = some w → hexValue? b = some x →
      hexValue? c = some y → hexValue? d = some z →
      CodeUnit (((w * 16 + x) * 16 + y) * 16 + z) [a, b, c, d]

/-- The spellings of a character in a string. -/
inductive CharSpelled : Char → List Char → Prop
  | plain {c : Char} : c ≠ '"' → c ≠ '\\' → ¬ c < ' ' → CharSpelled c [c]
  | escape {e c : Char} : escaped? e = some c → CharSpelled c ['\\', e]
  | unit {n : Nat} {ds : List Char} : CodeUnit n ds → isHighSurrogate n = false →
      isLowSurrogate n = false → CharSpelled (Char.ofNat n) ('\\' :: 'u' :: ds)
  | pair {high low : Nat} {ds es : List Char} : CodeUnit high ds → isHighSurrogate high →
      CodeUnit low es → isLowSurrogate low →
      CharSpelled (paired high low) ('\\' :: 'u' :: (ds ++ '\\' :: 'u' :: es))

/-- The spellings of a text in a string, without the quotes. -/
inductive TextSpelled : List Char → List Char → Prop
  | nil : TextSpelled [] []
  | cons {c : Char} {cs t ts : List Char} : CharSpelled c t → TextSpelled cs ts →
      TextSpelled (c :: cs) (t ++ ts)

theorem prepend_eq_ok_iff {c : Char} {r : Except Fault (List Char × List Char)} {cs rest : List Char} :
    prepend c r = .ok (cs, rest) ↔ ∃ cs', r = .ok (cs', rest) ∧ cs = c :: cs' := by
  cases r with
  | error f => simp [prepend]
  | ok p =>
    obtain ⟨cs', rest'⟩ := p
    simp only [prepend, Except.ok.injEq, Prod.mk.injEq]
    grind

/-- What a string goes on with after a code unit, which may have to complete a pair. -/
def afterUnit (n : Nat) (high : Option Nat) (s : List Char) : Except Fault (List Char × List Char) :=
  match high with
  | some high =>
    if isLowSurrogate n then prepend (paired high n) (stringFrom .plain s) else .error .malformed
  | none =>
    if isLowSurrogate n then .error .malformed
    else if isHighSurrogate n then stringFrom (.half n) s
    else prepend (Char.ofNat n) (stringFrom .plain s)

theorem stringFrom_unit_succ {left sofar : Nat} {high : Option Nat} {s : List Char}
    {r : List Char × List Char} : stringFrom (.unit (left + 1) sofar high) s = .ok r ↔
      ∃ c d s', s = c :: s' ∧ hexValue? c = some d ∧
        stringFrom (.unit left (16 * sofar + d) high) s' = .ok r := by
  cases s with
  | nil => simp [stringFrom]
  | cons c s =>
    rw [stringFrom]
    cases hd : hexValue? c <;> simp [hd]

theorem stringFrom_unit_zero {sofar : Nat} {high : Option Nat} {s : List Char}
    {r : List Char × List Char} : stringFrom (.unit 0 sofar high) s = .ok r ↔
      ∃ c d s', s = c :: s' ∧ hexValue? c = some d ∧ afterUnit (16 * sofar + d) high s' = .ok r := by
  cases s with
  | nil => simp [stringFrom]
  | cons c s =>
    rw [stringFrom]
    cases hd : hexValue? c <;> cases high <;> simp [hd, afterUnit]

theorem stringFrom_unit_iff {high : Option Nat} {s : List Char} {r : List Char × List Char} :
    stringFrom (.unit 3 0 high) s = .ok r ↔
      ∃ n ds s', CodeUnit n ds ∧ s = ds ++ s' ∧ afterUnit n high s' = .ok r := by
  simp only [stringFrom_unit_succ, stringFrom_unit_zero]
  constructor
  · rintro ⟨a, w, -, rfl, ha, b, x, -, rfl, hb, c, y, -, rfl, hc, d, z, s', rfl, hd, h⟩
    refine ⟨_, _, s', .digits ha hb hc hd, rfl, ?_⟩
    rw [show ((w * 16 + x) * 16 + y) * 16 + z = 16 * (16 * (16 * (16 * 0 + w) + x) + y) + z by omega]
    exact h
  · rintro ⟨_, _, s', @⟨a, b, c, d, w, x, y, z, ha, hb, hc, hd⟩, rfl, h⟩
    refine ⟨a, w, _, rfl, ha, b, x, _, rfl, hb, c, y, _, rfl, hc, d, z, s', rfl, hd, ?_⟩
    rw [show 16 * (16 * (16 * (16 * 0 + w) + x) + y) + z = ((w * 16 + x) * 16 + y) * 16 + z by omega]
    exact h

theorem CodeUnit.wide {n : Nat} {ds rest : List Char} (h : CodeUnit n ds) :
    ¬ Text.width (ds ++ rest) < unitWidth := by
  cases h with
  | @digits a b c d =>
    have := a.utf8Size_pos
    have := b.utf8Size_pos
    have := c.utf8Size_pos
    have := d.utf8Size_pos
    simp only [List.cons_append, List.nil_append, Text.width, unitWidth]
    omega

theorem afterUnit_none_iff {n : Nat} {s cs rest : List Char} :
    afterUnit n none s = .ok (cs, rest) ↔ isLowSurrogate n = false ∧
      (isHighSurrogate n ∧ stringFrom (.half n) s = .ok (cs, rest) ∨
        isHighSurrogate n = false ∧
          ∃ cs', stringFrom .plain s = .ok (cs', rest) ∧ cs = Char.ofNat n :: cs') := by
  rw [afterUnit]
  split
  next h => simp [h]
  next h =>
    split
    next hh => simp [h, hh]
    next hh => simp [h, hh, prepend_eq_ok_iff]

theorem afterUnit_some_iff {n high : Nat} {s cs rest : List Char} :
    afterUnit n (some high) s = .ok (cs, rest) ↔ isLowSurrogate n ∧
      ∃ cs', stringFrom .plain s = .ok (cs', rest) ∧ cs = paired high n :: cs' := by
  rw [afterUnit]
  split
  next h => simp [h, prepend_eq_ok_iff]
  next h => simp [h]

theorem stringFrom_half_iff {high : Nat} {s cs rest : List Char} :
    stringFrom (.half high) s = .ok (cs, rest) ↔
      ∃ low ds s' cs', CodeUnit low ds ∧ isLowSurrogate low ∧ s = '\\' :: 'u' :: (ds ++ s') ∧
        cs = paired high low :: cs' ∧ stringFrom .plain s' = .ok (cs', rest) := by
  constructor
  · intro h
    obtain _ | ⟨c, s⟩ := s
    · cases h
    rw [stringFrom] at h
    split at h
    swap
    · cases h
    obtain _ | ⟨d, s⟩ := s
    · cases h
    rw [stringFrom] at h
    split at h
    swap
    · cases h
    split at h
    · cases h
    obtain ⟨low, ds, s', hu, rfl, hlast⟩ := stringFrom_unit_iff.mp h
    obtain ⟨hlow, cs', hplain, rfl⟩ := afterUnit_some_iff.mp hlast
    subst_vars
    exact ⟨low, ds, s', cs', hu, hlow, rfl, rfl, hplain⟩
  · rintro ⟨low, ds, s', cs', hu, hlow, rfl, rfl, h⟩
    rw [stringFrom, if_pos rfl, stringFrom, if_pos rfl, if_neg hu.wide]
    exact stringFrom_unit_iff.mpr ⟨low, ds, s', hu, rfl, afterUnit_some_iff.mpr ⟨hlow, cs', h, rfl⟩⟩

theorem stringFrom_escape_iff {s cs rest : List Char} : stringFrom .escape s = .ok (cs, rest) ↔
    ∃ c t s' cs', CharSpelled c ('\\' :: t) ∧ s = t ++ s' ∧ cs = c :: cs' ∧
      stringFrom .plain s' = .ok (cs', rest) := by
  constructor
  · intro h
    obtain _ | ⟨e, s⟩ := s
    · cases h
    rw [stringFrom] at h
    split at h
    next he =>
      split at h
      · cases h
      subst he
      obtain ⟨n, ds, s', hu, rfl, hlast⟩ := stringFrom_unit_iff.mp h
      obtain ⟨hlow, ⟨hhigh, hhalf⟩ | ⟨hhigh, cs', hplain, rfl⟩⟩ := afterUnit_none_iff.mp hlast
      · obtain ⟨low, es, s'', cs', hv, hl, rfl, rfl, hplain⟩ := stringFrom_half_iff.mp hhalf
        exact ⟨_, _, s'', cs', .pair hu hhigh hv hl, by simp, rfl, hplain⟩
      · exact ⟨_, _, s', cs', .unit hu hhigh hlow, rfl, rfl, hplain⟩
    next =>
      split at h
      next c hc =>
        obtain ⟨cs', hplain, rfl⟩ := prepend_eq_ok_iff.mp h
        exact ⟨c, [e], s, cs', .escape hc, rfl, rfl, hplain⟩
      next => cases h
  · rintro ⟨c, t, s', cs', hc, rfl, rfl, h⟩
    cases hc with
    | plain _ hne _ => exact absurd rfl hne
    | @escape e _ he =>
      have hu : e ≠ 'u' := by
        rintro rfl
        simp [escaped?] at he
      rw [List.singleton_append, stringFrom, if_neg hu, he]
      exact prepend_eq_ok_iff.mpr ⟨cs', h, rfl⟩
    | unit hu hhigh hlow =>
      rw [List.cons_append, stringFrom, if_pos rfl, if_neg hu.wide, stringFrom_unit_iff]
      exact ⟨_, _, s', hu, rfl, afterUnit_none_iff.mpr ⟨hlow, .inr ⟨hhigh, cs', h, rfl⟩⟩⟩
    | @pair high low ds es hu hhigh hv hlow =>
      have hnot : isLowSurrogate high = false := by
        simp only [isHighSurrogate, isLowSurrogate, Bool.and_eq_true, decide_eq_true_eq,
          Bool.and_eq_false_iff, decide_eq_false_iff_not] at hhigh ⊢
        omega
      rw [List.cons_append, List.append_assoc, stringFrom, if_pos rfl, if_neg hu.wide,
        stringFrom_unit_iff]
      exact ⟨high, ds, _, hu, rfl, afterUnit_none_iff.mpr ⟨hnot, .inl ⟨hhigh,
        stringFrom_half_iff.mpr ⟨low, es, s', cs', hv, hlow, by simp, rfl, h⟩⟩⟩⟩

/-- One round of the string reader reads the closing quote or one spelled character. -/
theorem stringFrom_plain_iff {s cs rest : List Char} : stringFrom .plain s = .ok (cs, rest) ↔
    (s = '"' :: rest ∧ cs = []) ∨
      ∃ c t s' cs', CharSpelled c t ∧ s = t ++ s' ∧ cs = c :: cs' ∧
        stringFrom .plain s' = .ok (cs', rest) := by
  constructor
  · intro h
    obtain _ | ⟨c, s⟩ := s
    · cases h
    rw [stringFrom] at h
    split at h
    next hq =>
      cases h
      exact .inl ⟨by rw [hq], rfl⟩
    next hq =>
    split at h
    next hb =>
      obtain ⟨d, t, s', cs', hd, rfl, rfl, hplain⟩ := stringFrom_escape_iff.mp h
      exact .inr ⟨d, _, s', cs', hd, by rw [hb, List.cons_append], rfl, hplain⟩
    next hb =>
    split at h
    next => cases h
    next hlow =>
    obtain ⟨cs', hplain, rfl⟩ := prepend_eq_ok_iff.mp h
    exact .inr ⟨c, [c], s, cs', .plain hq hb hlow, rfl, rfl, hplain⟩
  · rintro (⟨rfl, rfl⟩ | ⟨c, t, s', cs', hc, rfl, rfl, h⟩)
    · rw [stringFrom, if_pos rfl]
    · -- every spelling but the plain one starts with a backslash
      have escaped {u : List Char} (hc : CharSpelled c ('\\' :: u)) :
          stringFrom .plain ('\\' :: u ++ s') = .ok (c :: cs', rest) := by
        rw [List.cons_append, stringFrom, if_neg (by decide), if_pos rfl]
        exact stringFrom_escape_iff.mpr ⟨c, u, s', cs', hc, rfl, rfl, h⟩
      cases hc with
      | plain hq hb hlow =>
        rw [List.singleton_append, stringFrom, if_neg hq, if_neg hb, if_neg hlow]
        exact prepend_eq_ok_iff.mpr ⟨cs', h, rfl⟩
      | escape he => exact escaped (.escape he)
      | unit hu hhigh hlow => exact escaped (.unit hu hhigh hlow)
      | pair hu hhigh hv hlow => exact escaped (.pair hu hhigh hv hlow)

theorem string_eq_ok_iff {s cs rest : List Char} :
    string s = .ok (cs, rest) ↔ ∃ t, TextSpelled cs t ∧ s = t ++ '"' :: rest := by
  rw [string]
  induction cs generalizing s with
  | nil =>
    rw [stringFrom_plain_iff]
    constructor
    · rintro (⟨rfl, -⟩ | ⟨c, t, s', cs', -, -, hcs, -⟩)
      · exact ⟨[], .nil, rfl⟩
      · cases hcs
    · rintro ⟨t, ht, rfl⟩
      cases ht
      exact .inl ⟨rfl, rfl⟩
  | cons c cs ih =>
    rw [stringFrom_plain_iff]
    constructor
    · rintro (⟨-, hcs⟩ | ⟨c', t, s', cs', hc, rfl, hcs, h⟩)
      · cases hcs
      · cases hcs
        obtain ⟨ts, hts, rfl⟩ := ih.mp h
        exact ⟨t ++ ts, .cons hc hts, by simp⟩
    · rintro ⟨t, ht, rfl⟩
      cases ht with
      | @cons _ _ t ts hc hts =>
        exact .inr ⟨c, t, ts ++ '"' :: rest, cs, hc, by simp, rfl, ih.mpr ⟨ts, hts, rfl⟩⟩

/-! ## Scalars -/

/-- The spellings of a scalar. -/
inductive Scalar.Spelled : Scalar → List Char → Prop
  | null : Scalar.Spelled .null ['n', 'u', 'l', 'l']
  | true : Scalar.Spelled (.boolean true) ['t', 'r', 'u', 'e']
  | false : Scalar.Spelled (.boolean false) ['f', 'a', 'l', 's', 'e']
  | number {l : Literal} {n : Number} {t : List Char} : l.Spelled t → l.number? = some n →
      Scalar.Spelled (.number n) t
  | string {cs t : List Char} : TextSpelled cs t → Scalar.Spelled (.string cs) ('"' :: (t ++ ['"']))

theorem name_eq_ok_iff {cs s rest : List Char} : name cs s = .ok rest ↔ s = cs ++ rest := by
  induction cs generalizing s with
  | nil => simp [name]
  | cons c cs ih =>
    cases s with
    | nil => simp [name]
    | cons d s =>
      rw [name]
      split
      next h => simp [h, ih]
      next h => simpa using fun hd => absurd hd.symm h

theorem number_sound {s rest : List Char} {n : Number} (h : number s = .ok (n, rest)) :
    ∃ t, Scalar.Spelled (.number n) t ∧ s = t ++ rest := by
  obtain ⟨⟨l, s'⟩, hl, h⟩ := bind_eq_ok_iff.mp h
  dsimp only at h
  split at h
  next hn =>
    cases h
    obtain ⟨t, ht, hs⟩ := literal_sound hl
    exact ⟨t, .number ht hn, hs⟩
  next => cases h

theorem number_complete {l : Literal} {n : Number} {t rest : List Char} (h : l.Spelled t)
    (hn : l.number? = some n) (hr : Stops rest) : number (t ++ rest) = .ok (n, rest) :=
  bind_eq_ok_iff.mpr ⟨(l, rest), literal_complete h hr, by simp [hn]⟩

theorem scalar_sound {s rest : List Char} {x : Scalar} (h : scalar s = .ok (x, rest)) :
    ∃ t, x.Spelled t ∧ s = t ++ rest := by
  obtain _ | ⟨c, s⟩ := s
  · cases h
  rw [scalar] at h
  split at h
  next hc =>
    obtain ⟨r, hn, h⟩ := bind_eq_ok_iff.mp h
    cases h
    exact ⟨_, .null, by rw [hc, name_eq_ok_iff.mp hn]; rfl⟩
  split at h
  next hc =>
    obtain ⟨r, hn, h⟩ := bind_eq_ok_iff.mp h
    cases h
    exact ⟨_, .true, by rw [hc, name_eq_ok_iff.mp hn]; rfl⟩
  split at h
  next hc =>
    obtain ⟨r, hn, h⟩ := bind_eq_ok_iff.mp h
    cases h
    exact ⟨_, .false, by rw [hc, name_eq_ok_iff.mp hn]; rfl⟩
  split at h
  next hc =>
    obtain ⟨⟨cs, r⟩, hs, h⟩ := bind_eq_ok_iff.mp h
    cases h
    obtain ⟨t, ht, rfl⟩ := string_eq_ok_iff.mp hs
    exact ⟨_, .string ht, by simp [hc]⟩
  split at h
  next =>
    obtain ⟨⟨n, r⟩, hn, h⟩ := bind_eq_ok_iff.mp h
    cases h
    exact number_sound hn
  next => cases h

theorem Literal.Spelled.cons {l : Literal} {t : List Char} (h : l.Spelled t) :
    ∃ c rest, t = c :: rest ∧ (c = '-' ∨ c.isDigit) := by
  obtain ⟨hwhole, -, f, p, -, -, rfl⟩ := h
  obtain ⟨d, ds, hds, hd⟩ := hwhole.cons
  cases l.isNegative with
  | true => exact ⟨_, _, rfl, .inl rfl⟩
  | false => exact ⟨d, _, by rw [hds]; rfl, .inr hd⟩

theorem scalar_complete {x : Scalar} {t rest : List Char} (h : x.Spelled t) (hr : Stops rest) :
    scalar (t ++ rest) = .ok (x, rest) := by
  cases h with
  | null => rfl
  | true => rfl
  | false => rfl
  | string ht =>
    simp [scalar, string_eq_ok_iff.mpr ⟨_, ht, rfl⟩, bind, Except.bind]
  | number hl hn =>
    obtain ⟨c, t', rfl, hc⟩ := hl.cons
    have hne {d : Char} (hd : (d = '-' ∨ d.isDigit) = False) : c ≠ d := by
      rintro rfl
      simp [hd] at hc
    rw [List.cons_append, scalar, if_neg (hne (by decide)), if_neg (hne (by decide)),
      if_neg (hne (by decide)), if_neg (hne (by decide)), if_pos hc, bind_eq_ok_iff]
    exact ⟨_, number_complete hl hn hr, rfl⟩

/-- The characters that can open a scalar. -/
def opensScalar (c : Char) : Bool := c = 'n' || c = 't' || c = 'f' || c = '"' || c = '-' || c.isDigit

theorem Scalar.Spelled.cons {x : Scalar} {t : List Char} (h : x.Spelled t) :
    ∃ c rest, t = c :: rest ∧ opensScalar c := by
  cases h with
  | number hl _ =>
    obtain ⟨c, rest, rfl, hc⟩ := hl.cons
    exact ⟨c, rest, rfl, by rcases hc with hc | hc <;> simp [opensScalar, hc]⟩
  | _ => exact ⟨_, _, rfl, rfl⟩

/-! ## Integers without a sign -/

theorem le_ofDigitChars (ds : List Char) (a : Nat) : a ≤ Nat.ofDigitChars 10 ds a := by
  induction ds generalizing a with
  | nil => exact Nat.le_refl a
  | cons d ds ih =>
    rw [Nat.ofDigitChars_cons]
    have := ih (10 * a + (d.toNat - '0'.toNat))
    omega

theorem Literal.accumulate_cases (ds : List Char) {a : Nat} (ha : a < Text.wordBound) :
    (Nat.ofDigitChars 10 ds a < Text.wordBound ∧
      (accumulate a ds).1 = Nat.ofDigitChars 10 ds a ∧ (accumulate a ds).2.2 = 0) ∨
    (Text.wordBound ≤ Nat.ofDigitChars 10 ds a ∧ (accumulate a ds).2.2 ≠ 0) := by
  induction ds generalizing a with
  | nil => exact .inl ⟨ha, rfl, rfl⟩
  | cons d ds ih =>
    rw [Nat.ofDigitChars_cons, accumulate]
    split
    next h => exact ih h
    next h =>
      have := le_ofDigitChars ds (10 * a + (d.toNat - '0'.toNat))
      exact .inr ⟨by omega, by simp⟩

theorem Literal.number?_eq_natural_iff {l : Literal} {n : Nat} :
    l.number? = some (.natural n) ↔ l.isNegative = false ∧ l.fraction = none ∧ l.power = none ∧
      n < Text.wordBound ∧ Nat.ofDigitChars 10 l.whole 0 = n := by
  obtain ⟨isNegative, whole, fraction, power⟩ := l
  have hcases := accumulate_cases whole (a := 0) (by decide)
  rw [number?]
  dsimp only
  split
  next hdropped =>
    obtain ⟨hlt, hsum, -⟩ | ⟨-, hne⟩ := hcases
    · rw [hsum]
      cases isNegative with
      | false => simpa using fun h => h ▸ hlt
      | true =>
        -- a minus makes the number negative or floating point
        simp only [not_true_eq_false, if_false, Bool.true_eq_false, false_and, iff_false]
        split <;> simp
    · exact absurd hdropped hne
  next hother =>
    constructor
    · intro h
      simp at h
    · rintro ⟨-, rfl, rfl, hlt, rfl⟩
      obtain ⟨-, -, hdropped⟩ | ⟨hle, -⟩ := hcases
      · exact absurd hdropped (hother rfl rfl)
      · omega

theorem digitValue_lt {d : Char} (h : d.isDigit) : d.toNat - '0'.toNat < 10 := by
  have hd : d.toNat ≤ 57 := (Char.isDigit_iff_toNat.mp h).2
  have h0 : '0'.toNat = 48 := rfl
  omega

theorem toDigits_of_isDigit {d : Char} (h : d.isDigit) : Nat.toDigits 10 (d.toNat - '0'.toNat) = [d] := by
  have hlow : 48 ≤ d.toNat := (Char.isDigit_iff_toNat.mp h).1
  have hd : (Nat.digitChar (d.toNat - '0'.toNat)).toNat = d.toNat := by
    rw [Nat.toNat_digitChar_of_lt_ten (digitValue_lt h)]
    have h0 : '0'.toNat = 48 := rfl
    omega
  rw [Nat.toDigits_of_lt_base (digitValue_lt h), Char.toNat_inj.mp hd]

theorem toDigits_ofDigitChars {ds : List Char} (hds : ∀ c ∈ ds, c.isDigit) {a : Nat} (ha : 0 < a) :
    Nat.toDigits 10 (Nat.ofDigitChars 10 ds a) = Nat.toDigits 10 a ++ ds := by
  induction ds generalizing a with
  | nil => simp [Nat.ofDigitChars]
  | cons d ds ih =>
    have hd := hds d (by simp)
    rw [Nat.ofDigitChars_cons, ih (fun c hc => hds c (by simp [hc])) (by omega),
      ← Nat.toDigits_append_toDigits (by omega) ha (digitValue_lt hd), toDigits_of_isDigit hd]
    simp

/-- Digits without a leading zero are the numeral of their value. -/
theorem toDigits_whole {ds : List Char} (hds : Digits ds) (hzero : ∀ d r, ds ≠ '0' :: d :: r) :
    Nat.toDigits 10 (Nat.ofDigitChars 10 ds 0) = ds := by
  obtain ⟨d, r, rfl, hd⟩ := hds.cons
  rw [Nat.ofDigitChars_cons, Nat.mul_zero, Nat.zero_add]
  cases r with
  | nil => exact toDigits_of_isDigit hd
  | cons e r =>
    have hpos : 0 < d.toNat - '0'.toNat := by
      have hlow : '0'.toNat ≤ d.toNat := (Char.isDigit_iff_toNat.mp hd).1
      have hne : d.toNat ≠ '0'.toNat := fun h => hzero e r (by rw [Char.toNat_inj.mp h])
      omega
    rw [toDigits_ofDigitChars (fun c hc => hds.2 c (by simp [hc])) hpos, toDigits_of_isDigit hd]
    rfl

theorem digits_toDigits (n : Nat) : Digits (Nat.toDigits 10 n) :=
  ⟨Nat.toDigits_ne_nil, fun _ => Nat.isDigit_of_mem_toDigits (by omega) (by omega)⟩

theorem head?_toDigits_ne {n : Nat} (h : 0 < n) : (Nat.toDigits 10 n).head? ≠ some '0' := by
  induction n using Nat.strongRecOn with
  | ind n ih =>
    rw [Nat.toDigits_eq_if (by omega)]
    split
    next => simpa using by omega
    next hge =>
      rw [List.head?_append_of_ne_nil _ Nat.toDigits_ne_nil]
      exact ih (n / 10) (by omega) (by omega)

theorem toDigits_noLeadingZero (n : Nat) (d : Char) (r : List Char) :
    Nat.toDigits 10 n ≠ '0' :: d :: r := by
  intro h
  rcases Nat.eq_zero_or_pos n with rfl | hpos
  · cases h
  · exact head?_toDigits_ne hpos (by rw [h]; rfl)

/-- An integer without a sign has one spelling, its numeral, and has it within 64 bits. -/
theorem natural_spelled_iff {n : Nat} {t : List Char} :
    Scalar.Spelled (.number (.natural n)) t ↔ n < 2 ^ 64 ∧ t = (toString n).toList := by
  rw [Nat.toString_eq_repr, Nat.toList_repr]
  constructor
  · intro h
    cases h with
    | number hl hn =>
      obtain ⟨hsign, hf, hp, hlt, rfl⟩ := Literal.number?_eq_natural_iff.mp hn
      obtain ⟨hwhole, hzero, f, p, hfs, hps, rfl⟩ := hl
      rw [hf] at hfs
      rw [hp] at hps
      cases hfs
      cases hps
      exact ⟨hlt, by rw [toDigits_whole hwhole hzero, hsign]; simp [minus]⟩
  · rintro ⟨hlt, rfl⟩
    refine .number (l := ⟨false, Nat.toDigits 10 n, none, none⟩) ?_ ?_
    · exact ⟨digits_toDigits n, toDigits_noLeadingZero n, [], [], .absent, .absent, by simp [minus]⟩
    · exact Literal.number?_eq_natural_iff.mpr
        ⟨rfl, rfl, rfl, hlt, Nat.ofDigitChars_toDigits (by omega) (by omega)⟩

end ShardSearch.Json
