/-
Readers on a text that breaks off.

Every reader stops as soon as it has what it wants, so a text that it accepts can be cut in two ways:
behind what was read, which the reader does not notice, or inside it, and then the end of the text is
what it reports (`Firm`). Only a number can be cut to a shorter number, and that is enough slack for
an item of a container (`Loose`), because a comma or a bracket has to follow it. The properties pass
from the string machine and the punctuation up through containers. A whole text that ends with a
bracket is not accepted without it (`decode_cut`).
-/
import ShardSearch.Proofs.WireForm

namespace ShardSearch

namespace Json

variable {α κ : Type}

/-- Given only the front `p` of a text that it accepts, a reader has read what it wanted before the
cut, or it reports the end of the text. -/
def FirmAt (read : Reader α) (p : List Char) : Prop :=
  ∀ ⦃q : List Char⦄ ⦃x : α⦄ ⦃rest : List Char⦄, read (p ++ q) = .ok (x, rest) →
    (∃ r, rest = r ++ q ∧ read p = .ok (x, r)) ∨ read p = .error .truncated

/-- A reader that is firm wherever a text is cut. -/
def Firm (read : Reader α) : Prop := ∀ ⦃p : List Char⦄, FirmAt read p

/-- A reader that is firm but for reading something shorter up to the cut. -/
def Loose (read : Reader α) : Prop :=
  ∀ ⦃p q : List Char⦄ ⦃x : α⦄ ⦃rest : List Char⦄, read (p ++ q) = .ok (x, rest) →
    (∃ r, rest = r ++ q ∧ read p = .ok (x, r)) ∨ read p = .error .truncated ∨ ∃ y, read p = .ok (y, [])

theorem Firm.loose {read : Reader α} (h : Firm read) : Loose read := by
  intro p q x rest hr
  rcases h hr with hdone | hend
  · exact .inl hdone
  · exact .inr (.inl hend)

/-! ## Punctuation -/

theorem skipBlanks_cut (p q : List Char) : skipBlanks p = [] ∨
    ∃ c r, skipBlanks p = c :: r ∧ skipBlanks (p ++ q) = c :: (r ++ q) := by
  cases hp : skipBlanks p with
  | nil => exact .inl rfl
  | cons c r =>
    obtain ⟨hc, b, hb, rfl⟩ := skipBlanks_eq_cons_iff.mp hp
    refine .inr ⟨c, r, rfl, ?_⟩
    rw [List.append_assoc, skipBlanks_append hb, List.cons_append, skipBlanks_cons hc]

/-- The same place in a text that goes on. -/
def Next.extend (q : List Char) : Next → Next
  | .closed r => .closed (r ++ q)
  | .item r => .item (r ++ q)

/-- The punctuation of a container is firm, and finds nothing in an empty text. -/
structure Punctuates (next : Bool → List Char → Except Fault Next) : Prop where
  firm {isFirst p q n} : next isFirst (p ++ q) = .ok n →
    (∃ m, n = m.extend q ∧ next isFirst p = .ok m) ∨ next isFirst p = .error .truncated
  empty : next false [] = .error .truncated

theorem Punctuates.closed {next : Bool → List Char → Except Fault Next} (h : Punctuates next) {isFirst : Bool}
    {p q rest : List Char} (hn : next isFirst (p ++ q) = .ok (.closed rest)) :
    (∃ r, rest = r ++ q ∧ next isFirst p = .ok (.closed r)) ∨ next isFirst p = .error .truncated := by
  rcases h.firm hn with ⟨m, hm, hp⟩ | hend
  · cases m with
    | closed r =>
      cases hm
      exact .inl ⟨r, rfl, hp⟩
    | item r => cases hm
  · exact .inr hend

theorem Punctuates.item {next : Bool → List Char → Except Fault Next} (h : Punctuates next) {isFirst : Bool}
    {p q s : List Char} (hn : next isFirst (p ++ q) = .ok (.item s)) :
    (∃ r, s = r ++ q ∧ next isFirst p = .ok (.item r)) ∨ next isFirst p = .error .truncated := by
  rcases h.firm hn with ⟨m, hm, hp⟩ | hend
  · cases m with
    | closed r => cases hm
    | item r =>
      cases hm
      exact .inl ⟨r, rfl, hp⟩
  · exact .inr hend

theorem nextElement_punctuates : Punctuates nextElement where
  empty := rfl
  firm {isFirst p q n} h := by
    rcases skipBlanks_cut p q with hp | ⟨c, r, hp, hpq⟩
    · right
      simp [nextElement, hp]
    simp only [nextElement, hp, hpq] at h ⊢
    split at h
    next hc =>
      cases h
      exact .inl ⟨.closed r, rfl, by simp [hc]⟩
    next hc =>
    split at h
    next hfirst =>
      cases h
      exact .inl ⟨.item (c :: r), rfl, by simp [hc, hfirst]⟩
    next hfirst =>
    split at h
    next hcomma =>
      simp only [hfirst, hcomma, if_true]
      rcases skipBlanks_cut r q with hr | ⟨d, r', hr, hrq⟩
      · right
        simp [hr]
      simp only [hr, hrq] at h ⊢
      split at h
      · cases h
      next hd =>
        cases h
        exact .inl ⟨.item (d :: r'), rfl, by simp [hd]⟩
    next => cases h

theorem nextKey_punctuates : Punctuates nextKey where
  empty := rfl
  firm {isFirst p q n} h := by
    rcases skipBlanks_cut p q with hp | ⟨c, r, hp, hpq⟩
    · right
      simp [nextKey, hp]
    simp only [nextKey, hp, hpq] at h ⊢
    split at h
    next hc =>
      cases h
      exact .inl ⟨.closed r, rfl, by simp [hc]⟩
    next hc =>
    split at h
    next hfirst =>
      split at h
      next hquote =>
        cases h
        exact .inl ⟨.item r, rfl, by simp [hfirst, hquote]⟩
      next => cases h
    next hfirst =>
    split at h
    next hcomma =>
      simp only [hfirst, hcomma, if_true]
      rcases skipBlanks_cut r q with hr | ⟨d, r', hr, hrq⟩
      · right
        simp [hr]
      simp only [hr, hrq] at h ⊢
      split at h
      next hquote =>
        cases h
        exact .inl ⟨.item r', rfl, by simp [hquote]⟩
      next => cases h
    next => cases h

/-- Reads one mark after blanks. -/
def mark (c : Char) (s : List Char) : Except Fault (List Char) :=
  match skipBlanks s with
  | [] => .error .truncated
  | d :: rest => if d = c then .ok rest else .error .malformed

theorem mark_cut {c : Char} {p q rest : List Char} (h : mark c (p ++ q) = .ok rest) :
    (∃ r, rest = r ++ q ∧ mark c p = .ok r) ∨ mark c p = .error .truncated := by
  rcases skipBlanks_cut p q with hp | ⟨d, r, hp, hpq⟩
  · right
    simp [mark, hp]
  simp only [mark, hp, hpq] at h ⊢
  split at h
  next hd =>
    cases h
    exact .inl ⟨r, rfl, by simp [hd]⟩
  next => cases h

theorem colon_cut {p q rest : List Char} (h : colon (p ++ q) = .ok rest) :
    (∃ r, rest = r ++ q ∧ colon p = .ok r) ∨ colon p = .error .truncated :=
  mark_cut h

theorem closeArray_cut {p q rest : List Char} (h : closeArray (p ++ q) = .ok rest) :
    (∃ r, rest = r ++ q ∧ closeArray p = .ok r) ∨ closeArray p = .error .truncated :=
  mark_cut h

/-! ## Strings -/

theorem FirmAt.prepend {p : List Char} (h : FirmAt (stringFrom .plain) p) (c : Char) :
    FirmAt (fun s => prepend c (stringFrom .plain s)) p := by
  intro q cs rest hr
  obtain ⟨cs', hall, rfl⟩ := prepend_eq_ok_iff.mp hr
  dsimp only
  rcases h hall with ⟨r, hr, hfront⟩ | hfront
  · exact .inl ⟨r, hr, by rw [hfront, Json.prepend]⟩
  · exact .inr (by rw [hfront, Json.prepend])

/-- A code unit whose digits are cut off has too few bytes left. -/
theorem FirmAt.wide {read : Reader α} {p : List Char} (h : FirmAt read p) :
    FirmAt (fun s => if Text.width s < unitWidth then .error .truncated else read s) p := by
  intro q x rest hr
  dsimp only at hr ⊢
  split at hr
  · cases hr
  by_cases hp : Text.width p < unitWidth
  · exact .inr (if_pos hp)
  · simp only [if_neg hp]
    exact h hr

/-- The string machine is firm in all of its states. -/
theorem stringFrom_firm (progress : Progress) : Firm (stringFrom progress) := by
  intro p
  induction p generalizing progress with
  | nil =>
    intro q x rest _
    right
    rw [stringFrom]
  | cons c p ih =>
    intro q x rest h
    rw [List.cons_append] at h
    cases progress with
    | plain =>
      simp only [stringFrom] at h ⊢
      split at h
      next hc =>
        cases h
        exact .inl ⟨p, rfl, by simp [hc]⟩
      next hc =>
      split at h
      next hb =>
        simp only [hb, if_true]
        exact ih _ h
      next hb =>
      split at h
      · cases h
      next hlow =>
        simp only [hc, hb, hlow, if_false]
        exact (ih .plain).prepend _ h
    | escape =>
      simp only [stringFrom] at h ⊢
      split at h
      next hc =>
        simp only [hc, if_true]
        exact (ih _).wide h
      next hc =>
      simp only [hc, if_false]
      split at h
      next d hd => exact (ih .plain).prepend _ h
      next => cases h
    | unit left sofar high =>
      simp only [stringFrom] at h ⊢
      split at h
      · cases h
      next d hd =>
      cases left with
      | succ left => exact ih _ h
      | zero =>
        cases high with
        | some high =>
          simp only at h ⊢
          split at h
          next hlow =>
            rw [if_pos hlow]
            exact (ih .plain).prepend _ h
          next => cases h
        | none =>
          simp only at h ⊢
          split at h
          · cases h
          next hlow =>
          rw [if_neg hlow]
          split at h
          next hhigh =>
            rw [if_pos hhigh]
            exact ih _ h
          next hhigh =>
            rw [if_neg hhigh]
            exact (ih .plain).prepend _ h
    | half high =>
      simp only [stringFrom] at h ⊢
      split at h
      next hc =>
        rw [if_pos hc]
        exact ih _ h
      next => cases h
    | halfEscape high =>
      simp only [stringFrom] at h ⊢
      split at h
      next hc =>
        rw [if_pos hc]
        exact (ih _).wide h
      next => cases h

theorem string_firm : Firm Json.string := stringFrom_firm .plain

theorem text_firm : Firm text := by
  intro p q x rest h
  rcases skipBlanks_cut p q with hp | ⟨c, r, hp, hpq⟩
  · right
    simp [text, hp, unexpected, scalar]
  simp only [text, hp, hpq] at h ⊢
  split at h
  next heq =>
    cases heq
    exact string_firm h
  next => cases h

/-! ## Containers -/

/-- Items may be loose, since what has to follow them is missing at a cut. A bound on the rounds that
does not suffice only makes the loop report the end of the text. -/
theorem itemsIn_firm {next : Bool → List Char → Except Fault Next} {item : Reader α}
    (hnext : Punctuates next) (hitem : Loose item) {rounds rounds' : Nat} {isFirst : Bool}
    {p q rest : List Char} {xs : List α} (h : itemsIn next item rounds isFirst (p ++ q) = .ok (xs, rest)) :
    (∃ r, rest = r ++ q ∧ itemsIn next item rounds' isFirst p = .ok (xs, r)) ∨
      itemsIn next item rounds' isFirst p = .error .truncated := by
  induction rounds' generalizing rounds isFirst p xs with
  | zero => exact .inr rfl
  | succ rounds' ih =>
    obtain ⟨hrounds, -⟩ := itemsIn_eq_ok_iff.mp h
    rw [itemsIn]
    cases hrounds with
    | closed hn =>
      rcases hnext.closed hn with ⟨r, hr, hp⟩ | hend
      · exact .inl ⟨r, hr, by rw [hp]⟩
      · exact .inr (by rw [hend])
    | item hn hx hrest =>
      rcases hnext.item hn with ⟨r, rfl, hp⟩ | hend
      swap
      · exact .inr (by rw [hend])
      simp only [hp]
      rcases hitem hx with ⟨r', rfl, hr'⟩ | hend | ⟨y, hy⟩
      · have hlater := itemsIn_eq_ok_iff.mpr ⟨hrest, Nat.lt_succ_self _⟩
        simp only [hr']
        rcases ih hlater with ⟨r'', hr'', hxs⟩ | hend
        · exact .inl ⟨r'', hr'', by rw [hxs]⟩
        · exact .inr (by rw [hend])
      · exact .inr (by rw [hend])
      · -- the item was cut to a shorter one, and nothing is left to follow it
        have hempty : itemsIn next item rounds' false [] = .error .truncated := by
          cases rounds' with
          | zero => rfl
          | succ n => rw [itemsIn, hnext.empty]
        exact .inr (by simp only [hy, hempty])

theorem elements_firm {item : Reader α} (hitem : Loose item) : Firm (elements item) := by
  intro p q xs rest h
  rw [elements] at h
  rw [elements]
  exact itemsIn_firm nextElement_punctuates hitem h

theorem member_loose {key : Reader κ} {item : Reader α} (hkey : Firm key) (hitem : Loose item) :
    Loose (member key item) := by
  intro p q m rest h
  obtain ⟨k, x⟩ := m
  obtain ⟨s₁, s₂, hk, hc, hx⟩ := member_eq_ok_iff.mp h
  rcases hkey hk with ⟨r₁, rfl, hk'⟩ | hend
  · rcases colon_cut hc with ⟨r₂, rfl, hc'⟩ | hend
    · rcases hitem hx with ⟨r, hr, hx'⟩ | hend | ⟨y, hy⟩
      · exact .inl ⟨r, hr, member_eq_ok_iff.mpr ⟨r₁, r₂, hk', hc', hx'⟩⟩
      · exact .inr (.inl (by simp [member, hk', hc', hend]))
      · exact .inr (.inr ⟨(k, y), member_eq_ok_iff.mpr ⟨r₁, r₂, hk', hc', hy⟩⟩)
    · exact .inr (.inl (by simp [member, hk', hend]))
  · exact .inr (.inl (by simp [member, hend]))

theorem members_firm {key : Reader κ} {item : Reader α} (hkey : Firm key) (hitem : Loose item) :
    Firm (members key item) := by
  intro p q ms rest h
  rw [members] at h
  rw [members]
  exact itemsIn_firm nextKey_punctuates (member_loose hkey hitem) h

theorem array_firm {expected : Expected} {body : Nat → Reader α} (h : ∀ depth, Firm (body depth))
    (depth : Nat) : Firm (array expected body depth) := by
  intro p q x rest hr
  obtain ⟨d, s', rfl, hs, hx⟩ := array_eq_ok_iff.mp hr
  rcases skipBlanks_cut p q with hp | ⟨c, r, hp, hpq⟩
  · right
    simp [array, hp, unexpected, scalar]
  · rw [hpq] at hs
    cases hs
    simp only [array, hp]
    exact h d hx

theorem object_firm {expected : Expected} {body : Nat → Reader α} (h : ∀ depth, Firm (body depth))
    (depth : Nat) : Firm (object expected body depth) := by
  intro p q x rest hr
  obtain ⟨d, s', rfl, hs, hx⟩ := object_eq_ok_iff.mp hr
  rcases skipBlanks_cut p q with hp | ⟨c, r, hp, hpq⟩
  · right
    simp [object, hp, unexpected, scalar]
  · rw [hpq] at hs
    cases hs
    simp only [object, hp]
    exact h d hx

/-! ## Numbers -/

theorem fractionPart_none {s rest : List Char} (h : fractionPart s = .ok (none, rest)) :
    s = rest ∧ Clear (· = '.') s := by
  unfold fractionPart at h
  split at h
  · obtain ⟨_, -, h⟩ := bind_eq_ok_iff.mp h
    cases h
  next hne =>
    cases h
    refine ⟨rfl, fun c hc => decide_eq_false ?_⟩
    rintro rfl
    obtain ⟨s', rfl⟩ := List.head?_eq_some_iff.mp hc
    exact hne s' rfl

theorem powerPart_none {s rest : List Char} (h : powerPart s = .ok (none, rest)) :
    s = rest ∧ Clear (fun c => c = 'e' || c = 'E') s := by
  unfold powerPart at h
  split at h
  · obtain ⟨_, -, h⟩ := bind_eq_ok_iff.mp h
    cases h
  · obtain ⟨_, -, h⟩ := bind_eq_ok_iff.mp h
    cases h
  next hlower hupper =>
    cases h
    refine ⟨rfl, fun c hc => ?_⟩
    obtain ⟨s', rfl⟩ := List.head?_eq_some_iff.mp hc
    simp only [Bool.or_eq_false_iff, decide_eq_false_iff_not]
    constructor
    · rintro rfl
      exact hlower s' rfl
    · rintro rfl
      exact hupper s' rfl

/-- A literal without fraction and exponent was read up to something that cannot continue it. -/
theorem literal_stops {s rest : List Char} {l : Literal} (h : literal s = .ok (l, rest))
    (hf : l.fraction = none) (hp : l.power = none) : Stops rest := by
  obtain ⟨⟨whole, s₁⟩, hwhole, h⟩ := bind_eq_ok_iff.mp h
  obtain ⟨⟨f, s₂⟩, hfraction, h⟩ := bind_eq_ok_iff.mp h
  obtain ⟨⟨p, s₃⟩, hpower, h⟩ := bind_eq_ok_iff.mp h
  cases h
  cases hf
  cases hp
  obtain ⟨-, -, hdigit, -⟩ := wholePart_eq_ok_iff.mp hwhole
  obtain ⟨rfl, hpoint⟩ := fractionPart_none hfraction
  obtain ⟨rfl, hmark⟩ := powerPart_none hpower
  intro c hc
  have hd := hdigit c hc
  have ht := hpoint c hc
  have hm := hmark c hc
  simp only [Bool.or_eq_false_iff] at hm
  simp only [continuesNumber, hd, ht, hm.1, hm.2, Bool.or_false]

theorem number_of_scalar {s rest : List Char} {n : Number} (h : scalar s = .ok (.number n, rest)) :
    number s = .ok (n, rest) := by
  obtain _ | ⟨c, s⟩ := s
  · cases h
  rw [scalar] at h
  iterate 4
    split at h
    · obtain ⟨_, -, h⟩ := bind_eq_ok_iff.mp h
      cases h
  split at h
  · obtain ⟨⟨m, r⟩, hm, h⟩ := bind_eq_ok_iff.mp h
    cases h
    exact hm
  · cases h

theorem scalar_natural_stops {s rest : List Char} {n : Nat}
    (h : scalar s = .ok (.number (.natural n), rest)) : Stops rest := by
  obtain ⟨⟨l, s'⟩, hl, hn⟩ := bind_eq_ok_iff.mp (number_of_scalar h)
  dsimp only at hn
  split at hn
  next hnumber =>
    cases hn
    obtain ⟨-, hf, hp, -⟩ := Literal.number?_eq_natural_iff.mp hnumber
    exact literal_stops hl hf hp
  next => cases hn

/-- The front of a numeral is a numeral. -/
theorem natural_spelled_front {n : Nat} {p q : List Char}
    (h : Scalar.Spelled (.number (.natural n)) (p ++ q)) (hp : p ≠ []) :
    ∃ m, Scalar.Spelled (.number (.natural m)) p := by
  obtain ⟨hlt, ht⟩ := natural_spelled_iff.mp h
  rw [Nat.toString_eq_repr, Nat.toList_repr] at ht
  have hdigits : Digits p := by
    refine ⟨hp, fun c hc => (digits_toDigits n).2 c ?_⟩
    rw [← ht]
    exact List.mem_append_left q hc
  have hzero (d : Char) (r : List Char) : p ≠ '0' :: d :: r := by
    rintro rfl
    exact toDigits_noLeadingZero n d (r ++ q) ht.symm
  have hle : Nat.ofDigitChars 10 p 0 ≤ n := by
    calc Nat.ofDigitChars 10 p 0
      _ ≤ Nat.ofDigitChars 10 q (Nat.ofDigitChars 10 p 0) := le_ofDigitChars q _
      _ = Nat.ofDigitChars 10 (p ++ q) 0 := (Nat.ofDigitChars_append 0).symm
      _ = n := by rw [ht, Nat.ofDigitChars_toDigits (by omega) (by omega)]
  refine ⟨Nat.ofDigitChars 10 p 0, natural_spelled_iff.mpr ⟨by omega, ?_⟩⟩
  rw [Nat.toString_eq_repr, Nat.toList_repr, toDigits_whole hdigits hzero]

theorem Clear.front {f : Char → Bool} {s t : List Char} (h : Clear f (s ++ t)) : Clear f s := by
  cases s with
  | nil => exact .nil
  | cons c s => exact clear_cons.mpr (clear_cons.mp h)

theorem scalar_natural_cut {p q rest : List Char} {n : Nat} (hp : p ≠ [])
    (h : scalar (p ++ q) = .ok (.number (.natural n), rest)) :
    (∃ r, rest = r ++ q ∧ scalar p = .ok (.number (.natural n), r)) ∨
      ∃ m, scalar p = .ok (.number (.natural m), []) := by
  obtain ⟨t, ht, hs⟩ := scalar_sound h
  rcases List.append_eq_append_iff.mp hs with ⟨a, rfl, -⟩ | ⟨r, rfl, rfl⟩
  · obtain ⟨m, hm⟩ := natural_spelled_front ht hp
    have hread := scalar_complete hm Clear.nil
    rw [List.append_nil] at hread
    exact .inr ⟨m, hread⟩
  · exact .inl ⟨r, rfl, scalar_complete ht (scalar_natural_stops h).front⟩

/-! ## Whole texts -/

/-- What stands before the closing bracket of a text, behind which only blanks are left. -/
def Closes (close : Char) (s front : List Char) : Prop := ∃ b, Blanks b ∧ s = front ++ close :: b

theorem decode_cut {read : Nat → Reader α} (hread : Firm (read depthLimit)) {close : Char}
    (hclose : ∀ {s x rest}, read depthLimit s = .ok (x, rest) → ∃ front, s = front ++ close :: rest)
    {s : String} {x : α} (h : decode read s = .ok x) :
    ∃ front, Closes close s.toList front ∧
      ∀ p, p <+: front → decode read (String.ofList p) = .error .truncated := by
  obtain ⟨rest, hx, hblanks⟩ := decode_eq_ok_iff.mp h
  obtain ⟨front, hs⟩ := hclose hx
  refine ⟨front, ⟨rest, hblanks, hs⟩, ?_⟩
  rintro p ⟨q, rfl⟩
  rw [hs, List.append_assoc] at hx
  rcases hread hx with ⟨r, hr, -⟩ | hend
  · -- the closing bracket would have to be read and left over
    have hlength := congrArg List.length hr
    simp only [List.length_append, List.length_cons] at hlength
    omega
  · rw [decode, String.toList_ofList, hend]

/-- What publishes something as an array ends with the bracket of the array. -/
theorem closes_of_array {read : Reader α} {depth : Nat} {R : Value → α → Prop}
    (h : Interprets read (value depth) R) (harray : ∀ v x, R v x → ∃ vs, v = .array vs)
    {s rest : List Char} {x : α} (hx : read s = .ok (x, rest)) : ∃ front, s = front ++ ']' :: rest := by
  obtain ⟨v, hv, hR⟩ := h.read_iff.mp hx
  obtain ⟨vs, rfl⟩ := harray v x hR
  obtain ⟨b, t, -, ht, rfl⟩ := (value_reads depth).sound hv
  cases depth with
  | zero => exact ht.elim
  | succ depth =>
    obtain ⟨body, -, rfl⟩ := ht
    exact ⟨b ++ '[' :: body, by simp⟩

theorem closes_of_object {read : Reader α} {depth : Nat} {R : Value → α → Prop}
    (h : Interprets read (value depth) R) (hobject : ∀ v x, R v x → ∃ ms, v = .object ms)
    {s rest : List Char} {x : α} (hx : read s = .ok (x, rest)) :
    ∃ front, s = front ++ '\x7d' :: rest := by
  obtain ⟨v, hv, hR⟩ := h.read_iff.mp hx
  obtain ⟨ms, rfl⟩ := hobject v x hR
  obtain ⟨b, t, -, ht, rfl⟩ := (value_reads depth).sound hv
  cases depth with
  | zero => exact ht.elim
  | succ depth =>
    obtain ⟨body, -, rfl⟩ := ht
    exact ⟨b ++ '\x7b' :: body, by simp⟩

end Json

end ShardSearch
