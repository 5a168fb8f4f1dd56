/-
The grammar of JSON texts, and that the reader of syntax trees accepts exactly it.

`Written depth v t` says that `t` is a text of the value `v` in which at most `depth` containers are
open at once, and `Document` adds the blanks around the one value of a whole text. The main
statement, `parse_eq_ok_iff`, is that parsing gives a value exactly on its documents. Both kinds of
container are read by one loop with different punctuation (`itemsIn`), and what a run of that loop
reads is said without its bound (`Rounds`).
-/
import ShardSearch.Json.Value
import ShardSearch.Proofs.JsonScalars

namespace ShardSearch.Json

variable {α : Type}

/-! ## The grammar -/

/-- What may follow an item of a container: blanks, or a comma and further items. -/
inductive Following (P : α → List Char → Prop) : List α → List Char → Prop
  | last {b : List Char} : Blanks b → Following P [] b
  | next {b b' t ts : List Char} {x : α} {xs : List α} : Blanks b → Blanks b' → P x t →
      Following P xs ts → Following P (x :: xs) (b ++ ',' :: (b' ++ (t ++ ts)))

/-- The items of a container, between its brackets. -/
inductive Listed (P : α → List Char → Prop) : List α → List Char → Prop
  | none {b : List Char} : Blanks b → Listed P [] b
  | some {b t ts : List Char} {x : α} {xs : List α} : Blanks b → P x t → Following P xs ts →
      Listed P (x :: xs) (b ++ (t ++ ts))

/-- A member of an object: a key in quotes, a colon and an item. -/
inductive MemberWritten (P : α → List Char → Prop) : List Char × α → List Char → Prop
  | member {k tk b b' t : List Char} {x : α} : TextSpelled k tk → Blanks b → Blanks b' → P x t →
      MemberWritten P (k, x) ('"' :: (tk ++ '"' :: (b ++ ':' :: (b' ++ t))))

/-- The texts of a value in which at most `depth` containers are open at once. -/
def Written : (depth : Nat) → Value → List Char → Prop
  | _, .scalar x, t => x.Spelled t
  | depth + 1, .array vs, t => ∃ body, Listed (Written depth) vs body ∧ t = '[' :: (body ++ [']'])
  | depth + 1, .object ms, t =>
    ∃ body, Listed (MemberWritten (Written depth)) ms body ∧ t = '\x7b' :: (body ++ ['\x7d'])
  | 0, _, _ => False

/-- A whole text: one value with blanks around it, and at most 127 containers open at once. -/
def Document (v : Value) (s : List Char) : Prop :=
  ∃ b t b', Blanks b ∧ Written 127 v t ∧ Blanks b' ∧ s = b ++ (t ++ b')

/-! ## The loop of a container -/

/-- What the loop reads, round by round. -/
inductive Rounds (next : Bool → List Char → Except Fault Next) (item : Reader α) :
    Bool → List Char → List α → List Char → Prop
  | closed {isFirst : Bool} {s rest : List Char} : next isFirst s = .ok (.closed rest) →
      Rounds next item isFirst s [] rest
  | item {isFirst : Bool} {s s' s'' rest : List Char} {x : α} {xs : List α} :
      next isFirst s = .ok (.item s') → item s' = .ok (x, s'') →
      Rounds next item false s'' xs rest → Rounds next item isFirst s (x :: xs) rest

theorem itemsIn_eq_ok_iff {next : Bool → List Char → Except Fault Next} {item : Reader α}
    {rounds : Nat} {isFirst : Bool} {s rest : List Char} {xs : List α} :
    itemsIn next item rounds isFirst s = .ok (xs, rest) ↔
      Rounds next item isFirst s xs rest ∧ xs.length < rounds := by
  induction rounds generalizing isFirst s xs with
  | zero => simp [itemsIn]
  | succ rounds ih =>
    rw [itemsIn]
    constructor
    · intro h
      split at h
      · cases h
      next hn =>
        cases h
        exact ⟨.closed hn, by simp⟩
      next hn =>
      split at h
      · cases h
      next hx =>
      split at h
      · cases h
      next hxs =>
      cases h
      obtain ⟨hrounds, hlt⟩ := ih.mp hxs
      exact ⟨.item hn hx hrounds, by simpa using hlt⟩
    · rintro ⟨h, hlt⟩
      cases h with
      | closed hn => simp [hn]
      | item hn hx hrounds => simp [hn, hx, ih.mpr ⟨hrounds, by simpa using hlt⟩]

/-! ## Punctuation -/

theorem Blanks.stops {b : List Char} (hb : Blanks b) : Stops b := by
  cases b with
  | nil => exact .nil
  | cons d b =>
    refine clear_cons.mpr ?_
    have hd := hb d (by simp)
    simp only [isBlank, Bool.or_eq_true, decide_eq_true_eq] at hd
    rcases hd with ((rfl | rfl) | rfl) | rfl <;> decide

/-- A text goes on with an item of a container. -/
def Opens (close : Char) (s : List Char) : Prop :=
  ∃ c rest, s = c :: rest ∧ isBlank c = false ∧ c ≠ close

/-- What a loop needs to know of its punctuation and its items. The punctuation reads `lead`, the
front of an item, and the items are read after it. -/
structure Container (next : Bool → List Char → Except Fault Next) (close : Char) (lead : List Char)
    (item : Reader α) (P : α → List Char → Prop) : Prop where
  closed {isFirst s rest} : next isFirst s = .ok (.closed rest) ↔
    ∃ b, Blanks b ∧ s = b ++ close :: rest
  first {s s'} : next true s = .ok (.item s') ↔
    Opens close (lead ++ s') ∧ ∃ b, Blanks b ∧ s = b ++ (lead ++ s')
  later {s s'} : next false s = .ok (.item s') ↔
    Opens close (lead ++ s') ∧ ∃ b b', Blanks b ∧ Blanks b' ∧ s = b ++ ',' :: (b' ++ (lead ++ s'))
  stops : continuesNumber close = false
  opens {x t rest} : P x t → Opens close (t ++ rest)
  sound {s x rest} : Opens close (lead ++ s) → item s = .ok (x, rest) →
    ∃ t, P x t ∧ lead ++ s = t ++ rest
  complete {x t rest} : P x t → Stops rest → ∃ s, lead ++ s = t ++ rest ∧ item s = .ok (x, rest)

namespace Container

variable {next : Bool → List Char → Except Fault Next} {close : Char} {lead : List Char}
  {item : Reader α} {P : α → List Char → Prop} {xs : List α} {ts s rest : List Char}

theorem following_of_rounds (h : Container next close lead item P)
    (hr : Rounds next item false s xs rest) : ∃ ts, Following P xs ts ∧ s = ts ++ close :: rest := by
  generalize hf : false = isFirst at hr
  induction hr with
  | closed hn =>
    obtain ⟨b, hb, rfl⟩ := h.closed.mp hn
    exact ⟨b, .last hb, rfl⟩
  | item hn hx _ ih =>
    subst hf
    obtain ⟨hopens, b, b', hb, hb', rfl⟩ := h.later.mp hn
    obtain ⟨t, ht, hlead⟩ := h.sound hopens hx
    obtain ⟨ts, hts, rfl⟩ := ih rfl
    exact ⟨_, .next hb hb' ht hts, by simp [hlead]⟩

theorem listed_of_rounds (h : Container next close lead item P)
    (hr : Rounds next item true s xs rest) : ∃ body, Listed P xs body ∧ s = body ++ close :: rest := by
  cases hr with
  | closed hn =>
    obtain ⟨b, hb, rfl⟩ := h.closed.mp hn
    exact ⟨b, .none hb, rfl⟩
  | item hn hx hr =>
    obtain ⟨hopens, b, hb, rfl⟩ := h.first.mp hn
    obtain ⟨t, ht, hlead⟩ := h.sound hopens hx
    obtain ⟨ts, hts, rfl⟩ := h.following_of_rounds hr
    exact ⟨_, .some hb ht hts, by simp [hlead]⟩

theorem stops_following (h : Container next close lead item P) (hts : Following P xs ts) :
    Stops (ts ++ close :: rest) := by
  cases hts with
  | last hb => exact hb.stops.append (clear_cons.mpr h.stops)
  | next hb _ _ _ => exact (hb.stops.append (clear_cons.mpr (by decide))).append (clear_cons.mpr h.stops)

theorem rounds_of_following (h : Container next close lead item P) (hts : Following P xs ts) :
    Rounds next item false (ts ++ close :: rest) xs rest := by
  induction hts with
  | last hb => exact .closed (h.closed.mpr ⟨_, hb, rfl⟩)
  | next hb hb' ht hts ih =>
    obtain ⟨s', hlead, hitem⟩ := h.complete ht (h.stops_following hts)
    refine .item (h.later.mpr ⟨?_, _, _, hb, hb', ?_⟩) hitem ih
    · rw [hlead]
      exact h.opens ht
    · simp [hlead]

theorem rounds_of_listed (h : Container next close lead item P) {body : List Char}
    (hb : Listed P xs body) : Rounds next item true (body ++ close :: rest) xs rest := by
  cases hb with
  | none hb => exact .closed (h.closed.mpr ⟨_, hb, rfl⟩)
  | some hb ht hts =>
    obtain ⟨s', hlead, hitem⟩ := h.complete ht (h.stops_following hts)
    refine .item (h.first.mpr ⟨?_, _, hb, ?_⟩) hitem (h.rounds_of_following hts)
    · rw [hlead]
      exact h.opens ht
    · simp [hlead]

theorem length_following (hts : Following P xs ts) : xs.length ≤ ts.length := by
  induction hts with
  | last _ => simp
  | next _ _ _ _ ih =>
    simp only [List.length_append, List.length_cons]
    omega

theorem length_listed (h : Container next close lead item P) {body : List Char}
    (hb : Listed P xs body) : xs.length ≤ body.length := by
  cases hb with
  | none _ => simp
  | @some b t ts x xs _ ht hts =>
    have hlen := length_following hts
    obtain ⟨c, r, heq, -, -⟩ : Opens close (t ++ []) := h.opens ht
    rw [List.append_nil] at heq
    simp only [heq, List.length_append, List.length_cons]
    omega

/-- The bound on the rounds is no restriction: the text is longer than the list of its items. -/
theorem itemsIn_iff_rounds (h : Container next close lead item P) :
    itemsIn next item (s.length + 1) true s = .ok (xs, rest) ↔ Rounds next item true s xs rest := by
  rw [itemsIn_eq_ok_iff, and_iff_left_iff_imp]
  intro hr
  obtain ⟨body, hbody, rfl⟩ := h.listed_of_rounds hr
  have := h.length_listed hbody
  simp only [List.length_append]
  omega

theorem itemsIn_iff_listed (h : Container next close lead item P) :
    itemsIn next item (s.length + 1) true s = .ok (xs, rest) ↔
      ∃ body, Listed P xs body ∧ s = body ++ close :: rest := by
  rw [h.itemsIn_iff_rounds]
  constructor
  · exact h.listed_of_rounds
  · rintro ⟨body, hbody, rfl⟩
    exact h.rounds_of_listed hbody

end Container

/-! ## Arrays and objects -/

/-- The characters that can open a value. -/
def opensValue (c : Char) : Bool := opensScalar c || c = '[' || c = '\x7b'

/-- A reader reads exactly the texts of a grammar, after blanks. -/
structure Reads (read : Reader α) (P : α → List Char → Prop) : Prop where
  opens {x t} : P x t → ∃ c rest, t = c :: rest ∧ opensValue c
  sound {s x rest} : read s = .ok (x, rest) → ∃ b t, Blanks b ∧ P x t ∧ s = b ++ (t ++ rest)
  complete {b x t rest} : Blanks b → P x t → Stops rest → read (b ++ (t ++ rest)) = .ok (x, rest)

theorem nextElement_closed_iff {isFirst : Bool} {s rest : List Char} :
    nextElement isFirst s = .ok (.closed rest) ↔ ∃ b, Blanks b ∧ s = b ++ ']' :: rest := by
  constructor
  · intro h
    unfold nextElement at h
    split at h
    · cases h
    next c r hs =>
    obtain ⟨-, b, hb, rfl⟩ := skipBlanks_eq_cons_iff.mp hs
    grind
  · rintro ⟨b, hb, rfl⟩
    rw [nextElement, skipBlanks_append hb, skipBlanks_cons (by decide)]
    rfl

theorem nextElement_first_iff {s s' : List Char} : nextElement true s = .ok (.item s') ↔
    Opens ']' s' ∧ ∃ b, Blanks b ∧ s = b ++ s' := by
  constructor
  · intro h
    unfold nextElement at h
    split at h
    · cases h
    next c r hs =>
    obtain ⟨hc, b, hb, rfl⟩ := skipBlanks_eq_cons_iff.mp hs
    split at h
    · cases h
    next hne =>
    cases h
    exact ⟨⟨c, r, rfl, hc, hne⟩, b, hb, rfl⟩
  · rintro ⟨⟨c, r, rfl, hc, hne⟩, b, hb, rfl⟩
    rw [nextElement, skipBlanks_append hb, skipBlanks_cons hc]
    simp [hne]

theorem nextElement_later_iff {s s' : List Char} : nextElement false s = .ok (.item s') ↔
    Opens ']' s' ∧ ∃ b b', Blanks b ∧ Blanks b' ∧ s = b ++ ',' :: (b' ++ s') := by
  constructor
  · intro h
    unfold nextElement at h
    split at h
    · cases h
    next c r hs =>
    obtain ⟨hc, b, hb, rfl⟩ := skipBlanks_eq_cons_iff.mp hs
    split at h
    · cases h
    rw [if_neg (by decide)] at h
    split at h
    swap
    · cases h
    next hcomma =>
    split at h
    · cases h
    next d r' hs' =>
    obtain ⟨hd, b', hb', rfl⟩ := skipBlanks_eq_cons_iff.mp hs'
    split at h
    · cases h
    next hne =>
    cases h
    exact ⟨⟨d, r', rfl, hd, hne⟩, b, b', hb, hb', by rw [hcomma]⟩
  · rintro ⟨⟨c, r, rfl, hc, hne⟩, b, b', hb, hb', rfl⟩
    rw [nextElement, skipBlanks_append hb, skipBlanks_cons (by decide)]
    dsimp only
    rw [skipBlanks_append hb', skipBlanks_cons hc]
    simp [hne]

theorem opens_of_opensValue {c : Char} {s : List Char} (h : opensValue c) : Opens ']' (c :: s) := by
  refine ⟨c, s, rfl, ?_, ?_⟩
  · rw [Bool.eq_false_iff]
    intro hblank
    simp only [isBlank, Bool.or_eq_true, decide_eq_true_eq] at hblank
    rcases hblank with ((rfl | rfl) | rfl) | rfl <;> simp [opensValue, opensScalar] at h
  · rintro rfl
    simp [opensValue, opensScalar] at h

theorem Blanks.eq_nil {close : Char} {b s : List Char} (hb : Blanks b) (h : Opens close (b ++ s)) : b = [] := by
  cases b with
  | nil => rfl
  | cons d b =>
    obtain ⟨c, r, heq, hc, -⟩ := h
    have hd := hb d (by simp)
    cases heq
    rw [hc] at hd
    cases hd

theorem Reads.elements {item : Reader α} {P : α → List Char → Prop} (h : Reads item P) :
    Container nextElement ']' [] item P where
  closed := nextElement_closed_iff
  first := nextElement_first_iff
  later := nextElement_later_iff
  stops := by decide
  opens hp := by
    obtain ⟨c, t, rfl, hc⟩ := h.opens hp
    exact opens_of_opensValue hc
  sound hopens hx := by
    obtain ⟨b, t, hb, ht, rfl⟩ := h.sound hx
    cases hb.eq_nil hopens
    exact ⟨t, ht, rfl⟩
  complete hp hr := ⟨_, rfl, h.complete blanks_nil hp hr⟩

theorem nextKey_closed_iff {isFirst : Bool} {s rest : List Char} :
    nextKey isFirst s = .ok (.closed rest) ↔ ∃ b, Blanks b ∧ s = b ++ '\x7d' :: rest := by
  constructor
  · intro h
    unfold nextKey at h
    split at h
    · cases h
    next c r hs =>
    obtain ⟨-, b, hb, rfl⟩ := skipBlanks_eq_cons_iff.mp hs
    grind
  · rintro ⟨b, hb, rfl⟩
    rw [nextKey, skipBlanks_append hb, skipBlanks_cons (by decide)]
    rfl

theorem opens_quote (s : List Char) : Opens '\x7d' ('"' :: s) := ⟨'"', s, rfl, by decide, by decide⟩

theorem nextKey_first_iff {s s' : List Char} : nextKey true s = .ok (.item s') ↔
    Opens '\x7d' ('"' :: s') ∧ ∃ b, Blanks b ∧ s = b ++ '"' :: s' := by
  constructor
  · intro h
    unfold nextKey at h
    split at h
    · cases h
    next c r hs =>
    obtain ⟨-, b, hb, rfl⟩ := skipBlanks_eq_cons_iff.mp hs
    split at h
    · cases h
    rw [if_pos rfl] at h
    split at h
    swap
    · cases h
    next hquote =>
    cases h
    exact ⟨opens_quote _, b, hb, by rw [hquote]⟩
  · rintro ⟨-, b, hb, rfl⟩
    rw [nextKey, skipBlanks_append hb, skipBlanks_cons (by decide)]
    rfl

theorem nextKey_later_iff {s s' : List Char} : nextKey false s = .ok (.item s') ↔
    Opens '\x7d' ('"' :: s') ∧ ∃ b b', Blanks b ∧ Blanks b' ∧ s = b ++ ',' :: (b' ++ '"' :: s') := by
  constructor
  · intro h
    unfold nextKey at h
    split at h
    · cases h
    next c r hs =>
    obtain ⟨-, b, hb, rfl⟩ := skipBlanks_eq_cons_iff.mp hs
    split at h
    · cases h
    rw [if_neg (by decide)] at h
    split at h
    swap
    · cases h
    next hcomma =>
    split at h
    · cases h
    next d r' hs' =>
    obtain ⟨-, b', hb', rfl⟩ := skipBlanks_eq_cons_iff.mp hs'
    split at h
    swap
    · cases h
    next hquote =>
    cases h
    exact ⟨opens_quote _, b, b', hb, hb', by rw [hcomma, hquote]⟩
  · rintro ⟨-, b, b', hb, hb', rfl⟩
    rw [nextKey, skipBlanks_append hb, skipBlanks_cons (by decide)]
    dsimp only
    rw [skipBlanks_append hb', skipBlanks_cons (by decide)]
    rfl

theorem colon_eq_ok_iff {s rest : List Char} :
    colon s = .ok rest ↔ ∃ b, Blanks b ∧ s = b ++ ':' :: rest := by
  constructor
  · intro h
    unfold colon at h
    split at h
    · cases h
    next c r hs =>
    obtain ⟨-, b, hb, rfl⟩ := skipBlanks_eq_cons_iff.mp hs
    split at h
    swap
    · cases h
    next hcolon =>
    cases h
    exact ⟨b, hb, by rw [hcolon]⟩
  · rintro ⟨b, hb, rfl⟩
    rw [colon, skipBlanks_append hb, skipBlanks_cons (by decide)]
    rfl

theorem member_eq_ok_iff {κ : Type} {key : Reader κ} {item : Reader α} {s rest : List Char} {k : κ} {x : α} :
    member key item s = .ok ((k, x), rest) ↔ ∃ s₁ s₂, key s = .ok (k, s₁) ∧ colon s₁ = .ok s₂ ∧
      item s₂ = .ok (x, rest) := by
  rw [member]
  constructor
  · intro h
    split at h
    · cases h
    next hk =>
    split at h
    · cases h
    next hc =>
    split at h
    · cases h
    next hx =>
    cases h
    exact ⟨_, _, hk, hc, hx⟩
  · rintro ⟨s₁, s₂, hk, hc, hx⟩
    simp [hk, hc, hx]

theorem Reads.members {item : Reader α} {P : α → List Char → Prop} (h : Reads item P) :
    Container nextKey '\x7d' ['"'] (member Json.string item) (MemberWritten P) where
  closed := nextKey_closed_iff
  first := nextKey_first_iff
  later := nextKey_later_iff
  stops := by decide
  opens hp := by
    cases hp
    exact opens_quote _
  sound {s m rest} _ hx := by
    obtain ⟨k, x⟩ := m
    obtain ⟨s₁, s₂, hk, hc, hitem⟩ := member_eq_ok_iff.mp hx
    obtain ⟨tk, htk, rfl⟩ := string_eq_ok_iff.mp hk
    obtain ⟨b, hb, rfl⟩ := colon_eq_ok_iff.mp hc
    obtain ⟨b', t, hb', ht, rfl⟩ := h.sound hitem
    exact ⟨_, .member htk hb hb' ht, by simp⟩
  complete {m t rest} hp hr := by
    cases hp with
    | @member k tk b b' t x htk hb hb' ht =>
      refine ⟨tk ++ '"' :: (b ++ ':' :: (b' ++ (t ++ rest))), by simp, ?_⟩
      exact member_eq_ok_iff.mpr ⟨_, _, string_eq_ok_iff.mpr ⟨tk, htk, rfl⟩,
        colon_eq_ok_iff.mpr ⟨b, hb, rfl⟩, h.complete hb' ht hr⟩

theorem elements_eq_ok_iff {item : Reader α} {P : α → List Char → Prop} (h : Reads item P)
    {s rest : List Char} {xs : List α} : elements item s = .ok (xs, rest) ↔
      ∃ body, Listed P xs body ∧ s = body ++ ']' :: rest := by
  rw [elements]
  exact h.elements.itemsIn_iff_listed

theorem members_eq_ok_iff {item : Reader α} {P : α → List Char → Prop} (h : Reads item P)
    {s rest : List Char} {ms : List (List Char × α)} : members Json.string item s = .ok (ms, rest) ↔
      ∃ body, Listed (MemberWritten P) ms body ∧ s = body ++ '\x7d' :: rest := by
  rw [members]
  exact h.members.itemsIn_iff_listed

/-! ## Values -/

theorem scalar_bracket (s : List Char) : scalar ('[' :: s) = .error .malformed := rfl

theorem scalar_brace (s : List Char) : scalar ('\x7b' :: s) = .error .malformed := rfl

theorem value_of_scalar {depth : Nat} {s rest : List Char} {x : Scalar}
    (h : scalar (skipBlanks s) = .ok (x, rest)) : value depth s = .ok (.scalar x, rest) := by
  cases depth <;>
  · rw [value]
    split
    next hs =>
      rw [hs, scalar_bracket] at h
      cases h
    next hs =>
      rw [hs, scalar_brace] at h
      cases h
    next => rw [h]

/-- A value is a scalar, an array or an object, whichever its first character opens. -/
theorem value_eq_ok_iff {depth : Nat} {s rest : List Char} {v : Value} :
    value depth s = .ok (v, rest) ↔
      (∃ x, v = .scalar x ∧ scalar (skipBlanks s) = .ok (x, rest)) ∨
      (∃ d s' vs, depth = d + 1 ∧ v = .array vs ∧ skipBlanks s = '[' :: s' ∧
        elements (value d) s' = .ok (vs, rest)) ∨
      ∃ d s' ms, depth = d + 1 ∧ v = .object ms ∧ skipBlanks s = '\x7b' :: s' ∧
        members Json.string (value d) s' = .ok (ms, rest) := by
  constructor
  · intro h
    cases depth with
    | zero =>
      rw [value] at h
      split at h
      · cases h
      · cases h
      split at h
      · cases h
      next hx =>
      cases h
      exact .inl ⟨_, rfl, hx⟩
    | succ d =>
      rw [value] at h
      split at h
      next hs =>
        split at h
        · cases h
        next hvs =>
        cases h
        exact .inr (.inl ⟨d, _, _, rfl, rfl, hs, hvs⟩)
      next hs =>
        split at h
        · cases h
        next hms =>
        cases h
        exact .inr (.inr ⟨d, _, _, rfl, rfl, hs, hms⟩)
      split at h
      · cases h
      next hx =>
      cases h
      exact .inl ⟨_, rfl, hx⟩
  · rintro (⟨x, rfl, hx⟩ | ⟨d, s', vs, rfl, rfl, hs, hvs⟩ | ⟨d, s', ms, rfl, rfl, hs, hms⟩)
    · exact value_of_scalar hx
    · rw [value, hs]
      simp [hvs]
    · rw [value, hs]
      simp [hms]

theorem written_scalar_iff {depth : Nat} {x : Scalar} {t : List Char} :
    Written depth (.scalar x) t ↔ x.Spelled t := by
  cases depth <;> rfl

theorem Written.opens {depth : Nat} {v : Value} {t : List Char} (h : Written depth v t) :
    ∃ c rest, t = c :: rest ∧ opensValue c := by
  match depth, v, h with
  | _, .scalar x, h =>
    obtain ⟨c, rest, rfl, hc⟩ := (written_scalar_iff.mp h).cons
    exact ⟨c, rest, rfl, by simp [opensValue, hc]⟩
  | _ + 1, .array _, ⟨body, _, ht⟩ => exact ⟨_, _, ht, rfl⟩
  | _ + 1, .object _, ⟨body, _, ht⟩ => exact ⟨_, _, ht, rfl⟩

/-- The reader of values reads exactly the texts of values. -/
theorem value_reads (depth : Nat) : Reads (value depth) (Written depth) := by
  induction depth using Nat.strongRecOn with
  | ind depth ih =>
    refine ⟨Written.opens, fun {s v rest} h => ?_, fun {b v t rest} hb ht hr => ?_⟩
    · obtain ⟨b, hb, hs⟩ := exists_blanks s
      rcases value_eq_ok_iff.mp h with ⟨x, rfl, hx⟩ | ⟨d, s', vs, rfl, rfl, hs', hvs⟩ |
        ⟨d, s', ms, rfl, rfl, hs', hms⟩
      · obtain ⟨t, ht, hrest⟩ := scalar_sound hx
        exact ⟨b, t, hb, written_scalar_iff.mpr ht, by rw [hs, hrest]⟩
      · obtain ⟨body, hbody, rfl⟩ := (elements_eq_ok_iff (ih d (by omega))).mp hvs
        exact ⟨b, _, hb, ⟨body, hbody, rfl⟩, by rw [hs, hs']; simp⟩
      · obtain ⟨body, hbody, rfl⟩ := (members_eq_ok_iff (ih d (by omega))).mp hms
        exact ⟨b, _, hb, ⟨body, hbody, rfl⟩, by rw [hs, hs']; simp⟩
    · obtain ⟨c, t', rfl, hc⟩ := ht.opens
      obtain ⟨_, _, heq, hblank, -⟩ := opens_of_opensValue (s := t') hc
      cases heq
      have hskip : skipBlanks (b ++ (c :: t' ++ rest)) = c :: t' ++ rest := by
        rw [skipBlanks_append hb, List.cons_append, skipBlanks_cons hblank]
      rw [value_eq_ok_iff, hskip]
      match depth, v, ht with
      | _, .scalar x, ht => exact .inl ⟨x, rfl, scalar_complete (written_scalar_iff.mp ht) hr⟩
      | d + 1, .array vs, ⟨body, hbody, ht⟩ =>
        refine .inr (.inl ⟨d, body ++ ']' :: rest, vs, rfl, rfl, by rw [ht]; simp, ?_⟩)
        exact (elements_eq_ok_iff (ih d (by omega))).mpr ⟨body, hbody, rfl⟩
      | d + 1, .object ms, ⟨body, hbody, ht⟩ =>
        refine .inr (.inr ⟨d, body ++ '\x7d' :: rest, ms, rfl, rfl, by rw [ht]; simp, ?_⟩)
        exact (members_eq_ok_iff (ih d (by omega))).mpr ⟨body, hbody, rfl⟩

/-! ## Documents -/

theorem decode_eq_ok_iff {read : Nat → Reader α} {s : String} {x : α} :
    decode read s = .ok x ↔ ∃ rest, read depthLimit s.toList = .ok (x, rest) ∧ Blanks rest := by
  rw [decode]
  constructor
  · intro h
    split at h
    · cases h
    next rest hx =>
    split at h
    swap
    · cases h
    next hrest =>
    cases h
    exact ⟨rest, hx, skipBlanks_eq_nil_iff.mp (List.isEmpty_iff.mp hrest)⟩
  · rintro ⟨rest, hx, hrest⟩
    simp [hx, skipBlanks_eq_nil_iff.mpr hrest]

/-- **Parsing accepts exactly the documents**, and gives the value that is written. -/
theorem parse_eq_ok_iff {s : String} {v : Value} : parse s = .ok v ↔ Document v s.toList := by
  rw [parse, decode_eq_ok_iff]
  constructor
  · rintro ⟨rest, hv, hrest⟩
    obtain ⟨b, t, hb, ht, hs⟩ := (value_reads depthLimit).sound hv
    exact ⟨b, t, rest, hb, ht, hrest, hs⟩
  · rintro ⟨b, t, b', hb, ht, hb', hs⟩
    exact ⟨b', by rw [hs]; exact (value_reads depthLimit).complete hb ht hb'.stops, hb'⟩

end ShardSearch.Json
