/-
Which tokens are ordinals, and what they resolve to.

A numeral is described by its digits and their places (`Numeral`), and the reader of counts accepts
exactly the numerals below `2 ^ 64` (`count?_eq_some_iff`). That reader judges the size of a number once it
has all of it. Reading into a word of 64 bits has to notice at each digit that the word would wrap
around (`wordFrom`); both give the same count, because what is read after a digit can only make the
number larger (`wordFrom_eq`). An identifier made from a number, read from an integer or read from the
string of its digits is one identifier, and the entry that it names is the one at that place.
-/
import ShardSearch.Proofs.RoundTrip

namespace ShardSearch

namespace Text

open Json

/-! ## Numerals -/

/-- The value of digits by their places, the last of which counts ones. -/
def decimalValue (ds : List Char) : Nat := Nat.ofDigits 10 (ds.map fun d => d.toNat - '0'.toNat).reverse

/-- The numerals of a number: at least one digit, after a plus sign or not. -/
inductive Numeral : List Char → Nat → Prop
  | plain {ds : List Char} : Digits ds → Numeral ds (decimalValue ds)
  | signed {ds : List Char} : Digits ds → Numeral ('+' :: ds) (decimalValue ds)

theorem ofDigitChars_eq (ds : List Char) (a : Nat) :
    Nat.ofDigitChars 10 ds a = 10 ^ ds.length * a + decimalValue ds := by
  induction ds generalizing a with
  | nil => simp [Nat.ofDigitChars, decimalValue]
  | cons d ds ih =>
    have hplace : decimalValue (d :: ds) = decimalValue ds + 10 ^ ds.length * (d.toNat - '0'.toNat) := by
      rw [decimalValue, List.map_cons, Nat.ofDigits_reverse_cons, List.length_map, decimalValue]
    rw [Nat.ofDigitChars_cons, ih, hplace, List.length_cons]
    ring

theorem digitValue?_eq_some_iff {c : Char} {d : Nat} :
    digitValue? c = some d ↔ c.isDigit ∧ c.toNat - '0'.toNat = d := by
  simp [digitValue?]

theorem isDigit_of_digitsValueFrom {s : List Char} {a n : Nat} (h : digitsValueFrom a s = some n) :
    ∀ c ∈ s, c.isDigit := by
  induction s generalizing a with
  | nil => simp
  | cons c s ih =>
    obtain ⟨d, hd, hrest⟩ := Option.bind_eq_some_iff.mp h
    exact List.forall_mem_cons.mpr ⟨(digitValue?_eq_some_iff.mp hd).1, ih hrest⟩

theorem digitsValueFrom_eq_some_iff {s : List Char} {a n : Nat} : digitsValueFrom a s = some n ↔
    (∀ c ∈ s, c.isDigit) ∧ n = 10 ^ s.length * a + decimalValue s := by
  constructor
  · intro h
    have hdigits := isDigit_of_digitsValueFrom h
    rw [digitsValueFrom_eq hdigits, ofDigitChars_eq, Option.some_inj] at h
    exact ⟨hdigits, h.symm⟩
  · rintro ⟨hdigits, rfl⟩
    rw [digitsValueFrom_eq hdigits, ofDigitChars_eq]

theorem digitsValue?_eq_some_iff {s : List Char} {n : Nat} :
    digitsValue? s = some n ↔ Digits s ∧ n = decimalValue s := by
  cases s with
  | nil => simp [digitsValue?, Digits]
  | cons c s => simp [digitsValue?, digitsValueFrom_eq_some_iff, Digits]

theorem numeral_iff {s : List Char} {n : Nat} : Numeral s n ↔ digitsValue? (unsigned s) = some n := by
  rw [digitsValue?_eq_some_iff]
  unfold unsigned
  split
  next rest =>
    constructor
    · intro h
      cases h with
      | plain hds => simpa using hds.2 '+' (by simp)
      | signed hds => exact ⟨hds, rfl⟩
    · rintro ⟨hds, rfl⟩
      exact .signed hds
  next s hplus =>
    constructor
    · intro h
      cases h with
      | plain hds => exact ⟨hds, rfl⟩
      | signed _ => exact absurd rfl (hplus _)
    · rintro ⟨hds, rfl⟩
      exact .plain hds

/-- The counts that are read are those of the numerals within 64 bits. -/
theorem count?_eq_some_iff {s : String} {n : Nat} : count? s = some n ↔ Numeral s.toList n ∧ n < 2 ^ 64 := by
  rw [count?, Option.filter_eq_some_iff, numeral_iff, decide_eq_true_eq]
  rfl

/-! ## Reading into a word -/

/-- Puts a digit behind the digits in a word, with arithmetic that wraps around: the product is
checked by dividing it again, and the sum by comparing it with what it was added to. -/
def pushDigit? (w d : UInt64) : Option UInt64 :=
  if 10 * w / 10 = w then
    if 10 * w + d < 10 * w then none else some (10 * w + d)
  else none

/-- The word of the digits in `w` and those read after them, absent at the first character that is no
digit or does not fit. -/
def wordFrom (w : UInt64) : List Char → Option UInt64
  | [] => some w
  | c :: rest =>
    (digitValue? c).bind fun d => (pushDigit? w (UInt64.ofNat d)).bind fun w => wordFrom w rest

/-- The count of a numeral, read digit by digit into a word. -/
def word? (s : String) : Option UInt64 :=
  match unsigned s.toList with
  | [] => none
  | ds => wordFrom 0 ds

theorem toNat_tens (w : UInt64) : (10 * w).toNat = 10 * w.toNat % 2 ^ 64 := UInt64.toNat_mul 10 w

theorem tens_div_eq_iff {w : UInt64} : 10 * w / 10 = w ↔ 10 * w.toNat < 2 ^ 64 := by
  have hdiv : (10 * w / 10).toNat = 10 * w.toNat % 2 ^ 64 / 10 := by
    rw [UInt64.toNat_div, toNat_tens]
    rfl
  rw [← UInt64.toNat_inj, hdiv]
  omega

theorem tens_add_lt_iff {w d : UInt64} (h : 10 * w.toNat < 2 ^ 64) :
    10 * w + d < 10 * w ↔ 2 ^ 64 ≤ 10 * w.toNat + d.toNat := by
  have hd := d.toNat_lt
  rw [UInt64.lt_iff_toNat_lt, UInt64.toNat_add, toNat_tens]
  omega

theorem pushDigit?_eq_some {w d : UInt64} (h : 10 * w.toNat + d.toNat < 2 ^ 64) :
    ∃ v, pushDigit? w d = some v ∧ v.toNat = 10 * w.toNat + d.toNat := by
  have htens : 10 * w.toNat < 2 ^ 64 := by omega
  refine ⟨10 * w + d, ?_, ?_⟩
  · rw [pushDigit?, if_pos (tens_div_eq_iff.mpr htens), if_neg (by rw [tens_add_lt_iff htens]; omega)]
  · rw [UInt64.toNat_add, toNat_tens, Nat.mod_eq_of_lt htens, Nat.mod_eq_of_lt h]

theorem pushDigit?_eq_none {w d : UInt64} (h : 2 ^ 64 ≤ 10 * w.toNat + d.toNat) : pushDigit? w d = none := by
  rw [pushDigit?]
  split
  next hdiv => exact if_pos ((tens_add_lt_iff (tens_div_eq_iff.mp hdiv)).mpr h)
  next => rfl

theorem le_of_digitsValueFrom {s : List Char} {a n : Nat} (h : digitsValueFrom a s = some n) : a ≤ n := by
  obtain ⟨-, rfl⟩ := digitsValueFrom_eq_some_iff.mp h
  exact Nat.le_add_right_of_le (Nat.le_mul_of_pos_left a (by positivity))

/-- The digit at which the word would wrap around is found exactly if the number does not fit. -/
theorem wordFrom_eq (w : UInt64) (s : List Char) :
    (wordFrom w s).map UInt64.toNat = (digitsValueFrom w.toNat s).filter (· < wordBound) := by
  induction s generalizing w with
  | nil =>
    have hfits : w.toNat < wordBound := w.toNat_lt
    rw [wordFrom, digitsValueFrom, Option.map_some, Option.filter_some, if_pos (by simpa using hfits)]
  | cons c s ih =>
    rw [wordFrom, digitsValueFrom]
    cases hc : digitValue? c with
    | none => rfl
    | some d =>
      have hd : d < 10 := by
        obtain ⟨hdigit, rfl⟩ := digitValue?_eq_some_iff.mp hc
        exact digitValue_lt hdigit
      have hword : (UInt64.ofNat d).toNat = d := Nat.mod_eq_of_lt (by omega)
      rw [Option.bind_some, Option.bind_some]
      by_cases hfits : 10 * w.toNat + d < 2 ^ 64
      · obtain ⟨v, hv, hvalue⟩ := pushDigit?_eq_some (w := w) (d := UInt64.ofNat d) (by rwa [hword])
        rw [hv, Option.bind_some, ih, hvalue, hword]
      · rw [pushDigit?_eq_none (by omega), Option.bind_none, Option.map_none]
        symm
        -- the digits that follow cannot make the number smaller again
        refine Option.filter_eq_none_iff.mpr fun n hn => ?_
        have hle := le_of_digitsValueFrom hn
        have hbound : wordBound = 2 ^ 64 := rfl
        simp only [decide_eq_true_eq]
        omega

theorem count?_eq_word? (s : String) : count? s = (word? s).map UInt64.toNat := by
  rw [count?, word?]
  cases unsigned s.toList with
  | nil => rfl
  | cons c ds => exact (wordFrom_eq 0 (c :: ds)).symm

end Text

/-! ## Texts of ordinals -/

namespace Tree

open Json

/-- The values that give a number to an identifier: the integer, and the string of its digits. -/
inductive OrdinalValue (n : Nat) : Value → Prop
  | integer : OrdinalValue n (.scalar (.number (.natural n)))
  | string : OrdinalValue n (.string (toString n))

theorem OrdinalValue.published {n : Nat} {v : Value} (h : OrdinalValue n v) :
    IdPublished v (.ofOrdinal n) := by
  cases h with
  | integer => exact .ordinal n
  | string => exact string_published (toString n)

theorem decode_ordinal {n : Nat} {v : Value} (h : OrdinalValue n v) {s : String} (hs : Document v s.toList) :
    Json.decode readId s = .ok (.ofOrdinal n) :=
  (decode_interprets (readId_interprets _)).mpr ⟨v, hs, h.published⟩

/-- Identifiers of one node, each in either of the two forms. -/
theorem decode_ordinals {ns : List Nat} {vs : List Value} (h : List.Forall₂ OrdinalValue ns vs) {s : String}
    (hs : Document (.array [.object [], .array vs]) s.toList) :
    decode s = .ok (.node .nil (some (ns.map .ofOrdinal))) := by
  have hids : List.Forall₂ IdPublished vs (ns.map .ofOrdinal) :=
    List.forall₂_map_right_iff.mpr (h.flip.imp fun _ _ hv => hv.published)
  exact (decode_interprets (read_interprets _)).mpr
    ⟨_, hs, .keyword .nil (Keyed.collects_toList .nil) hids⟩

theorem digits_textSpelled {ds : List Char} (h : ∀ c ∈ ds, c.isDigit) : TextSpelled ds ds := by
  induction ds with
  | nil => exact .nil
  | cons d ds ih =>
    obtain ⟨hd, hds⟩ := List.forall_mem_cons.mp h
    have hplain : CharSpelled d [d] := by
      refine .plain ?_ ?_ ?_
      · rintro rfl
        cases hd
      · rintro rfl
        cases hd
      · intro hlow
        have hlt : d.toNat < 32 := hlow
        have hle : 48 ≤ d.toNat := (Char.isDigit_iff_toNat.mp hd).1
        omega
    exact .cons hplain (ih hds)

theorem integer_document {n : Nat} (h : n < 2 ^ 64) :
    Document (.scalar (.number (.natural n))) (toString n).toList :=
  ⟨[], _, [], blanks_nil, natural_spelled_iff.mpr ⟨h, rfl⟩, blanks_nil, by simp⟩

theorem string_document (n : Nat) : Document (.string (toString n)) ("\"" ++ toString n ++ "\"").toList := by
  have hspelled : TextSpelled (toString n).toList (toString n).toList := by
    rw [Nat.toString_eq_repr, Nat.toList_repr]
    exact digits_textSpelled (digits_toDigits n).2
  exact ⟨[], _, [], blanks_nil, .string hspelled, blanks_nil, by simp⟩

end Tree

/-! ## What an ordinal resolves to -/

namespace DocumentId

/-- An identifier stands for a number and names the entry at that place of every list that has one. -/
structure Resolves (id : DocumentId) (n : Nat) : Prop where
  ordinal : id.ordinal? = some n
  entry (es : EntryList) (h : n < es.length) : es.lookup id = some es[n]
  beyond (es : EntryList) (h : es.length ≤ n) : es.lookup id = none

theorem resolves_iff {id : DocumentId} {n : Nat} :
    id.Resolves n ↔ Text.Numeral id.token.toList n ∧ n < 2 ^ 64 := by
  rw [← Text.count?_eq_some_iff]
  constructor
  · intro h
    exact h.ordinal
  · intro h
    have hlookup (es : EntryList) : es.lookup id = es[n]? := by
      rw [EntryList.lookup, ordinal?, h, Option.bind_some]
    refine ⟨h, fun es hn => ?_, fun es hn => ?_⟩
    · rw [hlookup, List.getElem?_eq_getElem hn]
    · rw [hlookup, List.getElem?_eq_none hn]

theorem ordinal?_eq_none_iff {id : DocumentId} :
    id.ordinal? = none ↔ ¬ ∃ n, Text.Numeral id.token.toList n ∧ n < 2 ^ 64 := by
  rw [Option.eq_none_iff_forall_ne_some]
  simp only [ordinal?, ne_eq, Text.count?_eq_some_iff, not_exists]

/-- **Ordinals resolve exactly.** A token is the ordinal `n` if it is a numeral of `n`, with any number of
leading zeros and a plus sign or not, and `n` fits in 64 bits; it is found the same way when the digits
are read into a word and a digit that would make the word wrap around ends the reading. The identifier
made for a number, the one read from the integer and the one read from the string of its digits are the
same, in texts of their own and in a node, and it names the entry at that place. Other tokens name no
entry. -/
theorem ordinals_resolve :
    (∀ (id : DocumentId) (n : Nat), id.ordinal? = some n ↔ Text.Numeral id.token.toList n ∧ n < 2 ^ 64) ∧
    (∀ id : DocumentId, id.ordinal? = none ↔ ¬ ∃ n, Text.Numeral id.token.toList n ∧ n < 2 ^ 64) ∧
    (∀ id : DocumentId, id.ordinal? = (Text.word? id.token).map UInt64.toNat) ∧
    (∀ n < 2 ^ 64, (ofOrdinal n).Resolves n ∧
      Json.decode Tree.readId (toString n) = .ok (ofOrdinal n) ∧
      Json.decode Tree.readId ("\"" ++ toString n ++ "\"") = .ok (ofOrdinal n)) ∧
    (∀ (n : Nat) (v : Json.Value) (s : String), Tree.OrdinalValue n v → Json.Document v s.toList →
      Json.decode Tree.readId s = .ok (ofOrdinal n)) ∧
    (∀ (ns : List Nat) (vs : List Json.Value) (s : String), List.Forall₂ Tree.OrdinalValue ns vs →
      Json.Document (.array [.object [], .array vs]) s.toList →
      Tree.decode s = .ok (.node .nil (some (ns.map ofOrdinal)))) ∧
    (∀ (id : DocumentId) (n : Nat), Text.Numeral id.token.toList n → n < 2 ^ 64 → id.Resolves n) ∧
    ∀ (id : DocumentId) (es : EntryList), (¬ ∃ n, Text.Numeral id.token.toList n ∧ n < 2 ^ 64) →
      es.lookup id = none := by
  refine ⟨fun id n => Text.count?_eq_some_iff, fun id => ordinal?_eq_none_iff,
    fun id => Text.count?_eq_word? id.token, fun n hn => ⟨?_, ?_, ?_⟩,
    fun n v s hv hs => Tree.decode_ordinal hv hs, fun ns vs s hvs hs => Tree.decode_ordinals hvs hs,
    fun id n hnumeral hn => resolves_iff.mpr ⟨hnumeral, hn⟩, fun id es hid => ?_⟩
  · exact resolves_iff.mpr (Text.count?_eq_some_iff.mp (Text.count?_toString hn))
  · exact Tree.decode_ordinal .integer (Tree.integer_document hn)
  · exact Tree.decode_ordinal .string (Tree.string_document n)
  · rw [EntryList.lookup, ordinal?_eq_none_iff.mpr hid, Option.bind_none]

/-- The largest ordinal in several forms, and the number after it, which does not come round to the
first entry. -/
theorem ordinals_resolve_largest :
    18446744073709551615 < 2 ^ 64 ∧ (ofOrdinal 18446744073709551615).Resolves 18446744073709551615 ∧
    Tree.decode "[\x7b\x7d,[18446744073709551615,\"1844674407370955161\\u0035\"]]" =
      .ok (.node .nil (some [ofOrdinal 18446744073709551615, ofOrdinal 18446744073709551615])) ∧
    Text.Numeral "+018446744073709551615".toList 18446744073709551615 ∧
    DocumentId.Resolves ⟨"+018446744073709551615"⟩ 18446744073709551615 ∧
    ordinal? ⟨"18446744073709551616"⟩ = none ∧
    EntryList.lookup [⟨"/", "Home"⟩] ⟨"18446744073709551616"⟩ = none := by
  obtain ⟨hsome, hnone, -, hnumber, -, hnode, htoken, hother⟩ := ordinals_resolve
  obtain ⟨hsigned, hfits⟩ := (hsome ⟨"+018446744073709551615"⟩ 18446744073709551615).mp (by rfl)
  have hbeyond : ordinal? ⟨"18446744073709551616"⟩ = none := by rfl
  have hparsed : Json.parse "[\x7b\x7d,[18446744073709551615,\"1844674407370955161\\u0035\"]]" =
      .ok (.array [.object [], .array [.scalar (.number (.natural 18446744073709551615)),
        .string (toString 18446744073709551615)]]) := by rfl
  exact ⟨hfits, (hnumber _ hfits).1,
    hnode [18446744073709551615, 18446744073709551615] _ _ (.cons .integer (.cons .string .nil))
      (Json.parse_eq_ok_iff.mp hparsed),
    hsigned, htoken _ _ hsigned hfits, hbeyond, hother _ _ ((hnone _).mp hbeyond)⟩

-- The empty token is no numeral, nor is a sign alone, a minus, two signs, a blank or a digit of another script.
example : ["", "+", "-0", "++1", " 7", "7\u0660"].map (fun s => ordinal? ⟨s⟩) = List.replicate 6 none := by
  decide

end DocumentId

end ShardSearch
