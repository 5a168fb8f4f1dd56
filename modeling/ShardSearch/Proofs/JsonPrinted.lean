/-
Printed values are texts of those values.

The printer writes each character of a string in one of the ways in which the grammar spells it, and
puts between tokens only what the grammar allows there. So what it prints for a value is a text of
it in both layouts (`printAt_written`), as long as the numbers in it are integers without a sign. A
text exists within a limit on open containers exactly if the value is no deeper than that
(`Written.depth_le`).
-/
import ShardSearch.Json.Printer
import ShardSearch.Proofs.JsonGrammar

namespace ShardSearch.Json

/-! ## How deep a value is -/

namespace Value

mutual

/-- The number of containers that are open at once in a value. -/
def depth : Value → Nat
  | .scalar _ => 0
  | .array vs => itemsDepth vs + 1
  | .object ms => membersDepth ms + 1

/-- The depth of the deepest item. -/
def itemsDepth : List Value → Nat
  | [] => 0
  | v :: vs => max v.depth (itemsDepth vs)

/-- The depth of the deepest member. -/
def membersDepth : List (List Char × Value) → Nat
  | [] => 0
  | (_, v) :: ms => max v.depth (membersDepth ms)

end

theorem itemsDepth_le_iff {vs : List Value} {d : Nat} : itemsDepth vs ≤ d ↔ ∀ v ∈ vs, v.depth ≤ d := by
  induction vs with
  | nil => simp [itemsDepth]
  | cons v vs ih => simp [itemsDepth, ih]

theorem membersDepth_le_iff {ms : List (List Char × Value)} {d : Nat} :
    membersDepth ms ≤ d ↔ ∀ m ∈ ms, m.2.depth ≤ d := by
  induction ms with
  | nil => simp [membersDepth]
  | cons m ms ih =>
    obtain ⟨k, v⟩ := m
    simp [membersDepth, ih]

theorem depth_array_le_iff {vs : List Value} {d : Nat} :
    (Value.array vs).depth ≤ d ↔ ∃ e, d = e + 1 ∧ ∀ v ∈ vs, v.depth ≤ e := by
  rw [depth]
  constructor
  · intro h
    exact ⟨d - 1, by omega, itemsDepth_le_iff.mp (by omega)⟩
  · rintro ⟨e, rfl, h⟩
    exact Nat.succ_le_succ (itemsDepth_le_iff.mpr h)

theorem depth_object_le_iff {ms : List (List Char × Value)} {d : Nat} :
    (Value.object ms).depth ≤ d ↔ ∃ e, d = e + 1 ∧ ∀ m ∈ ms, m.2.depth ≤ e := by
  rw [depth]
  constructor
  · intro h
    exact ⟨d - 1, by omega, membersDepth_le_iff.mp (by omega)⟩
  · rintro ⟨e, rfl, h⟩
    exact Nat.succ_le_succ (membersDepth_le_iff.mpr h)

end Value

theorem Listed.exists_text {α : Type} {P : α → List Char → Prop} {xs : List α} {body : List Char}
    (h : Listed P xs body) : ∀ x ∈ xs, ∃ t, P x t := by
  have hfollowing {xs : List α} {ts : List Char} (h : Following P xs ts) : ∀ x ∈ xs, ∃ t, P x t := by
    induction h with
    | last _ => simp
    | next _ _ ht _ ih =>
      intro x hx
      rcases List.mem_cons.mp hx with rfl | hx
      · exact ⟨_, ht⟩
      · exact ih x hx
  cases h with
  | none _ => simp
  | some _ ht hts =>
    intro x hx
    rcases List.mem_cons.mp hx with rfl | hx
    · exact ⟨_, ht⟩
    · exact hfollowing hts x hx

theorem Written.depth_le {d : Nat} {v : Value} {t : List Char} (h : Written d v t) : v.depth ≤ d := by
  induction d generalizing v t with
  | zero =>
    cases v with
    | scalar x => simp [Value.depth]
    | array vs => exact h.elim
    | object ms => exact h.elim
  | succ d ih =>
    cases v with
    | scalar x => simp [Value.depth]
    | array vs =>
      obtain ⟨body, hbody, -⟩ := h
      refine Value.depth_array_le_iff.mpr ⟨d, rfl, fun v hv => ?_⟩
      obtain ⟨t, ht⟩ := hbody.exists_text v hv
      exact ih ht
    | object ms =>
      obtain ⟨body, hbody, -⟩ := h
      refine Value.depth_object_le_iff.mpr ⟨d, rfl, fun m hm => ?_⟩
      obtain ⟨_, hmember⟩ := hbody.exists_text m hm
      cases hmember with
      | member _ _ _ ht => exact ih ht

/-! ## Strings -/

theorem hexValue?_digitChar {n : Nat} (h : n < 16) : hexValue? (Nat.digitChar n) = some n := by
  have hall : ∀ n < 16, hexValue? (Nat.digitChar n) = some n := by decide
  exact hall n h

theorem printChar_spelled (c : Char) : CharSpelled c (printChar c) := by
  unfold printChar
  split
  next h => exact .escape (by rcases h with rfl | rfl <;> rfl)
  next hplain =>
  split
  next h => exact h ▸ .escape rfl
  split
  next h => exact h ▸ .escape rfl
  split
  next h => exact h ▸ .escape rfl
  split
  next h => exact h ▸ .escape rfl
  split
  next h => exact h ▸ .escape rfl
  split
  next hlow =>
    have hlt : c.toNat < 32 := hlow
    have hunit : CodeUnit c.toNat ['0', '0', Nat.digitChar (c.toNat / 16), Nat.digitChar (c.toNat % 16)] := by
      have := CodeUnit.digits (w := 0) (x := 0) (hexValue?_digitChar (n := 0) (by omega))
        (hexValue?_digitChar (n := 0) (by omega)) (hexValue?_digitChar (n := c.toNat / 16) (by omega))
        (hexValue?_digitChar (n := c.toNat % 16) (by omega))
      rwa [show ((0 * 16 + 0) * 16 + c.toNat / 16) * 16 + c.toNat % 16 = c.toNat by omega] at this
    have hspelled := CharSpelled.unit hunit
      (by simp only [isHighSurrogate, Bool.and_eq_false_iff, decide_eq_false_iff_not]; omega)
      (by simp only [isLowSurrogate, Bool.and_eq_false_iff, decide_eq_false_iff_not]; omega)
    rwa [Char.ofNat_toNat] at hspelled
  next hlow =>
    rw [not_or] at hplain
    exact .plain hplain.1 hplain.2 hlow

theorem flatMap_printChar_spelled (s : List Char) : TextSpelled s (s.flatMap printChar) := by
  induction s with
  | nil => exact .nil
  | cons c s ih =>
    rw [List.flatMap_cons]
    exact .cons (printChar_spelled c) ih

theorem printString_eq (s : List Char) : printString s = '"' :: (s.flatMap printChar ++ ['"']) := rfl

/-! ## Values -/

/-- A scalar that is not a number, or is an integer of 64 bits without a sign. -/
def Scalar.Plain : Scalar → Prop
  | .number n => ∃ k, n = .natural k ∧ k < 2 ^ 64
  | _ => True

/-- A value all of whose scalars are plain. -/
inductive Value.Plain : Value → Prop
  | scalar {x : Scalar} : x.Plain → Value.Plain (.scalar x)
  | array {vs : List Value} : (∀ v ∈ vs, v.Plain) → Value.Plain (.array vs)
  | object {ms : List (List Char × Value)} : (∀ m ∈ ms, m.2.Plain) → Value.Plain (.object ms)

theorem printScalar_spelled {x : Scalar} (h : x.Plain) : x.Spelled (printScalar x) := by
  cases x with
  | null => exact .null
  | boolean b =>
    cases b with
    | false => exact .false
    | true => exact .true
  | number n =>
    obtain ⟨k, rfl, hk⟩ := h
    exact natural_spelled_iff.mpr ⟨hk, rfl⟩
  | string s =>
    rw [printScalar, printString_eq]
    exact .string (flatMap_printChar_spelled s)

theorem Layout.break_blanks (layout : Layout) (level : Nat) : Blanks (layout.break level) := by
  cases layout with
  | compact => exact blanks_nil
  | indented =>
    intro c hc
    rcases List.mem_cons.mp hc with rfl | hc
    · rfl
    · rw [(List.mem_replicate.mp hc).2]
      rfl

theorem Layout.colon_eq (layout : Layout) : ∃ b, Blanks b ∧ layout.colon = ':' :: b := by
  cases layout with
  | compact => exact ⟨[], blanks_nil, rfl⟩
  | indented => exact ⟨[' '], by simp [Blanks, isBlank], rfl⟩

theorem printItems_following {P : Value → List Char → Prop} {layout : Layout} {level : Nat} {vs : List Value}
    (h : ∀ v ∈ vs, P v (printAt layout level v)) {b : List Char} (hb : Blanks b) :
    Following P vs (printItems layout level vs ++ b) := by
  induction vs with
  | nil => exact .last hb
  | cons v vs ih =>
    have hnext := Following.next blanks_nil (layout.break_blanks level) (h v (by simp))
      (ih fun w hw => h w (by simp [hw]))
    simpa [printItems] using hnext

/-- What is printed for a member: its key, its colon and its value. -/
def printMember (layout : Layout) (level : Nat) (m : List Char × Value) : List Char :=
  printString m.1 ++ (layout.colon ++ printAt layout level m.2)

theorem printMember_written {P : Value → List Char → Prop} {layout : Layout} {level : Nat}
    {m : List Char × Value} (h : P m.2 (printAt layout level m.2)) :
    MemberWritten P m (printMember layout level m) := by
  obtain ⟨k, v⟩ := m
  obtain ⟨b, hb, hcolon⟩ := layout.colon_eq
  have hmember := MemberWritten.member (flatMap_printChar_spelled k) blanks_nil hb h
  simpa [printMember, printString_eq, hcolon] using hmember

theorem printMembers_following {P : Value → List Char → Prop} {layout : Layout} {level : Nat}
    {ms : List (List Char × Value)} (h : ∀ m ∈ ms, P m.2 (printAt layout level m.2)) {b : List Char}
    (hb : Blanks b) : Following (MemberWritten P) ms (printMembers layout level ms ++ b) := by
  induction ms with
  | nil => exact .last hb
  | cons m ms ih =>
    have hnext := Following.next blanks_nil (layout.break_blanks level)
      (printMember_written (h m (by simp))) (ih fun m' hm' => h m' (by simp [hm']))
    simpa [printMembers, printMember] using hnext

/-- What is printed for a value is a text of it, within any limit that is no less than its depth. -/
theorem printAt_written {layout : Layout} {d : Nat} {v : Value} (hplain : v.Plain) (hdepth : v.depth ≤ d)
    (level : Nat) : Written d v (printAt layout level v) := by
  induction d generalizing v level with
  | zero =>
    cases hplain with
    | scalar hx => exact printScalar_spelled hx
    | array _ => simp [Value.depth] at hdepth
    | object _ => simp [Value.depth] at hdepth
  | succ d ih =>
    cases hplain with
    | scalar hx => exact printScalar_spelled hx
    | @array vs hvs =>
      obtain ⟨e, he, hdepth⟩ := Value.depth_array_le_iff.mp hdepth
      cases he
      have hitem (v : Value) (hv : v ∈ vs) := ih (hvs v hv) (hdepth v hv) (level + 1)
      cases vs with
      | nil => exact ⟨[], .none blanks_nil, rfl⟩
      | cons v vs =>
        refine ⟨_, .some (layout.break_blanks (level + 1)) (hitem v (by simp))
          (printItems_following (fun w hw => hitem w (by simp [hw])) (layout.break_blanks level)), ?_⟩
        simp [printAt]
    | @object ms hms =>
      obtain ⟨e, he, hdepth⟩ := Value.depth_object_le_iff.mp hdepth
      cases he
      have hitem (m : List Char × Value) (hm : m ∈ ms) := ih (hms m hm) (hdepth m hm) (level + 1)
      cases ms with
      | nil => exact ⟨[], .none blanks_nil, rfl⟩
      | cons m ms =>
        refine ⟨_, .some (layout.break_blanks (level + 1)) (printMember_written (hitem m (by simp)))
          (printMembers_following (fun m' hm' => hitem m' (by simp [hm'])) (layout.break_blanks level)), ?_⟩
        simp [printAt, printMember]

theorem print_written {layout : Layout} {d : Nat} {v : Value} (hplain : v.Plain) (hdepth : v.depth ≤ d) :
    Written d v (print layout v).toList := by
  rw [print, String.toList_ofList]
  exact printAt_written hplain hdepth 0

end ShardSearch.Json
