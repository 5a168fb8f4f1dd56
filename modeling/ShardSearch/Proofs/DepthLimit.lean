/-
The limit on open containers only refuses.

With a larger limit a reader gives the same answer, or an answer where a smaller limit found the text
malformed (`Restricts`). That holds of the reader of values and of the readers of trees, so what a text
decodes to can be found with a limit that is large enough for it. What it decodes to with the limit
that is in force is then the same, or that it is malformed (`decode_print_of_deep`).
-/
import ShardSearch.Proofs.JsonPrinted
import ShardSearch.Proofs.WireForm

namespace ShardSearch

namespace Json

variable {α κ : Type}

/-- A reader gives the answer of another reader, or finds the text malformed. -/
def Restricts (narrow wide : Reader α) : Prop := ∀ s, narrow s = .error .malformed ∨ narrow s = wide s

namespace Restricts

theorem itemsIn {next : Bool → List Char → Except Fault Next} {narrow wide : Reader α}
    (h : Restricts narrow wide) (rounds : Nat) (isFirst : Bool) :
    Restricts (itemsIn next narrow rounds isFirst) (itemsIn next wide rounds isFirst) := by
  induction rounds generalizing isFirst with
  | zero => exact fun s => .inr rfl
  | succ rounds ih =>
    intro s
    simp only [Json.itemsIn]
    rcases next isFirst s with f | rest | s
    · exact .inr rfl
    · exact .inr rfl
    dsimp only
    rcases h s with hs | hs
    · exact .inl (by rw [hs])
    rw [hs]
    rcases wide s with f | ⟨x, s⟩
    · exact .inr rfl
    dsimp only
    rcases ih false s with hs | hs
    · exact .inl (by rw [hs])
    · exact .inr (by rw [hs])

theorem elements {narrow wide : Reader α} (h : Restricts narrow wide) :
    Restricts (elements narrow) (elements wide) := by
  intro s
  simp only [Json.elements]
  exact h.itemsIn _ _ s

theorem member {key : Reader κ} {narrow wide : Reader α} (h : Restricts narrow wide) :
    Restricts (member key narrow) (member key wide) := by
  intro s
  simp only [Json.member]
  rcases key s with f | ⟨k, s⟩
  · exact .inr rfl
  dsimp only
  rcases colon s with f | s
  · exact .inr rfl
  dsimp only
  rcases h s with hs | hs
  · exact .inl (by rw [hs])
  · exact .inr (by rw [hs])

theorem members {key : Reader κ} {narrow wide : Reader α} (h : Restricts narrow wide) :
    Restricts (members key narrow) (members key wide) := by
  intro s
  simp only [Json.members]
  exact h.member.itemsIn _ _ s

theorem array {expected : Expected} {narrow wide : Nat → Reader α} {d D : Nat} (hle : d ≤ D)
    (h : ∀ d D, d ≤ D → Restricts (narrow d) (wide D)) :
    Restricts (array expected narrow d) (array expected wide D) := by
  intro s
  simp only [Json.array]
  split
  next =>
    cases d with
    | zero => exact .inl rfl
    | succ d =>
      obtain ⟨D, rfl⟩ : ∃ D', D = D' + 1 := ⟨D - 1, by omega⟩
      exact h d D (by omega) _
  next => exact .inr rfl

theorem object {expected : Expected} {narrow wide : Nat → Reader α} {d D : Nat} (hle : d ≤ D)
    (h : ∀ d D, d ≤ D → Restricts (narrow d) (wide D)) :
    Restricts (object expected narrow d) (object expected wide D) := by
  intro s
  simp only [Json.object]
  split
  next =>
    cases d with
    | zero => exact .inl rfl
    | succ d =>
      obtain ⟨D, rfl⟩ : ∃ D', D = D' + 1 := ⟨D - 1, by omega⟩
      exact h d D (by omega) _
  next => exact .inr rfl

end Restricts

theorem value_restricts {d D : Nat} (hle : d ≤ D) : Restricts (value d) (value D) := by
  induction d generalizing D with
  | zero =>
    intro s
    rw [value]
    split
    next => exact .inl rfl
    next => exact .inl rfl
    next =>
      refine .inr ?_
      cases D with
      | zero => simp [value]
      | succ D => simp [value]
  | succ d ih =>
    intro s
    obtain ⟨D, rfl⟩ : ∃ D', D = D' + 1 := ⟨D - 1, by omega⟩
    have hitem : Restricts (value d) (value D) := ih (by omega)
    simp only [value]
    split
    next rest _ =>
      rcases hitem.elements rest with hs | hs
      · exact .inl (by rw [hs])
      · exact .inr (by rw [hs])
    next rest _ =>
      rcases hitem.members rest with hs | hs
      · exact .inl (by rw [hs])
      · exact .inr (by rw [hs])
    next => exact .inr rfl

/-! ## Printed values -/

/-- A reader of what values publish reads it from the text that is printed for them. -/
theorem read_print {read : Reader α} {R : Value → α → Prop} {layout : Layout} {d : Nat} {v : Value} {x : α}
    (hread : Interprets read (value d) R) (hplain : v.Plain) (hdepth : v.depth ≤ d) (hx : R v x) :
    read (print layout v).toList = .ok (x, []) := by
  have hwritten : Written d v (print layout v).toList := print_written hplain hdepth
  have hvalue := (value_reads d).complete blanks_nil hwritten Clear.nil
  rw [List.nil_append, List.append_nil] at hvalue
  exact hread.read_iff.mpr ⟨v, hvalue, hx⟩

/-- A value within the limit is decoded from the text that is printed for it. -/
theorem decode_print {read : Nat → Reader α} {R : Value → α → Prop} {layout : Layout} {v : Value} {x : α}
    (hread : ∀ d, Interprets (read d) (value d) R) (hplain : v.Plain) (hdepth : v.depth ≤ depthLimit)
    (hx : R v x) : decode read (print layout v) = .ok x :=
  decode_eq_ok_iff.mpr ⟨[], read_print (hread _) hplain hdepth hx, blanks_nil⟩

/-- The text that is printed for a value beyond the limit is malformed: the readers can only agree with
those that have a limit large enough for the value, or refuse, and if they agreed they would have read
the value itself, within the limit. -/
theorem decode_print_of_deep {read : Nat → Reader α} {R : Value → α → Prop} {layout : Layout} {v : Value}
    {x : α} (hread : ∀ d, Interprets (read d) (value d) R)
    (hlimit : ∀ {d D}, d ≤ D → Restricts (read d) (read D)) (hplain : v.Plain)
    (hdepth : depthLimit < v.depth) (hx : R v x) : decode read (print layout v) = .error .malformed := by
  have hwide : read v.depth (print layout v).toList = .ok (x, []) :=
    read_print (hread _) hplain le_rfl hx
  rcases hlimit (Nat.le_of_lt hdepth) (print layout v).toList with hs | hs
  · rw [decode, hs]
  -- the narrow reader agrees, so it has read some value, which can only be `v` itself
  rw [hwide] at hs
  obtain ⟨w, hw, -⟩ := (hread _).read_iff.mp hs
  have hv : value v.depth (print layout v).toList = .ok (v, []) :=
    read_print (R := Eq) ⟨by simp⟩ hplain le_rfl rfl
  rcases value_restricts (Nat.le_of_lt hdepth) (print layout v).toList with hs | hs
  · rw [hw] at hs
    cases hs
  · rw [hw, hv] at hs
    cases hs
    obtain ⟨_, _, _, ht, -⟩ := (value_reads _).sound hw
    have := ht.depth_le
    omega

end Json

/-! ## Trees -/

namespace Tree

open Json

theorem readId_restricts {d D : Nat} (hle : d ≤ D) : Restricts (readId d) (readId D) := by
  intro s
  simp only [readId]
  rcases value_restricts hle s with hs | hs
  · exact .inl (by rw [hs])
  · exact .inr (by rw [hs])

theorem readIds_restricts {d D : Nat} (hle : d ≤ D) : Restricts (readIds d) (readIds D) :=
  .array hle fun _ _ hle => (readId_restricts hle).elements

theorem readNodes_restricts {narrow wide : Nat → Reader Tree} {d D : Nat} (hle : d ≤ D)
    (h : ∀ d D, d ≤ D → Restricts (narrow d) (wide D)) :
    Restricts (readNodes narrow d) (readNodes wide D) := by
  refine .object hle fun d D hle s => ?_
  rcases (h d D hle).members s with hs | hs
  · exact .inl (by rw [hs])
  · exact .inr (by rw [hs])

theorem readTail_restricts {children : Keyed Tree} {d D : Nat} (hle : d ≤ D) :
    Restricts (readTail children d) (readTail children D) := by
  intro s
  simp only [readTail]
  rcases nextElement false s with f | rest | s
  · exact .inr rfl
  · exact .inr rfl
  dsimp only
  rcases readIds_restricts hle s with hs | hs
  · exact .inl (by rw [hs])
  · exact .inr (by rw [hs])

theorem readBody_restricts {narrow wide : Nat → Reader (Keyed Tree)} {d D : Nat} (hle : d ≤ D)
    (h : Restricts (narrow d) (wide D)) : Restricts (readBody narrow d) (readBody wide D) := by
  intro s
  simp only [readBody]
  rcases nextElement true s with f | rest | s
  · exact .inr rfl
  · exact .inr rfl
  dsimp only
  rcases h s with hs | hs
  · exact .inl (by rw [hs])
  rw [hs]
  rcases wide D s with f | ⟨children, s⟩
  · exact .inr rfl
  · exact readTail_restricts hle s

theorem readIn_restricts {levels Levels d D : Nat} (hlevels : levels ≤ Levels) (hle : d ≤ D) :
    Restricts (readIn levels d) (readIn Levels D) := by
  induction levels generalizing Levels d D with
  | zero => exact fun s => .inl rfl
  | succ levels ih =>
    obtain ⟨Levels, rfl⟩ : ∃ L, Levels = L + 1 := ⟨Levels - 1, by omega⟩
    have hchild (d D : Nat) (hle : d ≤ D) : Restricts (readIn levels d) (readIn Levels D) :=
      ih (by omega) hle
    exact .array hle fun d D hle => readBody_restricts hle (readNodes_restricts hle hchild)

theorem read_restricts {d D : Nat} (hle : d ≤ D) : Restricts (read d) (read D) :=
  readIn_restricts (Nat.succ_le_succ hle) hle

theorem readMap_restricts {d D : Nat} (hle : d ≤ D) : Restricts (readMap d) (readMap D) :=
  readNodes_restricts hle fun _ _ => read_restricts

end Tree

end ShardSearch
