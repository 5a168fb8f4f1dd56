/-
Calls that take turns on one loader, of whatever kind they are.

A turn is a step of one call, which leaves the others where they are, or it is nothing
(`turn_cases`). So what holds at every moment of a run is shown of one turn (`play_invariant`), and
of a turn by looking at the call that moved and at another one (`getElem?_set_call`).
-/
import Mathlib
import ShardSearch.Load.Overlap

namespace ShardSearch.Calls

variable {κ σ : Type} {m : Machine κ σ} {source : Source} {s : Calls κ σ} {i : Nat} {arg : κ} {stage : σ}

/-! ## One turn -/

/-- A step is a step of one call, and replaces that call. -/
theorem step?_eq_some_iff {next : Calls κ σ} : s.step? m source i = some next ↔
    ∃ arg stage s' stage', s.calls[i]? = some (arg, stage) ∧
      m.step? source i arg s.toShared stage = some (s', stage') ∧ next = ⟨s', s.calls.set i (arg, stage')⟩ := by
  constructor
  · intro h
    simp only [step?] at h
    split at h
    · cases h
    next arg stage hc =>
    split at h
    · cases h
    next s' stage' hstep =>
    cases h
    exact ⟨arg, stage, s', stage', hc, hstep, rfl⟩
  · rintro ⟨arg, stage, s', stage', hc, hstep, rfl⟩
    simp only [step?, hc, hstep]

/-- What a turn of call `i` does: a step of the call, or nothing. -/
theorem turn_cases (m : Machine κ σ) (source : Source) (s : Calls κ σ) (i : Nat) :
    s.turn m source i = s ∨ ∃ arg stage s' stage', s.calls[i]? = some (arg, stage) ∧
      m.step? source i arg s.toShared stage = some (s', stage') ∧
      s.turn m source i = ⟨s', s.calls.set i (arg, stage')⟩ := by
  rw [turn]
  cases h : s.step? m source i with
  | none => exact .inl rfl
  | some next => exact .inr (step?_eq_some_iff.mp h)

theorem turn_of_call {s' : Shared} {stage' : σ} (hc : s.calls[i]? = some (arg, stage))
    (hstep : m.step? source i arg s.toShared stage = some (s', stage')) :
    s.turn m source i = ⟨s', s.calls.set i (arg, stage')⟩ := by
  rw [turn, step?_eq_some_iff.mpr ⟨arg, stage, s', stage', hc, hstep, rfl⟩, Option.getD_some]

/-- The call that moved stands where its step took it. -/
theorem getElem?_set_self (hc : s.calls[i]? = some (arg, stage)) (stage' : σ) :
    (s.calls.set i (arg, stage'))[i]? = some (arg, stage') :=
  List.getElem?_set_self (List.getElem?_eq_some_iff.mp hc).1

/-- A call that is looked up after a step of call `i`. -/
theorem getElem?_set_call {j : Nat} {arg' : κ} {stage' stage'' : σ} (hc : s.calls[i]? = some (arg, stage))
    (h : (s.calls.set i (arg, stage'))[j]? = some (arg', stage'')) :
    j = i ∧ arg' = arg ∧ stage'' = stage' ∨ j ≠ i ∧ s.calls[j]? = some (arg', stage'') := by
  by_cases hij : j = i
  · subst hij
    rw [getElem?_set_self hc] at h
    cases h
    exact .inl ⟨rfl, rfl, rfl⟩
  · rw [List.getElem?_set_ne (Ne.symm hij)] at h
    exact .inr ⟨hij, h⟩

@[simp, grind =]
theorem length_calls_turn (m : Machine κ σ) (source : Source) (s : Calls κ σ) (i : Nat) :
    (s.turn m source i).calls.length = s.calls.length := by
  rcases turn_cases m source s i with heq | ⟨arg, stage, s', stage', -, -, heq⟩
  · rw [heq]
  · rw [heq, List.length_set]

/-- Calls that have not moved all stand at the start. -/
theorem stage_of_start {args : List κ} {first : σ} (h : (args.map fun a => (a, first))[i]? = some (arg, stage)) :
    stage = first := by
  rw [List.getElem?_map, Option.map_eq_some_iff] at h
  obtain ⟨_, -, heq⟩ := h
  cases heq
  rfl

/-! ## Runs -/

theorem play_cons (m : Machine κ σ) (s : Calls κ σ) (turn : Source × Nat) (turns : List (Source × Nat)) :
    s.play m (turn :: turns) = (s.turn m turn.1 turn.2).play m turns := rfl

theorem play_append (m : Machine κ σ) (s : Calls κ σ) (turns turns' : List (Source × Nat)) :
    s.play m (turns ++ turns') = (s.play m turns).play m turns' :=
  List.foldl_append

theorem play_concat (m : Machine κ σ) (s : Calls κ σ) (turns : List (Source × Nat)) (source : Source) (i : Nat) :
    s.play m (turns ++ [(source, i)]) = (s.play m turns).turn m source i := by
  rw [play_append]
  rfl

theorem run_cons (m : Machine κ σ) (source : Source) (s : Calls κ σ) (i : Nat) (schedule : List Nat) :
    s.run m source (i :: schedule) = (s.turn m source i).run m source schedule := rfl

theorem run_append (m : Machine κ σ) (source : Source) (s : Calls κ σ) (schedule schedule' : List Nat) :
    s.run m source (schedule ++ schedule') = (s.run m source schedule).run m source schedule' := by
  rw [run, List.map_append, play_append, ← run, ← run]

/-- What every turn keeps holds after every run. -/
theorem play_invariant {P : Calls κ σ → Prop} (hturn : ∀ s source i, P s → P (s.turn m source i)) (h : P s)
    (turns : List (Source × Nat)) : P (s.play m turns) := by
  induction turns generalizing s with
  | nil => exact h
  | cons turn turns ih => exact ih (hturn s turn.1 turn.2 h)

/-- What every turn on one index keeps holds after every run on it. -/
theorem run_invariant {P : Calls κ σ → Prop} (hturn : ∀ s i, P s → P (s.turn m source i)) (h : P s)
    (schedule : List Nat) : P (s.run m source schedule) := by
  induction schedule generalizing s with
  | nil => exact h
  | cons i schedule ih => exact ih (hturn s i h)

@[simp, grind =]
theorem length_calls_play (m : Machine κ σ) (s : Calls κ σ) (turns : List (Source × Nat)) :
    (s.play m turns).calls.length = s.calls.length :=
  play_invariant (P := fun s' => s'.calls.length = s.calls.length)
    (fun s' source i h => (length_calls_turn m source s' i).trans h) rfl turns

/-! ## Where loads stand -/

/-- Where the loads of all calls stand, by where the calls stand. -/
def phases (phase : σ → Phase) (s : Calls κ σ) : List Phase := s.calls.map fun call => phase call.2

variable {phase : σ → Phase}

theorem phases_of_call (phase : σ → Phase) (h : s.calls[i]? = some (arg, stage)) :
    (s.phases phase)[i]? = some (phase stage) := by
  rw [phases, List.getElem?_map, h, Option.map_some]

theorem call_of_phases {p : Phase} (h : (s.phases phase)[i]? = some p) :
    ∃ arg stage, s.calls[i]? = some (arg, stage) ∧ phase stage = p := by
  rw [phases, List.getElem?_map, Option.map_eq_some_iff] at h
  obtain ⟨⟨arg, stage⟩, hc, rfl⟩ := h
  exact ⟨arg, stage, hc, rfl⟩

theorem phases_set (phase : σ → Phase) (s : Calls κ σ) (s' : Shared) (i : Nat) (arg : κ) (stage : σ) :
    phases phase ⟨s', s.calls.set i (arg, stage)⟩ = (s.phases phase).set i (phase stage) := by
  simp only [phases, List.map_set]

@[simp, grind =]
theorem length_phases (phase : σ → Phase) (s : Calls κ σ) : (s.phases phase).length = s.calls.length := by
  rw [phases, List.length_map]

end ShardSearch.Calls
