/-
Paths in a prefix tree, and the walk along them.

A walk only ever follows a path (`path_of_walk`). The converse needs the labels at each node to be
apart: if a label were a prefix of a sibling, the walk would descend too early and miss the
sibling's subtree. In such a tree a needle leads to a node exactly if it spells a path to it
(`walk_eq_some_iff`), so there is at most one.
-/
import ShardSearch.Proofs.KeyedOrder
import ShardSearch.Tree.Walk

namespace ShardSearch.Tree

/-- The labels on the way from a node down to another one, none if they are the same. -/
inductive Path : Tree → List (List Char) → Tree → Prop
  | here (t : Tree) : Path t [] t
  | down {t child u : Tree} {label : List Char} {labels : List (List Char)} :
    (label, child) ∈ t.children → Path child labels u → Path t (label :: labels) u

/-- Whether a needle spells the labels on the way to some node. -/
def Spells (t : Tree) (needle : List Char) : Prop := ∃ labels u, t.Path labels u ∧ labels.flatten = needle

/-- A property of a node and of all nodes below it. -/
def Everywhere (P : Tree → Prop) (t : Tree) : Prop := ∀ labels u, t.Path labels u → P u

theorem everywhere_iff {P : Tree → Prop} {t : Tree} :
    t.Everywhere P ↔ P t ∧ ∀ label child, (label, child) ∈ t.children → child.Everywhere P := by
  constructor
  · intro h
    exact ⟨h [] t (.here t), fun label child hc labels u hu => h (label :: labels) u (.down hc hu)⟩
  · rintro ⟨ht, hc⟩ labels u hu
    cases hu with
    | here => exact ht
    | down hmem hu => exact hc _ _ hmem _ _ hu

/-- The labels at a node are not empty, and none is a prefix of another one. -/
def LabelsApart (t : Tree) : Prop :=
  (∀ a ∈ t.children.keys, a ≠ []) ∧ ∀ a ∈ t.children.keys, ∀ b ∈ t.children.keys, a <+: b → a = b

/-- The labels are apart at every node. -/
def WellFormed (t : Tree) : Prop := t.Everywhere LabelsApart

theorem LabelsApart.ne_nil {t child : Tree} {a : List Char} (h : t.LabelsApart)
    (ha : (a, child) ∈ t.children) : a ≠ [] :=
  h.1 a (List.mem_map_of_mem ha)

theorem LabelsApart.eq_of_prefix {t c d : Tree} {a b : List Char} (h : t.LabelsApart)
    (ha : (a, c) ∈ t.children) (hb : (b, d) ∈ t.children) (hab : a <+: b) : a = b :=
  h.2 a (List.mem_map_of_mem ha) b (List.mem_map_of_mem hb) hab

/-! ## Induction over trees -/

theorem sizeOf_lt_of_mem {low : Option (List Char)} {children : Ascending Tree low} {child : Tree}
    {label : List Char} (h : (label, child) ∈ children) : sizeOf child < sizeOf children := by
  induction children with
  | nil => exact absurd h Ascending.mem_nil
  | cons key _ t rest ih =>
    simp only [Ascending.cons.sizeOf_spec]
    rcases Ascending.mem_cons.mp h with h | h
    · cases h
      omega
    · have := ih h
      omega

theorem sizeOf_child {t child : Tree} {label : List Char} (h : (label, child) ∈ t.children) :
    sizeOf child < sizeOf t := by
  obtain ⟨children, ids⟩ := t
  have hlt : sizeOf child < sizeOf children := sizeOf_lt_of_mem h
  simp only [Tree.node.sizeOf_spec]
  omega

/-- What holds of a node if it holds of its children holds of every tree. -/
theorem induction {P : Tree → Prop}
    (step : ∀ t, (∀ label child, (label, child) ∈ t.children → P child) → P t) (t : Tree) : P t :=
  step t fun _ child _ => induction step child
termination_by sizeOf t
decreasing_by exact sizeOf_child ‹_›

/-! ## Checking a property everywhere -/

mutual

/-- Checks a node and all nodes below it. -/
def checkAll (p : Tree → Bool) : Tree → Bool
  | .node children ids => p (.node children ids) && checkWithin p children

/-- Checks children and all nodes below them. -/
def checkWithin (p : Tree → Bool) {low : Option (List Char)} : Ascending Tree low → Bool
  | .nil => true
  | .cons _ _ t rest => t.checkAll p && checkWithin p rest

end

theorem checkWithin_iff {p : Tree → Bool} {low : Option (List Char)} {children : Ascending Tree low} :
    checkWithin p children = true ↔ ∀ label child, (label, child) ∈ children → child.checkAll p = true := by
  induction children with
  | nil => simp [checkWithin, Ascending.mem_nil]
  | cons l _ t children ih =>
    simp only [checkWithin, Bool.and_eq_true, ih, Ascending.mem_cons, Prod.mk.injEq]
    constructor
    · rintro ⟨ht, hrest⟩ label child (⟨rfl, rfl⟩ | hm)
      · exact ht
      · exact hrest label child hm
    · intro h
      exact ⟨h l t (.inl ⟨rfl, rfl⟩), fun label child hm => h label child (.inr hm)⟩

theorem checkAll_iff {P : Tree → Prop} [DecidablePred P] (t : Tree) :
    t.checkAll (fun u => decide (P u)) = true ↔ t.Everywhere P := by
  induction t using Tree.induction with
  | step t ih =>
    obtain ⟨children, ids⟩ := t
    rw [everywhere_iff, checkAll, Bool.and_eq_true, checkWithin_iff, decide_eq_true_eq]
    exact and_congr_right fun _ => forall_congr' fun l => forall_congr' fun c =>
      imp_congr_right fun hc => ih l c hc

instance {P : Tree → Prop} [DecidablePred P] (t : Tree) : Decidable (t.Everywhere P) :=
  decidable_of_iff _ (checkAll_iff t)

instance : DecidablePred LabelsApart := fun _ => inferInstanceAs (Decidable (_ ∧ _))

instance (t : Tree) : Decidable t.WellFormed := inferInstanceAs (Decidable (t.Everywhere LabelsApart))

/-! ## The walk -/

theorem mem_of_child? {t child : Tree} {label : List Char} (h : t.child? label = some child) :
    (label, child) ∈ t.children :=
  Ascending.get?_eq_some_iff.mp h

theorem path_of_walkFrom {t u : Tree} {window s : List Char} (h : t.walkFrom window s = some u) :
    ∃ labels, t.Path labels u ∧ labels.flatten = window ++ s := by
  induction s generalizing t window with
  | nil =>
    simp only [walkFrom, List.isEmpty_iff] at h
    split at h
    next hw =>
      cases h
      exact ⟨[], .here u, by simp [hw]⟩
    next => cases h
  | cons c s ih =>
    simp only [walkFrom] at h
    split at h
    next child hc =>
      obtain ⟨labels, hp, hf⟩ := ih h
      exact ⟨(window ++ [c]) :: labels, .down (mem_of_child? hc) hp, by simp [hf]⟩
    next =>
      obtain ⟨labels, hp, hf⟩ := ih h
      exact ⟨labels, hp, by simp [hf]⟩

/-- A walk follows a path, whatever the labels are. -/
theorem path_of_walk {t u : Tree} {needle : List Char} (h : t.walk needle = some u) :
    ∃ labels, t.Path labels u ∧ labels.flatten = needle := by
  simpa using path_of_walkFrom h

/-- A window that grows to a label leads to its child if no shorter one is a label. -/
theorem walkFrom_shortest {t child : Tree} : ∀ {window s : List Char} (rest : List Char), s ≠ [] →
    t.child? (window ++ s) = some child →
    (∀ front, front ≠ [] → front <+: s → front ≠ s → t.child? (window ++ front) = none) →
      t.walkFrom window (s ++ rest) = child.walk rest
  | _, [], _, hs, _, _ => absurd rfl hs
  | window, [c], rest, _, hchild, _ => by
    simp only [List.cons_append, List.nil_append, walkFrom]
    rw [hchild, walk]
  | window, c :: d :: s, rest, _, hchild, hmin => by
    have hnone : t.child? (window ++ [c]) = none := hmin [c] (by simp) ⟨d :: s, rfl⟩ (by simp)
    rw [List.cons_append, walkFrom, hnone]
    refine walkFrom_shortest rest (by simp) (by simpa using hchild) fun front hne hp hproper => ?_
    rw [List.append_assoc]
    exact hmin (c :: front) (by simp) (by simpa using hp) (by simpa using hproper)

/-- Where the labels are apart, reading the rest of a label leads to its child: no shorter window
is a label. -/
theorem walkFrom_label {t child : Tree} (ha : t.LabelsApart) {window s : List Char} (rest : List Char)
    (hs : s ≠ []) (hmem : (window ++ s, child) ∈ t.children) :
    t.walkFrom window (s ++ rest) = child.walk rest := by
  refine walkFrom_shortest rest hs (Ascending.get?_eq_some_iff.mpr hmem) fun front _ hp hproper => ?_
  cases hc : t.child? (window ++ front) with
  | none => rfl
  | some other =>
    have heq := ha.eq_of_prefix (mem_of_child? hc) hmem ((List.prefix_append_right_inj window).mpr hp)
    exact absurd (List.append_cancel_left heq) hproper

theorem walk_of_path {t u : Tree} {labels : List (List Char)} (hw : t.WellFormed) (h : t.Path labels u) :
    t.walk labels.flatten = some u := by
  induction h with
  | here t => simp [walk, walkFrom]
  | @down t child u label labels hmem _ ih =>
    obtain ⟨ha, hw⟩ := everywhere_iff.mp hw
    rw [List.flatten_cons, walk, walkFrom_label ha _ (ha.ne_nil hmem) (by simpa using hmem)]
    exact ih (hw _ _ hmem)

/-- In a well-formed tree a needle leads exactly to the node whose path it spells. -/
theorem walk_eq_some_iff {t u : Tree} {needle : List Char} (hw : t.WellFormed) :
    t.walk needle = some u ↔ ∃ labels, t.Path labels u ∧ labels.flatten = needle := by
  refine ⟨path_of_walk, ?_⟩
  rintro ⟨labels, hp, rfl⟩
  exact walk_of_path hw hp

end ShardSearch.Tree
