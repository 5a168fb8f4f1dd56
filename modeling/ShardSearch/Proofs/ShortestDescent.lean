/-
Descending by the shortest label.

`Descent` gives by rules what a needle finds in a tree of any shape: at its end the identifiers of
the node reached and of the nodes below it, before its end whatever the rest of it finds under the
shortest label that it starts with, and nothing if it starts with no label. The walk with a window
gives the same answers (`descent_iff_find?`), because a label ends the window as soon as it is
complete. The scan over bytes is the same walk again, and none of its cuts can fail (`scan?_eq`):
its two indices are the lengths of the text before the window and of the text before the next
character, so the offsets at them are widths of fronts of the needle.

The nodes below a node are listed in the order of the labels on the way to them (`nodesBelow_ordered`),
which is what pre-order with children in label order comes to.
-/
import ShardSearch.Proofs.ByteOffsets
import ShardSearch.Proofs.TreePath
import ShardSearch.Tree.Scan

namespace ShardSearch.Tree

/-! ## The nodes below a node -/

mutual

/-- The nodes strictly below a node with the labels on the way to them: each child before the nodes
below it. -/
def nodesBelow : Tree → List (List (List Char) × Tree)
  | .node children _ => nodesWithin children

/-- The nodes at and below children. -/
def nodesWithin {low : Option (List Char)} : Ascending Tree low → List (List (List Char) × Tree)
  | .nil => []
  | .cons label _ t rest =>
    ([label], t) :: t.nodesBelow.map (fun (labels, u) => (label :: labels, u)) ++ nodesWithin rest

end

/-- The identifiers of all nodes strictly below a node. -/
def idsBelow (t : Tree) : List DocumentId := t.nodesBelow.flatMap fun (_, u) => u.ids

theorem nodesBelow_eq (t : Tree) : t.nodesBelow = nodesWithin t.children := by
  obtain ⟨children, ids⟩ := t
  rw [nodesBelow, Tree.children]

theorem nodesWithin_eq_flatMap {low : Option (List Char)} (cs : Ascending Tree low) : nodesWithin cs =
    cs.toList.flatMap fun c => ([c.1], c.2) :: c.2.nodesBelow.map fun n => (c.1 :: n.1, n.2) := by
  induction cs with
  | nil => rw [nodesWithin, Ascending.toList, List.flatMap_nil]
  | cons label _ t cs ih => rw [nodesWithin, ih, Ascending.toList, List.flatMap_cons]

/-- The list has every node that a path of at least one label leads to. -/
theorem mem_nodesBelow_iff {t u : Tree} {labels : List (List Char)} :
    (labels, u) ∈ t.nodesBelow ↔ labels ≠ [] ∧ t.Path labels u := by
  induction t using Tree.induction generalizing labels with
  | step t ih =>
    rw [nodesBelow_eq, nodesWithin_eq_flatMap]
    simp only [List.mem_flatMap, List.mem_cons, List.mem_map, Prod.mk.injEq]
    constructor
    · rintro ⟨⟨label, child⟩, hc, ⟨rfl, rfl⟩ | ⟨⟨rest, v⟩, hv, rfl, rfl⟩⟩
      · exact ⟨List.cons_ne_nil _ _, .down hc (.here _)⟩
      · exact ⟨List.cons_ne_nil _ _, .down hc ((ih label child hc).mp hv).2⟩
    · rintro ⟨hne, hp⟩
      cases hp with
      | here => exact absurd rfl hne
      | @down _ child _ label rest hc hp =>
        refine ⟨(label, child), hc, ?_⟩
        cases rest with
        | nil =>
          cases hp
          exact .inl ⟨rfl, rfl⟩
        | cons l ls => exact .inr ⟨(l :: ls, u), (ih label child hc).mpr ⟨by simp, hp⟩, rfl, rfl⟩

/-- Sequences of labels are compared label by label, so a node comes before the nodes below it and
after those below a sibling with a smaller label. -/
theorem nodesBelow_ordered (t : Tree) : (t.nodesBelow.map Prod.fst).Pairwise (· < ·) := by
  induction t using Tree.induction with
  | step t ih =>
    rw [List.pairwise_map, nodesBelow_eq, nodesWithin_eq_flatMap, List.pairwise_flatMap]
    refine ⟨fun c hc => ?_, t.children.pairwise_toList.imp fun {c d} hlt p hp q hq => ?_⟩
    · have hchild := List.pairwise_map.mp (ih c.1 c.2 hc)
      rw [List.pairwise_cons, List.pairwise_map]
      refine ⟨fun p hp => ?_, hchild.imp fun h => List.cons_lt_cons_iff.mpr (.inr ⟨rfl, h⟩)⟩
      obtain ⟨n, hn, rfl⟩ := List.mem_map.mp hp
      obtain ⟨hne, -⟩ := mem_nodesBelow_iff.mp hn
      obtain ⟨l, ls, hl⟩ := List.exists_cons_of_ne_nil hne
      exact List.cons_lt_cons_iff.mpr (.inr ⟨rfl, by rw [hl]; exact List.nil_lt_cons l ls⟩)
    · have hhead (e : List Char × Tree) (p : List (List Char) × Tree)
          (hp : p ∈ ([e.1], e.2) :: e.2.nodesBelow.map fun n => (e.1 :: n.1, n.2)) :
          ∃ labels, p.1 = e.1 :: labels := by
        rcases List.mem_cons.mp hp with rfl | hp
        · exact ⟨[], rfl⟩
        · obtain ⟨n, -, rfl⟩ := List.mem_map.mp hp
          exact ⟨n.1, rfl⟩
      obtain ⟨ps, hps⟩ := hhead c p hp
      obtain ⟨qs, hqs⟩ := hhead d q hq
      rw [hps, hqs]
      exact List.cons_lt_cons_iff.mpr (.inl hlt)

mutual

theorem descendantIds_eq_idsBelow : ∀ t : Tree, t.descendantIds = t.idsBelow
  | .node children ids => by
    rw [descendantIds, idsBelow, nodesBelow, idsWithin_eq_flatMap children]

theorem idsWithin_eq_flatMap : ∀ {low : Option (List Char)} (cs : Ascending Tree low),
    idsWithin cs = (nodesWithin cs).flatMap fun (_, u) => u.ids
  | _, .nil => by rw [idsWithin, nodesWithin, List.flatMap_nil]
  | _, .cons label _ t rest => by
    rw [idsWithin, nodesWithin, idsWithin_eq_flatMap rest, descendantIds_eq_idsBelow t, idsBelow]
    simp [List.flatMap_map]

end

theorem matched_eq (t : Tree) : t.matched = ⟨t.ids, t.idsBelow⟩ := by
  rw [matched, descendantIds_eq_idsBelow]

/-! ## The shortest label -/

/-- What a needle finds when at each node the shortest label that it goes on with is taken. -/
inductive Descent : Tree → List Char → Option Matches → Prop
  | here (t : Tree) : Descent t [] (some ⟨t.ids, t.idsBelow⟩)
  | down {t child : Tree} {label rest : List Char} {r : Option Matches} : label ≠ [] →
      t.child? label = some child →
      (∀ front, front ≠ [] → front <+: label → front ≠ label → t.child? front = none) →
      Descent child rest r → Descent t (label ++ rest) r
  | stuck {t : Tree} {needle : List Char} : needle ≠ [] →
      (∀ front, front ≠ [] → front <+: needle → t.child? front = none) → Descent t needle none

theorem walkFrom_stuck {t : Tree} {window s : List Char} (hne : window ++ s ≠ [])
    (h : ∀ front, front ≠ [] → front <+: s → t.child? (window ++ front) = none) :
    t.walkFrom window s = none := by
  induction s generalizing window with
  | nil => simpa [walkFrom] using hne
  | cons c s ih =>
    have hc : t.child? (window ++ [c]) = none := h [c] (by simp) (by simp)
    rw [walkFrom, hc]
    refine ih (by simp) fun front hf hp => ?_
    rw [List.append_assoc]
    exact h (c :: front) (by simp) (by simpa using hp)

/-- Reading on, no window is a label or there is a first one that is. -/
theorem exists_shortest (t : Tree) (window s : List Char) :
    (∀ front, front ≠ [] → front <+: s → t.child? (window ++ front) = none) ∨
    ∃ label rest child, s = label ++ rest ∧ label ≠ [] ∧ t.child? (window ++ label) = some child ∧
      ∀ front, front ≠ [] → front <+: label → front ≠ label → t.child? (window ++ front) = none := by
  induction s generalizing window with
  | nil =>
    left
    intro front hne hp
    exact absurd (List.prefix_nil.mp hp) hne
  | cons c s ih =>
    cases hc : t.child? (window ++ [c]) with
    | some child =>
      right
      refine ⟨[c], s, child, rfl, by simp, hc, fun front hne hp hproper => ?_⟩
      obtain ⟨d, front, rfl⟩ := List.exists_cons_of_ne_nil hne
      obtain ⟨hd, hnil⟩ := List.cons_prefix_cons.mp hp
      exact absurd (by rw [hd, List.prefix_nil.mp hnil]) hproper
    | none =>
      -- a longer front starts with `c`, and is one of the rest with `c` in the window
      have hfront {front : List Char} {d : Char} (h : t.child? (window ++ [c] ++ front) = none)
          (hd : d = c) : t.child? (window ++ d :: front) = none := by
        simpa [hd] using h
      rcases ih (window ++ [c]) with hnone | ⟨label, rest, child, rfl, hne, hchild, hmin⟩
      · left
        intro front hne hp
        obtain ⟨d, front, rfl⟩ := List.exists_cons_of_ne_nil hne
        obtain ⟨hd, hp⟩ := List.cons_prefix_cons.mp hp
        by_cases hnil : front = []
        · exact hfront (by simpa [hnil] using hc) hd
        · exact hfront (hnone front hnil hp) hd
      · right
        refine ⟨c :: label, rest, child, rfl, by simp, by simpa using hchild, fun front hne hp hproper => ?_⟩
        obtain ⟨d, front, rfl⟩ := List.exists_cons_of_ne_nil hne
        obtain ⟨hd, hp⟩ := List.cons_prefix_cons.mp hp
        by_cases hnil : front = []
        · exact hfront (by simpa [hnil] using hc) hd
        · exact hfront (hmin front hnil hp fun h => hproper (by rw [hd, h])) hd

theorem find?_of_descent {t : Tree} {needle : List Char} {r : Option Matches} (h : t.Descent needle r) :
    t.find? needle = r := by
  induction h with
  | here t => simp [find?, walk, walkFrom, matched_eq]
  | @down t child label rest r hne hchild hmin _ ih =>
    rw [← ih, find?, walk, walkFrom_shortest rest hne hchild hmin, find?]
  | stuck hne h => rw [find?, walk, walkFrom_stuck (by simpa using hne) h, Option.map_none]

theorem exists_descent (t : Tree) (needle : List Char) : ∃ r, t.Descent needle r := by
  by_cases hnil : needle = []
  · subst hnil
    exact ⟨_, .here t⟩
  rcases exists_shortest t [] needle with hnone | ⟨label, rest, child, hs, hne, hchild, hmin⟩
  · exact ⟨none, .stuck hnil hnone⟩
  · have hpos := List.length_pos_of_ne_nil hne
    have hshort : rest.length < needle.length := by
      rw [hs, List.length_append]
      omega
    obtain ⟨r, hr⟩ := exists_descent child rest
    exact ⟨r, hs ▸ .down hne hchild hmin hr⟩
termination_by needle.length

/-- The walk gives what the descent by shortest labels gives, and the latter always gives one thing. -/
theorem descent_iff_find? {t : Tree} {needle : List Char} {r : Option Matches} :
    t.Descent needle r ↔ t.find? needle = r := by
  refine ⟨find?_of_descent, ?_⟩
  rintro rfl
  obtain ⟨r, hr⟩ := exists_descent t needle
  rwa [find?_of_descent hr]

/-! ## The scan over bytes -/

/-- Whatever stands before the window and after the next character, a round cuts out exactly the
window with that character. -/
theorem scanRound_eq (t : Tree) (before window rest : List Char) (c : Char) {needle : List Char}
    (hn : needle = before ++ (window ++ c :: rest)) :
    scanRound needle (Text.boundaries needle) ⟨t, before.length⟩ (before.length + window.length) =
      some (match t.child? (window ++ [c]) with
        | some child => ⟨child, before.length + window.length + 1⟩
        | none => ⟨t, before.length⟩) := by
  have hread : needle = before ++ (window ++ [c]) ++ rest := by simp [hn]
  have hlength : before.length + window.length + 1 = (before ++ (window ++ [c])).length := by
    simp only [List.length_append, List.length_cons, List.length_nil]
    omega
  have hstart : (Text.boundaries needle)[before.length]? = some (Text.width before) := by
    rw [hn]
    exact Text.getElem?_boundaries before _
  have hstop : (Text.boundaries needle)[before.length + window.length + 1]? =
      some (Text.width before + Text.width (window ++ [c])) := by
    rw [hlength, hread, ← Text.width_append]
    exact Text.getElem?_boundaries _ rest
  have hslice : Text.slice? (Text.width before) (Text.width before + Text.width (window ++ [c])) needle =
      some (window ++ [c]) := by
    rw [hread, List.append_assoc]
    exact Text.slice?_width before (window ++ [c]) rest
  cases hchild : t.child? (window ++ [c]) with
  | some child => simp only [scanRound, hstart, hstop, hslice, hchild, Option.bind_some, Option.map_some]
  | none => simp only [scanRound, hstart, hstop, hslice, hchild, Option.bind_some, Option.map_some]

/-- The rounds over the rest of a needle succeed, and end with the anchor behind the last character
exactly if the walk over the rest ends with an empty window. -/
theorem foldlM_scanRound (needle : List Char) (t : Tree) (before window rest : List Char)
    (hn : needle = before ++ (window ++ rest)) :
    ∃ cur, (List.range' (before.length + window.length) rest.length).foldlM
        (scanRound needle (Text.boundaries needle)) ⟨t, before.length⟩ = some cur ∧
      t.walkFrom window rest = if cur.anchor = needle.length then some cur.node else none := by
  induction rest generalizing t before window with
  | nil =>
    refine ⟨⟨t, before.length⟩, by simp, ?_⟩
    cases window <;> simp [walkFrom, hn]
  | cons c rest ih =>
    rw [List.length_cons, List.range'_succ, List.foldlM_cons, scanRound_eq t before window rest c hn,
      walkFrom]
    cases t.child? (window ++ [c]) with
    | some child =>
      have hnext := ih child (before ++ (window ++ [c])) [] (by simp [hn])
      simpa [Nat.add_assoc] using hnext
    | none =>
      have hnext := ih t before (window ++ [c]) (by simp [hn])
      simpa [Nat.add_assoc] using hnext

/-- The scan never fails to cut, and gives what the walk gives. -/
theorem scan?_eq (t : Tree) (needle : List Char) : t.scan? needle = some (t.find? needle) := by
  obtain ⟨cur, hrounds, hwalk⟩ := foldlM_scanRound needle t [] [] needle rfl
  have hlength : (Text.boundaries needle).length - 1 = needle.length := by
    rw [Text.length_boundaries]
    omega
  rw [scan?, hlength, List.range_eq_range']
  simp only [List.length_nil, Nat.add_zero] at hrounds
  rw [hrounds, find?, walk, hwalk]
  simp only [Option.map_some, Option.some.injEq]
  split <;> rfl

/-- **The window scan is the descent by shortest labels**, in every tree and for every needle. All
cuts of the scan succeed and it gives what the walk gives; that is what the rules of the descent
give, and nothing else. A needle that finds something spells the labels on a path, and finds the
identifiers of the node at its end and of the nodes below. Those are the ends of all longer paths,
and come in the order of the labels on the way to them. -/
theorem find?_by_shortest_label (t : Tree) :
    (∀ needle, t.scan? needle = some (t.find? needle)) ∧
    (∀ needle r, t.find? needle = r ↔ t.Descent needle r) ∧
    (∀ needle m, t.find? needle = some m →
      ∃ labels u, t.Path labels u ∧ labels.flatten = needle ∧ m = ⟨u.ids, u.idsBelow⟩) ∧
    (∀ labels u, (labels, u) ∈ t.nodesBelow ↔ labels ≠ [] ∧ t.Path labels u) ∧
    (t.nodesBelow.map Prod.fst).Pairwise (· < ·) := by
  refine ⟨scan?_eq t, fun needle r => descent_iff_find?.symm, fun needle m h => ?_,
    fun labels u => mem_nodesBelow_iff, nodesBelow_ordered t⟩
  obtain ⟨u, hwalk, rfl⟩ := Option.map_eq_some_iff.mp h
  obtain ⟨labels, hp, hf⟩ := path_of_walk hwalk
  exact ⟨labels, u, hp, hf, matched_eq u⟩

/-- A tree with an empty label and with a label that starts with another one. -/
def overTree : Tree :=
  .ofChildren [([], .node .nil (some [⟨"0"⟩])), (['ü'], .ofChildren [("ber".toList, .node .nil (some [⟨"5"⟩]))] none),
    (['ü', 'b'], .node .nil (some [⟨"6"⟩]))] none

/-- The label "üb" is out of reach, since "ü" is read first. -/
theorem find?_overTree :
    overTree.scan? "über".toList = some (some ⟨[⟨"5"⟩], []⟩) ∧
    overTree.Descent "üb".toList none ∧ overTree.scan? "üb".toList = some none ∧
    (∃ labels u, overTree.Path labels u ∧ labels.flatten = "über".toList ∧
      (⟨[⟨"5"⟩], []⟩ : Matches) = ⟨u.ids, u.idsBelow⟩) ∧
    (overTree.nodesBelow.map Prod.fst).Pairwise (· < ·) := by
  have hfound : overTree.find? "über".toList = some ⟨[⟨"5"⟩], []⟩ := by decide
  have hnone : overTree.find? "üb".toList = none := by decide
  obtain ⟨hscan, hdescent, hpath, -, horder⟩ := find?_by_shortest_label overTree
  exact ⟨by rw [hscan, hfound], (hdescent _ _).mp hnone, by rw [hscan, hnone], hpath _ _ hfound, horder⟩

end ShardSearch.Tree
