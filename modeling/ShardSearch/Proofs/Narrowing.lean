/-
Typing on narrows what a needle finds.

A walk forgets everything but the node it has reached and its window, and where a needle finds
something the window is empty. So the walk of a longer needle goes on from that node as from a root
(`walk_append`), whatever the labels are. What it finds further down is a block of what was listed
as longer before, because the identifiers below a node are those of its children one after another
(`isInfix_of_path`).
-/
import ShardSearch.Proofs.TreePath

namespace ShardSearch.Tree

theorem walkFrom_append {t n : Tree} {window u : List Char} (h : t.walkFrom window u = some n)
    (v : List Char) : t.walkFrom window (u ++ v) = n.walk v := by
  induction u generalizing t window with
  | nil =>
    simp only [walkFrom, List.isEmpty_iff] at h
    split at h
    next hw =>
      cases h
      rw [hw, List.nil_append, walk]
    next => cases h
  | cons c u ih =>
    simp only [walkFrom, List.cons_append] at h ⊢
    split at h
    · exact ih h
    · exact ih h

/-- Where a needle leads to a node, every longer one goes on from there. -/
theorem walk_append {t n : Tree} {u : List Char} (h : t.walk u = some n) (v : List Char) :
    t.walk (u ++ v) = n.walk v :=
  walkFrom_append h v

theorem find?_nil (t : Tree) : t.find? [] = some t.matched := by
  simp [find?, walk, walkFrom]

/-! ## The identifiers below a node -/

theorem isInfix_of_mem {low : Option (List Char)} {cs : Ascending Tree low} {child : Tree} {label : List Char}
    (h : (label, child) ∈ cs) : child.ids ++ child.descendantIds <:+: idsWithin cs := by
  induction cs with
  | nil => exact absurd h Ascending.mem_nil
  | cons l _ t cs ih =>
    rw [idsWithin]
    rcases Ascending.mem_cons.mp h with h | h
    · cases h
      exact (List.prefix_append _ _).isInfix
    · exact (ih h).trans (List.suffix_append _ _).isInfix

theorem isInfix_of_child {t child : Tree} {label : List Char} (h : (label, child) ∈ t.children) :
    child.ids ++ child.descendantIds <:+: t.descendantIds := by
  obtain ⟨children, ids⟩ := t
  rw [descendantIds]
  exact isInfix_of_mem h

/-- The identifiers at and below a node are a block of those below any node above it. -/
theorem isInfix_of_path {t u : Tree} {labels : List (List Char)} (h : t.Path labels u)
    (hne : labels ≠ []) : u.ids ++ u.descendantIds <:+: t.descendantIds := by
  induction h with
  | here => exact absurd rfl hne
  | @down t child u label labels hc hp ih =>
    by_cases hlast : labels = []
    · subst hlast
      cases hp
      exact isInfix_of_child hc
    · have hin : child.descendantIds <:+: child.ids ++ child.descendantIds :=
        (List.suffix_append _ _).isInfix
      exact ((ih hlast).trans hin).trans (isInfix_of_child hc)

/-- **Typing on narrows the result.** A needle that finds something stands for a node: every longer
needle finds what its rest finds from there. What a longer needle finds, its own identifiers and then
those of still longer keywords, is a block of what the shorter one listed as longer, so no
identifier is listed more often than before. -/
theorem find?_append_narrows (t : Tree) (u : List Char) (r : Matches) (h : t.find? u = some r) :
    (∃ labels n, t.Path labels n ∧ labels.flatten = u ∧ n.find? [] = some r ∧
      ∀ v, t.find? (u ++ v) = n.find? v) ∧
    ∀ v r', v ≠ [] → t.find? (u ++ v) = some r' →
      r'.exact ++ r'.longer <:+: r.longer ∧
        ∀ id, (r'.exact ++ r'.longer).count id ≤ r.longer.count id := by
  obtain ⟨n, hn, rfl⟩ := Option.map_eq_some_iff.mp h
  have hgoOn (v : List Char) : t.find? (u ++ v) = n.find? v := by rw [find?, walk_append hn, find?]
  refine ⟨?_, fun v r' hv hr' => ?_⟩
  · obtain ⟨labels, hp, hf⟩ := path_of_walk hn
    exact ⟨labels, n, hp, hf, find?_nil n, hgoOn⟩
  · rw [hgoOn] at hr'
    obtain ⟨m, hm, rfl⟩ := Option.map_eq_some_iff.mp hr'
    obtain ⟨labels, hp, hf⟩ := path_of_walk hm
    have hne : labels ≠ [] := by
      rintro rfl
      exact hv hf.symm
    have hblock : m.matched.exact ++ m.matched.longer <:+: n.matched.longer := isInfix_of_path hp hne
    exact ⟨hblock, fun id => hblock.sublist.count_le id⟩

/-- The keywords "ne", "nes" and "net", all of them in one document and the last in another one too. -/
def netTree : Tree :=
  .ofChildren [("ne".toList, .ofChildren [("s".toList, .node .nil (some [⟨"1"⟩])),
    ("t".toList, .node .nil (some [⟨"1"⟩, ⟨"2"⟩]))] (some [⟨"1"⟩]))] none

theorem find?_netTree_narrows : netTree.find? "ne".toList = some ⟨[⟨"1"⟩], [⟨"1"⟩, ⟨"1"⟩, ⟨"2"⟩]⟩ ∧
    netTree.find? ("ne".toList ++ "t".toList) = some ⟨[⟨"1"⟩, ⟨"2"⟩], []⟩ ∧
    (∃ labels n, netTree.Path labels n ∧ labels.flatten = "ne".toList ∧
      ∀ v, netTree.find? ("ne".toList ++ v) = n.find? v) ∧
    [⟨"1"⟩, ⟨"2"⟩] ++ [] <:+: ([⟨"1"⟩, ⟨"1"⟩, ⟨"2"⟩] : List DocumentId) := by
  have hne : netTree.find? "ne".toList = some ⟨[⟨"1"⟩], [⟨"1"⟩, ⟨"1"⟩, ⟨"2"⟩]⟩ := by decide
  have hnet : netTree.find? ("ne".toList ++ "t".toList) = some ⟨[⟨"1"⟩, ⟨"2"⟩], []⟩ := by decide
  obtain ⟨⟨labels, n, hp, hf, -, hgoOn⟩, hblock⟩ := find?_append_narrows netTree _ _ hne
  exact ⟨hne, hnet, ⟨labels, n, hp, hf, hgoOn⟩, (hblock _ _ (by decide) hnet).1⟩

end ShardSearch.Tree
