/-
A compressed tree as a sorted map from keywords to identifiers.

`keywords` lists the map of a tree: one pair per node where a keyword ends. Nothing about needles
goes into it. The main statement `find?_eq_keywords` says that in a well-formed tree the pairs are
in strictly increasing order of keyword, and that looking a needle up in the tree is looking it up
in the map, for the keyword itself and for the longer ones.

What makes this more than a traversal is that labels are apart: then the keywords below one child
are on one side of all keywords below another, and those that extend a needle are all below the
node it leads to.
-/
import ShardSearch.Proofs.TreePath

namespace ShardSearch

namespace Tree

/-- The pairs whose key is a proper extension of a needle. -/
def extending {α : Type} (m : List (List Char × α)) (needle : List Char) : List (List Char × α) :=
  m.filter fun (k, _) => needle.isPrefixOf k && k != needle

mutual

/-- The keywords of a tree with their identifiers, in the order of the tree. -/
def keywords : Tree → List (List Char × List DocumentId)
  | .node children ids => (ids.map fun d => ([], d)).toList ++ keywordsWithin children

/-- The keywords of children, each after the label of its child. -/
def keywordsWithin {low : Option (List Char)} : Ascending Tree low → List (List Char × List DocumentId)
  | .nil => []
  | .cons label _ t rest => t.keywords.map (fun (k, d) => (label ++ k, d)) ++ keywordsWithin rest

end

theorem keywords_eq (t : Tree) :
    t.keywords = (t.ids?.map fun d => ([], d)).toList ++ keywordsWithin t.children := by
  obtain ⟨children, ids⟩ := t
  rw [keywords, ids?, Tree.children]

theorem keywordsWithin_eq_flatMap {low : Option (List Char)} (cs : Ascending Tree low) :
    keywordsWithin cs = cs.toList.flatMap fun c => c.2.keywords.map fun p => (c.1 ++ p.1, p.2) := by
  induction cs with
  | nil => rw [keywordsWithin, Ascending.toList, List.flatMap_nil]
  | cons label _ t cs ih => rw [keywordsWithin, ih, Ascending.toList, List.flatMap_cons]

theorem mem_keywordsWithin {low : Option (List Char)} {cs : Ascending Tree low} {k : List Char} {d : List DocumentId} :
    (k, d) ∈ keywordsWithin cs ↔
      ∃ label child rest, (label, child) ∈ cs ∧ (rest, d) ∈ child.keywords ∧ k = label ++ rest := by
  simp only [keywordsWithin_eq_flatMap, List.mem_flatMap, List.mem_map, Prod.mk.injEq, Prod.exists]
  constructor
  · rintro ⟨label, child, hc, rest, d, hr, rfl, rfl⟩
    exact ⟨label, child, rest, hc, hr, rfl⟩
  · rintro ⟨label, child, rest, hc, hr, rfl⟩
    exact ⟨label, child, hc, rest, d, hr, rfl, rfl⟩

theorem mem_keywords {t : Tree} {k : List Char} {d : List DocumentId} :
    (k, d) ∈ t.keywords ↔ (k = [] ∧ t.ids? = some d) ∨ (k, d) ∈ keywordsWithin t.children := by
  rw [keywords_eq, List.mem_append]
  simp only [Option.mem_toList, Option.map_eq_some_iff, Prod.mk.injEq]
  grind

/-- The map of a tree has a pair for each node where a keyword ends, under what the labels on the
way to it spell. -/
theorem mem_keywords_iff_path {t : Tree} {k : List Char} {d : List DocumentId} :
    (k, d) ∈ t.keywords ↔ ∃ labels u, t.Path labels u ∧ labels.flatten = k ∧ u.ids? = some d := by
  constructor
  · intro h
    induction t using Tree.induction generalizing k with
    | step t ih =>
      rcases mem_keywords.mp h with ⟨rfl, hd⟩ | h
      · exact ⟨[], t, .here t, rfl, hd⟩
      · obtain ⟨label, child, rest, hc, hr, rfl⟩ := mem_keywordsWithin.mp h
        obtain ⟨labels, u, hp, rfl, hu⟩ := ih label child hc hr
        exact ⟨label :: labels, u, .down hc hp, rfl, hu⟩
  · rintro ⟨labels, u, hp, rfl, hu⟩
    induction hp with
    | here t => exact mem_keywords.mpr (.inl ⟨rfl, hu⟩)
    | down hc _ ih => exact mem_keywords.mpr (.inr (mem_keywordsWithin.mpr ⟨_, _, _, hc, ih hu, rfl⟩))

/-! ## The order of keywords -/

theorem append_lt_append_of_not_prefix {a b : List Char} (hlt : a < b) (hp : ¬ a <+: b) (x y : List Char) :
    a ++ x < b ++ y := by
  induction a generalizing b with
  | nil => simp at hp
  | cons c a ih =>
    cases b with
    | nil => simp at hlt
    | cons d b =>
      rw [List.cons_append, List.cons_append, List.cons_lt_cons_iff]
      rcases List.cons_lt_cons_iff.mp hlt with h | ⟨rfl, h⟩
      · exact .inl h
      · exact .inr ⟨rfl, ih h (by simpa using hp)⟩

theorem keywordsWithin_ne_nil {t : Tree} (ha : t.LabelsApart) {k : List Char} {d : List DocumentId}
    (h : (k, d) ∈ keywordsWithin t.children) : k ≠ [] := by
  obtain ⟨label, child, rest, hc, -, rfl⟩ := mem_keywordsWithin.mp h
  simp [ha.ne_nil hc]

theorem keywordsWithin_increasing {t : Tree} (ha : t.LabelsApart)
    (hc : ∀ label child, (label, child) ∈ t.children → (child.keywords.map Prod.fst).Pairwise (· < ·)) :
    ((keywordsWithin t.children).map Prod.fst).Pairwise (· < ·) := by
  rw [List.pairwise_map, keywordsWithin_eq_flatMap, List.pairwise_flatMap]
  refine ⟨fun c hmem => ?_, t.children.pairwise_toList.imp_of_mem fun {c d} hcm hdm hlt => ?_⟩
  · rw [List.pairwise_map]
    exact (List.pairwise_map.mp (hc c.1 c.2 hmem)).imp fun h => List.append_left_lt h
  · have hnot : ¬ c.1 <+: d.1 := fun hp => by
      rw [ha.eq_of_prefix hcm hdm hp] at hlt
      exact List.lt_irrefl _ hlt
    simp only [List.mem_map, forall_exists_index, and_imp, forall_apply_eq_imp_iff₂]
    exact fun p _ q _ => append_lt_append_of_not_prefix hlt hnot p.1 q.1

theorem keywords_increasing {t : Tree} (hw : t.WellFormed) : (t.keywords.map Prod.fst).Pairwise (· < ·) := by
  induction t using Tree.induction with
  | step t ih =>
    obtain ⟨ha, hw⟩ := everywhere_iff.mp hw
    have hin := keywordsWithin_increasing ha fun l c hc => ih l c hc (hw l c hc)
    rw [keywords_eq]
    cases t.ids? with
    | none => simpa using hin
    | some d =>
      refine List.pairwise_cons.mpr ⟨fun k hk => ?_, hin⟩
      obtain ⟨p, hp, rfl⟩ := List.mem_map.mp hk
      obtain ⟨c, k, hk⟩ := List.exists_cons_of_ne_nil (keywordsWithin_ne_nil ha hp)
      rw [hk]
      exact List.nil_lt_cons c k

/-! ## The keywords that extend a needle -/

theorem extending_append (m n : List (List Char × List DocumentId)) (needle : List Char) :
    extending (m ++ n) needle = extending m needle ++ extending n needle :=
  List.filter_append m n

theorem extending_under (m : List (List Char × List DocumentId)) (label needle : List Char) :
    extending (m.map fun p => (label ++ p.1, p.2)) (label ++ needle) =
      (extending m needle).map fun p => (label ++ p.1, p.2) := by
  rw [extending, extending, List.filter_map]
  congr 1
  refine List.filter_congr fun p _ => ?_
  rw [Bool.eq_iff_iff]
  simp

/-- The keywords under one label do not extend a needle that starts with another one. -/
theorem extending_other {t c d : Tree} {a b : List Char} (ha : t.LabelsApart) (hac : (a, c) ∈ t.children)
    (hbd : (b, d) ∈ t.children) (hne : a ≠ b) (rest : List Char) :
    extending (d.keywords.map fun p => (b ++ p.1, p.2)) (a ++ rest) = [] := by
  simp only [extending, List.filter_eq_nil_iff, List.mem_map, forall_exists_index, and_imp,
    forall_apply_eq_imp_iff₂, Bool.and_eq_true, List.isPrefixOf_iff_prefix, bne_iff_ne, ne_eq, not_and]
  intro p _ hp
  have hpa : a <+: b ++ p.1 := (List.prefix_append a rest).trans hp
  rcases List.prefix_or_prefix_of_prefix hpa (List.prefix_append b p.1) with h | h
  · exact absurd (ha.eq_of_prefix hac hbd h) hne
  · exact absurd (ha.eq_of_prefix hbd hac h).symm hne

/-- The keywords under several labels do not extend a needle that starts with still another one. -/
theorem extending_others {t child : Tree} {label : List Char} (ha : t.LabelsApart)
    (hc : (label, child) ∈ t.children) (rest : List Char) {l : List (List Char × Tree)}
    (hl : ∀ q ∈ l, q ∈ t.children ∧ label ≠ q.1) :
    extending (l.flatMap fun c => c.2.keywords.map fun p => (c.1 ++ p.1, p.2)) (label ++ rest) = [] := by
  induction l with
  | nil => rfl
  | cons q l ih =>
    obtain ⟨hq, hne⟩ := hl q (by simp)
    rw [List.flatMap_cons, extending_append, extending_other ha hc hq hne,
      ih fun r hr => hl r (by simp [hr]), List.nil_append]

theorem extending_keywordsWithin {t child : Tree} {label : List Char} (ha : t.LabelsApart)
    (hc : (label, child) ∈ t.children) (rest : List Char) :
    extending (keywordsWithin t.children) (label ++ rest) =
      (extending child.keywords rest).map fun p => (label ++ p.1, p.2) := by
  obtain ⟨before, after, hsplit⟩ := List.append_of_mem (Ascending.mem_toList.mpr hc)
  have hmem : ∀ q ∈ before ++ after, q ∈ t.children := fun q hq => by
    rw [← Ascending.mem_toList, hsplit]
    exact (List.sublist_cons_self _ _).append_left before |>.subset hq
  have hother : ∀ q ∈ before ++ after, label ≠ q.1 := by
    have horder := t.children.pairwise_toList
    rw [hsplit, List.pairwise_append] at horder
    obtain ⟨-, hafter, hbefore⟩ := horder
    rintro q hq rfl
    rcases List.mem_append.mp hq with hq | hq
    · exact List.lt_irrefl _ (hbefore q hq (q.1, child) (by simp))
    · exact List.lt_irrefl _ ((List.pairwise_cons.mp hafter).1 q hq)
  have hbefore := extending_others ha hc rest (l := before) fun q hq =>
    ⟨hmem q (by simp [hq]), hother q (by simp [hq])⟩
  have hafter := extending_others ha hc rest (l := after) fun q hq =>
    ⟨hmem q (by simp [hq]), hother q (by simp [hq])⟩
  rw [keywordsWithin_eq_flatMap, hsplit, List.flatMap_append, List.flatMap_cons, extending_append,
    extending_append, hbefore, hafter, extending_under]
  simp

/-- The keywords that extend what a path spells are those below its end. -/
theorem extending_keywords {t u : Tree} {labels : List (List Char)} (hw : t.WellFormed)
    (h : t.Path labels u) : extending t.keywords labels.flatten =
      (keywordsWithin u.children).map fun p => (labels.flatten ++ p.1, p.2) := by
  induction h with
  | here t =>
    have ha := (everywhere_iff.mp hw).1
    have hself : extending ((t.ids?.map fun d => (([] : List Char), d)).toList) [] = [] := by
      cases t.ids? <;> simp [extending]
    have hall : extending (keywordsWithin t.children) [] = keywordsWithin t.children := by
      refine List.filter_eq_self.mpr fun p hp => ?_
      simpa using keywordsWithin_ne_nil ha hp
    rw [keywords_eq, List.flatten_nil, extending_append, hself, hall]
    simp
  | @down t child u label labels hc _ ih =>
    obtain ⟨ha, hw⟩ := everywhere_iff.mp hw
    have hself : extending ((t.ids?.map fun d => (([] : List Char), d)).toList)
        (label ++ labels.flatten) = [] := by
      cases t.ids? <;> simp [extending, ha.ne_nil hc]
    rw [keywords_eq, List.flatten_cons, extending_append, hself, extending_keywordsWithin ha hc,
      ih (hw _ _ hc)]
    simp

mutual

theorem flatMap_keywords : ∀ t : Tree, t.keywords.flatMap Prod.snd = t.ids ++ t.descendantIds
  | .node children ids => by
    rw [keywords, descendantIds, List.flatMap_append, flatMap_keywordsWithin children]
    cases ids <;> simp [Tree.ids, ids?]

theorem flatMap_keywordsWithin : ∀ {low : Option (List Char)} (cs : Ascending Tree low),
    (keywordsWithin cs).flatMap Prod.snd = idsWithin cs
  | _, .nil => by rw [keywordsWithin, idsWithin, List.flatMap_nil]
  | _, .cons _ _ t rest => by
    rw [keywordsWithin, idsWithin, List.flatMap_append, List.flatMap_map, flatMap_keywordsWithin rest]
    exact congrArg (· ++ _) (flatMap_keywords t)

end

theorem descendantIds_eq (t : Tree) : t.descendantIds = (keywordsWithin t.children).flatMap Prod.snd := by
  obtain ⟨children, ids⟩ := t
  rw [flatMap_keywordsWithin, descendantIds, Tree.children]

/-- In a well-formed tree the identifiers of a node are those of the keyword that leads to it. -/
theorem lookup_keywords_eq {t u : Tree} {needle : List Char} (hw : t.WellFormed) (h : t.walk needle = some u) :
    t.keywords.lookup needle = u.ids? := by
  have hdistinct : (t.keywords.map Prod.fst).Nodup := (keywords_increasing hw).imp fun h => ne_of_lt h
  refine Option.ext fun d => ?_
  rw [Table.lookup_eq_some_iff hdistinct, mem_keywords_iff_path]
  constructor
  · rintro ⟨labels, v, hp, hf, hd⟩
    have hv := (walk_eq_some_iff hw).mpr ⟨labels, hp, hf⟩
    rw [h, Option.some.injEq] at hv
    exact hv ▸ hd
  · intro hd
    obtain ⟨labels, hp, hf⟩ := path_of_walk h
    exact ⟨labels, u, hp, hf, hd⟩

/-- **A compressed tree is a sorted keyword map.** In a well-formed tree the keywords are strictly
increasing, there is one for each node where a keyword ends, and a needle that spells a path finds
what the map has for it and, in the order of the map, for the keywords that properly extend it. Any
other needle finds nothing. -/
theorem find?_eq_keywords (t : Tree) (hw : t.WellFormed) :
    (t.keywords.map Prod.fst).Pairwise (· < ·) ∧
      (∀ k d, (k, d) ∈ t.keywords ↔ ∃ labels u, t.Path labels u ∧ labels.flatten = k ∧ u.ids? = some d) ∧
      ∀ needle,
        (t.Spells needle → t.find? needle = some
          ⟨(t.keywords.lookup needle).getD [], (extending t.keywords needle).flatMap Prod.snd⟩) ∧
        (¬ t.Spells needle → t.find? needle = none) := by
  refine ⟨keywords_increasing hw, fun k d => mem_keywords_iff_path, fun needle => ⟨?_, fun hn => ?_⟩⟩
  · rintro ⟨labels, u, hp, rfl⟩
    have hwalk := walk_of_path hw hp
    have hlonger : (extending t.keywords labels.flatten).flatMap Prod.snd = u.descendantIds := by
      rw [extending_keywords hw hp, List.flatMap_map, descendantIds_eq]
    rw [find?, hwalk, Option.map_some, matched, lookup_keywords_eq hw hwalk, hlonger, Tree.ids]
  · cases hwalk : t.walk needle with
    | none => rw [find?, hwalk, Option.map_none]
    | some u =>
      obtain ⟨labels, hp, hf⟩ := path_of_walk hwalk
      exact absurd ⟨labels, u, hp, hf⟩ hn

/-- The keywords "ava", "ava-vm" and "avascript". -/
def javaTree : Tree :=
  .ofChildren [("ava".toList, .ofChildren [("-vm".toList, .node .nil (some [⟨"2"⟩])),
    ("script".toList, .node .nil (some [⟨"1"⟩]))] (some [⟨"0"⟩]))] none

theorem find?_javaTree : javaTree.WellFormed ∧ javaTree.Spells "ava".toList ∧
    javaTree.find? "ava".toList = some ⟨[⟨"0"⟩], [⟨"2"⟩, ⟨"1"⟩]⟩ ∧
    javaTree.find? "avas".toList = none := by
  have hw : javaTree.WellFormed := by decide
  have hava : javaTree.Spells "ava".toList := ⟨["ava".toList], _, .down List.mem_cons_self (.here _), rfl⟩
  have hnot : ¬ javaTree.Spells "avas".toList := by
    rintro ⟨labels, u, hp, hf⟩
    have hnone : javaTree.walk "avas".toList = none := rfl
    rw [(walk_eq_some_iff hw).mpr ⟨labels, hp, hf⟩] at hnone
    cases hnone
  obtain ⟨-, -, hfind⟩ := find?_eq_keywords javaTree hw
  exact ⟨hw, hava, ((hfind _).1 hava).trans (by decide), (hfind _).2 hnot⟩

end Tree

end ShardSearch
