/-
What the store may hold of an index whose answers do not change.

`Faithful` says where everything in a store comes from: a tree was published under its character by
the character's own bucket or by the merged shard, and a remembered bucket has all its trees there.
Storing a loaded shard keeps it, in any order and however often (`Faithful.insertBucket`), and it is
all that a search needs to answer as one that remembers nothing (`Faithful.lookIn_eq`).

There is one hole, and it is in the program. The store goes by character and not by bucket, so a
letter that the merged shard has a key for may get its tree from there. `Shadows` names these
letters; everything here is about the others.
-/
import ShardSearch.Engine
import ShardSearch.Proofs.StoreFacts

namespace ShardSearch

/-- The tree that a shard publishes for a leading character. -/
def Shard.treeFor? : Shard → Char → Option Tree
  | .single t, _ => some t
  | .merged trees, c => trees.get? [c]

/-- What a query finds in a tree, if there is one for its leading character. -/
def Engine.answer (tree : Option Tree) (first : Char) (rest : List Char) : Except SearchError Matches :=
  match tree with
  | none => .error (.noTree first)
  | some tree =>
    match tree.find? rest with
    | none => .error (.noPath (String.ofList (first :: rest)))
    | some found => .ok found

/-- What a search finds that remembers nothing: it requests and decodes the shard of its bucket, and
looks its query up in the shard's tree. -/
def Engine.direct (l : Loader) (least : Nat) (source : Source) (term : String) :
    Except SearchError Matches :=
  match Text.lower term.toList with
  | [] => .error (.tooShort "" least)
  | first :: rest =>
    if least ≤ (first :: rest).length then
      match l.load source (.ofChar first) with
      | .error cause => .error (.unavailable (Bucket.ofChar first).name cause)
      | .ok shard => Engine.answer (shard.treeFor? first) first rest
    else .error (.tooShort (String.ofList (first :: rest)) least)

/-- Whether the merged shard has a tree under a character. -/
def Loader.Merges (l : Loader) (source : Source) (c : Char) (t : Tree) : Prop :=
  ∃ shard, l.load source .other = .ok shard ∧ shard.treeFor? c = some t

/-- Whether the merged shard has a tree under a letter. -/
def Loader.Shadows (l : Loader) (source : Source) (c : Char) : Prop :=
  c.isLower = true ∧ ∃ t, l.Merges source c t

theorem Engine.lookIn_eq_answer (s : Store) (first : Char) (rest : List Char) :
    lookIn s first rest = answer (s.get? first) first rest := rfl

/-! ## The trees of a loaded shard -/

theorem Shard.lookup_reachable (trees : List (List Char × Tree)) (c : Char) :
    (Shard.reachable trees).lookup c = trees.lookup [c] := by
  induction trees with
  | nil => rfl
  | cons p trees ih =>
    obtain ⟨k, t⟩ := p
    simp only [Shard.reachable, List.lookup_cons] at ih ⊢
    by_cases hk : k = [c]
    · subst hk
      simp [Shard.leading?]
    · have hne : ([c] == k) = false := by simpa using fun h : [c] = k => hk h.symm
      rw [hne, ← ih]
      simp only [List.filterMap_cons]
      match k with
      | [] | _ :: _ :: _ => simp [Shard.leading?]
      | [d] =>
        have hcd : (c == d) = false := by simpa using hne
        simp [Shard.leading?, List.lookup_cons, hcd]

theorem Loader.load_eq_ok {l : Loader} {source : Source} {b : Bucket} {shard : Shard}
    (h : l.load source b = .ok shard) : ∃ body, source.fetch (l.resource b) = .ok body ∧
      Shard.decode b body = .ok shard := by
  simp only [load, settle] at h
  split at h
  · cases h
  next body hf =>
  split at h
  · cases h
  next hd =>
  cases h
  exact ⟨body, hf, hd⟩

theorem Shard.decode_letter {c : Char} {body : String} {shard : Shard}
    (h : decode (.letter c) body = .ok shard) : ∃ t, Tree.decode body = .ok t ∧ shard = .single t := by
  simp only [decode] at h
  cases ht : Tree.decode body with
  | error f => rw [ht] at h; cases h
  | ok t => rw [ht] at h; cases h; exact ⟨t, rfl, rfl⟩

theorem Shard.decode_other {body : String} {shard : Shard} (h : decode .other body = .ok shard) :
    ∃ trees, Tree.decodeMap body = .ok trees ∧ shard = .merged trees.toTable := by
  simp only [decode] at h
  cases ht : Tree.decodeMap body with
  | error f => rw [ht] at h; cases h
  | ok trees => rw [ht] at h; cases h; exact ⟨trees, rfl, rfl⟩

theorem Loader.load_letter {l : Loader} {source : Source} {c : Char} {shard : Shard}
    (h : l.load source (.letter c) = .ok shard) : ∃ t, shard = .single t := by
  obtain ⟨body, -, hd⟩ := load_eq_ok h
  obtain ⟨t, -, rfl⟩ := Shard.decode_letter hd
  exact ⟨t, rfl⟩

theorem Loader.load_other {l : Loader} {source : Source} {shard : Shard}
    (h : l.load source .other = .ok shard) : ∃ trees, shard = .merged trees := by
  obtain ⟨body, -, hd⟩ := load_eq_ok h
  obtain ⟨trees, -, rfl⟩ := Shard.decode_other hd
  exact ⟨trees.toTable, rfl⟩

theorem Loader.lookup_other {l : Loader} {source : Source} {shard : Shard}
    (h : l.load source .other = .ok shard) (c : Char) :
    (shard.trees .other).lookup c = shard.treeFor? c := by
  obtain ⟨trees, rfl⟩ := load_other h
  exact Shard.lookup_reachable trees.pairs c

theorem Loader.lookup_letter {l : Loader} {source : Source} {d : Char} {shard : Shard}
    (h : l.load source (.letter d) = .ok shard) (c : Char) :
    (shard.trees (.letter d)).lookup c = if c = d then shard.treeFor? c else none := by
  obtain ⟨t, rfl⟩ := load_letter h
  by_cases hcd : c = d
  · subst hcd
    simp [Shard.trees, Shard.treeFor?]
  · have hne : (c == d) = false := by simpa using hcd
    simp [Shard.trees, List.lookup_cons, hne, hcd]

theorem Bucket.ofChar_of_isLower {c : Char} (h : c.isLower = true) : ofChar c = .letter c := by
  simp [ofChar, h]

theorem Bucket.ofChar_of_not_isLower {c : Char} (h : ¬ c.isLower = true) : ofChar c = .other := by
  simp [ofChar, h]

theorem Loader.lookup_ofChar {l : Loader} {source : Source} {c : Char} {shard : Shard}
    (h : l.load source (.ofChar c) = .ok shard) :
    (shard.trees (.ofChar c)).lookup c = shard.treeFor? c := by
  by_cases hc : c.isLower = true
  · rw [Bucket.ofChar_of_isLower hc] at h ⊢
    simp [lookup_letter h]
  · rw [Bucket.ofChar_of_not_isLower hc] at h ⊢
    exact lookup_other h c

/-- A shard has trees for characters of its own bucket, and the merged shard for any. -/
theorem Loader.bucket_of_lookup {l : Loader} {source : Source} {first c : Char} {shard : Shard} {t : Tree}
    (hl : l.load source (.ofChar first) = .ok shard) (hc : (shard.trees (.ofChar first)).lookup c = some t) :
    (Bucket.ofChar first = .ofChar c ∨ Bucket.ofChar first = .other) ∧ shard.treeFor? c = some t := by
  by_cases hf : first.isLower = true
  · rw [Bucket.ofChar_of_isLower hf] at hl hc
    rw [lookup_letter hl] at hc
    split at hc
    next heq =>
      subst heq
      exact ⟨.inl rfl, hc⟩
    next => cases hc
  · rw [Bucket.ofChar_of_not_isLower hf] at hl hc ⊢
    rw [lookup_other hl] at hc
    exact ⟨.inr rfl, hc⟩

theorem Bucket.name_ofChar_inj {c d : Char} (h : (ofChar c).name = (ofChar d).name) : ofChar c = ofChar d := by
  -- The name of the merged bucket is no letter.
  have apart : ∀ {c : Char}, c.isLower = true → String.singleton c ≠ "_" := by
    rintro c hc heq
    have hunderscore : c = '_' := by
      have hlist := congrArg String.toList heq
      simpa using hlist
    subst hunderscore
    exact absurd hc (by decide)
  by_cases hc : c.isLower = true
  · by_cases hd : d.isLower = true
    · rw [ofChar_of_isLower hc, ofChar_of_isLower hd] at h ⊢
      have hlist := congrArg String.toList h
      simpa [name] using hlist
    · rw [ofChar_of_isLower hc, ofChar_of_not_isLower hd] at h
      exact absurd h (apart hc)
  · by_cases hd : d.isLower = true
    · rw [ofChar_of_not_isLower hc, ofChar_of_isLower hd] at h
      exact absurd h.symm (apart hd)
    · rw [ofChar_of_not_isLower hc, ofChar_of_not_isLower hd]

/-- Buckets have resources of their own. -/
theorem Loader.resource_ofChar_inj {l : Loader} {c d : Char}
    (h : l.resource (.ofChar c) = l.resource (.ofChar d)) : Bucket.ofChar c = .ofChar d := by
  simp only [resource, String.append_assoc] at h
  exact Bucket.name_ofChar_inj ((String.append_left_inj _).mp h)

/-! ## The invariant -/

/-- Everything in a store is what the index publishes. -/
structure Store.Faithful (l : Loader) (source : Source) (s : Store) : Prop where
  /-- A tree was published for its character, by its own bucket or by the merged shard. -/
  trees : ∀ {c t}, s.get? c = some t → ∃ b shard, (b = .ofChar c ∨ b = .other) ∧
    l.load source b = .ok shard ∧ shard.treeFor? c = some t
  /-- A remembered bucket can be loaded, and no character it publishes lacks a tree. -/
  fetched : ∀ {b}, s.isFetched b = true → ∃ shard, l.load source b = .ok shard ∧
    ∀ c, s.get? c = none → (shard.trees b).lookup c = none

namespace Store.Faithful

variable {l : Loader} {source : Source} {s : Store}

theorem empty : Store.empty.Faithful l source where
  trees h := by simp at h
  fetched h := by simp at h

/-- Storing the shard that was loaded for some character's bucket. -/
theorem insertBucket (h : s.Faithful l source) {first : Char} {shard : Shard}
    (hl : l.load source (.ofChar first) = .ok shard) :
    (s.insertBucket (.ofChar first) (shard.trees (.ofChar first))).1.Faithful l source where
  trees {c t} hc := by
    rw [get?_insertBucket, Option.or_eq_some_iff] at hc
    rcases hc with hc | ⟨-, hc⟩
    · exact h.trees hc
    obtain ⟨hb, ht⟩ := Loader.bucket_of_lookup hl hc
    exact ⟨.ofChar first, shard, hb, hl, ht⟩
  fetched {b} hb := by
    have hnone : ∀ c, (s.insertBucket (.ofChar first) (shard.trees (.ofChar first))).1.get? c = none →
        s.get? c = none ∧ (shard.trees (.ofChar first)).lookup c = none := by
      intro c hc
      simpa using hc
    rcases (isFetched_insertBucket ..).mp hb with hb | rfl
    · obtain ⟨shard', hl', hall⟩ := h.fetched hb
      exact ⟨shard', hl', fun c hc => hall c (hnone c hc).1⟩
    · exact ⟨shard, hl, fun c hc => (hnone c hc).2⟩

/-- Once the store has a tree for a character or remembers its bucket, the tree is the one that the
bucket publishes, or the one that the merged shard has under a letter. -/
theorem get?_cases (h : s.Faithful l source) {first : Char}
    (hin : s.contains first = true ∨ s.isFetched (.ofChar first) = true) :
    (∃ shard, l.load source (.ofChar first) = .ok shard ∧ s.get? first = shard.treeFor? first) ∨
      ∃ t, first.isLower = true ∧ l.Merges source first t ∧ s.get? first = some t := by
  cases hg : s.get? first with
  | some t =>
    obtain ⟨b, shard, rfl | rfl, hl, ht⟩ := h.trees hg
    · exact .inl ⟨shard, hl, ht.symm⟩
    by_cases hf : first.isLower = true
    · exact .inr ⟨t, hf, ⟨shard, hl, ht⟩, rfl⟩
    · rw [← Bucket.ofChar_of_not_isLower hf] at hl
      exact .inl ⟨shard, hl, ht.symm⟩
  | none =>
    have hf : s.isFetched (.ofChar first) = true := by
      refine hin.resolve_left fun hc => ?_
      obtain ⟨t, ht⟩ := contains_iff.mp hc
      rw [hg] at ht
      cases ht
    obtain ⟨shard, hl, hall⟩ := h.fetched hf
    have hnone := hall first hg
    rw [Loader.lookup_ofChar hl] at hnone
    exact .inl ⟨shard, hl, hnone.symm⟩

end Store.Faithful

/-- The query of a term that is long enough. -/
structure Engine.Asks (least : Nat) (term : String) (first : Char) (rest : List Char) : Prop where
  lower : Text.lower term.toList = first :: rest
  enough : least ≤ (first :: rest).length

theorem Engine.direct_of_not_asks {l : Loader} {least : Nat} {source : Source} {term : String}
    (h : ∀ first rest, ¬ Asks least term first rest) :
    direct l least source term = .error (.tooShort (Text.lowercase term) least) := by
  rw [direct, Text.lowercase]
  cases hq : Text.lower term.toList with
  | nil => rfl
  | cons first rest =>
    have hshort : ¬ least ≤ (first :: rest).length := fun he => h first rest ⟨hq, he⟩
    simp only [if_neg hshort]

theorem Engine.direct_of_asks {l : Loader} {least : Nat} {source : Source} {term : String} {first : Char}
    {rest : List Char} (h : Asks least term first rest) :
    direct l least source term =
      match l.load source (.ofChar first) with
      | .error cause => .error (.unavailable (Bucket.ofChar first).name cause)
      | .ok shard => answer (shard.treeFor? first) first rest := by
  simp only [direct, h.lower]
  rw [if_pos h.enough]

theorem Loader.load_ne_superseded (l : Loader) (source : Source) (b : Bucket) (resource : String) :
    l.load source b ≠ .error (.superseded resource) := by
  intro h
  simp only [load, settle] at h
  split at h
  · cases h
  · split at h <;> cases h

theorem Engine.answer_ne_unavailable (tree : Option Tree) (first : Char) (rest : List Char) (name : String)
    (cause : LoadError) : answer tree first rest ≠ .error (.unavailable name cause) := by
  intro h
  simp only [answer] at h
  split at h
  · cases h
  · split at h <;> cases h

/-- A search that remembers nothing is never superseded. -/
theorem Engine.direct_ne_superseded (l : Loader) (least : Nat) (source : Source) (term name resource : String) :
    direct l least source term ≠ .error (.unavailable name (.superseded resource)) := by
  intro h
  by_cases hq : ∃ first rest, Asks least term first rest
  · obtain ⟨first, rest, hq⟩ := hq
    rw [direct_of_asks hq] at h
    split at h
    next cause hl =>
      cases h
      exact l.load_ne_superseded source _ resource hl
    next => exact answer_ne_unavailable _ _ _ _ _ h
  · rw [direct_of_not_asks fun first rest h => hq ⟨first, rest, h⟩] at h
    cases h

/-- **A faithful store answers like the index itself**, for every query that is not shadowed. -/
theorem Store.Faithful.lookIn_eq {l : Loader} {source : Source} {s : Store} (h : s.Faithful l source)
    {least : Nat} {term : String} {first : Char} {rest : List Char}
    (hq : Engine.Asks least term first rest) (hs : ¬ l.Shadows source first)
    (hin : s.contains first = true ∨ s.isFetched (.ofChar first) = true) :
    Engine.lookIn s first rest = Engine.direct l least source term := by
  rcases h.get?_cases hin with ⟨shard, hl, hg⟩ | ⟨t, hf, hm, -⟩
  · rw [Engine.lookIn_eq_answer, hg, Engine.direct_of_asks hq, hl]
  · exact absurd ⟨hf, t, hm⟩ hs

/-! ## An index without shadowed letters -/

/-- The keywords "cat" and "catalog" under their letter, and "2013" in the merged shard. -/
def Source.cats : Source where
  fetch resource :=
    if resource = "c.js" then
      .ok "[\x7b\"at\":[\x7b\"alog\":[\x7b\x7d,[\"docB\"]]\x7d,[\"docA\"]]\x7d]"
    else if resource = "_.js" then .ok "\x7b\"2\":[\x7b\"013\":[\x7b\x7d,[\"docC\"]]\x7d]\x7d"
    else .error (.status resource 404)
  locate resource := resource

theorem Loader.not_shadows_cats (c : Char) : ¬ (Loader.ofExtension "js").Shadows .cats c := by
  rintro ⟨hc, t, shard, hl, ht⟩
  have hload : (Loader.ofExtension "js").load .cats .other =
      .ok (.merged ⟨[(['2'], .ofChildren [(['0', '1', '3'], .node .nil (some [⟨"docC"⟩]))] none)], by simp⟩) := by
    cbv
  cases hload.symm.trans hl
  simp only [Shard.treeFor?, Table.get?, List.lookup_cons, List.lookup_nil] at ht
  split at ht
  next heq =>
    have h2 : c = '2' := by simpa using heq
    subst h2
    exact absurd hc (by decide)
  next => cases ht

end ShardSearch
