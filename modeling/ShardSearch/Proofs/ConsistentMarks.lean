/-
Trees and marks of a session agree, on an index that may answer differently every time.

The store has two parts that a search asks one after the other, the trees by character and the marks
of the buckets. `Consistent` is what ties them together: a letter that is marked is a letter and has a
tree, and every tree has a mark that accounts for it, its own bucket's or the merged one's. A search
keeps it, whatever it does (`searched_consistent`).

So a letter never lacks a tree once its bucket was stored, and only a character of the merged bucket
can be found without one. Such a character is then settled (`Settled`): its bucket is marked, so it is
not requested again, and no other bucket has a tree for it.
-/
import ShardSearch.Proofs.SearchSession

namespace ShardSearch

/-- The trees and the marks of a store agree. -/
structure Store.Consistent (s : Store) : Prop where
  /-- A marked letter is one of `a` to `z` and has a tree. -/
  letter : ∀ {c}, s.isFetched (.letter c) = true → c.isLower = true ∧ ∃ t, s.get? c = some t
  /-- A tree for anything but a letter came from the merged shard. -/
  other : ∀ {c t}, s.get? c = some t → c.isLower = false → s.isFetched .other = true
  /-- So did a tree for a letter that is not marked. -/
  borrowed : ∀ {c t}, s.get? c = some t → c.isLower = true → s.isFetched (.letter c) = false →
    s.isFetched .other = true

namespace Store.Consistent

variable {s : Store}

theorem empty : Store.empty.Consistent where
  letter h := by simp at h
  other h := by simp at h
  borrowed h := by simp at h

theorem insertBucket (h : s.Consistent) {l : Loader} {source : Source} {first : Char} {shard : Shard}
    (hl : l.load source (.ofChar first) = .ok shard) :
    (s.insertBucket (.ofChar first) (shard.trees (.ofChar first))).1.Consistent where
  letter {c} hmark := by
    rw [get?_insertBucket]
    rcases (isFetched_insertBucket ..).mp hmark with hmark | hb
    · obtain ⟨hc, t, ht⟩ := h.letter hmark
      exact ⟨hc, t, by rw [ht, Option.some_or]⟩
    · -- The letter's own shard, which is one tree.
      by_cases hf : first.isLower = true
      · have hcf : first = c := by simpa [Bucket.ofChar_of_isLower hf] using hb.symm
        subst hcf
        refine ⟨hf, ?_⟩
        rw [Loader.lookup_ofChar hl]
        rw [Bucket.ofChar_of_isLower hf] at hl
        obtain ⟨t, rfl⟩ := Loader.load_letter hl
        cases hg : s.get? first with
        | some u => exact ⟨u, rfl⟩
        | none => exact ⟨t, rfl⟩
      · rw [Bucket.ofChar_of_not_isLower hf] at hb
        cases hb
  other {c t} ht hc := by
    have hc' : Bucket.ofChar c = .other := Bucket.ofChar_of_not_isLower (by simp [hc])
    rw [get?_insertBucket, Option.or_eq_some_iff] at ht
    rw [isFetched_insertBucket]
    rcases ht with ht | ⟨-, ht⟩
    · exact .inl (h.other ht hc)
    · obtain ⟨hb | hb, -⟩ := Loader.bucket_of_lookup hl ht
      · exact .inr (hb.trans hc').symm
      · exact .inr hb.symm
  borrowed {c t} ht hc hunmarked := by
    rw [get?_insertBucket, Option.or_eq_some_iff] at ht
    rw [← Bool.not_eq_true, isFetched_insertBucket, not_or, Bool.not_eq_true] at hunmarked
    rw [isFetched_insertBucket]
    rcases ht with ht | ⟨-, ht⟩
    · exact .inl (h.borrowed ht hc hunmarked.1)
    · obtain ⟨hb | hb, -⟩ := Loader.bucket_of_lookup hl ht
      · rw [Bucket.ofChar_of_isLower hc] at hb
        exact absurd hb.symm hunmarked.2
      · exact .inr hb.symm

end Store.Consistent

namespace Engine

theorem searched_consistent (e : Engine) (source : Source) (term : String) (h : e.store.Consistent) :
    (e.searched source term).store.Consistent := by
  rcases store_searched_cases e source term with hsame | ⟨first, shard, -, hl, hstore⟩
  · rw [hsame]
    exact h
  · rw [hstore]
    exact h.insertBucket hl

/-! ## Characters without a tree -/

/-- A session knows that there is no tree for a character: its bucket, the merged one, was stored. -/
structure Settled (e : Engine) (c : Char) : Prop where
  other : Bucket.ofChar c = .other
  absent : e.store.get? c = none
  marked : e.store.isFetched .other = true

theorem lookIn_eq_noTree {s : Store} {first c : Char} {rest : List Char}
    (h : lookIn s first rest = .error (.noTree c)) : first = c ∧ s.get? c = none := by
  unfold lookIn at h
  split at h
  next hnone =>
    cases h
    exact ⟨rfl, hnone⟩
  next => split at h <;> cases h

/-- A character is reported to have no tree after its bucket was stored, and not before. -/
theorem marked_of_noTree {e : Engine} {source : Source} {term : String} {c : Char}
    (h : (e.trySearch source term).result = .error (.noTree c)) :
    (e.searched source term).store.get? c = none ∧
      (e.searched source term).store.isFetched (.ofChar c) = true := by
  have htook := trySearch_took e source term
  simp only [searched]
  generalize e.trySearch source term = t at htook h ⊢
  cases htook with
  | tooShort => cases h
  | failed => cases h
  | present hq hin =>
    obtain ⟨rfl, hnone⟩ := lookIn_eq_noTree h
    refine ⟨hnone, hin.resolve_left ?_⟩
    simp [Store.contains_eq_isSome, hnone]
  | loaded hq _ _ hl hstore =>
    obtain ⟨rfl, hnone⟩ := lookIn_eq_noTree h
    refine ⟨hnone, ?_⟩
    rw [hstore, Store.isFetched_insertBucket]
    exact .inr rfl

theorem settled_of_noTree {e : Engine} (hconsistent : e.store.Consistent) {source : Source} {term : String}
    {c : Char} (h : (e.trySearch source term).result = .error (.noTree c)) : (e.searched source term).Settled c := by
  obtain ⟨hnone, hmarked⟩ := marked_of_noTree h
  have hc : ¬ c.isLower = true := by
    intro hlower
    rw [Bucket.ofChar_of_isLower hlower] at hmarked
    obtain ⟨-, t, ht⟩ := (searched_consistent e source term hconsistent).letter hmarked
    rw [hnone] at ht
    cases ht
  have hother := Bucket.ofChar_of_not_isLower hc
  rw [hother] at hmarked
  exact ⟨hother, hnone, hmarked⟩

theorem searched_settled {c : Char} (e : Engine) (source : Source) (term : String) (h : e.Settled c) :
    (e.searched source term).Settled c := by
  rcases store_searched_cases e source term with hsame | ⟨first, shard, hunmarked, hl, hstore⟩
  · exact ⟨h.other, by rw [hsame, h.absent], by rw [hsame, h.marked]⟩
  -- The merged bucket is marked, so this is a letter's shard, which has nothing for the character.
  have hnothing : (shard.trees (.ofChar first)).lookup c = none := by
    rw [Option.eq_none_iff_forall_ne_some]
    intro t ht
    obtain ⟨hb, -⟩ := Loader.bucket_of_lookup hl ht
    rw [h.other, or_self] at hb
    rw [hb, h.marked] at hunmarked
    cases hunmarked
  refine ⟨h.other, ?_, ?_⟩
  · rw [hstore, Store.get?_insertBucket, h.absent, hnothing, Option.none_or]
  · rw [hstore]
    exact (Store.Within.insertBucket _ _ _).isFetched h.marked

theorem trySearch_of_settled {e : Engine} {c : Char} (h : e.Settled c) (source : Source) {term : String}
    {rest : List Char} (hq : Asks e.leastLength term c rest) :
    (e.trySearch source term).result = .error (.noTree c) ∧ (e.trySearch source term).requests = [] := by
  have hcontains : ¬ e.store.contains c = true := by simp [Store.contains_eq_isSome, h.absent]
  have hmarked : e.store.isFetched (.ofChar c) = true := by
    rw [h.other]
    exact h.marked
  rw [trySearch_of_asks hq]
  simp only [ensureLoaded, if_neg hcontains, if_pos hmarked, lookIn, h.absent, and_self]

/-- What a session may rely on. -/
structure Agreement (e : Engine) : Prop where
  consistent : e.store.Consistent
  /-- Only what is no letter is reported to have no tree. -/
  noLetter : ∀ source term c, (e.trySearch source term).result = .error (.noTree c) → c.isLower = false
  /-- What was reported once is reported by all later searches of terms that start with the character and
  are long enough, and none of them makes a request. -/
  final : ∀ source term c, (e.trySearch source term).result = .error (.noTree c) →
    ∀ later source' term' rest, Asks e.leastLength term' c rest →
      (((e.searched source term).searchedAll later).trySearch source' term').result = .error (.noTree c) ∧
        (((e.searched source term).searchedAll later).trySearch source' term').requests = []

/-- **Trees and marks agree in every session**, after any searches, whatever the index answered each time.
So a search reports that a character has no tree only if it is no letter, and then for good. -/
theorem session_agreement (l : Loader) (least : Nat) (entries : Option EntryList)
    (before : List (Source × String)) : ((opened l least entries).searchedAll before).Agreement := by
  have hconsistent : ((opened l least entries).searchedAll before).store.Consistent :=
    searchedAll_invariant (P := fun e => e.store.Consistent) searched_consistent .empty before
  generalize (opened l least entries).searchedAll before = e at hconsistent ⊢
  refine ⟨hconsistent, ?_, ?_⟩
  · intro source term c h
    have hother := (settled_of_noTree hconsistent h).other
    cases hlower : c.isLower with
    | false => rfl
    | true =>
      rw [Bucket.ofChar_of_isLower hlower] at hother
      cases hother
  · intro source term c h later source' term' rest hq
    have hsettled : ((e.searched source term).searchedAll later).Settled c :=
      searchedAll_invariant searched_settled (settled_of_noTree hconsistent h) later
    have hleast : ((e.searched source term).searchedAll later).leastLength = e.leastLength := by
      rw [searchedAll_frame]
      rfl
    rw [← hleast] at hq
    exact trySearch_of_settled hsettled source' hq

/-- An index that has a tree for the dash and nothing else. -/
def dashes : Source where
  fetch resource :=
    if resource = "_.js" then .ok "\x7b\"-\":[\x7b\"vm\":[\x7b\x7d,[\"docD\"]]\x7d]\x7d"
    else .error (.status resource 404)
  locate resource := resource

/-- A session that has searched "cat". -/
def afterCat : Engine := (opened (.ofExtension "js") 2 none).searchedAll [(.cats, "cat")]

/-- The dash has no tree when it is first asked for, and for this session it stays so, although the index
has one later. -/
theorem session_agreement_dash : (afterCat.trySearch .cats "-vm").result = .error (.noTree '-') ∧
    (((afterCat.searched .cats "-vm").searchedAll [(dashes, "zoo")]).trySearch dashes "-VM").result =
      .error (.noTree '-') ∧
    (((afterCat.searched .cats "-vm").searchedAll [(dashes, "zoo")]).trySearch dashes "-VM").requests = [] := by
  have hnone : (afterCat.trySearch .cats "-vm").result = .error (.noTree '-') := by cbv
  have hasks : Asks 2 "-VM" '-' ['v', 'm'] := ⟨by decide, by decide⟩
  exact ⟨hnone, (session_agreement (.ofExtension "js") 2 none [(.cats, "cat")]).final .cats "-vm" '-' hnone
    [(dashes, "zoo")] dashes "-VM" ['v', 'm'] hasks⟩

end Engine

end ShardSearch
