/-
Letters that the merged shard has a key for.

A query that starts with a letter is meant for the letter's own shard. The store, though, takes every
key of one character that the merged shard has, letters included, and a tree that is there is not
loaded again. So once any query of the merged bucket was made, such a letter is answered from the
merged shard, and before that from its own.

`letters_own_iff` says exactly when this cannot be noticed: in the store, if and only if each letter
in the merged shard has the same tree in its own shard; and in the answers to a query, if and only if
the merged shard's tree answers it as the letter's own shard does.
-/
import ShardSearch.Proofs.SearchSession

namespace ShardSearch

/-! ## A query of the merged bucket -/

theorem Text.lowerAfter_zeros (before : List Char) (n : Nat) :
    lowerAfter before (List.replicate n '0') = List.replicate n '0' := by
  induction n generalizing before with
  | zero => rfl
  | succ n ih =>
    have hzero : lowerIn before '0' (List.replicate n '0') = ['0'] := by
      have hne : ¬ '0' = capitalSigma := by decide
      rw [lowerIn, if_neg hne]
      decide
    rw [List.replicate_succ, lowerAfter, ih, hzero, List.singleton_append]

namespace Engine

/-- A query of the merged bucket that is long enough. -/
def zeros (least : Nat) : String := String.ofList (List.replicate (least + 1) '0')

theorem asks_zeros (least : Nat) : Asks least (zeros least) '0' (List.replicate least '0') where
  lower := by rw [zeros, String.toList_ofList, Text.lower, Text.lowerAfter_zeros, List.replicate_succ]
  enough := by simp

theorem get?_searched_zeros {l : Loader} {least : Nat} {entries : Option EntryList} {source : Source}
    {shard : Shard} (hl : l.load source .other = .ok shard) (c : Char) :
    ((opened l least entries).searched source (zeros least)).store.get? c = shard.treeFor? c := by
  have htook := trySearch_took (opened l least entries) source (zeros least)
  have hzeros := asks_zeros least
  simp only [searched]
  generalize (opened l least entries).trySearch source (zeros least) = t at htook ⊢
  have hfirst : ∀ {first rest}, Asks least (zeros least) first rest → Bucket.ofChar first = .other := by
    intro first rest hq
    have heq := hzeros.lower.symm.trans hq.lower
    cases heq
    rfl
  cases htook with
  | tooShort hnot => exact absurd hzeros (hnot _ _)
  | present _ hin => simp [opened, Store.contains_eq_isSome] at hin
  | failed hq _ _ hfail =>
    rw [hfirst hq] at hfail
    exact absurd (hl.symm.trans hfail) (by simp)
  | loaded hq _ _ hload hstore =>
    rw [hfirst hq] at hload hstore
    have heq := hl.symm.trans hload
    cases heq
    simp [hstore, opened, Loader.lookup_other hl]

/-! ## When shadowing cannot be noticed -/

section

variable {l : Loader} {least : Nat} {entries : Option EntryList} {source : Source}

theorem Asks.unique {term : String} {c d : Char} {r q : List Char} (h : Asks least term c r)
    (h' : Asks least term d q) : c = d ∧ r = q := by
  have heq := h.lower.symm.trans h'.lower
  simpa using heq

theorem trySearch_of_get? {e : Engine} {term : String} {first : Char} {rest : List Char} {t : Tree}
    (hq : Asks e.leastLength term first rest) (hg : e.store.get? first = some t) :
    (e.trySearch source term).result = answer (some t) first rest := by
  have hc : e.store.contains first = true := Store.contains_iff.mpr ⟨t, hg⟩
  rw [trySearch_of_asks hq]
  simp only [ensureLoaded, if_pos hc]
  rw [lookIn_eq_answer, hg]

theorem opened_trySearch (term : String) :
    ((opened l least entries).trySearch source term).result = direct l least source term := by
  rcases trySearch_cases (opened l least entries) source term with hr | ⟨first, rest, -, hin, -⟩
  · exact hr
  · simp [opened, Store.contains_eq_isSome] at hin

theorem stored_letters_iff :
    (∀ terms c t, c.isLower = true → (session l least entries source terms).store.get? c = some t →
        l.load source (.letter c) = .ok (.single t)) ↔
      ∀ c t, c.isLower = true → l.Merges source c t → l.load source (.letter c) = .ok (.single t) := by
  constructor
  · rintro h c t hc ⟨shard, hl, ht⟩
    exact h [zeros least] c t hc ((get?_searched_zeros hl c).trans ht)
  · intro h terms c t hc hg
    obtain ⟨b, shard, rfl | rfl, hl, ht⟩ := (session_faithful l least entries source terms).trees hg
    · rw [Bucket.ofChar_of_isLower hc] at hl
      obtain ⟨u, rfl⟩ := Loader.load_letter hl
      cases ht
      exact hl
    · exact h c t hc ⟨shard, hl, ht⟩

theorem letter_answers_iff {term : String} {first : Char} {rest : List Char} (hq : Asks least term first rest) :
    (∀ terms, ((session l least entries source terms).trySearch source term).result =
        ((opened l least entries).trySearch source term).result) ↔
      ∀ t, l.Merges source first t → answer (some t) first rest = direct l least source term := by
  simp only [opened_trySearch]
  constructor
  · rintro h t ⟨shard, hl, ht⟩
    -- One query of the merged bucket is all the history it takes.
    have hg : (session l least entries source [zeros least]).store.get? first = some t :=
      (get?_searched_zeros hl first).trans ht
    have hq' : Asks (session l least entries source [zeros least]).leastLength term first rest := by
      simpa using hq
    rw [← h [zeros least], trySearch_of_get? hq' hg]
  · intro h terms
    rcases trySearch_cases (session l least entries source terms) source term with hr | ⟨d, q, hq', hin, hr⟩
    · simpa using hr
    · rw [session_leastLength] at hq'
      obtain ⟨rfl, rfl⟩ := hq.unique hq'
      rw [hr, lookIn_eq_answer]
      rcases (session_faithful l least entries source terms).get?_cases hin with ⟨shard, hl, hg⟩ | ⟨t, -, hm, hg⟩
      · rw [hg, direct_of_asks hq, hl]
      · rw [hg, h t hm]

end

/-- **When letters are answered from their own shard.** In all sessions on an index, every tree that
the store has for a letter is the one that the letter's resource publishes if and only if this is so
for the letters in the merged shard; and the answer to a query that starts with a letter is the same
after all searches if and only if the merged shard's tree for the letter, where there is one, gives
the answer of the letter's own shard. -/
theorem letters_own_iff (l : Loader) (least : Nat) (entries : Option EntryList) (source : Source) :
    ((∀ terms c t, c.isLower = true → (session l least entries source terms).store.get? c = some t →
        l.load source (.letter c) = .ok (.single t)) ↔
      ∀ c t, c.isLower = true → l.Merges source c t → l.load source (.letter c) = .ok (.single t)) ∧
    ∀ term first rest, Asks least term first rest → first.isLower = true →
      ((∀ terms, ((session l least entries source terms).trySearch source term).result =
          ((opened l least entries).trySearch source term).result) ↔
        ∀ t, l.Merges source first t → answer (some t) first rest = direct l least source term) :=
  ⟨stored_letters_iff, fun _ _ _ hq _ => letter_answers_iff hq⟩

/-- An index whose merged shard has a tree under the letter `c`. -/
def shadowedCats : Source where
  fetch resource :=
    if resource = "c.js" then .ok "[\x7b\"at\":[\x7b\x7d,[\"own\"]]\x7d]"
    else if resource = "_.js" then .ok "\x7b\"c\":[\x7b\"at\":[\x7b\x7d,[\"merged\"]]\x7d]\x7d"
    else .error (.status resource 404)
  locate resource := resource

/-- The answer to a query of a letter depends on whether the merged bucket was searched before. -/
theorem cat_answered_from_merged :
    ((session (.ofExtension "js") 2 none shadowedCats []).trySearch shadowedCats "cat").result =
      .ok ⟨[⟨"own"⟩], []⟩ ∧
    ((session (.ofExtension "js") 2 none shadowedCats ["1x"]).trySearch shadowedCats "cat").result =
      .ok ⟨[⟨"merged"⟩], []⟩ := by
  constructor
  · cbv
  · cbv

end Engine

end ShardSearch
