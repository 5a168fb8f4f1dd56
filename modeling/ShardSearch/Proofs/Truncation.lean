/-
A text that breaks off is never taken for a smaller one.

The readers of trees, of maps of trees and of entries are firm, since they are made of firm readers
and the identifiers among them are items of arrays. What they accept ends with a bracket, so they
accept no front of it that lacks the bracket, and a shard that was cut off is not stored
(`truncated_refused`).
-/
import ShardSearch.Load.Basic
import ShardSearch.Proofs.JsonCuts

namespace ShardSearch

/-! ## Trees -/

namespace Tree

open Json

theorem readId_loose (depth : Nat) : Loose (readId depth) := by
  intro p q id rest h
  obtain ⟨v, hv, hid⟩ := (readId_interprets depth).read_iff.mp h
  have hscalar : ∃ x, v = .scalar x ∧ scalar (skipBlanks (p ++ q)) = .ok (x, rest) := by
    rcases value_eq_ok_iff.mp hv with hx | ⟨_, _, _, _, rfl, -⟩ | ⟨_, _, _, _, rfl, -⟩
    · exact hx
    · cases hid
    · cases hid
  obtain ⟨x, rfl, hx⟩ := hscalar
  have hread {y : Scalar} {id : DocumentId} {r : List Char} (hy : scalar (skipBlanks p) = .ok (y, r))
      (hid : IdPublished (.scalar y) id) : readId depth p = .ok (id, r) :=
    (readId_interprets depth).read_iff.mpr ⟨.scalar y, value_of_scalar hy, hid⟩
  rcases skipBlanks_cut p q with hp | ⟨c, r, hp, hpq⟩
  · exact .inr (.inl (by cases depth <;> simp [readId, value, hp, scalar]))
  rw [hpq] at hx
  cases hid with
  | token s =>
    obtain ⟨s', hs', hstring⟩ := scalar_string_iff.mp hx
    cases hs'
    rcases string_firm hstring with ⟨r', hr', hdone⟩ | hend
    · refine .inl ⟨r', hr', hread ?_ (.token s)⟩
      rw [hp]
      exact scalar_string_iff.mpr ⟨r, rfl, hdone⟩
    · have hquote : scalar ('"' :: r) = .error .truncated := by simp [scalar, hend, bind, Except.bind]
      exact .inr (.inl (by cases depth <;> simp [readId, value, hp, hquote]))
  | ordinal n =>
    rcases scalar_natural_cut (p := c :: r) (by simp) hx with ⟨r', hr', hdone⟩ | ⟨m, hm⟩
    · exact .inl ⟨r', hr', hread (by rw [hp]; exact hdone) (.ordinal n)⟩
    · exact .inr (.inr ⟨_, hread (by rw [hp]; exact hm) (.ordinal m)⟩)

theorem readIds_firm (depth : Nat) : Firm (readIds depth) :=
  array_firm (fun d => elements_firm (readId_loose d)) depth

theorem readNodes_firm {read : Nat → Reader Tree} (h : ∀ depth, Firm (read depth)) (depth : Nat) :
    Firm (readNodes read depth) := by
  refine object_firm (fun d => ?_) depth
  intro p q trees rest hr
  dsimp only at hr ⊢
  split at hr
  · cases hr
  next pairs _ hpairs =>
  cases hr
  rcases members_firm string_firm (h d).loose hpairs with ⟨r, hr, hdone⟩ | hend
  · exact .inl ⟨r, hr, by rw [hdone]⟩
  · exact .inr (by rw [hend])

theorem readBody_firm {readChildren : Nat → Reader (Keyed Tree)} (h : ∀ depth, Firm (readChildren depth))
    (depth : Nat) : Firm (readBody readChildren depth) := by
  intro p q t rest hr
  obtain ⟨s₁, children, s₂, hn, hc, htail⟩ := readBody_eq_ok_iff.mp hr
  rcases nextElement_punctuates.item hn with ⟨r₁, rfl, hn'⟩ | hend
  swap
  · exact .inr (by rw [readBody, hend])
  rcases h depth hc with ⟨r₂, rfl, hc'⟩ | hend
  swap
  · exact .inr (by simp [readBody, hn', hend])
  rcases htail with ⟨hclosed, rfl⟩ | ⟨s₃, ids, s₄, hitem, hids, hclosed, rfl⟩
  · rcases nextElement_punctuates.closed hclosed with ⟨r, rfl, hclosed'⟩ | hend
    swap
    · exact .inr (by simp [readBody, readTail, hn', hc', hend])
    exact .inl ⟨r, rfl, readBody_eq_ok_iff.mpr ⟨r₁, children, r₂, hn', hc', .inl ⟨hclosed', rfl⟩⟩⟩
  · rcases nextElement_punctuates.item hitem with ⟨r₃, rfl, hitem'⟩ | hend
    swap
    · exact .inr (by simp [readBody, readTail, hn', hc', hend])
    rcases readIds_firm depth hids with ⟨r₄, rfl, hids'⟩ | hend
    swap
    · exact .inr (by simp [readBody, readTail, hn', hc', hitem', hend])
    rcases nextElement_punctuates.closed hclosed with ⟨r, rfl, hclosed'⟩ | hend
    swap
    · exact .inr (by simp [readBody, readTail, hn', hc', hitem', hids', hend])
    exact .inl ⟨r, rfl, readBody_eq_ok_iff.mpr
      ⟨r₁, children, r₂, hn', hc', .inr ⟨r₃, ids, r₄, hitem', hids', hclosed', rfl⟩⟩⟩

theorem readIn_firm : ∀ levels depth, Firm (readIn levels depth)
  | 0, _, _, _, _, _, hr => by cases hr
  | levels + 1, depth, _, _, _, _, hr =>
    array_firm (readBody_firm (readNodes_firm (readIn_firm levels))) depth hr

theorem read_firm (depth : Nat) : Firm (read depth) := readIn_firm (depth + 1) depth

theorem readMap_firm (depth : Nat) : Firm (readMap depth) := readNodes_firm read_firm depth

theorem decode_truncated {s : String} {t : Tree} (h : decode s = .ok t) :
    ∃ front, Closes ']' s.toList front ∧ ∀ p, p <+: front → decode (String.ofList p) = .error .truncated := by
  refine decode_cut (read_firm _) (fun hx => closes_of_array (read_interprets _) ?_ hx) h
  rintro v t (_ | _)
  · exact ⟨_, rfl⟩
  · exact ⟨_, rfl⟩

theorem decodeMap_truncated {s : String} {m : Keyed Tree} (h : decodeMap s = .ok m) :
    ∃ front, Closes '\x7d' s.toList front ∧
      ∀ p, p <+: front → decodeMap (String.ofList p) = .error .truncated := by
  refine decode_cut (readMap_firm _) (fun hx => closes_of_object (readMap_interprets _) ?_ hx) h
  rintro v m ⟨_⟩
  exact ⟨_, rfl⟩

end Tree

/-! ## Entries -/

namespace EntryList

open Json

theorem readPair_firm (depth : Nat) : Firm (readPair depth) := by
  intro p q e rest h
  obtain ⟨s₁, permalink, s₂, s₃, title, s₄, hn, hpermalink, hitem, htitle, hclose, rfl⟩ :=
    readPair_eq_ok_iff.mp h
  rcases nextElement_punctuates.item hn with ⟨r₁, rfl, hn'⟩ | hend
  swap
  · exact .inr (by rw [readPair, hend])
  rcases text_firm hpermalink with ⟨r₂, rfl, hpermalink'⟩ | hend
  swap
  · exact .inr (by simp [readPair, hn', hend])
  rcases nextElement_punctuates.item hitem with ⟨r₃, rfl, hitem'⟩ | hend
  swap
  · exact .inr (by simp [readPair, hn', hpermalink', hend])
  rcases text_firm htitle with ⟨r₄, rfl, htitle'⟩ | hend
  swap
  · exact .inr (by simp [readPair, hn', hpermalink', hitem', hend])
  rcases closeArray_cut hclose with ⟨r, rfl, hclose'⟩ | hend
  swap
  · exact .inr (by simp [readPair, hn', hpermalink', hitem', htitle', hend])
  exact .inl ⟨r, rfl, readPair_eq_ok_iff.mpr
    ⟨r₁, permalink, r₂, r₃, title, r₄, hn', hpermalink', hitem', htitle', hclose', rfl⟩⟩

theorem read_firm (depth : Nat) : Firm (read depth) :=
  array_firm (fun d => elements_firm (array_firm readPair_firm d).loose) depth

theorem decode_truncated {s : String} {es : EntryList} (h : decode s = .ok es) :
    ∃ front, Closes ']' s.toList front ∧ ∀ p, p <+: front → decode (String.ofList p) = .error .truncated := by
  refine decode_cut (read_firm _) (fun hx => closes_of_array (read_interprets _) ?_ hx) h
  rintro v es ⟨_⟩
  exact ⟨_, rfl⟩

end EntryList

/-! ## Shards -/

/-- The bracket that closes the shard of a bucket. -/
def Bucket.closing : Bucket → Char
  | .letter _ => ']'
  | .other => '\x7d'

theorem Shard.decode_truncated {b : Bucket} {body : String} {shard : Shard} (h : Shard.decode b body = .ok shard) :
    ∃ front, Json.Closes b.closing body.toList front ∧
      ∀ p, p <+: front → Shard.decode b (String.ofList p) = .error .truncated := by
  cases b with
  | letter c =>
    cases ht : Tree.decode body with
    | error f => simp [Shard.decode, ht, Except.map] at h
    | ok t =>
      obtain ⟨front, hfront, hcut⟩ := Tree.decode_truncated ht
      exact ⟨front, hfront, fun p hp => by rw [Shard.decode, hcut p hp, Except.map]⟩
  | other =>
    cases hm : Tree.decodeMap body with
    | error f => simp [Shard.decode, hm, Except.map] at h
    | ok m =>
      obtain ⟨front, hfront, hcut⟩ := Tree.decodeMap_truncated hm
      exact ⟨front, hfront, fun p hp => by rw [Shard.decode, hcut p hp, Except.map]⟩

theorem Loader.loadInto_of_fault {l : Loader} {source : Source} {b : Bucket} {body : String} {f : Json.Fault}
    (hfetch : source.fetch (l.resource b) = .ok body) (h : Shard.decode b body = .error f) (store : Store) :
    (l.loadInto source b store).result = .error (.decode (l.resource b) f) ∧
      (l.loadInto source b store).store = store := by
  have hload : l.load source b = .error (.decode (l.resource b) f) := by
    rw [Loader.load, hfetch, Loader.settle, h]
  simp [Loader.loadInto, hload]

/-- **A truncated resource is never taken for a smaller one.** A text that decodes ends with the
bracket of its value and blanks, and every front of it that lacks the bracket, wherever it is cut, is
refused because the text ends. So loading a shard whose body was cut off fails with that fault and
leaves the store as it was. -/
theorem truncated_refused :
    (∀ s t, Tree.decode s = .ok t → ∃ front, Json.Closes ']' s.toList front ∧
      ∀ p, p <+: front → Tree.decode (String.ofList p) = .error .truncated) ∧
    (∀ s m, Tree.decodeMap s = .ok m → ∃ front, Json.Closes '\x7d' s.toList front ∧
      ∀ p, p <+: front → Tree.decodeMap (String.ofList p) = .error .truncated) ∧
    (∀ s es, EntryList.decode s = .ok es → ∃ front, Json.Closes ']' s.toList front ∧
      ∀ p, p <+: front → EntryList.decode (String.ofList p) = .error .truncated) ∧
    Json.Fault.truncated.category = "eof" ∧
    ∀ b body shard, Shard.decode b body = .ok shard → ∃ front, Json.Closes b.closing body.toList front ∧
      ∀ p, p <+: front → ∀ (l : Loader) (source : Source) (store : Store),
        source.fetch (l.resource b) = .ok (String.ofList p) →
        (l.loadInto source b store).result = .error (.decode (l.resource b) .truncated) ∧
          (l.loadInto source b store).store = store := by
  refine ⟨fun _ _ => Tree.decode_truncated, fun _ _ => Tree.decodeMap_truncated,
    fun _ _ => EntryList.decode_truncated, rfl, fun b body shard h => ?_⟩
  obtain ⟨front, hfront, hcut⟩ := Shard.decode_truncated h
  exact ⟨front, hfront, fun p hp l source store hfetch => Loader.loadInto_of_fault hfetch (hcut p hp) store⟩

/-- A merged shard with a number and a pair of code units among its identifiers, and a blank behind
its bracket. -/
def digitShard : String := "\x7b\"1\":[\x7b\"x\":[\x7b\x7d,[12,\"\\ud83d\\ude00\"]]\x7d]\x7d\n"

/-- The trees that it publishes. -/
def digitTrees : Keyed Tree :=
  .ofPairs [(['1'], .ofChildren [(['x'], .node .nil (some [⟨"12"⟩, ⟨"😀"⟩]))] none)]

theorem truncated_refused_digitShard :
    Shard.decode .other digitShard = .ok (.merged digitTrees.toTable) ∧
    (∃ front, Json.Closes '\x7d' digitShard.toList front ∧
      ∀ p, p <+: front → ∀ (l : Loader) (source : Source) (store : Store),
        source.fetch (l.resource .other) = .ok (String.ofList p) →
        (l.loadInto source .other store).result = .error (.decode (l.resource .other) .truncated) ∧
          (l.loadInto source .other store).store = store) ∧
    (∃ front, Json.Closes '\x7d' digitShard.toList front ∧
      ∀ p, p <+: front → Tree.decodeMap (String.ofList p) = .error .truncated) ∧
    (∃ front, Json.Closes ']' "[\x7b\x7d,[1]]".toList front ∧
      ∀ p, p <+: front → Tree.decode (String.ofList p) = .error .truncated) ∧
    (∃ front, Json.Closes ']' "[[\"/a/\",\"A\"]]".toList front ∧
      ∀ p, p <+: front → EntryList.decode (String.ofList p) = .error .truncated) := by
  have hshard : Shard.decode .other digitShard = .ok (.merged digitTrees.toTable) := by rfl
  have hmap : Tree.decodeMap digitShard = .ok digitTrees := by rfl
  have htree : Tree.decode "[\x7b\x7d,[1]]" = .ok (.node .nil (some [⟨"1"⟩])) := by rfl
  have hentries : EntryList.decode "[[\"/a/\",\"A\"]]" = .ok [⟨"/a/", "A"⟩] := by rfl
  obtain ⟨ontree, onmap, onentries, -, onshard⟩ := truncated_refused
  exact ⟨hshard, onshard _ _ _ hshard, onmap _ _ hmap, ontree _ _ htree, onentries _ _ hentries⟩

end ShardSearch
