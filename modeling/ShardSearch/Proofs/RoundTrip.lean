/-
Decoding undoes encoding.

Whatever form its identifiers are written in, the value of a sorted tree publishes that tree
(`toValue_published`), so the text is decoded to it as long as the value is within the limit on open
containers. Every node takes two of them, one for itself and one for its children
(`depth_toValue_le_iff`), and an object of trees takes one more. Both decoders therefore stop at the
same height: paths of 62 edges are accepted, and a path of 63 edges makes the text malformed.
-/
import ShardSearch.Proofs.DepthLimit
import ShardSearch.Proofs.TreePath
import ShardSearch.Tree.Encode

namespace ShardSearch

/-! ## Numerals -/

namespace Text

theorem digitsValueFrom_eq {ds : List Char} (h : ∀ c ∈ ds, c.isDigit) (acc : Nat) :
    digitsValueFrom acc ds = some (Nat.ofDigitChars 10 ds acc) := by
  induction ds generalizing acc with
  | nil => rfl
  | cons d ds ih =>
    have hd : digitValue? d = some (d.toNat - '0'.toNat) := if_pos (h d (by simp))
    rw [digitsValueFrom, hd, Option.bind_some, ih fun c hc => h c (by simp [hc]), Nat.ofDigitChars_cons]

theorem digitsValue?_toDigits (n : Nat) : digitsValue? (unsigned (Nat.toDigits 10 n)) = some n := by
  have hdigits := Json.digits_toDigits n
  obtain ⟨d, ds, heq, hd⟩ := hdigits.cons
  have hplus : unsigned (d :: ds) = d :: ds := by
    unfold unsigned
    split
    next h =>
      cases h
      cases hd
    next => rfl
  rw [heq, hplus, digitsValue?, ← heq, digitsValueFrom_eq hdigits.2]
  · rw [Nat.ofDigitChars_toDigits (by omega) (by omega)]
  · simp

theorem count?_toString {n : Nat} (h : n < wordBound) : count? (toString n) = some n := by
  rw [count?, Nat.toString_eq_repr, Nat.toList_repr, digitsValue?_toDigits]
  simp [h]

theorem count?_lt {s : String} {n : Nat} (h : count? s = some n) : n < wordBound := by
  simpa using (Option.filter_eq_some_iff.mp h).2

end Text

/-- The number of a token is the one whose numeral it is, within 64 bits. -/
theorem DocumentId.numeral?_eq_some_iff {id : DocumentId} {n : Nat} :
    id.numeral? = some n ↔ n < 2 ^ 64 ∧ id = ofOrdinal n := by
  rw [numeral?, Option.filter_eq_some_iff, decide_eq_true_eq]
  constructor
  · rintro ⟨hn, heq⟩
    exact ⟨Text.count?_lt hn, heq.symm⟩
  · rintro ⟨hlt, rfl⟩
    exact ⟨Text.count?_toString hlt, rfl⟩

namespace Tree

open Json

/-! ## What the value of a tree publishes -/

theorem string_published (s : String) : IdPublished (.string s) ⟨s⟩ := by
  have htoken := IdPublished.token s.toList
  rwa [String.ofList_toList] at htoken

theorem idValue_published (asInteger : Bool) (id : DocumentId) : IdPublished (idValue asInteger id) id := by
  unfold idValue
  split
  next n hn =>
    obtain ⟨-, rfl⟩ := DocumentId.numeral?_eq_some_iff.mp hn
    exact .ordinal n
  next => exact string_published id.token

theorem toMembers_eq_mapIdx {low : Option (List Char)} (forms : IdForms) (position : Nat)
    (children : Ascending Tree low) : toMembers forms position children =
      children.toList.mapIdx fun i p => (p.1, p.2.toValue (forms.inside (i + position))) := by
  induction children generalizing position with
  | nil => rw [toMembers, Ascending.toList, List.mapIdx_nil]
  | cons k _ t children ih =>
    rw [toMembers, ih, Ascending.toList, List.mapIdx_cons, Nat.zero_add]
    simp only [Nat.add_assoc, Nat.add_comm 1]

/-- The children of a node are published as the list of them is. -/
theorem toMembers_eq_mapMembers {low : Option (List Char)} (forms : IdForms) (children : Ascending Tree low) :
    toMembers forms 0 children = mapMembers forms children.toList :=
  toMembers_eq_mapIdx forms 0 children

theorem mapMembers_published {trees : List (List Char × Tree)}
    (h : ∀ k t, (k, t) ∈ trees → ∀ forms, Published (t.toValue forms) t) (forms : IdForms) :
    MembersPublished (mapMembers forms trees) trees := by
  refine membersPublished_iff.mpr (List.forall₂_iff_get.mpr ⟨by simp [mapMembers], fun i hi hi' => ?_⟩)
  simpa [mapMembers] using h _ _ (List.getElem_mem hi') _

theorem toValue_published (t : Tree) (forms : IdForms) : Published (t.toValue forms) t := by
  induction t using Tree.induction generalizing forms with
  | step t ih =>
    obtain ⟨children, ids⟩ := t
    have hmembers : MembersPublished (toMembers forms 0 children) children.toList := by
      rw [toMembers_eq_mapMembers]
      exact mapMembers_published ih forms
    have hchildren := Keyed.collects_toList children
    cases ids with
    | none => exact .branch hmembers hchildren
    | some ids =>
      refine .keyword hmembers hchildren (List.forall₂_iff_get.mpr ⟨by simp, fun i hi hi' => ?_⟩)
      simpa using idValue_published _ _

/-! ## How deep it is -/

theorem forall_mapMembers_iff {P : Value → Prop} {Q : Tree → Prop} {trees : List (List Char × Tree)}
    (h : ∀ k t, (k, t) ∈ trees → ∀ forms, P (t.toValue forms) ↔ Q t) {forms : IdForms} :
    (∀ m ∈ mapMembers forms trees, P m.2) ↔ ∀ k t, (k, t) ∈ trees → Q t := by
  simp only [mapMembers, List.mem_mapIdx]
  constructor
  · intro hall k t hm
    obtain ⟨i, hi, heq⟩ := List.mem_iff_getElem.mp hm
    have hvalue := hall _ ⟨i, hi, rfl⟩
    rw [heq] at hvalue
    exact (h k t hm _).mp hvalue
  · rintro hall m ⟨i, hi, rfl⟩
    have hm := List.getElem_mem hi
    exact (h _ _ hm _).mpr (hall _ _ hm)

theorem idValue_plain (asInteger : Bool) (id : DocumentId) : (idValue asInteger id).Plain := by
  unfold idValue
  split
  next n hn => exact .scalar ⟨n, rfl, (DocumentId.numeral?_eq_some_iff.mp hn).1⟩
  next => exact .scalar trivial

theorem idValue_depth (asInteger : Bool) (id : DocumentId) : (idValue asInteger id).depth = 0 := by
  unfold idValue
  split <;> rfl

theorem idValues_plain (forms : IdForms) (ids : List DocumentId) : (idValues forms ids).Plain := by
  refine .array fun v hv => ?_
  obtain ⟨i, hi, rfl⟩ := List.mem_mapIdx.mp hv
  exact idValue_plain _ _

theorem idValues_depth_le (forms : IdForms) (ids : List DocumentId) : (idValues forms ids).depth ≤ 1 := by
  refine Value.depth_array_le_iff.mpr ⟨0, rfl, fun v hv => ?_⟩
  obtain ⟨i, hi, rfl⟩ := List.mem_mapIdx.mp hv
  rw [idValue_depth]

theorem toValue_plain (t : Tree) (forms : IdForms) : (t.toValue forms).Plain := by
  induction t using Tree.induction generalizing forms with
  | step t ih =>
    obtain ⟨children, ids⟩ := t
    have hmembers : ∀ m ∈ toMembers forms 0 children, m.2.Plain := by
      rw [toMembers_eq_mapMembers]
      exact (forall_mapMembers_iff (Q := fun _ => True) fun k c hc forms => by simp [ih k c hc forms]).mpr (by simp)
    refine .array fun v hv => ?_
    rcases List.mem_cons.mp hv with rfl | hv
    · exact .object hmembers
    · obtain ⟨ids, -, rfl⟩ : ∃ l, ids = some l ∧ idValues forms l = v := by simpa using hv
      exact idValues_plain forms ids

/-- A path of nodes opens two containers for each of its nodes. -/
theorem depth_toValue_le_iff {t : Tree} {forms : IdForms} {d : Nat} :
    (t.toValue forms).depth ≤ d ↔ ∀ labels u, t.Path labels u → 2 * (labels.length + 1) ≤ d := by
  induction t using Tree.induction generalizing forms d with
  | step t ih =>
    obtain ⟨children, ids⟩ := t
    have hmembers (e : Nat) : (∀ m ∈ toMembers forms 0 children, m.2.depth ≤ e) ↔
        ∀ k c, (k, c) ∈ children → ∀ labels u, c.Path labels u → 2 * (labels.length + 1) ≤ e := by
      rw [toMembers_eq_mapMembers]
      exact forall_mapMembers_iff (P := (·.depth ≤ e)) fun k c hc _ => ih k c hc
    constructor
    · intro h labels u hpath
      obtain ⟨e, rfl, hitems⟩ := Value.depth_array_le_iff.mp h
      obtain ⟨e, rfl, hobject⟩ := Value.depth_object_le_iff.mp (hitems _ List.mem_cons_self)
      cases hpath with
      | here =>
        simp only [List.length_nil]
        omega
      | down hc hpath =>
        have := (hmembers e).mp hobject _ _ hc _ _ hpath
        simp only [List.length_cons]
        omega
    · intro h
      have hroot := h [] _ (.here _)
      obtain ⟨e, rfl⟩ : ∃ e, d = e + 2 := ⟨d - 2, by simp only [List.length_nil] at hroot; omega⟩
      refine Value.depth_array_le_iff.mpr ⟨e + 1, rfl, fun v hv => ?_⟩
      rcases List.mem_cons.mp hv with rfl | hv
      · refine Value.depth_object_le_iff.mpr ⟨e, rfl, (hmembers e).mpr fun k c hc labels u hpath => ?_⟩
        have := h (k :: labels) u (.down hc hpath)
        simp only [List.length_cons] at this
        omega
      · obtain ⟨ids, -, rfl⟩ : ∃ l, ids = some l ∧ idValues forms l = v := by simpa using hv
        -- identifiers are no deeper than the children, which are there even if empty
        have := idValues_depth_le forms ids
        omega

theorem depth_mapMembers_le_iff {trees : List (List Char × Tree)} {forms : IdForms} {d : Nat} :
    (Value.object (mapMembers forms trees)).depth ≤ d + 1 ↔
      ∀ k t, (k, t) ∈ trees → ∀ labels u, t.Path labels u → 2 * (labels.length + 1) ≤ d := by
  rw [Value.depth_object_le_iff]
  simp only [Nat.add_right_cancel_iff, exists_eq_left']
  exact forall_mapMembers_iff (P := (·.depth ≤ d)) fun _ _ _ _ => depth_toValue_le_iff

/-! ## Texts of trees -/

/-- Every path in a tree has at most `n` edges. -/
def HeightAtMost (n : Nat) (t : Tree) : Prop := ∀ labels u, t.Path labels u → labels.length ≤ n

theorem depth_toValue_le_limit_iff {t : Tree} {forms : IdForms} :
    (t.toValue forms).depth ≤ depthLimit ↔ t.HeightAtMost 62 := by
  rw [depth_toValue_le_iff, depthLimit]
  refine forall_congr' fun labels => forall_congr' fun u => imp_congr_right fun _ => ?_
  omega

theorem depth_mapMembers_le_limit_iff {trees : List (List Char × Tree)} {forms : IdForms} :
    (Value.object (mapMembers forms trees)).depth ≤ depthLimit ↔ ∀ k t, (k, t) ∈ trees → t.HeightAtMost 62 := by
  rw [depthLimit, depth_mapMembers_le_iff]
  refine forall_congr' fun k => forall_congr' fun t => imp_congr_right fun _ =>
    forall_congr' fun labels => forall_congr' fun u => imp_congr_right fun _ => ?_
  omega

theorem mapPublished_mapMembers (trees : List (List Char × Tree)) (forms : IdForms) :
    MapPublished (.object (mapMembers forms trees)) (Keyed.ofPairs trees) :=
  .object (mapMembers_published (fun _ t _ => t.toValue_published) forms) (Keyed.collects_iff.mpr rfl)

theorem mapMembers_plain (trees : List (List Char × Tree)) (forms : IdForms) :
    (Value.object (mapMembers forms trees)).Plain :=
  .object ((forall_mapMembers_iff (Q := fun _ => True) fun _ t _ forms => by simp [t.toValue_plain forms]).mpr
    (by simp))

/-- **Decoding undoes encoding, up to the limit on open containers.** In whatever form identifiers are
written, the text of a tree without a path of more than 62 edges is decoded to the tree, and the text of
a table of such trees to the map that has exactly its pairs; a path of 63 edges makes both texts
malformed. An identifier can be written as an integer if its token is the numeral of one. -/
theorem decode_encode (forms : IdForms) (layout : Layout) :
    (∀ t : Tree, t.HeightAtMost 62 → decode (encode forms layout t) = .ok t) ∧
    (∀ trees : Table (List Char) Tree, (∀ k t, (k, t) ∈ trees.pairs → t.HeightAtMost 62) →
      ∃ m, decodeMap (encodeMap forms layout trees.pairs) = .ok m ∧
        ∀ k t, m.get? k = some t ↔ (k, t) ∈ trees.pairs) ∧
    (∀ (t u : Tree) (labels : List (List Char)), t.Path labels u → 63 ≤ labels.length →
      decode (encode forms layout t) = .error .malformed) ∧
    (∀ (trees : List (List Char × Tree)) (k : List Char) (t u : Tree) (labels : List (List Char)),
      (k, t) ∈ trees → t.Path labels u → 63 ≤ labels.length →
      decodeMap (encodeMap forms layout trees) = .error .malformed) ∧
    Fault.malformed.category = "syntax" ∧
    ∀ (id : DocumentId) (n : Nat), id.numeral? = some n ↔ n < 2 ^ 64 ∧ id.token = toString n := by
  refine ⟨fun t hheight => ?_, fun trees hheight => ?_, fun t u labels hpath hlong => ?_,
    fun trees k t u labels hmem hpath hlong => ?_, rfl, fun id n => ?_⟩
  · exact decode_print read_interprets (t.toValue_plain forms) (depth_toValue_le_limit_iff.mpr hheight)
      (t.toValue_published forms)
  · refine ⟨Keyed.ofPairs trees.pairs, ?_, fun k t => (Keyed.collects_iff.mpr rfl).get?_eq_some_iff⟩
    exact decode_print readMap_interprets (mapMembers_plain trees.pairs forms)
      (depth_mapMembers_le_limit_iff.mpr hheight) (mapPublished_mapMembers trees.pairs forms)
  · refine decode_print_of_deep read_interprets read_restricts (t.toValue_plain forms) ?_
      (t.toValue_published forms)
    rw [← Nat.not_le, depth_toValue_le_limit_iff]
    intro hheight
    have := hheight labels u hpath
    omega
  · refine decode_print_of_deep readMap_interprets readMap_restricts (mapMembers_plain trees forms) ?_
      (mapPublished_mapMembers trees forms)
    rw [← Nat.not_le, depth_mapMembers_le_limit_iff]
    intro hheight
    have := hheight k t hmem labels u hpath
    omega
  · rw [DocumentId.numeral?_eq_some_iff, DocumentId.ofOrdinal]
    exact and_congr_right fun _ => ⟨fun h => by rw [h], fun h => by rw [← h]⟩

/-- A tree with one path, of `n` edges. The labels need escapes, and the identifiers at its end are the
largest integer, a number that is no numeral because of its zeros, and the empty token. -/
def spine : Nat → Tree
  | 0 => .node .nil (some [⟨"18446744073709551615"⟩, ⟨"007"⟩, ⟨""⟩])
  | n + 1 => .ofChildren [(['"', '\\', '\x01', 'é'], spine n)] none

theorem spine_heightAtMost (n : Nat) : (spine n).HeightAtMost n := by
  induction n with
  | zero =>
    intro labels u h
    cases h with
    | here => simp
    | down hc _ => exact absurd hc Ascending.mem_nil
  | succ n ih =>
    intro labels u h
    cases h with
    | here => simp
    | down hc h =>
      cases List.mem_singleton.mp hc
      exact Nat.succ_le_succ (ih _ _ h)

theorem spine_path (n : Nat) : (spine n).Path (List.replicate n ['"', '\\', '\x01', 'é']) (spine 0) := by
  induction n with
  | zero => exact .here _
  | succ n ih => exact .down List.mem_cons_self ih

/-- The limit lies between 62 and 63 edges. -/
theorem decode_encode_spine :
    decode (encode (fun _ => true) .compact (spine 62)) = .ok (spine 62) ∧
    decode (encode (fun _ => true) .compact (spine 63)) = .error .malformed ∧
    (∃ m, decodeMap (encodeMap (fun _ => false) .indented [(['z'], spine 62), ([], spine 0)]) = .ok m ∧
      m.get? ['z'] = some (spine 62)) ∧
    decodeMap (encodeMap (fun _ => false) .indented [(['z'], spine 0), ([], spine 63)]) =
      .error .malformed := by
  obtain ⟨hshallow, -, hdeep, -⟩ := decode_encode (fun _ => true) .compact
  obtain ⟨-, hshallowMap, -, hdeepMap, -⟩ := decode_encode (fun _ => false) .indented
  refine ⟨hshallow _ (spine_heightAtMost 62), hdeep _ _ _ (spine_path 63) (by simp), ?_, ?_⟩
  · obtain ⟨m, hm, hget⟩ := hshallowMap ⟨[(['z'], spine 62), ([], spine 0)], by simp⟩
      fun k t hmem => by
        rcases List.mem_pair.mp hmem with h | h <;> cases h
        · exact spine_heightAtMost 62
        · exact fun labels u h => (spine_heightAtMost 0 labels u h).trans (by omega)
    exact ⟨m, hm, (hget _ _).mpr (by simp)⟩
  · exact hdeepMap _ [] (spine 63) _ _ (by simp) (spine_path 63) (by simp)

-- The numeral of a number is written as an integer where that is chosen, and other tokens never.
example : encode (fun _ => true) .compact (.ofChildren [(['"'], leaf)] (some [⟨"7"⟩, ⟨"07"⟩])) =
    "[\x7b\"\\\"\":[\x7b\x7d]\x7d,[7,\"07\"]]" := by rfl

end Tree

end ShardSearch
