/-
The published form of trees and entries, and that the typed readers accept exactly it.

The typed readers go through a text once and judge each value as they meet it. Here they are compared
with reading a syntax tree first and interpreting it after: a typed reader `Interprets` the reader of
values by a relation between values and what they publish. The relation for trees is the grammar of
the published form, one rule per shape of a node (`Tree.Published`), and the comparison follows the
readers down: lists of items, arrays and objects, identifiers, children, nodes.
-/
import ShardSearch.Entry
import ShardSearch.Proofs.JsonGrammar
import ShardSearch.Proofs.KeyedOrder
import ShardSearch.Tree.Decode

namespace ShardSearch

/-! ## The published form -/

namespace Tree

open Json

/-- The values that publish an identifier: a string is its token, and the token of an integer is the
numeral of it. -/
inductive IdPublished : Value → DocumentId → Prop
  | token (s : List Char) : IdPublished (.scalar (.string s)) ⟨String.ofList s⟩
  | ordinal (n : Nat) : IdPublished (.scalar (.number (.natural n))) ⟨toString n⟩

mutual

/-- The values that publish a tree. A node without identifiers has one element, and children are
collected from all members, each of which has to publish a tree. -/
inductive Published : Value → Tree → Prop
  | branch {ms : List (List Char × Value)} {pairs : List (List Char × Tree)} {children : Keyed Tree} :
      MembersPublished ms pairs → children.Collects pairs →
      Published (.array [.object ms]) (.node children none)
  | keyword {ms : List (List Char × Value)} {pairs : List (List Char × Tree)} {children : Keyed Tree}
      {vs : List Value} {ids : List DocumentId} : MembersPublished ms pairs →
      children.Collects pairs → List.Forall₂ IdPublished vs ids →
      Published (.array [.object ms, .array vs]) (.node children (some ids))

/-- The members that publish trees under their keys, in the order of the text. -/
inductive MembersPublished : List (List Char × Value) → List (List Char × Tree) → Prop
  | nil : MembersPublished [] []
  | cons {k : List Char} {v : Value} {t : Tree} {ms : List (List Char × Value)}
      {pairs : List (List Char × Tree)} : Published v t → MembersPublished ms pairs →
      MembersPublished ((k, v) :: ms) ((k, t) :: pairs)

end

/-- The values that publish trees by key. -/
inductive MapPublished : Value → Keyed Tree → Prop
  | object {ms : List (List Char × Value)} {pairs : List (List Char × Tree)} {trees : Keyed Tree} :
      MembersPublished ms pairs → trees.Collects pairs → MapPublished (.object ms) trees

end Tree

namespace EntryList

open Json

/-- The values that publish an entry. -/
inductive EntryPublished : Value → Entry → Prop
  | pair (permalink title : List Char) :
      EntryPublished (.array [.scalar (.string permalink), .scalar (.string title)])
        ⟨String.ofList permalink, String.ofList title⟩

/-- The values that publish a list of entries. -/
inductive Published : Value → EntryList → Prop
  | array {vs : List Value} {es : EntryList} : List.Forall₂ EntryPublished vs es →
      Published (.array vs) es

end EntryList

/-! ## Interpreting what another reader reads -/

namespace Json

variable {α β κ : Type}

/-- A reader reads what another reader reads and a relation interprets. -/
structure Interprets (read : Reader α) (raw : Reader β) (R : β → α → Prop) : Prop where
  read_iff {s x rest} : read s = .ok (x, rest) ↔ ∃ v, raw s = .ok (v, rest) ∧ R v x

theorem Interprets.congr {read : Reader α} {raw : Reader β} {R R' : β → α → Prop} (h : Interprets read raw R)
    (hR : ∀ v x, R v x ↔ R' v x) : Interprets read raw R' :=
  ⟨by simp only [h.read_iff, hR, implies_true]⟩

theorem Interprets.rounds {next : Bool → List Char → Except Fault Next} {item : Reader α} {raw : Reader β}
    {R : β → α → Prop} (h : Interprets item raw R) {isFirst : Bool} {s rest : List Char} {xs : List α} :
    Rounds next item isFirst s xs rest ↔
      ∃ vs, Rounds next raw isFirst s vs rest ∧ List.Forall₂ R vs xs := by
  constructor
  · intro hr
    induction hr with
    | closed hn => exact ⟨[], .closed hn, .nil⟩
    | item hn hx _ ih =>
      obtain ⟨v, hv, hvx⟩ := h.read_iff.mp hx
      obtain ⟨vs, hvs, hall⟩ := ih
      exact ⟨v :: vs, .item hn hv hvs, .cons hvx hall⟩
  · rintro ⟨vs, hr, hall⟩
    induction hr generalizing xs with
    | closed hn =>
      cases hall
      exact .closed hn
    | item hn hv _ ih =>
      cases hall with
      | cons hvx hall => exact .item hn (h.read_iff.mpr ⟨_, hv, hvx⟩) (ih hall)

theorem Interprets.itemsIn {next : Bool → List Char → Except Fault Next} {item : Reader α}
    {raw : Reader β} {R : β → α → Prop} (h : Interprets item raw R) (rounds : Nat) (isFirst : Bool) :
    Interprets (itemsIn next item rounds isFirst) (itemsIn next raw rounds isFirst)
      (List.Forall₂ R) := by
  refine ⟨fun {s xs rest} => ?_⟩
  simp only [itemsIn_eq_ok_iff, h.rounds]
  constructor
  · rintro ⟨⟨vs, hr, hall⟩, hlt⟩
    exact ⟨vs, ⟨hr, by rwa [hall.length_eq]⟩, hall⟩
  · rintro ⟨vs, ⟨hr, hlt⟩, hall⟩
    exact ⟨⟨vs, hr, hall⟩, by rwa [← hall.length_eq]⟩

theorem Interprets.elements {item : Reader α} {raw : Reader β} {R : β → α → Prop}
    (h : Interprets item raw R) : Interprets (elements item) (elements raw) (List.Forall₂ R) := by
  refine ⟨fun {s xs rest} => ?_⟩
  simp only [Json.elements]
  exact (h.itemsIn _ _).read_iff

theorem Interprets.member {key : Reader κ} {item : Reader α} {raw : Reader β} {R : β → α → Prop}
    (h : Interprets item raw R) :
    Interprets (member key item) (member key raw) fun m p => m.1 = p.1 ∧ R m.2 p.2 := by
  refine ⟨fun {s m rest} => ?_⟩
  obtain ⟨k, x⟩ := m
  rw [member_eq_ok_iff]
  constructor
  · rintro ⟨s₁, s₂, hk, hc, hx⟩
    obtain ⟨v, hv, hvx⟩ := h.read_iff.mp hx
    exact ⟨(k, v), member_eq_ok_iff.mpr ⟨s₁, s₂, hk, hc, hv⟩, rfl, hvx⟩
  · rintro ⟨⟨k', v⟩, hm, rfl, hvx⟩
    obtain ⟨s₁, s₂, hk, hc, hv⟩ := member_eq_ok_iff.mp hm
    exact ⟨s₁, s₂, hk, hc, h.read_iff.mpr ⟨v, hv, hvx⟩⟩

theorem Interprets.members {key : Reader κ} {item : Reader α} {raw : Reader β} {R : β → α → Prop}
    (h : Interprets item raw R) : Interprets (members key item) (members key raw)
      (List.Forall₂ fun m p => m.1 = p.1 ∧ R m.2 p.2) := by
  refine ⟨fun {s ms rest} => ?_⟩
  simp only [Json.members]
  exact (h.member.itemsIn _ _).read_iff

theorem array_eq_ok_iff {expected : Expected} {body : Nat → Reader α} {depth : Nat} {s rest : List Char}
    {x : α} : array expected body depth s = .ok (x, rest) ↔
      ∃ d s', depth = d + 1 ∧ skipBlanks s = '[' :: s' ∧ body d s' = .ok (x, rest) := by
  rw [array]
  constructor
  · intro h
    split at h
    next hs =>
      split at h
      · cases h
      · exact ⟨_, _, rfl, hs, h⟩
    next => cases h
  · rintro ⟨d, s', rfl, hs, h⟩
    rw [hs]
    exact h

theorem object_eq_ok_iff {expected : Expected} {body : Nat → Reader α} {depth : Nat} {s rest : List Char}
    {x : α} : object expected body depth s = .ok (x, rest) ↔
      ∃ d s', depth = d + 1 ∧ skipBlanks s = '\x7b' :: s' ∧ body d s' = .ok (x, rest) := by
  rw [object]
  constructor
  · intro h
    split at h
    next hs =>
      split at h
      · cases h
      · exact ⟨_, _, rfl, hs, h⟩
    next => cases h
  · rintro ⟨d, s', rfl, hs, h⟩
    rw [hs]
    exact h

theorem array_interprets {expected : Expected} {body : Nat → Reader α} {R : List Value → α → Prop}
    {depth : Nat} (h : ∀ d, depth = d + 1 → Interprets (body d) (elements (value d)) R) :
    Interprets (array expected body depth) (value depth) fun v x => ∃ vs, v = .array vs ∧ R vs x := by
  refine ⟨fun {s x rest} => ?_⟩
  rw [array_eq_ok_iff]
  constructor
  · rintro ⟨d, s', hd, hs, hx⟩
    obtain ⟨vs, hvs, hR⟩ := (h d hd).read_iff.mp hx
    exact ⟨.array vs, value_eq_ok_iff.mpr (.inr (.inl ⟨d, s', vs, hd, rfl, hs, hvs⟩)), vs, rfl, hR⟩
  · rintro ⟨-, hv, vs, rfl, hR⟩
    rcases value_eq_ok_iff.mp hv with ⟨_, hv, -⟩ | ⟨d, s', _, hd, hv, hs, hvs⟩ | ⟨_, _, _, _, hv, -⟩
    · cases hv
    · cases hv
      exact ⟨d, s', hd, hs, (h d hd).read_iff.mpr ⟨vs, hvs, hR⟩⟩
    · cases hv

theorem object_interprets {expected : Expected} {body : Nat → Reader α}
    {R : List (List Char × Value) → α → Prop} {depth : Nat}
    (h : ∀ d, depth = d + 1 → Interprets (body d) (members Json.string (value d)) R) :
    Interprets (object expected body depth) (value depth) fun v x => ∃ ms, v = .object ms ∧ R ms x := by
  refine ⟨fun {s x rest} => ?_⟩
  rw [object_eq_ok_iff]
  constructor
  · rintro ⟨d, s', hd, hs, hx⟩
    obtain ⟨ms, hms, hR⟩ := (h d hd).read_iff.mp hx
    exact ⟨.object ms, value_eq_ok_iff.mpr (.inr (.inr ⟨d, s', ms, hd, rfl, hs, hms⟩)), ms, rfl, hR⟩
  · rintro ⟨-, hv, ms, rfl, hR⟩
    rcases value_eq_ok_iff.mp hv with ⟨_, hv, -⟩ | ⟨_, _, _, _, hv, -⟩ | ⟨d, s', _, hd, hv, hs, hms⟩
    · cases hv
    · cases hv
    · cases hv
      exact ⟨d, s', hd, hs, (h d hd).read_iff.mpr ⟨ms, hms, hR⟩⟩

theorem decode_interprets {read : Nat → Reader α} {R : Value → α → Prop}
    (h : Interprets (read depthLimit) (value depthLimit) R) {s : String} {x : α} :
    decode read s = .ok x ↔ ∃ v, Document v s.toList ∧ R v x := by
  simp only [← parse_eq_ok_iff, parse, decode_eq_ok_iff]
  constructor
  · rintro ⟨rest, hx, hrest⟩
    obtain ⟨v, hv, hR⟩ := h.read_iff.mp hx
    exact ⟨v, ⟨rest, hv, hrest⟩, hR⟩
  · rintro ⟨v, ⟨rest, hv, hrest⟩, hR⟩
    exact ⟨rest, h.read_iff.mpr ⟨v, hv, hR⟩, hrest⟩

/-! ## The elements of an array, one after the other -/

theorem elements_value_iff {depth : Nat} {s rest : List Char} {vs : List Value} :
    elements (value depth) s = .ok (vs, rest) ↔ Rounds nextElement (value depth) true s vs rest := by
  rw [elements]
  exact (value_reads depth).elements.itemsIn_iff_rounds

theorem rounds_nil_iff {next : Bool → List Char → Except Fault Next} {item : Reader α} {isFirst : Bool}
    {s rest : List Char} :
    Rounds next item isFirst s [] rest ↔ next isFirst s = .ok (.closed rest) :=
  ⟨fun h => by cases h; assumption, .closed⟩

theorem rounds_cons_iff {next : Bool → List Char → Except Fault Next} {item : Reader α} {isFirst : Bool}
    {s rest : List Char} {x : α} {xs : List α} : Rounds next item isFirst s (x :: xs) rest ↔
      ∃ s' s'', next isFirst s = .ok (.item s') ∧ item s' = .ok (x, s'') ∧
        Rounds next item false s'' xs rest :=
  ⟨fun h => by cases h; exact ⟨_, _, ‹_›, ‹_›, ‹_›⟩, fun ⟨_, _, hn, hx, hr⟩ => .item hn hx hr⟩

theorem closeArray_eq_ok_iff {s rest : List Char} :
    closeArray s = .ok rest ↔ nextElement false s = .ok (.closed rest) := by
  rw [nextElement_closed_iff]
  constructor
  · intro h
    unfold closeArray at h
    split at h
    · cases h
    next c r hs =>
    obtain ⟨-, b, hb, rfl⟩ := skipBlanks_eq_cons_iff.mp hs
    split at h
    next hc =>
      cases h
      exact ⟨b, hb, by rw [hc]⟩
    next => cases h
  · rintro ⟨b, hb, rfl⟩
    rw [closeArray, skipBlanks_append hb, skipBlanks_cons (by decide)]
    rfl

/-! ## Strings -/

theorem scalar_string_iff {s cs rest : List Char} : scalar s = .ok (.string cs, rest) ↔
    ∃ s', s = '"' :: s' ∧ Json.string s' = .ok (cs, rest) := by
  constructor
  · intro h
    obtain ⟨t, ht, rfl⟩ := scalar_sound h
    cases ht with
    | string ht => exact ⟨_, rfl, string_eq_ok_iff.mpr ⟨_, ht, by simp⟩⟩
  · rintro ⟨s', rfl, h⟩
    simp [scalar, h, bind, Except.bind]

theorem text_interprets (depth : Nat) :
    Interprets text (value depth) fun v cs => v = .scalar (.string cs) := by
  refine ⟨fun {s cs rest} => ?_⟩
  rw [text]
  constructor
  · intro h
    split at h
    next hs =>
      refine ⟨_, value_eq_ok_iff.mpr (.inl ⟨.string cs, rfl, ?_⟩), rfl⟩
      rw [hs]
      exact scalar_string_iff.mpr ⟨_, rfl, h⟩
    next => cases h
  · rintro ⟨-, hv, rfl⟩
    rcases value_eq_ok_iff.mp hv with ⟨x, hx, hscalar⟩ | ⟨_, _, _, _, hx, -⟩ | ⟨_, _, _, _, hx, -⟩
    · cases hx
      obtain ⟨s', hs, hstring⟩ := scalar_string_iff.mp hscalar
      rw [hs]
      exact hstring
    · cases hx
    · cases hx

end Json

/-! ## Trees -/

namespace Tree

open Json

theorem identifier?_eq_some_iff {v : Value} {id : DocumentId} :
    identifier? v = some id ↔ IdPublished v id := by
  constructor
  · intro h
    unfold identifier? at h
    split at h
    · cases h
      exact .ordinal _
    · cases h
      exact .token _
    · cases h
  · intro h
    cases h <;> rfl

theorem readId_interprets (depth : Nat) : Interprets (readId depth) (value depth) IdPublished := by
  refine ⟨fun {s id rest} => ?_⟩
  rw [readId]
  constructor
  · intro h
    split at h
    · cases h
    next v _ hv =>
    split at h
    next hid =>
      cases h
      exact ⟨v, hv, identifier?_eq_some_iff.mp hid⟩
    next => cases h
  · rintro ⟨v, hv, hid⟩
    simp [hv, identifier?_eq_some_iff.mpr hid]

theorem readIds_interprets (depth : Nat) : Interprets (readIds depth) (value depth)
    fun v ids => ∃ vs, v = .array vs ∧ List.Forall₂ IdPublished vs ids :=
  array_interprets fun d _ => (readId_interprets d).elements

theorem membersPublished_iff {ms : List (List Char × Value)} {pairs : List (List Char × Tree)} :
    MembersPublished ms pairs ↔ List.Forall₂ (fun m p => m.1 = p.1 ∧ Published m.2 p.2) ms pairs := by
  constructor
  · intro h
    induction ms generalizing pairs with
    | nil =>
      cases h
      exact .nil
    | cons m ms ih =>
      cases h with
      | cons ht hms => exact .cons ⟨rfl, ht⟩ (ih hms)
  · intro h
    induction h with
    | nil => exact .nil
    | @cons m p ms pairs hmp _ ih =>
      obtain ⟨k, v⟩ := m
      obtain ⟨k', t⟩ := p
      obtain ⟨rfl, ht⟩ := hmp
      exact .cons ht ih

theorem readNodes_interprets {read : Nat → Reader Tree} {depth : Nat}
    (h : ∀ d, depth = d + 1 → Interprets (read d) (value d) Published) :
    Interprets (readNodes read depth) (value depth) MapPublished := by
  let R (ms : List (List Char × Value)) (trees : Keyed Tree) : Prop :=
    ∃ pairs, MembersPublished ms pairs ∧ trees.Collects pairs
  refine (object_interprets (R := R) fun d hd => ⟨fun {s trees rest} => ⟨fun hr => ?_, ?_⟩⟩).congr
    fun v trees => ⟨?_, ?_⟩
  · split at hr
    · cases hr
    next pairs _ hpairs =>
    cases hr
    obtain ⟨ms, hms, hall⟩ := (h d hd).members.read_iff.mp hpairs
    exact ⟨ms, hms, pairs, membersPublished_iff.mpr hall, Keyed.collects_iff.mpr rfl⟩
  · rintro ⟨ms, hms, pairs, hall, htrees⟩
    rw [(h d hd).members.read_iff.mpr ⟨ms, hms, membersPublished_iff.mp hall⟩,
      Keyed.collects_iff.mp htrees]
  · rintro ⟨ms, rfl, pairs, hall, htrees⟩
    exact .object hall htrees
  · rintro ⟨hall, htrees⟩
    exact ⟨_, rfl, _, hall, htrees⟩

/-- A node is read as its children and then its end, or its identifiers and its end. -/
theorem readBody_eq_ok_iff {readChildren : Nat → Reader (Keyed Tree)} {depth : Nat} {s rest : List Char}
    {t : Tree} : readBody readChildren depth s = .ok (t, rest) ↔
      ∃ s₁ children s₂, nextElement true s = .ok (.item s₁) ∧
        readChildren depth s₁ = .ok (children, s₂) ∧
        (nextElement false s₂ = .ok (.closed rest) ∧ t = .node children none ∨
          ∃ s₃ ids s₄, nextElement false s₂ = .ok (.item s₃) ∧ readIds depth s₃ = .ok (ids, s₄) ∧
            nextElement false s₄ = .ok (.closed rest) ∧ t = .node children (some ids)) := by
  constructor
  · intro h
    rw [readBody] at h
    split at h
    · cases h
    · cases h
    next hn =>
    split at h
    · cases h
    next hc =>
    refine ⟨_, _, _, hn, hc, ?_⟩
    rw [readTail] at h
    split at h
    · cases h
    next hclosed =>
      cases h
      exact .inl ⟨hclosed, rfl⟩
    next hitem =>
    split at h
    · cases h
    next hids =>
    split at h
    · cases h
    next hclosed =>
      cases h
      exact .inr ⟨_, _, _, hitem, hids, hclosed, rfl⟩
    next =>
      -- a third element is refused, whatever it is
      split at h <;> cases h
  · rintro ⟨s₁, children, s₂, hn, hc, ⟨hclosed, rfl⟩ | ⟨s₃, ids, s₄, hitem, hids, hclosed, rfl⟩⟩
    · simp [readBody, readTail, hn, hc, hclosed]
    · simp [readBody, readTail, hn, hc, hitem, hids, hclosed]

theorem readBody_interprets {readChildren : Nat → Reader (Keyed Tree)} {depth : Nat}
    (h : Interprets (readChildren depth) (value depth) MapPublished) :
    Interprets (readBody readChildren depth) (elements (value depth))
      fun vs t => Published (.array vs) t := by
  refine ⟨fun {s t rest} => ?_⟩
  simp only [readBody_eq_ok_iff, elements_value_iff]
  constructor
  · rintro ⟨s₁, children, s₂, hn, hc, ⟨hclosed, rfl⟩ | ⟨s₃, ids, s₄, hitem, hids, hclosed, rfl⟩⟩
    · obtain ⟨v, hv, hall, htrees⟩ := h.read_iff.mp hc
      exact ⟨_, .item hn hv (.closed hclosed), .branch hall htrees⟩
    · obtain ⟨v, hv, hall, htrees⟩ := h.read_iff.mp hc
      obtain ⟨w, hw, vs, rfl, hvs⟩ := (readIds_interprets depth).read_iff.mp hids
      exact ⟨_, .item hn hv (.item hitem hw (.closed hclosed)), .keyword hall htrees hvs⟩
  · rintro ⟨vs, hr, hp⟩
    cases hp with
    | branch hall htrees =>
      obtain ⟨s₁, s₂, hn, hv, hr⟩ := rounds_cons_iff.mp hr
      have hc := h.read_iff.mpr ⟨_, hv, .object hall htrees⟩
      exact ⟨s₁, _, s₂, hn, hc, .inl ⟨rounds_nil_iff.mp hr, rfl⟩⟩
    | keyword hall htrees hvs =>
      obtain ⟨s₁, s₂, hn, hv, hr⟩ := rounds_cons_iff.mp hr
      obtain ⟨s₃, s₄, hitem, hw, hr⟩ := rounds_cons_iff.mp hr
      have hc := h.read_iff.mpr ⟨_, hv, .object hall htrees⟩
      have hids := (readIds_interprets depth).read_iff.mpr ⟨_, hw, _, rfl, hvs⟩
      exact ⟨s₁, _, s₂, hn, hc, .inr ⟨s₃, _, s₄, hitem, hids, rounds_nil_iff.mp hr, rfl⟩⟩

/-- Two containers are spent on a level of nodes, so the levels last as long as the containers. -/
theorem readIn_interprets {levels depth : Nat} (h : depth < levels) :
    Interprets (readIn levels depth) (value depth) Published := by
  induction levels generalizing depth with
  | zero => omega
  | succ levels ih =>
    have hchild (d e : Nat) (hd : depth = d + 1) (he : d = e + 1) :
        Interprets (readIn levels e) (value e) Published := ih (by omega)
    refine (array_interprets fun d hd => readBody_interprets (readNodes_interprets fun e he =>
      hchild d e hd he)).congr fun v t => ?_
    constructor
    · rintro ⟨vs, rfl, hp⟩
      exact hp
    · intro hp
      cases hp with
      | branch hall htrees => exact ⟨_, rfl, .branch hall htrees⟩
      | keyword hall htrees hvs => exact ⟨_, rfl, .keyword hall htrees hvs⟩

theorem read_interprets (depth : Nat) : Interprets (read depth) (value depth) Published :=
  readIn_interprets (Nat.lt_succ_self depth)

theorem readMap_interprets (depth : Nat) : Interprets (readMap depth) (value depth) MapPublished :=
  readNodes_interprets fun d _ => read_interprets d

end Tree

/-! ## Entries -/

namespace EntryList

open Json

theorem readPair_eq_ok_iff {depth : Nat} {s rest : List Char} {e : Entry} :
    readPair depth s = .ok (e, rest) ↔
      ∃ s₁ permalink s₂ s₃ title s₄, nextElement true s = .ok (.item s₁) ∧
        text s₁ = .ok (permalink, s₂) ∧ nextElement false s₂ = .ok (.item s₃) ∧
        text s₃ = .ok (title, s₄) ∧ closeArray s₄ = .ok rest ∧
        e = ⟨String.ofList permalink, String.ofList title⟩ := by
  constructor
  · intro h
    rw [readPair] at h
    split at h
    · cases h
    · cases h
    next hn =>
    split at h
    · cases h
    next hpermalink =>
    split at h
    · cases h
    · cases h
    next hitem =>
    split at h
    · cases h
    next htitle =>
    split at h
    · cases h
    next hclose =>
    cases h
    exact ⟨_, _, _, _, _, _, hn, hpermalink, hitem, htitle, hclose, rfl⟩
  · rintro ⟨s₁, permalink, s₂, s₃, title, s₄, hn, hpermalink, hitem, htitle, hclose, rfl⟩
    simp [readPair, hn, hpermalink, hitem, htitle, hclose]

theorem readPair_interprets (depth : Nat) : Interprets (readPair depth) (elements (value depth))
    fun vs e => EntryPublished (.array vs) e := by
  refine ⟨fun {s e rest} => ?_⟩
  simp only [readPair_eq_ok_iff, elements_value_iff, closeArray_eq_ok_iff]
  constructor
  · rintro ⟨s₁, permalink, s₂, s₃, title, s₄, hn, hpermalink, hitem, htitle, hclose, rfl⟩
    obtain ⟨_, hv, rfl⟩ := (text_interprets depth).read_iff.mp hpermalink
    obtain ⟨_, hw, rfl⟩ := (text_interprets depth).read_iff.mp htitle
    exact ⟨_, .item hn hv (.item hitem hw (.closed hclose)), .pair permalink title⟩
  · rintro ⟨vs, hr, hp⟩
    cases hp with
    | pair permalink title =>
      obtain ⟨s₁, s₂, hn, hv, hr⟩ := rounds_cons_iff.mp hr
      obtain ⟨s₃, s₄, hitem, hw, hr⟩ := rounds_cons_iff.mp hr
      exact ⟨s₁, permalink, s₂, s₃, title, s₄, hn, (text_interprets depth).read_iff.mpr ⟨_, hv, rfl⟩,
        hitem, (text_interprets depth).read_iff.mpr ⟨_, hw, rfl⟩, rounds_nil_iff.mp hr, rfl⟩

theorem read_interprets (depth : Nat) : Interprets (read depth) (value depth) Published := by
  have hentry (d : Nat) : Interprets (array .pair readPair d) (value d) EntryPublished := by
    refine (array_interprets fun e _ => readPair_interprets e).congr fun v e => ?_
    constructor
    · rintro ⟨vs, rfl, hp⟩
      exact hp
    · intro hp
      cases hp with
      | pair permalink title => exact ⟨_, rfl, .pair permalink title⟩
  refine (array_interprets fun d _ => (hentry d).elements).congr fun v es => ?_
  constructor
  · rintro ⟨vs, rfl, hall⟩
    exact .array hall
  · rintro ⟨hall⟩
    exact ⟨_, rfl, hall⟩

end EntryList

/-- **The decoders accept exactly the published form.** A text decodes to a tree, to trees by key or to
entries if and only if it is a document of a value that publishes them; the value is the one that
parsing gives, and an integer in it is spelled by the token of the identifier it stands for. -/
theorem decodes_iff_published (s : String) :
    (∀ t, Tree.decode s = .ok t ↔ ∃ v, Json.Document v s.toList ∧ Tree.Published v t) ∧
    (∀ m, Tree.decodeMap s = .ok m ↔ ∃ v, Json.Document v s.toList ∧ Tree.MapPublished v m) ∧
    (∀ es, EntryList.decode s = .ok es ↔ ∃ v, Json.Document v s.toList ∧ EntryList.Published v es) ∧
    (∀ v, Json.parse s = .ok v ↔ Json.Document v s.toList) ∧
    ∀ depth n text, Json.Written depth (.scalar (.number (.natural n))) text ↔
      n < 2 ^ 64 ∧ text = (toString n).toList := by
  refine ⟨fun t => ?_, fun m => ?_, fun es => ?_, fun v => Json.parse_eq_ok_iff, fun depth n text => ?_⟩
  · exact Json.decode_interprets (Tree.read_interprets _)
  · exact Json.decode_interprets (Tree.readMap_interprets _)
  · exact Json.decode_interprets (EntryList.read_interprets _)
  · rw [Json.written_scalar_iff, Json.natural_spelled_iff]

-- Of two members under one key the later is the child.
example : Tree.decode "[\x7b\"a\":[\x7b\x7d],\"a\":[\x7b\x7d,[7]]\x7d]" =
    .ok (.ofChildren [(['a'], .node .nil (some [⟨"7"⟩]))] none) := by rfl

end ShardSearch
