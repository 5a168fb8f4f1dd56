/-
The JSON that the search command prints, read back and compared with what was found.

A report is printed as a value without numbers and no more than four containers deep, so the text is a text of
that value in both layouts, whatever stands in its strings (`printJson_output`). What the value says is said by
its fields (`ReportShown`, `HitShown`): those a hit may lack are there exactly if the entries that were loaded
label the document, or its text was fetched because passages were asked for. Which entries are loaded is said
by `Loaded`, with one rule for each place that they can come from.
-/
import ShardSearch.Command.Search
import ShardSearch.Proofs.JsonPrinted

namespace ShardSearch

/-! ## Objects by their fields -/

namespace Json

namespace Value

/-- What an object has under a key. -/
def field? (key : String) : Value → Option Value
  | .object ms => ms.lookup key.toList
  | _ => none

/-- The keys of an object, in the order of the text. -/
def keys : Value → List String
  | .object ms => ms.map fun m => String.ofList m.1
  | _ => []

theorem field?_ofFields (key : String) (fields : List (String × Value)) :
    (ofFields fields).field? key = fields.lookup key := by
  induction fields with
  | nil => rfl
  | cons f fields ih =>
    obtain ⟨k, v⟩ := f
    have hkey : (key.toList == k.toList) = (key == k) := by
      rw [Bool.eq_iff_iff, beq_iff_eq, beq_iff_eq, String.toList_inj]
    simp only [ofFields, field?, List.map_cons, List.lookup_cons, hkey] at ih ⊢
    rw [ih]

theorem keys_ofFields (fields : List (String × Value)) : (ofFields fields).keys = fields.map Prod.fst := by
  simp [ofFields, keys, Function.comp_def]

/-- A value without numbers in which at most `d` containers are open at once. -/
structure Simple (d : Nat) (v : Value) : Prop where
  plain : v.Plain
  depth : v.depth ≤ d

namespace Simple

theorem string (d : Nat) (s : String) : Simple d (.string s) :=
  ⟨.scalar trivial, by simp [Value.string, Value.depth]⟩

theorem boolean (d : Nat) (b : Bool) : Simple d (.boolean b) :=
  ⟨.scalar trivial, by simp [Value.boolean, Value.depth]⟩

theorem array {d : Nat} {vs : List Value} (h : ∀ v ∈ vs, Simple d v) : Simple (d + 1) (.array vs) :=
  ⟨.array fun v hv => (h v hv).plain, depth_array_le_iff.mpr ⟨d, rfl, fun v hv => (h v hv).depth⟩⟩

theorem ofFields {d : Nat} {fields : List (String × Value)} (h : ∀ f ∈ fields, Simple d f.2) :
    Simple (d + 1) (.ofFields fields) := by
  constructor
  · refine .object fun m hm => ?_
    obtain ⟨f, hf, rfl⟩ := List.mem_map.mp hm
    exact (h f hf).plain
  · refine depth_object_le_iff.mpr ⟨d, rfl, fun m hm => ?_⟩
    obtain ⟨f, hf, rfl⟩ := List.mem_map.mp hm
    exact (h f hf).depth

end Simple

end Value

/-- What is printed for a value is read as the value, also with blanks after it. -/
theorem parse_print (layout : Layout) {d : Nat} {v : Value} (hv : v.Simple d) (hd : d ≤ 127) {b : String}
    (hb : Blanks b.toList) : parse (print layout v ++ b) = .ok v := by
  refine parse_eq_ok_iff.mpr ⟨[], (print layout v).toList, b.toList, blanks_nil, ?_, hb, by simp⟩
  exact print_written hv.plain (hv.depth.trans hd)

/-- An output is one text of a value and the end of its last line. -/
def Output (v : Value) (out : String) : Prop := ∃ t, out = t ++ "\n" ∧ parse t = .ok v ∧ parse out = .ok v

end Json

theorem Presentation.printJson_output (p : Presentation) {v : Json.Value} {d : Nat} (hv : v.Simple d)
    (hd : d ≤ 127) : Json.Output v (p.printJson v) := by
  have htext : Json.parse (Json.print p.layout v ++ "") = .ok v :=
    Json.parse_print p.layout hv hd Json.blanks_nil
  have hline : Json.parse (p.printJson v) = .ok v :=
    Json.parse_print p.layout hv hd (by simp [Json.Blanks, Json.isBlank])
  exact ⟨Json.print p.layout v, rfl, by simpa using htext, hline⟩

namespace SearchReport

open Json

/-! ## What a report says -/

theorem lookup_optionalField (key key' : String) (v : Option Value) :
    (optionalField key v).lookup key' = if key' = key then v else none := by
  cases v with
  | none => simp [optionalField]
  | some v =>
    by_cases h : key' = key
    · simp [optionalField, h]
    · have hne : (key' == key) = false := by simpa using h
      simp [optionalField, List.lookup_cons, h, hne]

theorem map_fst_optionalField (key : String) (v : Option Value) :
    ((optionalField key v).map Prod.fst).Sublist [key] := by
  cases v <;> simp [optionalField]

theorem mem_optionalField_iff {key : String} {v : Option Value} {f : String × Value} :
    f ∈ optionalField key v ↔ ∃ w, v = some w ∧ f = (key, w) := by
  cases v <;> simp [optionalField]

theorem hitJson_simple (h : Hit) : (hitJson h).Simple 2 := by
  refine .ofFields fun f hf => ?_
  simp only [List.mem_append, List.mem_singleton, mem_optionalField_iff, Option.map_eq_some_iff] at hf
  rcases hf with ((rfl | ⟨_, ⟨e, -, rfl⟩, rfl⟩) | ⟨_, ⟨e, -, rfl⟩, rfl⟩) | ⟨_, ⟨ps, -, rfl⟩, rfl⟩
  · exact .string 1 _
  · exact .string 1 _
  · exact .string 1 _
  · refine .array fun v hv => ?_
    obtain ⟨p, -, rfl⟩ := List.mem_map.mp hv
    exact .string 0 p

theorem toJson_simple (r : SearchReport) : r.toJson.Simple 4 := by
  have hhits (hs : List Hit) : (Value.array (hs.map hitJson)).Simple 3 := by
    refine .array fun v hv => ?_
    obtain ⟨h, -, rfl⟩ := List.mem_map.mp hv
    exact hitJson_simple h
  refine .ofFields fun f hf => ?_
  simp only [List.mem_cons, List.not_mem_nil, or_false] at hf
  rcases hf with rfl | rfl | rfl | rfl
  · exact .string 3 _
  · exact .boolean 3 _
  · exact hhits _
  · exact hhits _

/-- The entries that were loaded have a label for a document: its identifier is an ordinal of theirs. -/
def Labels (entries : Option EntryList) (id : DocumentId) (e : Entry) : Prop :=
  ∃ es n, entries = some es ∧ id.ordinal? = some n ∧ es[n]? = some e

/-- The passages of a document were asked for, and its text was fetched. -/
def Quotes (q : SearchRequest) (source : Source) (id : DocumentId) (passages : List String) : Prop :=
  ∃ limit text, q.context = some limit ∧ 0 < limit ∧ source.fetch id.source = .ok text ∧
    passages = Passage.select text q.term limit

/-- What an object says of a document that was found. It has its identifier; its label and its passages
exactly if there are some; and nothing else. -/
structure HitShown (entries : Option EntryList) (passages : List String → Prop) (doc : DocumentId) (v : Value) :
    Prop where
  id : v.field? "id" = some (.string doc.token)
  permalink : ∀ w, v.field? "permalink" = some w ↔ ∃ e, Labels entries doc e ∧ w = .string e.permalink
  title : ∀ w, v.field? "title" = some w ↔ ∃ e, Labels entries doc e ∧ w = .string e.title
  context : ∀ w, v.field? "context" = some w ↔ ∃ ps, passages ps ∧ w = .array (ps.map Value.string)
  keys : v.keys.Sublist ["id", "permalink", "title", "context"]

/-- What an object says of a search: the term as it was given, whether there is a result, and the documents of
the result in its order, of which the exact ones may have passages. -/
structure ReportShown (q : SearchRequest) (source : Source) (entries : Option EntryList)
    (result : Option Matches) (v : Value) : Prop where
  term : v.field? "term" = some (.string q.term)
  found : v.field? "found" = some (.boolean result.isSome)
  exact : ∃ hits, v.field? "exact" = some (.array hits) ∧
    List.Forall₂ (fun id hit => HitShown entries (Quotes q source id) id hit) (result.elim [] Matches.exact) hits
  longer : ∃ hits, v.field? "partial" = some (.array hits) ∧
    List.Forall₂ (HitShown entries fun _ => False) (result.elim [] Matches.longer) hits
  keys : v.keys = ["term", "found", "exact", "partial"]

/-- The fields of a hit by their keys. -/
theorem field?_hitJson (h : Hit) (key : String) :
    (hitJson h).field? key =
      ((if key = "id" then some (.string h.id.token) else none).or
        ((if key = "permalink" then h.entry.map fun e => .string e.permalink else none).or
          ((if key = "title" then h.entry.map fun e => .string e.title else none).or
            (if key = "context" then h.passages.map fun ps => .array (ps.map Value.string) else none)))) := by
  have hid (w : Value) : [("id", w)] = optionalField "id" (some w) := rfl
  rw [hitJson, Value.field?_ofFields, hid]
  simp only [List.lookup_append, lookup_optionalField, Option.or_assoc]

theorem hitJson_shown {entries : Option EntryList} {passages : List String → Prop} {doc : DocumentId}
    {entry : Option Entry} {shown : Option (List String)} (hentry : ∀ e, entry = some e ↔ Labels entries doc e)
    (hshown : ∀ ps, shown = some ps ↔ passages ps) : HitShown entries passages doc (hitJson ⟨doc, entry, shown⟩) where
  id := by simp [field?_hitJson]
  permalink w := by simp [field?_hitJson, hentry, eq_comm]
  title w := by simp [field?_hitJson, hentry, eq_comm]
  context w := by simp [field?_hitJson, hshown, eq_comm]
  keys := by
    rw [hitJson, Value.keys_ofFields, List.map_append, List.map_append, List.map_append]
    exact (((List.Sublist.refl ["id"]).append (map_fst_optionalField _ _)).append
      (map_fst_optionalField _ _)).append (map_fst_optionalField _ _)

theorem entry?_eq_some_iff {e : Engine} {id : DocumentId} {en : Entry} :
    e.entry? id = some en ↔ Labels e.entries id en := by
  simp [Engine.entry?, EntryList.lookup, Labels, Option.bind_eq_some_iff]

theorem passagesOf_eq_some_iff {e : Engine} {source : Source} {q : SearchRequest} {id : DocumentId}
    {ps : List String} : passagesOf e source q.term q.limit id = some ps ↔ Quotes q source id ps := by
  have hcontext : (e.context source q.term id q.limit).result = some ps ↔
      ∃ text, source.fetch id.source = .ok text ∧ ps = Passage.select text q.term q.limit := by
    cases hfetch : source.fetch id.source <;> simp [Engine.context, Passage.extract, hfetch, eq_comm]
  cases hq : q.context with
  | none => simp [passagesOf, SearchRequest.limit, Quotes, hq]
  | some limit =>
    have hlimit : q.limit = limit := by simp [SearchRequest.limit, hq]
    rw [hlimit] at hcontext ⊢
    rcases Nat.eq_zero_or_pos limit with rfl | hpos
    · simp [passagesOf, Quotes, hq]
    · rw [passagesOf, if_neg hpos.ne', hcontext]
      simp [Quotes, hq, hpos]

/-- The documents of a group, one hit for each. -/
theorem hits_shown {entries : Option EntryList} {passages : DocumentId → List String → Prop}
    {hit : DocumentId → Hit} (h : ∀ doc, HitShown entries (passages doc) doc (hitJson (hit doc)))
    (docs : List DocumentId) :
    List.Forall₂ (fun doc v => HitShown entries (passages doc) doc v) docs ((docs.map hit).map hitJson) := by
  rw [List.map_map, List.forall₂_map_right_iff, List.forall₂_same]
  exact fun doc _ => h doc

/-- The report of a search says what the engine found. -/
theorem collect_shown (e : Engine) (source : Source) (q : SearchRequest) :
    ReportShown q source e.entries (e.search source q.term).result (collect e source q.term q.limit).toJson := by
  have hfound {group : Matches → List DocumentId} (hgroup : group ⟨[], []⟩ = []) :
      (e.search source q.term).result.elim [] group = group ((e.search source q.term).result.getD ⟨[], []⟩) := by
    cases (e.search source q.term).result with
    | none => exact hgroup.symm
    | some found => rfl
  constructor
  · simp [toJson, Value.field?_ofFields, collect]
  · simp [toJson, Value.field?_ofFields, collect, List.lookup_cons]
  · refine ⟨(collect e source q.term q.limit).exact.map hitJson,
      by simp [toJson, Value.field?_ofFields, List.lookup_cons], ?_⟩
    rw [hfound rfl]
    exact hits_shown (fun doc => hitJson_shown (fun _ => entry?_eq_some_iff) fun _ => passagesOf_eq_some_iff) _
  · refine ⟨(collect e source q.term q.limit).longer.map hitJson,
      by simp [toJson, Value.field?_ofFields, List.lookup_cons], ?_⟩
    rw [hfound rfl]
    exact hits_shown (fun doc => hitJson_shown (fun _ => entry?_eq_some_iff) fun _ => by simp) _
  · rw [toJson, Value.keys_ofFields]
    rfl

end SearchReport

/-! ## Where the labels come from -/

namespace Catalog

/-- The entries that a command has loaded. A file that was asked for has to be there and to be well formed.
Otherwise the index may publish entries; a command whose index publishes none, or malformed ones, has none. -/
inductive Loaded (files : Files) (source : Source) : Option String → Option EntryList → Prop where
  | asked {path text : String} {es : EntryList} :
    files.readText path = .ok text → EntryList.decode text = .ok es → Loaded files source (some path) (some es)
  | published {body : String} {es : EntryList} :
    source.fetch EntryList.resource = .ok body → EntryList.decode body = .ok es →
      Loaded files source none (some es)
  | absent :
    (∀ body es, source.fetch EntryList.resource = .ok body → EntryList.decode body ≠ .ok es) →
      Loaded files source none none

theorem readEntries_eq_ok_iff {files : Files} {path : String} {es : EntryList} :
    readEntries files path = .ok es ↔ ∃ text, files.readText path = .ok text ∧ EntryList.decode text = .ok es := by
  unfold readEntries
  cases files.readText path with
  | error cause => simp
  | ok text => cases hdecode : EntryList.decode text <;> simp [hdecode]

theorem publishedEntries_eq_some_iff {source : Source} {es : EntryList} :
    publishedEntries source = some es ↔
      ∃ body, source.fetch EntryList.resource = .ok body ∧ EntryList.decode body = .ok es := by
  unfold publishedEntries EntryList.fetch
  cases source.fetch EntryList.resource with
  | error cause => simp
  | ok body => cases hdecode : EntryList.decode body <;> simp [hdecode]

theorem entries_eq_ok_iff {files : Files} {source : Source} {path : Option String} {es : Option EntryList} :
    entries files source path = .ok es ↔ Loaded files source path es := by
  constructor
  · intro h
    cases path with
    | some path =>
      cases hread : readEntries files path with
      | error cause => simp [entries, hread] at h
      | ok es' =>
        obtain rfl : some es' = es := by simpa [entries, hread] using h
        obtain ⟨text, htext, hdecode⟩ := readEntries_eq_ok_iff.mp hread
        exact .asked htext hdecode
    | none =>
      obtain rfl : publishedEntries source = es := by simpa [entries] using h
      cases hpublished : publishedEntries source with
      | some es =>
        obtain ⟨body, hfetch, hdecode⟩ := publishedEntries_eq_some_iff.mp hpublished
        exact .published hfetch hdecode
      | none =>
        refine .absent fun body es hfetch hdecode => ?_
        rw [publishedEntries_eq_some_iff.mpr ⟨body, hfetch, hdecode⟩] at hpublished
        cases hpublished
  · rintro (⟨hread, hdecode⟩ | ⟨hfetch, hdecode⟩ | hnone)
    · simp only [entries, readEntries_eq_ok_iff.mpr ⟨_, hread, hdecode⟩]
    · simp only [entries, publishedEntries_eq_some_iff.mpr ⟨_, hfetch, hdecode⟩]
    · have hpublished : publishedEntries source = none := by
        refine Option.eq_none_iff_forall_ne_some.mpr fun es hes => ?_
        obtain ⟨body, hfetch, hdecode⟩ := publishedEntries_eq_some_iff.mp hes
        exact hnone body es hfetch hdecode
      simp only [entries, hpublished]

end Catalog

namespace SearchRequest

theorem run_eq_ok_iff {q : SearchRequest} {files : Files} {network : Network} {settings : Settings}
    {p : Presentation} {out : String} : q.run files network settings p = .ok out ↔
      ∃ l es, Catalog.location settings q.base = .ok l ∧
        Catalog.Loaded files (l.source files network) (Catalog.entriesPath? settings q.entries) es ∧
        out = SearchReport.render p
          (SearchReport.collect (engine settings es) (l.source files network) q.term q.limit) := by
  simp only [run, report, ← Catalog.entries_eq_ok_iff]
  cases hl : Catalog.location settings q.base with
  | error cause => simp [bind, Except.bind, Except.map]
  | ok l =>
    cases hes : Catalog.entries files (l.source files network) (Catalog.entriesPath? settings q.entries) <;>
      simp [hes, bind, Except.bind, Except.map, pure, Except.pure, eq_comm]

/-- What a search shows as JSON is a text of what it found, in both layouts. -/
theorem render_shown (q : SearchRequest) (e : Engine) (source : Source) :
    ∃ v, SearchReport.ReportShown q source e.entries (e.search source q.term).result v ∧
      ∀ p : Presentation, p.format = .json →
        Json.Output v (SearchReport.render p (SearchReport.collect e source q.term q.limit)) := by
  refine ⟨_, SearchReport.collect_shown e source q, fun p hp => ?_⟩
  rw [SearchReport.render, hp]
  exact p.printJson_output (SearchReport.toJson_simple _) (by norm_num)

/-- **The JSON of a search command is faithful.** Whatever an index answers, once the entries are loaded the
output is one text of an object that says what the engine found, and the end of a line; the compact and the
indented output are texts of the same object. A command that succeeds, on some files and some network, does
this for the index and the entries that its arguments and settings name, in a directory or at a URL. -/
theorem json_faithful (q : SearchRequest) (settings : Settings) :
    (∀ (files : Files) (source : Source) (es : Option EntryList),
      Catalog.entries files source (Catalog.entriesPath? settings q.entries) = .ok es →
        Catalog.Loaded files source (Catalog.entriesPath? settings q.entries) es ∧
        ∃ v, SearchReport.ReportShown q source es ((engine settings es).search source q.term).result v ∧
          ∀ p : Presentation, p.format = .json → Json.Output v
            (SearchReport.render p (SearchReport.collect (engine settings es) source q.term q.limit))) ∧
    ∀ (files : Files) (network : Network) (p : Presentation) (out : String), p.format = .json →
      q.run files network settings p = .ok out →
      ∃ l es v, Catalog.location settings q.base = .ok l ∧
        Catalog.Loaded files (l.source files network) (Catalog.entriesPath? settings q.entries) es ∧
        SearchReport.ReportShown q (l.source files network) es
          ((engine settings es).search (l.source files network) q.term).result v ∧
        Json.Output v out ∧
        ∀ p' : Presentation, p'.format = .json →
          ∃ out', q.run files network settings p' = .ok out' ∧ Json.Output v out' := by
  constructor
  · intro files source es hes
    exact ⟨Catalog.entries_eq_ok_iff.mp hes, render_shown q (engine settings es) source⟩
  · intro files network p out hp hrun
    obtain ⟨l, es, hl, hes, rfl⟩ := run_eq_ok_iff.mp hrun
    obtain ⟨v, hv, hshown⟩ := render_shown q (engine settings es) (l.source files network)
    refine ⟨l, es, v, hl, hes, hv, hshown p hp, fun p' hp' => ?_⟩
    exact ⟨_, run_eq_ok_iff.mpr ⟨l, es, hl, hes, rfl⟩, hshown p' hp'⟩

/-- An index: one keyword with two documents, of which one has a label and a text. -/
def notes : List (String × String) :=
  [("notes/a.js", "[\x7b\"b\":[\x7b\x7d,[\"0\",\"y\"]]\x7d]"),
    ("notes/entries.json", "[[\"/0\",\"A \\\"b\\\"\"]]"),
    ("notes/src/0.txt", "no\n\nab\tAB")]

/-- The index in a directory. -/
def noteFiles : Files := fun path =>
  match notes.lookup path with
  | some text => .ok text.toUTF8
  | none => .error .notFound

/-- The index on a server. -/
def noteNetwork : Network := fun url =>
  match notes.find? fun note => url = "https://" ++ note.1 with
  | some note => .ok ⟨200, .ok note.2⟩
  | none => .ok ⟨404, .ok "not here"⟩

/-- A search of the index with up to two passages for each document. -/
def noteRequest (base : String) : SearchRequest := ⟨"Ab", some base, some 2, none⟩

/-- What the search prints on one line. -/
def noteOutput : String :=
  "\x7b\"term\":\"Ab\",\"found\":true,\"exact\":[" ++
    "\x7b\"id\":\"0\",\"permalink\":\"/0\",\"title\":\"A \\\"b\\\"\",\"context\":[\"ab\\tAB\"]\x7d," ++
    "\x7b\"id\":\"y\"\x7d],\"partial\":[]\x7d\n"

/-- The line is a text of an object about the term, and the indented output at a base is another one. -/
def PrintsNotes (base : String) : Prop :=
  ∃ v, Json.Output v noteOutput ∧ v.field? "term" = some (.string "Ab") ∧
    ∃ out, (noteRequest base).run noteFiles noteNetwork .empty ⟨.json, false, ⟨false, false⟩⟩ = .ok out ∧
      Json.Output v out

/-- The directory and the server print the same line. -/
theorem json_faithful_notes : PrintsNotes "notes" ∧ PrintsNotes "https://notes" := by
  have prints : ∀ base, (noteRequest base).run noteFiles noteNetwork .empty ⟨.json, true, ⟨false, false⟩⟩ =
      .ok noteOutput → PrintsNotes base := by
    intro base hrun
    obtain ⟨l, es, v, -, -, hshown, hout, hlayouts⟩ :=
      (json_faithful (noteRequest base) .empty).2 noteFiles noteNetwork _ _ rfl hrun
    exact ⟨v, hout, hshown.term, hlayouts _ rfl⟩
  exact ⟨prints "notes" (by decide +kernel), prints "https://notes" (by decide +kernel)⟩

end SearchRequest

end ShardSearch
