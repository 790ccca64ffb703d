import RunnerGateway.Proofs.Entries
import RunnerGateway.Proofs.Origin
import RunnerGateway.Proofs.Timestamps

/-!
# Lists of models that are read again

A list of models is written as one object with an object for each entry: its name, its fields and
its positions.  The fields never have a `model` or `urls` of their own (`ModelEntry.Tidy`), because
these are taken out of what a backend reports, and nothing that is done to an entry later puts them
back.  So every key is written once, and the list can be read again in two ways: as the list that it
was, and as a report, which loses the positions.

This holds of lists as values, whatever the backends reported.  As texts they are also rounded: the
reader does not give back every floating-point number that is printed, so that a list with such
numbers in it can reach a second gateway with a last digit changed.  What is said about texts is
therefore for entries without them (`ModelEntry.Exact`).
-/

namespace RunnerGateway

open Json

namespace ModelEntry

/-- How deep the fields of an entry may be nested: three levels are around them. -/
def fieldLevels : Nat := maxLevels - 3

/-- The fields are in order and not nested too deep, and none of them has a key that the entry
writes itself. -/
structure Tidy (e : ModelEntry) : Prop where
  fits : Fits (fieldLevels + 1) (.obj e.fields)
  model : e.field? "model" = none
  urls : e.field? "urls" = none

variable {e e' : ModelEntry} {v : Json} {key : String}

/-! ## Tidy entries -/

theorem Tidy.sorted (h : e.Tidy) : Dict.Sorted e.fields := by
  cases h.fits with
  | obj hsorted hmembers => exact hsorted

theorem Tidy.fits_of_mem (h : e.Tidy) : ∀ m ∈ e.fields, Fits fieldLevels m.2 := by
  cases h.fits with
  | obj hsorted hmembers => exact hmembers

theorem Tidy.of_fields_eq (h : e.Tidy) (heq : e'.fields = e.fields) : e'.Tidy := by
  obtain ⟨hfits, hmodel, hurls⟩ := h
  unfold field? at hmodel hurls
  rw [← heq] at hfits hmodel hurls
  exact ⟨hfits, hmodel, hurls⟩

theorem Tidy.setField (h : e.Tidy) (hmodel : key ≠ "model") (hurls : key ≠ "urls")
    (hv : Fits fieldLevels v) : (e.setField key v).Tidy where
  fits := fits_insert h.fits key hv
  model := by
    rw [Gateway.field?_setField, if_neg (Ne.symm hmodel)]
    exact h.model
  urls := by
    rw [Gateway.field?_setField, if_neg (Ne.symm hurls)]
    exact h.urls

/-- What a backend reports as `model` and as `urls` is taken out of the fields. -/
theorem tidy_of_ofValue? (hv : Fits (fieldLevels + 1) v) (h : ofValue? v = some e) : e.Tidy := by
  cases hv with
  | @obj levels members hsorted hmembers =>
      obtain ⟨model, -, rfl⟩ := Option.map_eq_some_iff.1 h
      refine ⟨.obj ((hsorted.filter _).filter _) fun m hm => ?_, ?_, ?_⟩
      · exact hmembers m (List.mem_of_mem_filter (List.mem_of_mem_filter hm))
      · rw [field?, Dict.get?_erase, Dict.get?_erase]
        simp
      · rw [field?, Dict.get?_erase]
        simp
  | null | bool | int | float | str | arr => cases h

end ModelEntry

theorem ModelList.tidy_of_mem_reported {v : Json} (hv : Fits maxLevels v) :
    ∀ e ∈ ModelList.reported v, e.Tidy := by
  intro e he
  obtain ⟨item, hitem, hvalue⟩ := List.mem_filterMap.1 he
  have hlevels : maxLevels = ModelEntry.fieldLevels + 1 + 1 + 1 := rfl
  rw [hlevels] at hv
  cases hv with
  | @obj levels members hsorted hmembers =>
      cases hget : Dict.get? members "models" with
      | none => simp [Json.field?, Json.object?, hget] at hitem
      | some found =>
          have hfound := hmembers _ (Dict.mem_of_get? hget)
          cases hfound with
          | arr hitems =>
              refine ModelEntry.tidy_of_ofValue? (hitems item ?_) hvalue
              simpa [Json.field?, Json.object?, hget, Json.array?] using hitem
          | null | bool | int | float | str | obj =>
              simp [Json.field?, Json.object?, hget, Json.array?] at hitem
  | null | bool | int | float | str | arr => simp [Json.field?, Json.object?] at hitem

theorem Tag.fits_toJson {levels : Nat} (tag : Tag) : Fits (levels + 1) tag.toJson := by
  cases tag with
  | name n => exact .str _ n
  | object n =>
      refine .obj (by simp [Dict.sorted_cons_iff]) (List.forall_mem_singleton.2 ?_)
      exact .str _ n

namespace Backend

variable {e : ModelEntry}

theorem tidy_decorate (b : Backend) (h : e.Tidy) : (b.decorate e).Tidy := by
  have hnamed : ({ e with model := b.qualify e.model } : ModelEntry).Tidy := h.of_fields_eq rfl
  unfold decorate
  refine ModelEntry.Tidy.setField ?_ (by decide) (by decide) (.str _ _)
  split
  · exact hnamed
  · refine hnamed.setField (by decide) (by decide) ?_
    refine .arr fun v hv => ?_
    obtain ⟨tag, -, rfl⟩ := List.mem_map.1 hv
    exact Tag.fits_toJson tag

theorem tidy_of_mem_decorateModels {b : Backend} {models : List ModelEntry}
    (h : ∀ e ∈ models, e.Tidy) : ∀ e ∈ b.decorateModels models, e.Tidy := by
  intro e he
  obtain ⟨own, hown, -, rfl⟩ := mem_decorateModels_iff.1 he
  exact tidy_decorate b (h own hown)

theorem tidy_of_mem_decorateLoaded {b : Backend} {models : List ModelEntry}
    (h : ∀ e ∈ models, e.Tidy) : ∀ e ∈ b.decorateLoaded models, e.Tidy := by
  intro e he
  obtain ⟨own, hown, rfl⟩ := List.mem_map.1 he
  exact (h own hown).of_fields_eq rfl

end Backend

namespace ModelList

/-- The entries of a merged list have the fields of entries that were merged. -/
theorem tidy_of_mem_merge {lists : List (Option (List ModelEntry))}
    (h : ∀ list ∈ lists, ∀ e ∈ list.getD [], e.Tidy) : ∀ e ∈ merge lists, e.Tidy := by
  intro e he
  have hbare : e.bare ∈ (merge lists).map ModelEntry.bare := List.mem_map_of_mem he
  rw [map_bare_merge] at hbare
  obtain ⟨found, hfound, hsame⟩ := List.mem_map.1 ((firsts_sublist _ _).subset hbare)
  obtain ⟨list, hlist, hmem⟩ := List.mem_flatMap.1 hfound
  exact (h list hlist found hmem).of_fields_eq (congrArg ModelEntry.fields hsame).symm

theorem tidy_annotateEntry {loaded : List ModelEntry} {e : ModelEntry} (h : e.Tidy) :
    (annotateEntry loaded e).Tidy := by
  unfold annotateEntry
  split
  · rename_i time htime
    obtain ⟨found, -, hexpiry⟩ := List.exists_of_findSome?_eq_some htime
    split at hexpiry
    · obtain ⟨raw, -, hread⟩ := Option.bind_eq_some_iff.1 hexpiry
      obtain ⟨hlow, hhigh⟩ := Timestamp.read?_mem hread
      have hmax : (Text.maxSigned : Int) ≤ Text.maxWord := by decide
      exact h.setField (by decide) (by decide) (.int _ (by omega) (by omega))
    · cases hexpiry
  · exact h

end ModelList

namespace Gateway

open Exchange

/-! ## Lists out of answers -/

/-- The list of the loaded models, if the backends answer as `loaded` tells. -/
def loadedFrom (c : RunnerConfig) (loaded : Nat → Outcome) : List ModelEntry :=
  if c.enabled then ModelList.merge (listsOf Backend.decorateLoaded c loaded) else []

theorem exists_loadedFrom_of_leads {c : RunnerConfig} {past later : List Act}
    {models : List ModelEntry} (h : (fetchLoaded c).Leads past later models) :
    ∃ loaded, models = loadedFrom c loaded := by
  unfold fetchLoaded at h
  unfold loadedFrom
  cases henabled : c.enabled with
  | false =>
      simp only [henabled, Bool.false_eq_true, if_false] at h ⊢
      exact ⟨fun _ => .error .badValue, (Task.leads_pure_iff.1 h).2⟩
  | true =>
      simp only [henabled, if_true] at h ⊢
      obtain ⟨between, reported, hreports, hlist⟩ := Task.leads_bind_iff.1 h
      obtain ⟨asking, outcomes, hexchange, hreported⟩ := Task.leads_bind_iff.1 hreports
      obtain ⟨-, rfl⟩ := Task.leads_pure_iff.1 hlist
      obtain ⟨-, rfl⟩ := Task.leads_pure_iff.1 hreported
      obtain ⟨loaded, rfl⟩ := exists_outcomesOf (Task.leads_perform_iff.1 hexchange).1
      exact ⟨loaded, mergeReports_spread Backend.decorateLoaded c loaded⟩

theorem fits_of_value? {answer : Outcome} {v : Json} (h : value? answer = some v) :
    Fits maxLevels v := by
  obtain ⟨reply, -, -, -, hjson⟩ := value?_eq_some_iff.1 h
  unfold Reply.json? at hjson
  split at hjson
  · cases hparse : Json.parseBytes reply.body.bytes with
    | error fault =>
        rw [hparse] at hjson
        cases hjson
    | ok w =>
        rw [hparse] at hjson
        obtain rfl := Option.some.inj hjson
        exact fits_of_parseBytes hparse
  · cases hjson

theorem tidy_of_mem_listsOf {adapt : Backend → List ModelEntry → List ModelEntry}
    (hadapt : ∀ b models, (∀ e ∈ models, e.Tidy) → ∀ e ∈ adapt b models, e.Tidy)
    (c : RunnerConfig) (answer : Nat → Outcome) :
    ∀ list ∈ listsOf adapt c answer, ∀ e ∈ list.getD [], e.Tidy := by
  intro list hlist e he
  obtain ⟨b, -, rfl⟩ := List.mem_map.1 hlist
  split at he
  · cases hv : value? (answer b.idx) with
    | none => simp [hv] at he
    | some v =>
        rw [hv, Option.map_some, Option.getD_some] at he
        exact hadapt b _ (ModelList.tidy_of_mem_reported (fits_of_value? hv)) e he
  · cases he

theorem tidy_of_mem_loadedFrom (c : RunnerConfig) (loaded : Nat → Outcome) :
    ∀ e ∈ loadedFrom c loaded, e.Tidy := by
  unfold loadedFrom
  split
  · exact ModelList.tidy_of_mem_merge
      (tidy_of_mem_listsOf (fun _ _ => Backend.tidy_of_mem_decorateLoaded) c loaded)
  · simp

theorem tidy_of_mem_fetched (c : RunnerConfig) (tags loaded : Nat → Outcome) :
    ∀ e ∈ fetched c tags loaded, e.Tidy := by
  unfold fetched
  split
  · intro e he
    obtain ⟨own, hown, rfl⟩ := List.mem_map.1 he
    exact ModelList.tidy_annotateEntry (ModelList.tidy_of_mem_merge
      (tidy_of_mem_listsOf (fun _ _ => Backend.tidy_of_mem_decorateModels) c tags) own hown)
  · simp

end Gateway

/-! ## Entries as they are written -/

namespace Record

theorem field?_modelEntry :
    schema.field? .modelEntry "model" = some ⟨"model", .required, .string⟩ ∧
      schema.field? .modelEntry "urls" = some ⟨"urls", .defaulted, .list .index⟩ :=
  ⟨rfl, rfl⟩

theorem field?_modelEntry_eq_none_iff {key : String} :
    schema.field? .modelEntry key = none ↔ key ≠ "model" ∧ key ≠ "urls" := by
  rw [Schema.field?, List.find?_eq_none]
  simp [schema, fields, eq_comm]

theorem conserves_modelEntry : schema.Conserves (.record modelEntry) := by
  refine .record rfl ?_
  simp only [schema, fields, List.forall_mem_cons]
  exact ⟨.string, .list .index, List.forall_mem_nil _⟩

end Record

namespace ModelEntry

variable {e : ModelEntry} {v : Json} {d : Dict Json} {key : String}

/-- The positions as a value. -/
def urlsValue (e : ModelEntry) : Json :=
  .arr (e.urls.map Json.ofNat)

/-- The value is an object with the members that the entry writes, in whatever order the entry's
own stand among its fields. -/
def IsWritten (e : ModelEntry) (v : Json) : Prop :=
  ∃ d, v = .obj d ∧ d ⊆ e.members ∧ (∀ key, Dict.get? d key = Dict.get? e.members key) ∧
    Record.extras .modelEntry d = e.fields

theorem Tidy.field?_eq_none_of_mem (h : e.Tidy) :
    ∀ m ∈ e.fields, Record.schema.field? .modelEntry m.1 = none := by
  rintro ⟨key, v⟩ hm
  have hget : e.field? key = some v := (Dict.get?_eq_some_iff_mem h.sorted.nodup).2 hm
  refine Record.field?_modelEntry_eq_none_iff.2 ⟨?_, ?_⟩
  · rintro rfl
    rw [h.model] at hget
    cases hget
  · rintro rfl
    rw [h.urls] at hget
    cases hget

/-- What holds of the name, of the fields and of the positions holds of all members. -/
theorem forall_members {p : String × Json → Prop} (hmodel : p ("model", .str e.model))
    (hfields : ∀ m ∈ e.fields, p m) (hurls : p ("urls", e.urlsValue)) : ∀ m ∈ e.members, p m := by
  intro m hm
  simp only [members, List.mem_append, List.mem_singleton] at hm
  rcases hm with (rfl | hm) | hm
  · exact hmodel
  · exact hfields m hm
  · split at hm
    · cases hm
    · obtain rfl := List.mem_singleton.1 hm
      exact hurls

/-- Every key is written once. -/
theorem Tidy.nodup_keys (h : e.Tidy) : (Dict.keys e.members).Nodup := by
  have hfields : ∀ key ∈ Dict.keys e.fields, key ≠ "model" ∧ key ≠ "urls" := by
    intro key hkey
    obtain ⟨m, hm, rfl⟩ := List.mem_map.1 hkey
    exact Record.field?_modelEntry_eq_none_iff.1 (h.field?_eq_none_of_mem m hm)
  have hkeys : Dict.keys e.members =
      "model" :: (Dict.keys e.fields ++ if e.urls.isEmpty then [] else ["urls"]) := by
    unfold members Dict.keys
    split <;> simp
  rw [hkeys, List.nodup_cons, List.nodup_append]
  refine ⟨fun hmem => ?_, h.sorted.nodup, ?_, fun a ha b hb => ?_⟩
  · rcases List.mem_append.1 hmem with hmem | hmem
    · exact (hfields _ hmem).1 rfl
    · split at hmem <;> simp at hmem
  · split <;> simp
  · split at hb
    · cases hb
    · obtain rfl := List.mem_singleton.1 hb
      exact (hfields a ha).2

theorem Tidy.get?_members (h : e.Tidy) (key : String) :
    Dict.get? e.members key =
      if key = "model" then some (.str e.model)
      else if key = "urls" then (if e.urls.isEmpty then none else some e.urlsValue)
      else e.field? key := by
  unfold members
  rw [List.append_assoc, List.singleton_append, Dict.get?_cons, Dict.get?_append]
  by_cases hmodel : key = "model"
  · simp [hmodel]
  · rw [if_neg hmodel, if_neg hmodel]
    by_cases hurls : key = "urls"
    · subst hurls
      have hnone : Dict.get? e.fields "urls" = none := h.urls
      rw [hnone, if_pos rfl]
      split <;> simp [Dict.get?_cons, urlsValue]
    · rw [if_neg hurls, field?]
      split <;> simp [Dict.get?_cons, hurls]

theorem Tidy.extras_members (h : e.Tidy) : Record.extras .modelEntry e.members = e.fields := by
  have hfields : Record.extras .modelEntry e.fields = e.fields :=
    List.filter_eq_self.2 fun m hm => by rw [h.field?_eq_none_of_mem m hm]; rfl
  obtain ⟨hmodel, hurls⟩ := Record.field?_modelEntry
  unfold Record.extras at hfields ⊢
  rw [members, List.filter_append, List.filter_append, hfields]
  split <;> simp [hmodel, hurls]

/-- The members of the entry in the order in which they are written. -/
theorem Tidy.isWritten_toJson (h : e.Tidy) : e.IsWritten e.toJson :=
  ⟨e.members, rfl, List.Subset.refl _, fun _ => rfl, h.extras_members⟩

/-- The members of the entry in the order of their keys. -/
theorem Tidy.isWritten_ofMembers (h : e.Tidy) : e.IsWritten (.ofMembers e.members) := by
  have hget : ∀ key, Dict.get? (Dict.ofList e.members) key = Dict.get? e.members key :=
    Dict.get?_ofList_of_nodup h.nodup_keys
  refine ⟨_, rfl, fun _ hm => Dict.mem_of_mem_ofList hm, hget, ?_⟩
  refine Dict.ext_get? ((Dict.sorted_ofList _).filter _) h.sorted fun key => ?_
  rw [← h.extras_members, Record.extras, Record.extras,
    Dict.get?_filter_of_key (p := fun k => (Record.schema.field? .modelEntry k).isNone),
    Dict.get?_filter_of_key (p := fun k => (Record.schema.field? .modelEntry k).isNone), hget]

/-! ## Reading -/

theorem IsWritten.accepted (h : e.Tidy) (hv : e.IsWritten v) :
    Record.schema.decode (.record .modelEntry) v = .ok v := by
  obtain ⟨d, rfl, hsub, hget, -⟩ := hv
  obtain ⟨hmodel, hurls⟩ := Record.field?_modelEntry
  have hall : ∀ m ∈ e.members, Record.schema.Accepts .modelEntry m := by
    refine forall_members ?_ (fun m hm f hfield => ?_) ?_
    · intro f hfield
      obtain rfl := Option.some.inj (hmodel.symm.trans hfield)
      exact .inr ⟨_, rfl⟩
    · rw [h.field?_eq_none_of_mem m hm] at hfield
      cases hfield
    · intro f hfield
      obtain rfl := Option.some.inj (hurls.symm.trans hfield)
      exact .inr ⟨_, BackendConfig.decode_list_map (fun _ => rfl) e.urls⟩
  refine (decode_record_eq_ok_iff Record.conserves_modelEntry).2
    ⟨rfl, d, rfl, fun m hm => hall m (hsub hm), ?_⟩
  have hthere : Dict.get? d "model" = some (.str e.model) := by
    rw [hget, h.get?_members, if_pos rfl]
  refine Form.missing?_eq_none_iff.2 fun f hf hrequired => ?_
  simp only [Record.fields, List.mem_cons, List.not_mem_nil, or_false] at hf
  rcases hf with rfl | rfl
  · exact List.mem_map_of_mem (Dict.mem_of_get? hthere)
  · cases hrequired

/-- The entry that is read is the one that was written. -/
theorem IsWritten.ofCanonical_eq (h : e.Tidy) (hv : e.IsWritten v) : ofCanonical v = e := by
  obtain ⟨d, rfl, -, hget, hextras⟩ := hv
  obtain ⟨model, fields, urls⟩ := e
  have hmodel := (hget "model").trans (h.get?_members "model")
  have hurls := (hget "urls").trans (h.get?_members "urls")
  have hpositions : (urls.map Json.ofNat).filterMap Json.nat? = urls := by
    simp [List.filterMap_map, Function.comp_def, Json.ofNat, Json.nat?]
  simp only [ofCanonical, Json.object?, Option.getD_some, Record.member?, hextras,
    ModelEntry.mk.injEq, true_and]
  constructor
  · rw [hmodel]
    rfl
  · rw [hurls]
    cases urls with
    | nil => rfl
    | cons i urls => simpa [urlsValue, Json.array?] using hpositions

/-- Read as a report, the entry is the one that was written, without its positions. -/
theorem IsWritten.ofValue?_eq (h : e.Tidy) (hv : e.IsWritten v) : ofValue? v = some e.bare := by
  obtain ⟨d, rfl, -, hget, hextras⟩ := hv
  have hmodel : Dict.get? d "model" = some (.str e.model) := by
    rw [hget, h.get?_members, if_pos rfl]
  have hname : nameOf? d = some e.model := by
    rw [nameOf?, hmodel]
  have hfields : Dict.erase (Dict.erase d "model") "urls" = e.fields := by
    rw [← hextras, Record.extras, Dict.erase, Dict.erase, List.filter_filter]
    refine List.filter_congr fun m _ => ?_
    rw [Bool.eq_iff_iff]
    simp [Record.field?_modelEntry_eq_none_iff, and_comm]
  simp only [ofValue?, Json.object?, Option.bind_some, hname, Option.map_some, hfields, bare]

end ModelEntry

namespace ModelList

variable {models : List ModelEntry} {write : ModelEntry → Json}

/-- The list as a value, with every object in the order of its keys. -/
def value (l : ModelList) : Json :=
  .obj [("models", .arr (l.models.map fun e => .ofMembers e.members))]

theorem decode_written (htidy : ∀ e ∈ models, e.Tidy)
    (h : ∀ e ∈ models, e.IsWritten (write e)) :
    decode (.obj [("models", .arr (models.map write))]) = .ok ⟨models⟩ := by
  have hitems : Record.schema.decodeItems (.record .modelEntry) (models.map write) =
      .ok (models.map write) := by
    refine decodeItems_eq_ok_iff.2 (List.forall₂_same.2 fun v hv => ?_)
    obtain ⟨e, he, rfl⟩ := List.mem_map.1 hv
    exact (h e he).accepted (htidy e he)
  have hread : (models.map write).map ModelEntry.ofCanonical = models := by
    rw [List.map_map]
    exact (List.map_congr_left fun e he => (h e he).ofCanonical_eq (htidy e he)).trans
      (List.map_id models)
  have hlist : Record.schema.decode (.record .modelList)
      (.obj [("models", .arr (models.map write))]) =
        .ok (.obj [("models", .arr (models.map write))]) := by
    have hfield : Record.schema.field? .modelList "models" =
        some ⟨"models", .required, .list (.record .modelEntry)⟩ := rfl
    have hmissing : Record.schema.missing? .modelList
        (Dict.keys [("models", Json.arr (models.map write))]) = none := rfl
    simp [Schema.decode, Schema.decodeFields, hfield, Json.Field.isAbsent, hitems, Except.map,
      hmissing]
  rw [decode, hlist]
  exact congrArg (fun found => Except.ok (ModelList.mk found)) hread

theorem reported_written (htidy : ∀ e ∈ models, e.Tidy)
    (h : ∀ e ∈ models, e.IsWritten (write e)) :
    reported (.obj [("models", .arr (models.map write))]) = models.map ModelEntry.bare := by
  change (models.map write).filterMap ModelEntry.ofValue? = models.map ModelEntry.bare
  rw [List.filterMap_map, ← List.filterMap_eq_map]
  exact List.filterMap_congr fun e he => (h e he).ofValue?_eq (htidy e he)

end ModelList

/-! ## Texts -/

namespace Json

variable {ρ : Type} {σ : Schema ρ} {levels : Nat}

/-- The text of an object is parsed as an object in the order of its keys. -/
theorem reads_any_members {members members' : List (String × Json)}
    (h : σ.ReadsMembers levels .any members members') (hnodup : (Dict.keys members).Nodup) :
    σ.Reads (levels + 1) .any (.obj members) (.ofMembers members') where
  floatFree := .obj h.floatFree
  read := by
    intro fuel rest hfuel hrest
    rw [length_chars_obj] at hfuel
    have hmembers := h.readMembers hnodup (show _ < fuel by omega) rest
    rw [chars, utf8_cons_ascii (by decide), List.cons_append, Schema.readValue]
    simp only [skipSpace_cons isSpace_brace, if_neg brace_ne_square, if_true, hmembers, ofMembers]

theorem reads_any_items {items items' : List Json}
    (h : List.Forall₂ (σ.Reads levels .any) items items') :
    σ.Reads (levels + 1) .any (.arr items) (.arr items') where
  floatFree := .arr (floatFree_of_reads h)
  read := by
    intro fuel rest hfuel hrest
    rw [length_chars_arr] at hfuel
    have hitems := around_items h (show _ < fuel by omega) rest
    rw [chars, utf8_cons_ascii (by decide), List.cons_append, Schema.readValue]
    simp only [skipSpace_cons isSpace_square, if_true, hitems]

end Json

/-- The fields have no floating-point numbers, and the positions are 64-bit numbers. -/
structure ModelEntry.Exact (e : ModelEntry) : Prop where
  floatFree : ∀ m ∈ e.fields, FloatFree m.2
  urls_le : ∀ i ∈ e.urls, i ≤ Text.maxWord

theorem ModelEntry.Tidy.reads {ρ : Type} {σ : Schema ρ} {e : ModelEntry} (h : e.Tidy)
    (hexact : e.Exact) :
    σ.Reads (fieldLevels + 1) .any e.toJson (.ofMembers e.members) := by
  refine reads_any_members (List.forall₂_same.2 ?_) h.nodup_keys
  refine forall_members ⟨rfl, reads_any (.str _ _) (.str _)⟩
    (fun m hm => ⟨rfl, reads_any (h.fits_of_mem m hm) (hexact.floatFree m hm)⟩) ⟨rfl, ?_⟩
  refine reads_any (.arr fun v hv => ?_) (.arr fun v hv => ?_)
  · obtain ⟨i, hi, rfl⟩ := List.mem_map.1 hv
    have hle := hexact.urls_le i hi
    exact .int _ (by omega) (by omega)
  · obtain ⟨i, hi, rfl⟩ := List.mem_map.1 hv
    exact .int _

/-- The text of an entry is read as the entry in the order of its keys. -/
theorem ModelEntry.Tidy.reads_record {e : ModelEntry} (h : e.Tidy) (hexact : e.Exact) :
    Record.schema.Reads (fieldLevels + 1) (.record .modelEntry) e.toJson
      (.ofMembers e.members) := by
  obtain ⟨hmodel, hurls⟩ := Record.field?_modelEntry
  have hpositions : Record.schema.Reads fieldLevels (.list .index) e.urlsValue e.urlsValue := by
    refine reads_list (List.forall₂_same.2 fun v hv => ?_)
    obtain ⟨i, hi, rfl⟩ := List.mem_map.1 hv
    exact reads_index (hexact.urls_le i hi)
  refine Json.reads_record (List.forall₂_same.2 ?_) ?_ h.nodup_keys ?_
  · refine forall_members ⟨rfl, ?_⟩ (fun m hm => ⟨rfl, ?_⟩) ⟨rfl, ?_⟩
    · rw [hmodel]
      exact ⟨Json.noConfusion, reads_string e.model⟩
    · rw [h.field?_eq_none_of_mem m hm]
      exact ⟨rfl, reads_any (h.fits_of_mem m hm) (hexact.floatFree m hm)⟩
    · rw [hurls]
      exact ⟨Json.noConfusion, hpositions⟩
  · exact forall_members (.str e.model) hexact.floatFree hpositions.floatFree
  · refine Form.missing?_eq_none_iff.2 fun f hf hrequired => ?_
    simp only [Record.fields, List.mem_cons, List.not_mem_nil, or_false] at hf
    rcases hf with rfl | rfl
    · exact List.mem_cons_self
    · cases hrequired

/-- The text of a list is read as the list. -/
theorem ModelList.read_render_toJson {models : List ModelEntry} (htidy : ∀ e ∈ models, e.Tidy)
    (hexact : ∀ e ∈ models, e.Exact) :
    ModelList.read (ModelList.mk models).toJson.render = .ok ⟨models⟩ := by
  have hitems : List.Forall₂
      (Record.schema.Reads (ModelEntry.fieldLevels + 1) (.record .modelEntry))
      (models.map ModelEntry.toJson) (models.map fun e => .ofMembers e.members) :=
    List.forall₂_map_left_iff.2 (List.forall₂_map_right_iff.2
      (List.forall₂_same.2 fun e he => (htidy e he).reads_record (hexact e he)))
  have hlist : List.Forall₂ (Record.schema.ReadsField (ModelEntry.fieldLevels + 1 + 1) .modelList)
      [("models", .arr (models.map ModelEntry.toJson))]
      [("models", .arr (models.map fun e => .ofMembers e.members))] :=
    .cons ⟨rfl, Json.noConfusion, reads_list hitems⟩ .nil
  have hread : Record.schema.read (.record .modelList) (ModelList.mk models).toJson.render =
      .ok (ModelList.mk models).value := by
    refine (Json.reads_record hlist ?_ (List.nodup_singleton _) rfl).read_render
    exact List.forall_mem_singleton.2 (.arr (floatFree_of_reads hitems))
  have hentries : (models.map fun e => Json.ofMembers e.members).map ModelEntry.ofCanonical =
      models := by
    rw [List.map_map]
    exact (List.map_congr_left fun e he =>
      (htidy e he).isWritten_ofMembers.ofCanonical_eq (htidy e he)).trans (List.map_id models)
  rw [read, hread]
  exact congrArg (fun found => Except.ok (ModelList.mk found)) hentries

/-- The text of a list is parsed as the list in the order of its keys. -/
theorem ModelList.parse_render_toJson {models : List ModelEntry} (htidy : ∀ e ∈ models, e.Tidy)
    (hexact : ∀ e ∈ models, e.Exact) :
    Json.parse (ModelList.mk models).toJson.render = .ok (ModelList.mk models).value := by
  have hitems : List.Forall₂ (plain.Reads (ModelEntry.fieldLevels + 1) .any)
      (models.map ModelEntry.toJson) (models.map fun e => .ofMembers e.members) :=
    List.forall₂_map_left_iff.2 (List.forall₂_map_right_iff.2
      (List.forall₂_same.2 fun e he => (htidy e he).reads (hexact e he)))
  have hlist : plain.ReadsMembers (ModelEntry.fieldLevels + 1 + 1) .any
      [("models", .arr (models.map ModelEntry.toJson))]
      [("models", .arr (models.map fun e => .ofMembers e.members))] :=
    .cons ⟨rfl, reads_any_items hitems⟩ .nil
  exact (reads_any_members hlist (List.nodup_singleton _)).read_render

namespace Gateway

open Exchange

/-! ## Lists that are passed from gateway to gateway -/

/-- The list came out of the answers of backends, as that of all models or as that of the loaded
ones. -/
def Produced (models : List ModelEntry) : Prop :=
  ∃ past later, fetchModels.Leads past later models ∨
    ∃ c, (fetchLoaded c).Leads past later models

theorem tidy_of_produced {models : List ModelEntry} (h : Produced models) :
    ∀ e ∈ models, e.Tidy := by
  obtain ⟨past, later, hleads | ⟨c, hleads⟩⟩ := h
  · obtain ⟨c, tags, loaded, -, rfl⟩ := fetchModels_leads_iff.1 hleads
    exact tidy_of_mem_fetched c tags loaded
  · obtain ⟨loaded, rfl⟩ := exists_loadedFrom_of_leads hleads
    exact tidy_of_mem_loadedFrom c loaded

/-- Whoever gets the text of the list as the answer of a backend reads it as the list with every
object in the order of its keys. -/
theorem value?_of_body {models : List ModelEntry} (htidy : ∀ e ∈ models, e.Tidy)
    (hexact : ∀ e ∈ models, e.Exact) {reply : Reply} (hsuccess : reply.isSuccess = true)
    (hbody : reply.body = Http.Body.ofJson (ModelList.mk models).toJson) :
    value? (.ok reply) = some (ModelList.mk models).value := by
  have hparse : Json.parseBytes (ModelList.mk models).toJson.render.toUTF8.toList =
      .ok (ModelList.mk models).value := ModelList.parse_render_toJson htidy hexact
  have hjson : reply.json? = some (ModelList.mk models).value := by
    rw [Reply.json?, hbody, Http.Body.ofJson, if_pos rfl, hparse]
    rfl
  rw [value?, if_pos hsuccess, hjson]

/-- In a list that comes out of answers of backends no entry has a `model` or `urls` among its
fields, so that every key is written once.  Whether the members stand in the order in which they are
written or in that of their keys, the list is decoded as the list that it was; and read as a report
it has the same entries in the same order, without their positions.  If nothing in it is rounded,
then its text is read as the list that it was, and as the answer of a backend it is parsed to the
value that is read as such a report. -/
theorem list_survives_its_encoding (models : List ModelEntry) (h : Produced models) :
    (∀ e ∈ models, e.field? "model" = none ∧ e.field? "urls" = none ∧
        (Dict.keys e.members).Nodup) ∧
      (∀ v, v = (ModelList.mk models).toJson ∨ v = (ModelList.mk models).value →
        ModelList.decode v = .ok ⟨models⟩ ∧
          ModelList.reported v = models.map fun e => { e with urls := [] }) ∧
      ((∀ e ∈ models, e.Exact) →
        ModelList.read (ModelList.mk models).toJson.render = .ok ⟨models⟩ ∧
        ∀ reply : Reply, reply.isSuccess = true →
          reply.body = Http.Body.ofJson (ModelList.mk models).toJson →
            value? (.ok reply) = some (ModelList.mk models).value) := by
  have htidy := tidy_of_produced h
  refine ⟨fun e he => ⟨(htidy e he).model, (htidy e he).urls, (htidy e he).nodup_keys⟩, ?_,
    fun hexact => ⟨ModelList.read_render_toJson htidy hexact,
      fun reply => value?_of_body htidy hexact⟩⟩
  rintro v (rfl | rfl)
  · exact ⟨ModelList.decode_written htidy fun e he => (htidy e he).isWritten_toJson,
      ModelList.reported_written htidy fun e he => (htidy e he).isWritten_toJson⟩
  · exact ⟨ModelList.decode_written htidy fun e he => (htidy e he).isWritten_ofMembers,
      ModelList.reported_written htidy fun e he => (htidy e he).isWritten_ofMembers⟩

/-- The list of one model that was asked for through two namespaces is read again as it was, from
its value and from its text, and as a report without its two positions. -/
theorem list_survives_its_encoding_nested :
    ∃ models, Produced models ∧
      models.map (fun e => (e.model, e.urls)) = [("x.y.z", [0, 1])] ∧
      ModelList.decode (ModelList.mk models).toJson = .ok ⟨models⟩ ∧
      ModelList.read (ModelList.mk models).toJson.render = .ok ⟨models⟩ ∧
      ∃ v, value? (.ok { status := 200, body := Http.Body.ofJson (ModelList.mk models).toJson }) =
          some v ∧
        (ModelList.reported v).map (fun e => (e.model, e.urls)) = [("x.y.z", [])] := by
  have hproduced : Produced (fetched nestedSpaces nestedAnswer loadedAtSecond) :=
    ⟨[], _, .inl (fetchModels_leads nestedSpaces nestedAnswer loadedAtSecond [])⟩
  have hlisted : (fetched nestedSpaces nestedAnswer loadedAtSecond).map
      (fun e => (e.model, e.urls)) = [("x.y.z", [0, 1])] := by decide +kernel
  have hexact : ∀ e ∈ fetched nestedSpaces nestedAnswer loadedAtSecond, e.Exact := by
    have hparts : ∀ e ∈ fetched nestedSpaces nestedAnswer loadedAtSecond,
        (∀ m ∈ e.fields, FloatFree m.2) ∧ ∀ i ∈ e.urls, i ≤ Text.maxWord := by decide +kernel
    exact fun e he => ⟨(hparts e he).1, (hparts e he).2⟩
  obtain ⟨-, hvalues, htexts⟩ := list_survives_its_encoding _ hproduced
  obtain ⟨hread, hreply⟩ := htexts hexact
  refine ⟨_, hproduced, hlisted, (hvalues _ (.inl rfl)).1, hread, _, hreply _ rfl rfl, ?_⟩
  have hwithout := congrArg (List.map fun entry => (entry.1, ([] : List Nat))) hlisted
  rw [(hvalues _ (.inr rfl)).2, List.map_map]
  rwa [List.map_map] at hwithout

/-- An answer with a number whose digits change each time it is read. -/
def sizedAnswer : Outcome :=
  let text := "\x7b\"models\":[\x7b\"model\":\"m\",\"size\":9.294355864180042\x7d]\x7d"
  .ok { status := 200, body := { bytes := text.toUTF8.toList } }

/-- A list with a floating-point number may be read from its text as another one: here the size is
written with the last digit 3, and what is read from that text is written with a 4. -/
theorem list_changes_in_its_text :
    ∃ models, Produced models ∧
      ModelList.read (ModelList.mk models).toJson.render ≠ .ok ⟨models⟩ := by
  let c : RunnerConfig := { baseUrls := ["http://a"] }
  let models := fetched c (fun _ => sizedAnswer) fun _ => .error .badValue
  have hproduced : Produced models := ⟨[], _, .inl (fetchModels_leads c _ _ [])⟩
  have hother : (ModelList.read (ModelList.mk models).toJson.render).toOption.map
      (fun l => l.toJson.render) ≠ some (ModelList.mk models).toJson.render := by decide +kernel
  refine ⟨models, hproduced, fun hsame => hother ?_⟩
  rw [hsame]
  rfl

end Gateway
end RunnerGateway
