import RunnerGateway.Proofs.Json.Shapes
import RunnerGateway.Proofs.Membership

/-!
# Where the fields of an entry come from

A model may appear in the answers of several backends, and several times in one of them.  In the
list of all models it stands at its first appearance: at the first backend, and there at the first
object, that names it.  All fields of its entry are those of this object, apart from a few that the
configuration of this backend sets, and from the time until which the model stays loaded, which
comes from its first appearance among the loaded models.
-/

namespace RunnerGateway

open Json

namespace Gateway

open Exchange

/-! ## Appearances -/

/-- An object in the answer of a backend, with the name of the model that it gives. -/
structure Appearance where
  backend : Backend
  position : Nat
  members : Dict Json
  own : String

namespace Appearance

/-- The model within the catalogue. -/
def model (a : Appearance) : String :=
  a.backend.qualify a.own

/-- The time that the object tells as the one until which the model stays loaded. -/
def expiry? (a : Appearance) : Option Int :=
  ((Dict.get? a.members "expires_at").bind Json.string?).bind Timestamp.read?

/-- One appearance comes before another: at an earlier backend, or earlier in the same answer. -/
def Before (a b : Appearance) : Prop :=
  a.backend.idx < b.backend.idx ∨ a.backend.idx = b.backend.idx ∧ a.position < b.position

/-- An enabled backend answered, at this position, with the object. -/
structure Told (c : RunnerConfig) (answer : Nat → Outcome) (a : Appearance) : Prop where
  backend : c.backend? a.backend.idx = some a.backend
  enabled : a.backend.config.enable = true
  object : ∃ v items, value? (answer a.backend.idx) = some v ∧
    v.field? "models" = some (.arr items) ∧ items[a.position]? = some (.obj a.members)
  names : Names a.members a.own

/-- An enabled backend answered with the object, and its entry allows the model. -/
def Offered (c : RunnerConfig) (answer : Nat → Outcome) (a : Appearance) : Prop :=
  a.Told c answer ∧ (a.backend.config.modelIds = [] ∨ a.own ∈ a.backend.config.modelIds)

/-- Of those with the property `p` no appearance of the same model comes before. -/
def IsFirst (p : Appearance → Prop) (a : Appearance) : Prop :=
  p a ∧ ∀ b, p b → b.model = a.model → ¬b.Before a

theorem before_asymm (a b : Appearance) (h : a.Before b) : ¬b.Before a := by
  unfold Before at *
  omega

/-- The entry that the object is read as. -/
def reported (a : Appearance) : ModelEntry where
  model := a.own
  fields := Dict.erase (Dict.erase a.members "model") "urls"
  urls := []

end Appearance

/-- The appearance in an item of an answer, if it is an object that names a model. -/
def Appearance.ofItem? (b : Backend) (position : Nat) (item : Json) : Option Appearance :=
  item.object?.bind fun members =>
    (ModelEntry.nameOf? members).map fun own => ⟨b, position, members, own⟩

/-- The objects in what a backend answered. -/
def objectsOf (b : Backend) (v : Json) : List Appearance :=
  (((v.field? "models").bind Json.array?).getD []).zipIdx.filterMap fun item =>
    Appearance.ofItem? b item.2 item.1

/-- The objects in all answers, in their order. -/
def appearances (c : RunnerConfig) (answer : Nat → Outcome) : List Appearance :=
  (asked c).flatMap fun b => ((value? (answer b.idx)).map (objectsOf b)).getD []

/-- The objects in all answers that their backends may serve, in their order. -/
def offers (c : RunnerConfig) (tags : Nat → Outcome) : List Appearance :=
  (appearances c tags).filter fun a => a.backend.config.allows a.own

theorem ofItem?_eq_some_iff {b : Backend} {position : Nat} {item : Json} {a : Appearance} :
    Appearance.ofItem? b position item = some a ↔
      a.backend = b ∧ a.position = position ∧ item = .obj a.members ∧ Names a.members a.own := by
  obtain ⟨backend, place, members, own⟩ := a
  cases item with
  | obj found =>
      simp only [Appearance.ofItem?, Json.object?, Option.bind_some, Option.map_eq_some_iff,
        nameOf?_eq_some_iff, Appearance.mk.injEq, Json.obj.injEq]
      constructor
      · rintro ⟨own, hnames, rfl, rfl, rfl, rfl⟩
        exact ⟨rfl, rfl, rfl, hnames⟩
      · rintro ⟨rfl, rfl, rfl, hnames⟩
        exact ⟨own, hnames, rfl, rfl, rfl, rfl⟩
  | _ => simp [Appearance.ofItem?, Json.object?]

theorem getElem?_models_eq_some_iff {v item : Json} {position : Nat} :
    (((v.field? "models").bind Json.array?).getD [])[position]? = some item ↔
      ∃ items, v.field? "models" = some (.arr items) ∧ items[position]? = some item := by
  cases v.field? "models" with
  | none => simp
  | some found => cases found <;> simp [Json.array?]

theorem mem_objectsOf_iff {b : Backend} {v : Json} {a : Appearance} :
    a ∈ objectsOf b v ↔ a.backend = b ∧ (∃ items, v.field? "models" = some (.arr items) ∧
      items[a.position]? = some (.obj a.members)) ∧ Names a.members a.own := by
  rw [objectsOf, List.mem_filterMap, ← getElem?_models_eq_some_iff]
  constructor
  · rintro ⟨⟨item, position⟩, hitem, ha⟩
    obtain ⟨hbackend, rfl, rfl, hnames⟩ := ofItem?_eq_some_iff.1 ha
    exact ⟨hbackend, List.mem_zipIdx_iff_getElem?.1 hitem, hnames⟩
  · rintro ⟨hbackend, hitem, hnames⟩
    exact ⟨(.obj a.members, a.position), List.mem_zipIdx_iff_getElem?.2 hitem,
      ofItem?_eq_some_iff.2 ⟨hbackend, rfl, rfl, hnames⟩⟩

theorem backend_of_mem_objectsOf {b : Backend} {v : Json} {a : Appearance} (h : a ∈ objectsOf b v) :
    a.backend = b :=
  (mem_objectsOf_iff.1 h).1

theorem mem_asked_iff {c : RunnerConfig} {b : Backend} :
    b ∈ asked c ↔ c.backend? b.idx = some b ∧ b.config.enable = true := by
  rw [asked, List.mem_filter, List.mem_iff_getElem?]
  refine and_congr ⟨?_, fun h => ⟨b.idx, by rw [RunnerConfig.backends_getElem?, h]⟩⟩ Iff.rfl
  rintro ⟨idx, hidx⟩
  rw [RunnerConfig.backends_getElem?] at hidx
  rwa [RunnerConfig.backend?_idx hidx]

theorem mem_appearances_iff {c : RunnerConfig} {answer : Nat → Outcome} {a : Appearance} :
    a ∈ appearances c answer ↔ a.Told c answer := by
  rw [appearances, List.mem_flatMap]
  constructor
  · rintro ⟨b, hb, ha⟩
    obtain ⟨hbackend, henabled⟩ := mem_asked_iff.1 hb
    cases hv : value? (answer b.idx) with
    | none => simp [hv] at ha
    | some v =>
        rw [hv, Option.map_some, Option.getD_some] at ha
        obtain ⟨rfl, ⟨items, hitems, hitem⟩, hnames⟩ := mem_objectsOf_iff.1 ha
        exact ⟨hbackend, henabled, ⟨v, items, hv, hitems, hitem⟩, hnames⟩
  · rintro ⟨hbackend, henabled, ⟨v, items, hv, hitems, hitem⟩, hnames⟩
    refine ⟨a.backend, mem_asked_iff.2 ⟨hbackend, henabled⟩, ?_⟩
    rw [hv]
    exact mem_objectsOf_iff.2 ⟨rfl, ⟨items, hitems, hitem⟩, hnames⟩

theorem mem_offers_iff {c : RunnerConfig} {tags : Nat → Outcome} {a : Appearance} :
    a ∈ offers c tags ↔ a.Offered c tags := by
  rw [offers, List.mem_filter, mem_appearances_iff, allows_iff, Appearance.Offered]

theorem pairwise_before_objectsOf (b : Backend) (v : Json) :
    (objectsOf b v).Pairwise Appearance.Before := by
  have hpositions : (((v.field? "models").bind Json.array?).getD []).zipIdx.Pairwise
      fun item later => item.2 < later.2 := by
    refine List.Pairwise.of_map (S := fun i j => i < j) Prod.snd (fun _ _ h => h) ?_
    rw [List.zipIdx_map_snd]
    exact List.pairwise_lt_range' 1
  refine hpositions.filterMap _ fun item later hlt a ha a' ha' => .inr ?_
  obtain ⟨hbackend, hposition, -, -⟩ := ofItem?_eq_some_iff.1 ha
  obtain ⟨hbackend', hposition', -, -⟩ := ofItem?_eq_some_iff.1 ha'
  rw [hbackend, hbackend', hposition, hposition']
  exact ⟨rfl, hlt⟩

theorem pairwise_before_appearances (c : RunnerConfig) (answer : Nat → Outcome) :
    (appearances c answer).Pairwise Appearance.Before := by
  have hidx : ∀ b : Backend, ∀ a ∈ ((value? (answer b.idx)).map (objectsOf b)).getD [],
      a.backend = b := by
    intro b a ha
    cases hv : value? (answer b.idx) with
    | none => simp [hv] at ha
    | some v =>
        rw [hv, Option.map_some, Option.getD_some] at ha
        exact backend_of_mem_objectsOf ha
  refine List.pairwise_flatMap.2 ⟨fun b hb => ?_, ?_⟩
  · cases value? (answer b.idx) with
    | none => exact List.Pairwise.nil
    | some v => exact pairwise_before_objectsOf b v
  · have hbackends : c.backends.Pairwise fun b b' => b.idx < b'.idx := by
      refine List.Pairwise.of_map (S := fun i j => i < j) Backend.idx (fun _ _ h => h) ?_
      rw [RunnerConfig.map_idx_backends]
      exact List.pairwise_lt_range
    refine (hbackends.filter _).imp fun hlt a ha a' ha' => .inl ?_
    rw [hidx _ a ha, hidx _ a' ha']
    exact hlt

/-! ## The lists of the backends -/

/-- The entry of a model with what the configuration of its backend sets. -/
def Appearance.decorated (a : Appearance) : ModelEntry :=
  a.backend.decorate a.reported

/-- The entry of a loaded model. -/
def Appearance.loadedEntry (a : Appearance) : ModelEntry :=
  { a.reported with model := a.model }

theorem map_reported_objectsOf (b : Backend) (v : Json) :
    (objectsOf b v).map Appearance.reported = ModelList.reported v := by
  have hitem : ∀ item : Json × Nat, (Appearance.ofItem? b item.2 item.1).map
      Appearance.reported = ModelEntry.ofValue? item.1 := by
    intro item
    rw [Appearance.ofItem?, ModelEntry.ofValue?, Option.map_bind]
    simp only [Function.comp_def, Option.map_map]
    rfl
  rw [objectsOf, List.map_filterMap, ModelList.reported]
  simp only [hitem]
  rw [← List.zipIdx_map_fst 0 (((v.field? "models").bind Json.array?).getD []), List.filterMap_map,
    List.zipIdx_map_fst]
  rfl

theorem flatMap_listsOf (adapt : Backend → List ModelEntry → List ModelEntry) (c : RunnerConfig)
    (answer : Nat → Outcome) :
    (listsOf adapt c answer).flatMap (fun list => list.getD []) =
      (asked c).flatMap fun b =>
        ((value? (answer b.idx)).map fun v => adapt b (ModelList.reported v)).getD [] := by
  rw [listsOf, asked]
  induction c.backends with
  | nil => rfl
  | cons b bs ih =>
      rw [List.map_cons, List.flatMap_cons, ih]
      cases hb : b.isEnabled with
      | true => rw [List.filter_cons_of_pos hb, List.flatMap_cons, if_pos rfl]
      | false => rw [List.filter_cons_of_neg (by simp [hb])]; rfl

theorem flatMap_decorateModels (c : RunnerConfig) (tags : Nat → Outcome) :
    (listsOf Backend.decorateModels c tags).flatMap (fun list => list.getD []) =
      (offers c tags).map Appearance.decorated := by
  rw [flatMap_listsOf, offers, appearances, List.filter_flatMap, List.map_flatMap]
  congr 1
  funext b
  cases value? (tags b.idx) with
  | none => rfl
  | some v =>
      simp only [Option.map_some, Option.getD_some]
      rw [Backend.decorateModels, ← map_reported_objectsOf b, List.filter_map, List.map_map]
      have hallows : (objectsOf b v).filter ((fun e => b.config.allows e.model) ∘
          Appearance.reported) = (objectsOf b v).filter fun a => a.backend.config.allows a.own :=
        List.filter_congr fun a ha => by rw [backend_of_mem_objectsOf ha]; rfl
      rw [hallows]
      refine List.map_congr_left fun a ha => ?_
      rw [Appearance.decorated, backend_of_mem_objectsOf (List.mem_of_mem_filter ha)]
      rfl

theorem flatMap_decorateLoaded (c : RunnerConfig) (loaded : Nat → Outcome) :
    (listsOf Backend.decorateLoaded c loaded).flatMap (fun list => list.getD []) =
      (appearances c loaded).map Appearance.loadedEntry := by
  rw [flatMap_listsOf, appearances, List.map_flatMap]
  congr 1
  funext b
  cases value? (loaded b.idx) with
  | none => rfl
  | some v =>
      simp only [Option.map_some, Option.getD_some]
      rw [Backend.decorateLoaded, ← map_reported_objectsOf b, List.map_map]
      refine List.map_congr_left fun a ha => ?_
      rw [Appearance.loadedEntry, Appearance.model, backend_of_mem_objectsOf ha]
      rfl

theorem Appearance.decorated_model (a : Appearance) : a.decorated.model = a.model :=
  Backend.decorate_model _ _

theorem Appearance.bare_decorated (a : Appearance) : a.decorated.bare = a.decorated := by
  unfold Appearance.decorated Backend.decorate
  split <;> rfl

theorem map_bare_eq {entry : Appearance → ModelEntry} (hmodel : ∀ a, (entry a).model = a.model)
    (hbare : ∀ a, (entry a).bare = entry a) {lists : List (Option (List ModelEntry))}
    {told : List Appearance} (hlists : lists.flatMap (fun list => list.getD []) = told.map entry) :
    (ModelList.merge lists).map ModelEntry.bare = (firsts Appearance.model told).map entry := by
  rw [ModelList.map_bare_merge, hlists, List.map_map, map_firsts hmodel]
  congr 1
  exact List.map_congr_left fun a _ => hbare a

theorem map_bare_models (c : RunnerConfig) (tags : Nat → Outcome) :
    (ModelList.merge (listsOf Backend.decorateModels c tags)).map ModelEntry.bare =
      (firsts Appearance.model (offers c tags)).map Appearance.decorated :=
  map_bare_eq Appearance.decorated_model Appearance.bare_decorated (flatMap_decorateModels c tags)

theorem map_bare_loaded (c : RunnerConfig) (loaded : Nat → Outcome) :
    (ModelList.merge (listsOf Backend.decorateLoaded c loaded)).map ModelEntry.bare =
      (firsts Appearance.model (appearances c loaded)).map Appearance.loadedEntry :=
  map_bare_eq (fun _ => rfl) (fun _ => rfl) (flatMap_decorateLoaded c loaded)

theorem mem_firsts_appearances_iff {c : RunnerConfig} {loaded : Nat → Outcome} {l : Appearance} :
    l ∈ firsts Appearance.model (appearances c loaded) ↔ l.IsFirst (Appearance.Told c loaded) := by
  rw [mem_firsts_iff Appearance.before_asymm (pairwise_before_appearances c loaded)]
  simp only [mem_appearances_iff, Appearance.IsFirst]

theorem mem_firsts_offers_iff {c : RunnerConfig} {tags : Nat → Outcome} {a : Appearance} :
    a ∈ firsts Appearance.model (offers c tags) ↔ a.IsFirst (Appearance.Offered c tags) := by
  have hpairwise : (offers c tags).Pairwise Appearance.Before :=
    (pairwise_before_appearances c tags).filter _
  rw [mem_firsts_iff Appearance.before_asymm hpairwise]
  simp only [mem_offers_iff, Appearance.IsFirst]

/-! ## Times of loaded models -/

theorem expiryOf?_eq_some_iff {models : List ModelEntry}
    (hnodup : (models.map ModelEntry.model).Nodup) {model : String} {time : Int} :
    ModelList.expiryOf? models model = some time ↔
      ∃ e ∈ models, e.model = model ∧ ModelList.expiry? e = some time := by
  have htold : ∀ found, ModelList.expiryOf? models model = some found →
      ∃ e ∈ models, e.model = model ∧ ModelList.expiry? e = some found := by
    intro found hfound
    obtain ⟨e, he, hexpiry⟩ := List.exists_of_findSome?_eq_some hfound
    split at hexpiry
    · rename_i hmodel
      exact ⟨e, List.mem_reverse.1 he, hmodel, hexpiry⟩
    · exact nomatch hexpiry
  refine ⟨htold time, ?_⟩
  rintro ⟨e, he, hmodel, hexpiry⟩
  cases hfound : ModelList.expiryOf? models model with
  | none =>
      have hnone := List.findSome?_eq_none_iff.1 hfound e (List.mem_reverse.2 he)
      rw [if_pos hmodel, hexpiry] at hnone
      exact nomatch hnone
  | some found =>
      -- The model stands once, so both times are told by one entry.
      obtain ⟨e', he', hmodel', hexpiry'⟩ := htold found hfound
      rw [List.inj_on_of_nodup_map hnodup he' he (hmodel'.trans hmodel.symm)] at hexpiry'
      exact hexpiry'.symm.trans hexpiry

theorem Appearance.expiry?_loadedEntry (l : Appearance) :
    ModelList.expiry? l.loadedEntry = l.expiry? := by
  have hfield : l.loadedEntry.field? "expires_at" = Dict.get? l.members "expires_at" := by
    rw [ModelEntry.field?, Appearance.loadedEntry, Appearance.reported, Dict.get?_erase,
      if_neg (by decide), Dict.get?_erase, if_neg (by decide)]
  rw [ModelList.expiry?, hfield, Appearance.expiry?]

/-- The time of a model is the one that its first appearance among the loaded models tells. -/
theorem expiryOf?_loaded_iff {c : RunnerConfig} {loaded : Nat → Outcome} {model : String}
    {time : Int} :
    ModelList.expiryOf? (ModelList.merge (listsOf Backend.decorateLoaded c loaded)) model =
        some time ↔
      ∃ l : Appearance, l.IsFirst (Appearance.Told c loaded) ∧ l.model = model ∧
        l.expiry? = some time := by
  have hbare := map_bare_loaded c loaded
  rw [expiryOf?_eq_some_iff (ModelList.orderly_merge _).nodup]
  constructor
  · rintro ⟨e, he, rfl, hexpiry⟩
    have hmem := List.mem_map_of_mem (f := ModelEntry.bare) he
    rw [hbare] at hmem
    obtain ⟨l, hl, hsame⟩ := List.mem_map.1 hmem
    refine ⟨l, mem_firsts_appearances_iff.1 hl, congrArg ModelEntry.model hsame, ?_⟩
    rw [← l.expiry?_loadedEntry, hsame]
    exact hexpiry
  · rintro ⟨l, hl, rfl, hexpiry⟩
    have hmem := List.mem_map_of_mem (f := Appearance.loadedEntry)
      (mem_firsts_appearances_iff.2 hl)
    rw [← hbare] at hmem
    obtain ⟨e, he, hsame⟩ := List.mem_map.1 hmem
    refine ⟨e, he, congrArg ModelEntry.model hsame, ?_⟩
    rw [← l.expiry?_loadedEntry, ← hsame] at hexpiry
    exact hexpiry

/-! ## The entries -/

/-- The entry of a model that first appears in the object. -/
structure Appearance.IsOrigin (c : RunnerConfig) (loaded : Nat → Outcome) (a : Appearance)
    (e : ModelEntry) : Prop where
  model : e.model = a.model
  own : e.field? "model" = none ∧ e.field? "urls" = none
  tags : e.field? "tags" =
    if a.backend.config.tags = [] then Dict.get? a.members "tags"
    else some (.arr (a.backend.config.tags.map Tag.toJson))
  /-- The kind of connection is that of the backend, unless it is not set or empty. -/
  connection : e.field? "connection_type" =
    some (.str ((a.backend.config.connectionType.filter fun kind => kind ≠ "").getD "docker"))
  /-- A time that the first appearance among the loaded models tells is shown in seconds. -/
  timed : ∀ (l : Appearance) (time : Int), l.IsFirst (Told c loaded) → l.model = a.model →
    l.expiry? = some time → e.field? "expires_at" = some (.int time)
  /-- If it tells no time, or the model is not loaded, nothing is changed. -/
  untimed : (∀ l : Appearance, l.IsFirst (Told c loaded) → l.model = a.model →
    l.expiry? = none) → e.field? "expires_at" = Dict.get? a.members "expires_at"
  others : ∀ key, key ∉ ["model", "urls", "tags", "connection_type", "expires_at"] →
    e.field? key = Dict.get? a.members key

theorem field?_setField (e : ModelEntry) (k : String) (v : Json) (key : String) :
    (e.setField k v).field? key = if key = k then some v else e.field? key :=
  Dict.get?_insert e.fields k v key

theorem Appearance.field?_reported (a : Appearance) (key : String) :
    a.reported.field? key =
      if key = "urls" then none else if key = "model" then none else Dict.get? a.members key := by
  rw [ModelEntry.field?, Appearance.reported, Dict.get?_erase, Dict.get?_erase]

theorem Appearance.field?_decorated (a : Appearance) (key : String) :
    a.decorated.field? key =
      if key = "connection_type" then some (.str a.backend.config.connection)
      else if key = "tags" ∧ a.backend.config.tags ≠ [] then
        some (.arr (a.backend.config.tags.map Tag.toJson))
      else a.reported.field? key := by
  rw [Appearance.decorated, Backend.decorate, field?_setField]
  congr 1
  by_cases htags : a.backend.config.tags = []
  · rw [if_pos (by simp [htags]), if_neg fun h => h.2 htags]
    rfl
  · rw [if_neg (by simpa using htags), field?_setField]
    simp only [htags, ne_eq, not_false_eq_true, and_true]
    rfl

theorem annotateEntry_field? (loaded : List ModelEntry) (e : ModelEntry) (key : String) :
    (ModelList.annotateEntry loaded e).field? key =
      if key = "expires_at" then
        ((ModelList.expiryOf? loaded e.model).map Json.int).or (e.field? key)
      else e.field? key := by
  unfold ModelList.annotateEntry
  cases ModelList.expiryOf? loaded e.model with
  | none => simp
  | some time =>
      rw [field?_setField]
      rfl

theorem bare_annotateEntry (loaded : List ModelEntry) (e : ModelEntry) :
    (ModelList.annotateEntry loaded e).bare = ModelList.annotateEntry loaded e.bare := by
  have hsame : ModelList.expiryOf? loaded e.bare.model = ModelList.expiryOf? loaded e.model := rfl
  unfold ModelList.annotateEntry
  rw [hsame]
  cases ModelList.expiryOf? loaded e.model <;> rfl

/-- The list of all models, without its positions. -/
theorem map_bare_fetched {c : RunnerConfig} (hc : c.enabled = true) (tags loaded : Nat → Outcome) :
    (fetched c tags loaded).map ModelEntry.bare =
      (firsts Appearance.model (offers c tags)).map fun a =>
        ModelList.annotateEntry (ModelList.merge (listsOf Backend.decorateLoaded c loaded))
          a.decorated := by
  rw [fetched, if_pos hc, ModelList.annotate, List.map_map]
  have hcomm : ModelEntry.bare ∘ ModelList.annotateEntry
      (ModelList.merge (listsOf Backend.decorateLoaded c loaded)) =
      ModelList.annotateEntry (ModelList.merge (listsOf Backend.decorateLoaded c loaded)) ∘
        ModelEntry.bare := funext fun e => bare_annotateEntry _ e
  rw [hcomm, ← List.map_map, map_bare_models, List.map_map]
  rfl

/-- An entry with the fields of a first appearance, and with the time of the loaded model. -/
theorem Appearance.isOrigin_of_bare {c : RunnerConfig} {loaded : Nat → Outcome} {a : Appearance}
    {e : ModelEntry}
    (h : e.bare = ModelList.annotateEntry
      (ModelList.merge (listsOf Backend.decorateLoaded c loaded)) a.decorated) :
    a.IsOrigin c loaded e := by
  have hmodel : e.model = a.model := by
    have hsame := congrArg ModelEntry.model h
    rwa [ModelList.annotateEntry_model, a.decorated_model] at hsame
  have hfield : ∀ key, e.field? key = _ := fun key =>
    (congrArg (fun found => found.field? key) h).trans (annotateEntry_field? _ a.decorated key)
  simp only [a.field?_decorated, a.field?_reported, a.decorated_model] at hfield
  refine ⟨hmodel, ⟨?_, ?_⟩, ?_, ?_, fun l time hl hsame htime => ?_, fun hnone => ?_,
    fun key hkey => ?_⟩
  · simp [hfield]
  · simp [hfield]
  · rw [hfield, if_neg (by decide), if_neg (by decide)]
    by_cases htags : a.backend.config.tags = [] <;> simp [htags]
  · rw [hfield, if_neg (by decide), if_pos rfl]
    rfl
  · rw [hfield, if_pos rfl, expiryOf?_loaded_iff.2 ⟨l, hl, hsame, htime⟩]
    rfl
  · have huntold : ModelList.expiryOf?
        (ModelList.merge (listsOf Backend.decorateLoaded c loaded)) a.model = none := by
      refine Option.eq_none_iff_forall_ne_some.2 fun time htime => ?_
      obtain ⟨l, hl, hsame, hfound⟩ := expiryOf?_loaded_iff.1 htime
      rw [hnone l hl hsame] at hfound
      exact nomatch hfound
    rw [hfield, if_pos rfl, huntold]
    simp
  · simp only [List.mem_cons, List.not_mem_nil, or_false, not_or] at hkey
    obtain ⟨hname, hurls, htags, hconnection, hexpires⟩ := hkey
    simp [hfield, hname, hurls, htags, hconnection, hexpires]

/-! ## Later backends -/

theorem Appearance.offered_congr {c : RunnerConfig} {tags tags' : Nat → Outcome} {a : Appearance}
    (h : tags' a.backend.idx = tags a.backend.idx) : a.Offered c tags' ↔ a.Offered c tags := by
  have htold : a.Told c tags' ↔ a.Told c tags := by
    constructor
    · rintro ⟨hbackend, henabled, hobject, hnames⟩
      exact ⟨hbackend, henabled, h ▸ hobject, hnames⟩
    · rintro ⟨hbackend, henabled, hobject, hnames⟩
      exact ⟨hbackend, henabled, h ▸ hobject, hnames⟩
  rw [Appearance.Offered, Appearance.Offered, htold]

/-- A first appearance is first whatever the later backends answer. -/
theorem Appearance.IsFirst.of_eq_upto {c : RunnerConfig} {tags tags' : Nat → Outcome}
    {a : Appearance} (ha : a.IsFirst (Offered c tags))
    (h : ∀ idx ≤ a.backend.idx, tags' idx = tags idx) : a.IsFirst (Offered c tags') := by
  refine ⟨(offered_congr (h _ (le_refl _))).2 ha.1, fun b hb hmodel hbefore => ?_⟩
  have hle : b.backend.idx ≤ a.backend.idx := by
    rcases hbefore with hlt | ⟨heq, -⟩
    · exact hlt.le
    · exact heq.le
  exact ha.2 b ((offered_congr (h _ hle)).1 hb) hmodel hbefore

theorem exists_mem_fetched_of_isFirst {c : RunnerConfig} (hc : c.enabled = true)
    {tags : Nat → Outcome} (loaded : Nat → Outcome) {a : Appearance}
    (ha : a.IsFirst (Appearance.Offered c tags)) :
    ∃ e ∈ fetched c tags loaded, e.bare = ModelList.annotateEntry
      (ModelList.merge (listsOf Backend.decorateLoaded c loaded)) a.decorated := by
  have hmem := List.mem_map_of_mem (f := fun a => ModelList.annotateEntry
    (ModelList.merge (listsOf Backend.decorateLoaded c loaded)) (Appearance.decorated a))
    (mem_firsts_offers_iff.2 ha)
  rw [← map_bare_fetched hc] at hmem
  obtain ⟨e, he, hsame⟩ := List.mem_map.1 hmem
  exact ⟨e, he, hsame⟩

/-! ## The list of all models -/

/-- The list of all models has one entry for each model that is offered, in the order of their first
appearances, with the fields of the first appearance but for those that the backend's configuration
sets and for the time until which the model stays loaded.  What later backends answer changes none
of them, and the times are set without changing the order, the models or the positions. -/
theorem fetchModels_takes_first_appearances {c : RunnerConfig} (hc : c.enabled = true)
    (tags loaded : Nat → Outcome) (past : List Act) :
    ∃ models, (∀ found, fetchModels.Leads past (fetching c tags loaded ++ past) found ↔
        found = models) ∧
      (∃ first : List Appearance, first.Pairwise Appearance.Before ∧
        (∀ a, a ∈ first ↔ a.IsFirst (Appearance.Offered c tags)) ∧
        List.Forall₂ (Appearance.IsOrigin c loaded) first models) ∧
      (∀ (tags' : Nat → Outcome) (models' : List ModelEntry) (a : Appearance),
        a.IsFirst (Appearance.Offered c tags) →
        (∀ idx ≤ a.backend.idx, tags' idx = tags idx) →
        fetchModels.Leads past (fetching c tags' loaded ++ past) models' →
        ∃ e ∈ models, ∃ e' ∈ models', e.model = a.model ∧ e'.model = a.model ∧
          e'.fields = e.fields) ∧
      ∀ models loaded : List ModelEntry,
        (ModelList.annotate models loaded).map (fun e => (e.model, e.urls)) =
          models.map fun e => (e.model, e.urls) := by
  refine ⟨fetched c tags loaded, fun found => fetchModels_leads_fetching_iff,
    ⟨firsts Appearance.model (offers c tags), ?_, fun a => mem_firsts_offers_iff, ?_⟩,
    fun tags' models' a ha hsame hleads => ?_, fun models loaded => ?_⟩
  · exact ((pairwise_before_appearances c tags).filter _).sublist (firsts_sublist _ _)
  · have hbare := List.forall₂_eq_eq_eq.symm ▸ map_bare_fetched hc tags loaded
    rw [List.forall₂_map_left_iff, List.forall₂_map_right_iff] at hbare
    exact hbare.flip.imp fun a e h => Appearance.isOrigin_of_bare h
  · obtain rfl := fetchModels_leads_fetching_iff.1 hleads
    obtain ⟨e, he, hbare⟩ := exists_mem_fetched_of_isFirst hc loaded ha
    obtain ⟨e', he', hbare'⟩ := exists_mem_fetched_of_isFirst hc loaded (ha.of_eq_upto hsame)
    have hfields : e'.bare.fields = e.bare.fields := by rw [hbare', hbare]
    exact ⟨e, he, e', he', (Appearance.isOrigin_of_bare hbare).model,
      (Appearance.isOrigin_of_bare hbare').model, hfields⟩
  · simp [ModelList.annotate]

/-- A loaded model, and the time until which it stays. -/
def loadedUntil : Json :=
  .obj [("models", .arr [.obj [("expires_at", .str "1970-01-01T00:01:00Z"), ("name", .str "z")]])]

/-- The second backend tells until when its model stays loaded. -/
def loadedAtSecond (idx : Nat) : Outcome :=
  if idx = 1 then
    .ok { status := 200, headers := [], body := { bytes := loadedUntil.render.toUTF8.toList } }
  else .error .badValue

theorem value?_loadedAtSecond : value? (loadedAtSecond 1) = some loadedUntil := by
  have hparse : Json.parseBytes loadedUntil.render.toUTF8.toList = .ok loadedUntil :=
    parse_render (by decide) (by decide)
  refine value?_eq_some_iff.2 ⟨_, rfl, by decide, by decide, ?_⟩
  rw [Reply.json?, if_pos rfl, hparse]
  rfl

/-- The model stands at its first backend, with the time that the second one tells. -/
theorem fetchModels_takes_first_appearances_nested :
    nestedSpaces.enabled = true ∧
      ∃ models e, fetchModels.Leads []
          (fetching nestedSpaces nestedAnswer loadedAtSecond ++ []) models ∧
        e ∈ models ∧ e.model = "x.y.z" ∧
        e.field? "connection_type" = some (.str "docker") ∧
        e.field? "expires_at" = some (.int 60) := by
  obtain ⟨models, hleads, ⟨first, -, hfirst, horigin⟩, -, -⟩ :=
    fetchModels_takes_first_appearances (c := nestedSpaces) rfl nestedAnswer loadedAtSecond []
  let a : Appearance := ⟨⟨0, "http://a", { prefixId := some "x" }⟩, 0,
    [("model", .str "y.z"), ("urls", .arr [.int 7])], "y.z"⟩
  let l : Appearance := ⟨⟨1, "http://b", { prefixId := some "x.y" }⟩, 0,
    [("expires_at", .str "1970-01-01T00:01:00Z"), ("name", .str "z")], "z"⟩
  have hfst : nestedSpaces.backend? 0 = some ⟨0, "http://a", { prefixId := some "x" }⟩ := rfl
  have hsnd : nestedSpaces.backend? 1 = some ⟨1, "http://b", { prefixId := some "x.y" }⟩ := rfl
  have ha : a.IsFirst (Appearance.Offered nestedSpaces nestedAnswer) := by
    refine ⟨⟨⟨hfst, rfl, ⟨_, _, value?_nestedAnswer_zero, rfl, rfl⟩, .inl rfl⟩, .inl rfl⟩,
      fun b _ _ hbefore => ?_⟩
    rcases hbefore with hlt | ⟨-, hlt⟩
    · exact absurd hlt (Nat.not_lt_zero _)
    · exact absurd hlt (Nat.not_lt_zero _)
  have hl : l.IsFirst (Appearance.Told nestedSpaces loadedAtSecond) := by
    refine ⟨⟨hsnd, rfl, ⟨_, _, value?_loadedAtSecond, rfl, rfl⟩, .inr ⟨fun text => ?_, rfl⟩⟩,
      fun b hb _ hbefore => ?_⟩
    · exact nofun
    · rcases hbefore with hlt | ⟨-, hlt⟩
      · obtain ⟨v, items, hv, -, -⟩ := hb.object
        rw [Nat.lt_one_iff.1 hlt] at hv
        exact nomatch hv
      · exact absurd hlt (Nat.not_lt_zero _)
  obtain ⟨idx, hidx, hget⟩ := List.mem_iff_getElem.1 ((hfirst a).2 ha)
  have hlen := horigin.length_eq
  have he := (List.forall₂_iff_get.1 horigin).2 idx hidx (hlen ▸ hidx)
  rw [List.get_eq_getElem, hget] at he
  refine ⟨rfl, models, _, (hleads models).2 rfl, List.get_mem _ _, ?_, he.connection, ?_⟩
  · rw [he.model]
    cbv
  · refine he.timed l 60 hl ?_ ?_
    · cbv
    · decide +kernel

end Gateway
end RunnerGateway
