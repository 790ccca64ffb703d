import RunnerGateway.Proofs.Forms
import RunnerGateway.Proofs.Forwarding
import RunnerGateway.Proofs.StoredConfig

/-!
# What comes back of an entry

The entry of a backend is decoded from a value, kept, and written again.  `returned` says what one
would read under each key of the value when it comes back whole: what is missing is filled in, a
`null` that counts as missing is left out, and all else is as it was.  The main result compares the
written entry with it.  They agree but for tags: of a tag that is an object only its name comes
back.  What is written is decoded to the same entry again.
-/

namespace RunnerGateway

open Json

/-! ## Looking up what became of members -/

namespace Json

variable {ρ : Type} {σ : Schema ρ}

/-- Under each key there is what became of the value that was there. -/
theorem rel_get?_of_becomes {r : ρ} {members members' : List (String × Json)}
    (h : List.Forall₂ (σ.Becomes r) members members') (key : String) :
    Option.Rel (fun v w => σ.decodeUnder r key v = .ok w)
      (Dict.get? members key) (Dict.get? members' key) := by
  induction h with
  | nil => exact .none
  | @cons m m' members members' hm _ ih =>
      obtain ⟨k, v⟩ := m
      obtain ⟨k', w⟩ := m'
      obtain ⟨rfl, hw⟩ := hm
      rw [Dict.get?_cons, Dict.get?_cons]
      by_cases hkey : key = k'
      · rw [if_pos hkey, if_pos hkey, hkey]
        exact .some hw
      · rw [if_neg hkey, if_neg hkey]
        exact ih

theorem keys_eq_of_becomes {r : ρ} {members members' : List (String × Json)}
    (h : List.Forall₂ (σ.Becomes r) members members') :
    Dict.keys members' = Dict.keys members := by
  induction h with
  | nil => rfl
  | cons hm _ ih => exact congrArg₂ List.cons hm.1 ih

theorem HasMembers.eq {v : Json} {members members' : String → Option Json}
    (h : v.HasMembers members) (h' : v.HasMembers members') (key : String) :
    members key = members' key := by
  obtain ⟨d, rfl, -, hd⟩ := h
  obtain ⟨d', hobj, -, hd'⟩ := h'
  rw [← hd, ← hd', Json.obj.inj hobj]

theorem wellFormed_of_mem_items {items : List Json} (h : WellFormedItems items) :
    ∀ v ∈ items, v.WellFormed := by
  induction items with
  | nil => simp
  | cons v items ih => exact List.forall_mem_cons.2 ⟨h.1, ih h.2⟩

theorem wellFormed_of_mem_members {members : List (String × Json)}
    (h : WellFormedMembers members) : ∀ m ∈ members, m.2.WellFormed := by
  induction members with
  | nil => simp
  | cons m members ih => exact List.forall_mem_cons.2 ⟨h.1, ih h.2⟩

end Json

/-! ## Tags -/

namespace Tag

/-- A tag with no more than its name: a string as it is, an object without its other members. -/
def bare : Json → Json
  | .obj members => .obj (members.filter fun m => m.1 = "name")
  | v => v

/-- The tag is no object with members besides its name. -/
def IsBare (v : Json) : Prop :=
  bare v = v

/-- The tags of a list with no more than their names. -/
def eachBare : Json → Json
  | .arr items => .arr (items.map bare)
  | v => v

/-- The items of the list of tags in an entry's value. -/
def sentIn (v : Json) : List Json :=
  ((v.field? "tags").bind Json.array?).getD []

theorem filter_name_eq {members : Dict Json} (hsorted : Dict.Sorted members) {v : Json}
    (h : Dict.get? members "name" = some v) :
    (members.filter fun m => m.1 = "name") = [("name", v)] := by
  refine Dict.ext_get? (hsorted.filter _) (by simp [Dict.sorted_cons_iff]) fun key => ?_
  rw [Dict.get?_filter_of_key (p := fun k => k = "name"), Dict.get?_cons]
  by_cases hkey : key = "name"
  · simp [hkey, h]
  · simp [hkey]

/-- A value that is taken for a tag is kept as the tag with no more than its name. -/
theorem eq_bare_of_tagOf? {v tag : Json} (hv : v.WellFormed) (h : tagOf? v = some tag) :
    tag = bare v := by
  cases v with
  | str s => exact (Option.some.inj h).symm
  | obj members =>
      rw [tagOf?] at h
      split at h
      · rename_i s hname
        rw [bare, filter_name_eq hv.1 hname]
        exact (Option.some.inj h).symm
      · cases h
  | null | bool | int | float | arr => cases h

/-- The tag of a kept value is written as that value. -/
theorem toJson_of_tagOf? {v tag : Json} (h : tagOf? v = some tag) :
    ∃ t, ofJson? tag = some t ∧ t.toJson = tag := by
  cases v with
  | str s =>
      cases h
      exact ⟨.name s, rfl, rfl⟩
  | obj members =>
      rw [tagOf?] at h
      split at h
      · cases h
        exact ⟨.object _, rfl, rfl⟩
      · cases h
  | null | bool | int | float | arr => cases h

theorem decode_tag_eq_ok_iff {ρ : Type} {σ : Schema ρ} {v w : Json} :
    σ.decode .tag v = .ok w ↔ tagOf? v = some w := by
  cases htag : tagOf? v with
  | none => cases v <;> simp [Schema.decode, htag]
  | some tag => cases v <;> simp [Schema.decode, htag]

/-- The kept tags of a list are written as the items of the list with no more than their names. -/
theorem map_toJson_eq_eachBare {ρ : Type} {σ : Schema ρ} {v w : Json} (hv : v.WellFormed)
    (h : σ.decode (.list .tag) v = .ok w) :
    .arr (((w.array?.getD []).filterMap ofJson?).map toJson) = eachBare v := by
  cases v with
  | arr items =>
      obtain ⟨items', hitems', rfl⟩ := exists_ok_of_map h
      have hwell := wellFormed_of_mem_items hv
      have hkept := decodeItems_eq_ok_iff.1 hitems'
      clear h hitems' hv
      simp only [eachBare, Json.array?, Option.getD_some, Json.arr.injEq]
      induction hkept with
      | nil => rfl
      | @cons item item' items items' hitem _ ih =>
          rw [List.forall_mem_cons] at hwell
          have htag := decode_tag_eq_ok_iff.1 hitem
          obtain ⟨t, ht, hwritten⟩ := toJson_of_tagOf? htag
          rw [List.filterMap_cons_some ht, List.map_cons, List.map_cons, hwritten,
            eq_bare_of_tagOf? hwell.1 htag, ih hwell.2]
  | null | bool | int | float | str | obj => cases h

end Tag

/-! ## Entries -/

namespace BackendConfig

variable {v : Json} {c : BackendConfig} {members members' : Dict Json} {key : String}

/-- What one reads under a key of an entry's value that comes back whole. -/
def returned (v : Json) (key : String) : Option Json :=
  if key = "enable" then some ((v.field? key).getD (.bool true))
  else if key = "tags" ∨ key = "model_ids" then some ((v.field? key).getD (.arr []))
  else if key = "key" ∨ key = "prefix_id" ∨ key = "connection_type" then v.given key
  else v.field? key

/-- What one reads under a key of the value that is written for an entry's value. -/
def written (v : Json) (key : String) : Option Json :=
  if key = "tags" then (returned v key).map Tag.eachBare else returned v key

/-- The value that was made of the one found under a key of an entry's value. -/
def Made (key : String) (found made : Option Json) : Prop :=
  Option.Rel (fun v w => Record.schema.decodeUnder .backendConfig key v = .ok w) found made

theorem decodeUnder_of_field {f : Json.Field Record}
    (hf : Record.schema.field? .backendConfig key = some f) (v : Json) :
    Record.schema.decodeUnder .backendConfig key v =
      if f.isAbsent v then .ok v else Record.schema.decode f.shape v := by
  rw [Schema.decodeUnder, hf]

theorem enable_of_made {found : Option Json}
    (h : Made "enable" found (Dict.get? members "enable")) :
    Json.bool (((Record.member? members "enable").bind Json.bool?).getD true) =
      found.getD (.bool true) := by
  unfold Record.member?
  generalize Dict.get? members "enable" = made at h ⊢
  cases h with
  | none => rfl
  | @some v w hw =>
      rw [decodeUnder_of_field field?_backendConfig.1] at hw
      cases v <;> cases hw
      rfl

/-- An optional text is written unless it was `null`. -/
theorem text_of_made (hf : Record.schema.field? .backendConfig key = some ⟨key, .optional, .string⟩)
    {found : Option Json} (h : Made key found (Dict.get? members key)) :
    ((Record.member? members key).bind Json.string?).map .str =
      found.filter fun w => !w.isNull := by
  unfold Record.member?
  generalize Dict.get? members key = made at h ⊢
  cases h with
  | none => rfl
  | @some v w hw =>
      rw [decodeUnder_of_field hf] at hw
      cases v <;> cases hw <;> rfl

theorem ofStrings_strings {v w : Json} (h : Record.schema.decode (.list .string) v = .ok w) :
    .ofStrings (Record.strings w) = v := by
  cases v with
  | arr items =>
      obtain ⟨items', hitems', rfl⟩ := exists_ok_of_map h
      have hstrings := decodeItems_eq_ok_iff.1 hitems'
      clear h hitems'
      simp only [ofStrings, Record.strings, Json.array?, Option.getD_some, Json.arr.injEq]
      induction hstrings with
      | nil => rfl
      | @cons item item' items items' hitem _ ih =>
          cases item <;> cases hitem
          simp [Json.string?, ih]
  | null | bool | int | float | str | obj => cases h

theorem ids_of_made {found : Option Json}
    (h : Made "model_ids" found (Dict.get? members "model_ids")) :
    Json.ofStrings (((Record.member? members "model_ids").map Record.strings).getD []) =
      found.getD (.arr []) := by
  unfold Record.member?
  generalize Dict.get? members "model_ids" = made at h ⊢
  cases h with
  | none => rfl
  | @some v w hw =>
      rw [decodeUnder_of_field field?_backendConfig.2.2.2.2.1] at hw
      have hstrings := ofStrings_strings hw
      cases w <;> exact hstrings

theorem tags_of_made {found : Option Json} (hfound : ∀ v, found = some v → v.WellFormed)
    (h : Made "tags" found (Dict.get? members "tags")) :
    Json.arr (((((Record.member? members "tags").bind Json.array?).getD []).filterMap
      Tag.ofJson?).map Tag.toJson) = Tag.eachBare (found.getD (.arr [])) := by
  unfold Record.member?
  generalize Dict.get? members "tags" = made at h ⊢
  cases h with
  | none => rfl
  | @some v w hw =>
      rw [decodeUnder_of_field field?_backendConfig.2.2.2.1] at hw
      have htags := Tag.map_toJson_eq_eachBare (hfound v rfl) hw
      cases w <;> exact htags

theorem exists_made_of_decode (h : decode v = .ok c) :
    ∃ members members', v = .obj members ∧ c = ofCanonical (.obj members') ∧
      List.Forall₂ (Record.schema.Becomes .backendConfig) members members' := by
  obtain ⟨w, hw, rfl⟩ := exists_ok_of_map h
  obtain ⟨members, rfl⟩ := exists_obj_of_decode_record rfl hw
  rw [Schema.decode] at hw
  split at hw
  · cases hw
  · rename_i members' hmembers'
    rw [missing?_backendConfig] at hw
    obtain rfl := Except.ok.inj hw
    exact ⟨members, members', rfl, rfl, (decodeFields_eq_ok_iff_forall₂ rfl).1 hmembers'⟩

theorem tidy_ofCanonical (hsorted : Dict.Sorted members) : (ofCanonical (.obj members)).Tidy where
  sorted := hsorted.filter _
  unknown _ hm := Option.isNone_iff_eq_none.1 (List.mem_filter.1 hm).2

/-- What a key that is no field has in the value, the entry keeps. -/
theorem get?_extra_of_made (hkey : Record.schema.field? .backendConfig key = none)
    (h : Made key (Dict.get? members key) (Dict.get? members' key)) :
    Dict.get? (ofCanonical (.obj members')).extra key = Dict.get? members key := by
  have hextra : Dict.get? (ofCanonical (.obj members')).extra key = Dict.get? members' key := by
    rw [ofCanonical, Json.object?, Option.getD_some, Record.extras,
      Dict.get?_filter_of_key (p := fun k => (Record.schema.field? .backendConfig k).isNone),
      hkey, Option.isNone_none, if_pos rfl]
  rw [hextra]
  generalize Dict.get? members key = found, Dict.get? members' key = made at h ⊢
  cases h with
  | none => rfl
  | @some v w hw =>
      rw [Schema.decodeUnder, hkey] at hw
      exact congrArg some (Except.ok.inj hw).symm

theorem field?_eq_none_of_ne (henable : key ≠ "enable") (hkey : key ≠ "key")
    (hspace : key ≠ "prefix_id") (htags : key ≠ "tags") (hids : key ≠ "model_ids")
    (hconnection : key ≠ "connection_type") :
    Record.schema.field? .backendConfig key = none := by
  simp [Schema.field?, Record.schema, Record.fields, Ne.symm, *]

theorem tidy_of_decode (hv : v.WellFormed) (h : decode v = .ok c) : c.Tidy := by
  obtain ⟨members, members', rfl, rfl, hbecomes⟩ := exists_made_of_decode h
  apply tidy_ofCanonical
  rw [Dict.Sorted, keys_eq_of_becomes hbecomes]
  exact hv.1

/-- The written entry has what is left of the value it was decoded from. -/
theorem get?_members_of_decode (hv : v.WellFormed) (h : decode v = .ok c) (key : String) :
    Dict.get? c.members key = written v key := by
  have htidy : c.Tidy := tidy_of_decode hv h
  obtain ⟨members, members', rfl, rfl, hbecomes⟩ := exists_made_of_decode h
  have hmade : ∀ key, Made key (Dict.get? members key) (Dict.get? members' key) :=
    rel_get?_of_becomes hbecomes
  have hwell : ∀ v, Dict.get? members "tags" = some v → v.WellFormed := by
    intro v hfound
    exact wellFormed_of_mem_members hv.2 _ (Dict.mem_of_get? hfound)
  have hfield : ∀ key, (Json.obj members).field? key = Dict.get? members key := fun _ => rfl
  have hgiven : ∀ key, (Json.obj members).given key =
      (Dict.get? members key).filter fun w => !w.isNull := fun _ => rfl
  obtain ⟨-, hkey, hspace, -, -, hconnection⟩ := field?_backendConfig
  have henable : Json.bool (ofCanonical (.obj members')).enable = _ :=
    enable_of_made (hmade "enable")
  have hkey : (ofCanonical (.obj members')).key.map Json.str = _ :=
    text_of_made hkey (hmade "key")
  have hspace : (ofCanonical (.obj members')).prefixId.map Json.str = _ :=
    text_of_made hspace (hmade "prefix_id")
  have htags : Json.arr ((ofCanonical (.obj members')).tags.map Tag.toJson) = _ :=
    tags_of_made hwell (hmade "tags")
  have hids : Json.ofStrings (ofCanonical (.obj members')).modelIds = _ :=
    ids_of_made (hmade "model_ids")
  have hconnection : (ofCanonical (.obj members')).connectionType.map Json.str = _ :=
    text_of_made hconnection (hmade "connection_type")
  rw [htidy.get?_members]
  simp only [written, returned, hfield, hgiven]
  -- Every field has its own rule, and under all other keys the entry keeps what it got.
  by_cases isEnable : key = "enable"
  · subst isEnable
    simpa using henable
  by_cases isKey : key = "key"
  · subst isKey
    simpa using hkey
  by_cases isSpace : key = "prefix_id"
  · subst isSpace
    simpa using hspace
  by_cases isTags : key = "tags"
  · subst isTags
    simpa using htags
  by_cases isIds : key = "model_ids"
  · subst isIds
    simpa using hids
  by_cases isConnection : key = "connection_type"
  · subst isConnection
    simpa using hconnection
  · have hunknown := field?_eq_none_of_ne isEnable isKey isSpace isTags isIds isConnection
    simpa [isEnable, isKey, isSpace, isTags, isIds, isConnection] using
      get?_extra_of_made hunknown (hmade key)

/-! ## Decoding what was written -/

theorem decode_tag_toJson (tag : Tag) :
    Record.schema.decode .tag tag.toJson = .ok tag.toJson := by
  cases tag <;> exact Tag.decode_tag_eq_ok_iff.2 rfl

theorem decode_list_map {α : Type} {item : Shape Record} {f : α → Json}
    (h : ∀ a, Record.schema.decode item (f a) = .ok (f a)) (items : List α) :
    Record.schema.decode (.list item) (.arr (items.map f)) = .ok (.arr (items.map f)) := by
  have hitems : Record.schema.decodeItems item (items.map f) = .ok (items.map f) := by
    refine decodeItems_eq_ok_iff.2 (List.forall₂_same.2 fun v hv => ?_)
    obtain ⟨a, -, rfl⟩ := List.mem_map.1 hv
    exact h a
  rw [Schema.decode, hitems]
  rfl

/-- The members that an entry writes are taken as they are. -/
theorem Tidy.becomes_self (h : c.Tidy) :
    ∀ m ∈ c.members, Record.schema.Becomes .backendConfig m m := by
  obtain ⟨henable, hkey, hspace, htags, hids, hconnection⟩ := field?_backendConfig
  have hknown : ∀ m ∈ c.known.members, Record.schema.Becomes .backendConfig m m := by
    apply forall_known
    · intro b
      exact ⟨rfl, decodeUnder_of_field henable _⟩
    · intro s
      exact ⟨rfl, decodeUnder_of_field hkey _⟩
    · intro s
      exact ⟨rfl, decodeUnder_of_field hspace _⟩
    · intro tags
      exact ⟨rfl, (decodeUnder_of_field htags _).trans (decode_list_map decode_tag_toJson tags)⟩
    · intro ids
      exact ⟨rfl, (decodeUnder_of_field hids _).trans (decode_list_map (fun _ => rfl) ids)⟩
    · intro s
      exact ⟨rfl, decodeUnder_of_field hconnection _⟩
  intro m hm
  rw [members_eq_known_append] at hm
  rcases List.mem_append.1 hm with hm | hm
  · exact hknown m hm
  · refine ⟨rfl, ?_⟩
    rw [Schema.decodeUnder, h.unknown m hm]

theorem Tidy.accepted (h : c.Tidy) {d : Dict Json} (hsub : d ⊆ c.members) :
    Record.schema.decode (.record .backendConfig) (.obj d) = .ok (.obj d) := by
  have hfields : Record.schema.decodeFields .backendConfig d = .ok d :=
    (decodeFields_eq_ok_iff_forall₂ rfl).2
      (List.forall₂_same.2 fun m hm => h.becomes_self m (hsub hm))
  rw [Schema.decode, hfields]
  simp only [missing?_backendConfig]

/-- The entry is decoded again from its members, in whatever order the known ones stand. -/
theorem Tidy.decode_eq (h : c.Tidy) {d : Dict Json} (hsub : d ⊆ c.members)
    (hd : ∀ key, Dict.get? d key = Dict.get? c.members key)
    (hextras : Record.extras .backendConfig d = c.extra) : decode (.obj d) = .ok c := by
  rw [decode, h.accepted hsub]
  exact congrArg Except.ok (h.ofCanonical_eq hd hextras)

theorem Tidy.decode_toJson (h : c.Tidy) : decode c.toJson = .ok c := by
  refine h.decode_eq (List.Subset.refl _) (fun _ => rfl) ?_
  have hknown : Record.extras .backendConfig c.known.members = [] := by
    refine List.filter_eq_nil_iff.2 fun m hm => ?_
    simp [Option.isSome_iff_ne_none.1 (isSome_field?_of_mem_known hm)]
  have hextra : Record.extras .backendConfig c.extra = c.extra := by
    refine List.filter_eq_self.2 fun m hm => ?_
    simp [h.unknown m hm]
  rw [members_eq_known_append, Record.extras, List.filter_append]
  exact congrArg₂ _ hknown hextra

theorem Tidy.decode_members (h : c.Tidy) : decode (.ofMembers c.members) = .ok c :=
  h.decode_eq (fun _ hm => Dict.mem_of_mem_ofList hm)
    (Dict.get?_ofList_of_nodup h.nodup_keys) h.extras_eq

/-! ## What comes back -/

/-- All of the value comes back, if no tag loses members. -/
theorem written_eq_returned_iff :
    (∀ key, written v key = returned v key) ↔ ∀ tag ∈ Tag.sentIn v, Tag.IsBare tag := by
  have htags : (∀ key, written v key = returned v key) ↔
      Tag.eachBare ((v.field? "tags").getD (.arr [])) = (v.field? "tags").getD (.arr []) := by
    constructor
    · intro h
      simpa [written, returned] using h "tags"
    · intro h key
      by_cases hkey : key = "tags"
      · simp [hkey, written, returned, h]
      · simp [hkey, written]
  rw [htags, Tag.sentIn]
  cases v.field? "tags" with
  | none => simp [Tag.eachBare]
  | some w =>
      cases w with
      | arr items =>
          have hmap := @List.map_inj_left _ _ items Tag.bare id
          simpa [Tag.eachBare, Tag.IsBare, Json.array?] using hmap
      | _ => simp [Tag.eachBare, Json.array?]

/-- An entry is written as the value it was decoded from: what was missing is filled in, a `null`
that counts as missing is left out, and all other members are as they were, but for the members of
tags besides their names.  What is written is decoded to the entry again. -/
theorem entry_comes_back_with_bare_tags (hv : v.WellFormed) (h : decode v = .ok c) :
    (Dict.keys c.members).Nodup ∧
      (Json.ofMembers c.members).HasMembers (written v) ∧
      ((Json.ofMembers c.members).HasMembers (returned v) ↔
        ∀ tag ∈ Tag.sentIn v, Tag.IsBare tag) ∧
      decode c.toJson = .ok c ∧
      decode (.ofMembers c.members) = .ok c := by
  have htidy : c.Tidy := tidy_of_decode hv h
  have hwritten : (Json.ofMembers c.members).HasMembers (written v) := by
    refine ⟨_, rfl, Dict.sorted_ofList _, fun key => ?_⟩
    rw [Dict.get?_ofList_of_nodup htidy.nodup_keys, get?_members_of_decode hv h]
  have hreturned : (Json.ofMembers c.members).HasMembers (returned v) ↔
      ∀ key, written v key = returned v key :=
    ⟨hwritten.eq, hwritten.congr⟩
  exact ⟨htidy.nodup_keys, hwritten, hreturned.trans written_eq_returned_iff,
    htidy.decode_toJson, htidy.decode_members⟩

/-- An entry whose tag has a colour. -/
def colouredEntry : Json :=
  .obj [("note", .obj [("by", .null)]),
    ("tags", .arr [.obj [("color", .str "red"), ("name", .str "x")], .str "y"])]

theorem entry_comes_back_with_bare_tags_coloured :
    colouredEntry.WellFormed ∧
      ∃ c, decode colouredEntry = .ok c ∧ (Dict.keys c.members).Nodup ∧
        (Json.ofMembers c.members).HasMembers (written colouredEntry) ∧
        ((Json.ofMembers c.members).HasMembers (returned colouredEntry) ↔
          ∀ tag ∈ Tag.sentIn colouredEntry, Tag.IsBare tag) ∧
        decode c.toJson = .ok c ∧
        decode (.ofMembers c.members) = .ok c := by
  have hwell : colouredEntry.WellFormed := by
    simp only [colouredEntry, WellFormed, WellFormedMembers, WellFormedItems, and_true]
    decide
  exact ⟨hwell, _, rfl, entry_comes_back_with_bare_tags hwell rfl⟩

/-- The colour of a tag does not come back. -/
theorem coloured_tag_does_not_come_back :
    ∃ c, decode colouredEntry = .ok c ∧
      ¬(Json.ofMembers c.members).HasMembers (returned colouredEntry) := by
  refine ⟨_, rfl, ?_⟩
  rintro ⟨d, hd, -, hget⟩
  obtain rfl := Json.obj.inj hd
  have htags : some (Json.arr [.obj [("name", .str "x")], .str "y"]) =
      some (Json.arr [.obj [("color", .str "red"), ("name", .str "x")], .str "y"]) :=
    hget "tags"
  simp at htags

end BackendConfig
end RunnerGateway
