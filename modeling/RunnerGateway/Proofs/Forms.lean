import RunnerGateway.Form.Chat
import RunnerGateway.Form.Model
import RunnerGateway.Proofs.Dict
import RunnerGateway.Proofs.Json.Conserved

/-!
# What a form is read from

The records of the inference routes conserve their values, so that a form is read from the members
of the body itself: `members_eq_ok_iff` says which bodies are accepted, and that nothing but the
members that are `null` is lost.  A member that is `null` is accepted exactly where it may be
missing.
-/

namespace RunnerGateway

open Json

/-! ## Records that conserve values -/

namespace Record

theorem conserves_object : schema.Conserves object := .dict .any

theorem conserves_chatMessage : schema.Conserves (.record chatMessage) := by
  refine .record rfl ?_
  simp only [schema, fields, List.forall_mem_cons]
  exact ⟨.string, .string, .list conserves_object, .list .string, List.forall_mem_nil _⟩

theorem conserves_chat : schema.Conserves (.record chat) := by
  refine .record rfl ?_
  simp only [schema, fields, List.forall_mem_cons]
  exact ⟨.string, .list conserves_chatMessage, .any, conserves_object, .string, .bool, .any,
    .list conserves_object, .any, List.forall_mem_nil _⟩

theorem conserves_generate : schema.Conserves (.record generate) := by
  refine .record rfl ?_
  simp only [schema, fields, List.forall_mem_cons]
  exact ⟨.string, .string, .string, .list .string, .any, conserves_object, .string, .string, .bool,
    .bool, .any, .any, List.forall_mem_nil _⟩

theorem conserves_embed : schema.Conserves (.record embed) := by
  refine .record rfl ?_
  simp only [schema, fields, List.forall_mem_cons]
  exact ⟨.string, .any, .string, conserves_object, .any, List.forall_mem_nil _⟩

theorem conserves_modelName : schema.Conserves (.record modelName) := by
  refine .record rfl ?_
  simp only [schema, fields, List.forall_mem_cons]
  exact ⟨.string, List.forall_mem_nil _⟩

end Record

namespace Form

variable {r : Record} {members : Dict Json} {key : String} {v : Json}

/-! ## Members that are `null` -/

theorem keys_dropNulls_sublist (members : Dict Json) :
    (Dict.keys (dropNulls members)).Sublist (Dict.keys members) :=
  List.filter_sublist.map Prod.fst

theorem sorted_dropNulls (hsorted : Dict.Sorted members) : Dict.Sorted (dropNulls members) :=
  hsorted.filter _

@[simp] theorem dropNulls_dropNulls (members : Dict Json) :
    dropNulls (dropNulls members) = dropNulls members := by
  simp [dropNulls]

/-- Where every key stands once, what is found is what was there, unless that is `null`. -/
theorem get?_dropNulls (hnodup : (Dict.keys members).Nodup) (key : String) :
    Dict.get? (dropNulls members) key = (Dict.get? members key).filter fun v => !v.isNull := by
  have hkept : (Dict.keys (dropNulls members)).Nodup :=
    hnodup.sublist (keys_dropNulls_sublist members)
  refine Option.ext fun v => ?_
  rw [Dict.get?_eq_some_iff_mem hkept, Option.filter_eq_some_iff,
    Dict.get?_eq_some_iff_mem hnodup, dropNulls, List.mem_filter]

/-! ## Which bodies are accepted -/

/-- Every member is accepted, and none is missing that is required. -/
def Sound (r : Record) (members : Dict Json) : Prop :=
  (∀ m ∈ members, Record.schema.Accepts r m) ∧
    Record.schema.missing? r (Dict.keys members) = none

theorem members_eq_ok_iff (h : Record.schema.Conserves (.record r)) {kept : Dict Json} :
    Form.members r v = .ok kept ↔
      ∃ members, v = .obj members ∧ kept = dropNulls members ∧ Sound r members := by
  unfold Form.members
  cases hdecode : Record.schema.decode (.record r) v with
  | error cause =>
      refine ⟨nofun, ?_⟩
      rintro ⟨members, rfl, -, hsound⟩
      rw [(decode_record_eq_ok_iff h).2 ⟨rfl, members, rfl, hsound⟩] at hdecode
      cases hdecode
  | ok w =>
      obtain ⟨rfl, members, rfl, hsound⟩ := (decode_record_eq_ok_iff h).1 hdecode
      constructor
      · intro hkept
        exact ⟨members, rfl, (Except.ok.inj hkept).symm, hsound⟩
      · rintro ⟨members', hobj, rfl, -⟩
        obtain rfl := Json.obj.inj hobj
        rfl

theorem missing?_eq_none_iff {present : List String} :
    Record.schema.missing? r present = none ↔
      ∀ f ∈ r.fields, f.presence = .required → f.name ∈ present := by
  simp [Schema.missing?, Record.schema]

/-- What is found under the name of a field has its shape, or is `null` if it may be missing. -/
theorem Sound.get? (h : Sound r members) {f : Json.Field Record}
    (hfield : Record.schema.field? r key = some f) (hget : Dict.get? members key = some v) :
    f.isAbsent v = true ∨ ∃ w, Record.schema.decode f.shape v = .ok w :=
  h.1 _ (Dict.mem_of_get? hget) f hfield

/-- `null` is never of the shape of a required field, and all other fields are optional. -/
def DisownsNull (r : Record) : Prop :=
  (r.fields.map Json.Field.name).Nodup ∧
    ∀ f ∈ r.fields, f.presence = .optional ∨
      f.presence = .required ∧ ∀ w, Record.schema.decode f.shape .null ≠ .ok w

theorem field?_of_mem (hnodup : (r.fields.map Json.Field.name).Nodup) {f : Json.Field Record}
    (hf : f ∈ r.fields) : Record.schema.field? r f.name = some f := by
  cases hfound : Record.schema.field? r f.name with
  | none => exact ((List.find?_eq_none.1 hfound) f hf (by simp)).elim
  | some g =>
      obtain ⟨hg, hname⟩ := mem_fields_of_field? hfound
      exact congrArg some (List.inj_on_of_nodup_map hnodup hg hf hname)

/-- An object without its `null` members is accepted if and only if the whole is. -/
theorem sound_dropNulls_iff (hr : DisownsNull r) (hnodup : (Dict.keys members).Nodup) :
    Sound r (dropNulls members) ↔ Sound r members := by
  obtain ⟨hnames, hfields⟩ := hr
  unfold Sound
  rw [missing?_eq_none_iff, missing?_eq_none_iff]
  constructor
  · rintro ⟨haccepts, hpresent⟩
    refine ⟨fun m hm => ?_, fun f hf hrequired => ?_⟩
    · by_cases hnull : m.2.isNull = true
      · intro f hfield
        obtain ⟨hf, hname⟩ := mem_fields_of_field? hfield
        rcases hfields f hf with hoptional | ⟨hrequired, -⟩
        · exact .inl (by simp [Json.Field.isAbsent, hoptional, hnull])
        · -- The required field would have to be there twice.
          obtain ⟨m', hm', hkey⟩ := List.mem_map.1 (hpresent f hf hrequired)
          obtain ⟨hmem, hnot⟩ := List.mem_filter.1 hm'
          obtain rfl := List.inj_on_of_nodup_map hnodup hmem hm (hkey.trans hname)
          simp [hnull] at hnot
      · exact haccepts m (List.mem_filter.2 ⟨hm, by simpa using hnull⟩)
    · exact (keys_dropNulls_sublist members).subset (hpresent f hf hrequired)
  · rintro ⟨haccepts, hpresent⟩
    refine ⟨fun m hm => haccepts m (List.mem_of_mem_filter hm), fun f hf hrequired => ?_⟩
    obtain ⟨m, hm, hname⟩ := List.mem_map.1 (hpresent f hf hrequired)
    refine List.mem_map.2 ⟨m, List.mem_filter.2 ⟨hm, ?_⟩, hname⟩
    have hfield : Record.schema.field? r m.1 = some f := hname ▸ field?_of_mem hnames hf
    by_contra hnull
    obtain hnull : m.2.isNull = true := by simpa using hnull
    have hvalue : m.2 = .null := by
      cases hm2 : m.2 <;> simp [hm2, Json.isNull] at hnull ⊢
    rcases hfields f hf with hoptional | ⟨-, hshape⟩
    · rw [hoptional] at hrequired
      cases hrequired
    · rcases haccepts m hm f hfield with habsent | ⟨w, hw⟩
      · simp [Json.Field.isAbsent, hrequired] at habsent
      · exact hshape w (hvalue ▸ hw)

/-! ## Members apart -/

theorem get?_without (keys : List String) (members : Dict Json) (key : String) :
    Dict.get? (without keys members) key =
      if keys.contains key then none else Dict.get? members key := by
  have h := Dict.get?_filter_of_key (p := fun k => !keys.contains k) members key
  rw [without, h]
  cases keys.contains key <;> simp

theorem sorted_without (keys : List String) (hsorted : Dict.Sorted members) :
    Dict.Sorted (without keys members) :=
  hsorted.filter _

theorem without_without (keys keys' : List String) (members : Dict Json) :
    without keys (without keys' members) = without (keys' ++ keys) members := by
  simp [without, List.filter_filter, Bool.and_comm]

theorem keys_without_sublist (keys : List String) (members : Dict Json) :
    (Dict.keys (without keys members)).Sublist (Dict.keys members) :=
  List.filter_sublist.map Prod.fst

/-- Where a form puts its own members before the other ones, each is found among its own if it is
one of `keys`. -/
theorem get?_ofList_own {keys : List String} {own : Dict Json}
    (hown : ∀ m ∈ own, keys.contains m.1 = true) (hnodup : (Dict.keys members).Nodup)
    (key : String) :
    Dict.get? (Dict.ofList (own ++ without keys members)) key =
      if keys.contains key then Dict.get? own.reverse key else Dict.get? members key := by
  have hrest : (Dict.keys (without keys members)).Nodup :=
    hnodup.sublist (keys_without_sublist keys members)
  rw [Dict.get?_ofList, List.reverse_append, Dict.get?_append, Dict.get?_reverse_of_nodup hrest,
    get?_without]
  cases hkey : keys.contains key with
  | true => simp
  | false =>
      have hnone : Dict.get? own.reverse key = none := by
        refine Dict.get?_eq_none_of_forall_ne fun m hm hname => ?_
        have hcontains := hown m (List.mem_reverse.1 hm)
        rw [hname, hkey] at hcontains
        cases hcontains
      simp [hnone]

theorem fst_of_mem_streamMember {switch : Option Bool} {m : String × Json}
    (hm : m ∈ streamMember switch) : m.1 = "stream" := by
  cases switch with
  | none => cases hm
  | some b =>
      obtain rfl := List.mem_singleton.1 hm
      rfl

theorem get?_reverse_streamMember (switch : Option Bool) (key : String) :
    Dict.get? (streamMember switch).reverse key =
      if key = "stream" then switch.map .bool else none := by
  cases switch with
  | none => simp [streamMember]
  | some b => simp [streamMember, Dict.get?_cons]

/-- Where a form also puts its switch before the other members, that is found under `stream`. -/
theorem get?_ofList_stream {keys : List String} {own : Dict Json}
    (hown : ∀ m ∈ own, keys.contains m.1 = true) (hkey : keys.contains "stream" = true)
    (hnodup : (Dict.keys members).Nodup) (switch : Option Bool) (key : String) :
    Dict.get? (Dict.ofList (own ++ streamMember switch ++ without keys members)) key =
      if keys.contains key then
        (if key = "stream" then switch.map .bool else none).or (Dict.get? own.reverse key)
      else Dict.get? members key := by
  have hall : ∀ m ∈ own ++ streamMember switch, keys.contains m.1 = true := by
    intro m hm
    rcases List.mem_append.1 hm with hm | hm
    · exact hown m hm
    · rw [fst_of_mem_streamMember hm]
      exact hkey
  rw [get?_ofList_own hall hnodup, List.reverse_append, Dict.get?_append,
    get?_reverse_streamMember]

end Form
end RunnerGateway
