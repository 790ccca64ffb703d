import RunnerGateway.Proofs.Conduct
import RunnerGateway.Proofs.Json.Shapes
import RunnerGateway.Proofs.NullMembers

/-!
# What is passed on

Seven endpoints pass the body of a request on to one backend.  `Endpoint.sent` says member by member
what the backend gets: the member as the client gave it, at any depth, unless it is `null` or one of
the few that the endpoint edits.  The main result says that the endpoint does nothing else with an
accepted body: it chooses a backend, sends it this one call, and makes its answer of the reply.
-/

namespace RunnerGateway

open Json

/-! ## Objects by their members -/

namespace Json

/-- The value is an object with ascending keys, in which `members` is found. -/
def HasMembers (v : Json) (members : String → Option Json) : Prop :=
  ∃ d, v = .obj d ∧ Dict.Sorted d ∧ ∀ key, Dict.get? d key = members key

theorem HasMembers.congr {v : Json} {members members' : String → Option Json}
    (h : v.HasMembers members) (heq : ∀ key, members key = members' key) :
    v.HasMembers members' := by
  obtain ⟨d, rfl, hsorted, hget⟩ := h
  exact ⟨d, rfl, hsorted, fun key => (hget key).trans (heq key)⟩

theorem hasMembers_ofMembers (pairs : List (String × Json)) :
    (Json.ofMembers pairs).HasMembers fun key => Dict.get? pairs.reverse key :=
  ⟨_, rfl, Dict.sorted_ofList pairs, Dict.get?_ofList pairs⟩

theorem hasMembers_own {keys : List String} {own members : Dict Json}
    (hown : ∀ m ∈ own, keys.contains m.1 = true) (hnodup : (Dict.keys members).Nodup) :
    (Json.ofMembers (own ++ Form.without keys members)).HasMembers fun key =>
      if keys.contains key then Dict.get? own.reverse key else Dict.get? members key :=
  ⟨_, rfl, Dict.sorted_ofList _, Form.get?_ofList_own hown hnodup⟩

theorem hasMembers_stream {keys : List String} {own members : Dict Json}
    (hown : ∀ m ∈ own, keys.contains m.1 = true) (hkey : keys.contains "stream" = true)
    (hnodup : (Dict.keys members).Nodup) (switch : Option Bool) :
    (Json.ofMembers (own ++ Form.streamMember switch ++ Form.without keys members)).HasMembers
      fun key =>
        if keys.contains key then
          (if key = "stream" then switch.map .bool else none).or (Dict.get? own.reverse key)
        else Dict.get? members key :=
  ⟨_, rfl, Dict.sorted_ofList _, Form.get?_ofList_stream hown hkey hnodup switch⟩

/-- The value of a member, unless it is `null`. -/
def given (v : Json) (key : String) : Option Json :=
  (v.field? key).filter fun w => !w.isNull

/-- An object without its `null` members, and anything else as it is. -/
def withoutNulls : Json → Json
  | .obj members => .obj (Form.dropNulls members)
  | v => v

/-- An array whose items lost their `null` members, and anything else as it is. -/
def eachWithoutNulls : Json → Json
  | .arr items => .arr (items.map withoutNulls)
  | v => v

end Json

namespace Gateway

open Exchange Http

/-! ## What an endpoint sends -/

namespace Endpoint

/-- The name of the model may be given as `name`. -/
def readsName : Endpoint → Bool
  | .describe | .delete | .pull => true
  | _ => false

/-- A missing tag is filled in, for some endpoints only where no position is given. -/
def fillsTag (idx : Option Nat) : Endpoint → Bool
  | .embed | .embeddings | .delete => idx.isNone
  | .pull => false
  | _ => true

/-- The model as the client names it. -/
def named? (e : Endpoint) (v : Json) : Option String :=
  ((v.given "model").bind Json.string?).or
    (if e.readsName then (v.given "name").bind Json.string? else none)

/-- The model as the catalogue knows it. -/
def sought (e : Endpoint) (idx : Option Nat) (v : Json) : String :=
  let named := (e.named? v).getD ""
  if e.fillsTag idx then withDefaultTag named else named

/-- What the backend gets as the model: its own name of it, or just the name that the client
gave. -/
def modelSent (e : Endpoint) (idx : Option Nat) (b : Backend) (v : Json) : Option Json :=
  if e = .pull then (e.named? v).map .str else some (.str (b.unqualify (e.sought idx v)))

/-- A member of a chat or of a request for a text, other than the model. -/
def completionMember (v : Json) (key : String) : Option Json :=
  if key = "metadata" then none
  else if key = "stream" ∧ (v.field? key).isNone then some (.bool true)
  else v.given key

/-- What the backend gets under a key other than `model`. -/
def member (v : Json) (key : String) : Endpoint → Option Json
  | .chat =>
    if key = "messages" then (v.given key).map eachWithoutNulls else completionMember v key
  | .generate => completionMember v key
  | .describe | .delete => if key = "name" then none else v.given key
  | .pull => if key = "insecure" then some (.bool true) else v.given key
  | _ => v.given key

/-- What the backend gets under a key for a body. -/
def sent (e : Endpoint) (idx : Option Nat) (b : Backend) (v : Json) (key : String) :
    Option Json :=
  if key = "model" then e.modelSent idx b v else e.member v key

/-- The body asks for an answer that comes piece by piece. -/
def wantsStream (v : Json) : Bool :=
  ((completionMember v "stream").bind Json.bool?).getD false

/-- The conversation that a body belongs to. -/
def conversation? (v : Json) : Endpoint → Option String
  | .chat | .generate => Form.chatId? (v.given "metadata")
  | _ => none

/-- The choice of the backend that a body about a model is passed on to. -/
def choose (idx : Option Nat) (model : String) : Endpoint → Attempt Backend
  | .describe => select model
  | .pull => backendAt (idx.getD 0)
  | .delete =>
    match idx with
    | some idx => backendAt idx
    | none => firstServing model
  | _ => resolve model idx

/-- The answer with the JSON document of a reply. -/
def document (reply : Reply) : Attempt Response := do
  return .ofJson 200 (← attempt reply.json)

/-- The answer that is made of the reply to a body. -/
def answer (v : Json) (reply : Reply) : Endpoint → Attempt Response
  | .chat => if wantsStream v then return reply.passOn (some linesType) else document reply
  | .generate => if wantsStream v then return reply.passOn none else document reply
  | .pull => return reply.passOn none
  | .delete => do
    Task.invalidate
    return .ofJson 200 (.bool true)
  | _ => document reply

/-- The body has a form that the endpoint takes. -/
def Accepts (v : Json) : Endpoint → Prop
  | .chat => ∃ f, ChatForm.parse v = .ok f
  | .generate => ∃ f, GenerateForm.parse v = .ok f
  | .embed | .embeddings => ∃ f, EmbedForm.parse v = .ok f
  | .pull => ∃ f, ModelNameForm.parse v = .ok f
  | .describe | .delete => ∃ f model, ModelNameForm.parse v = .ok f ∧ f.requireModel = .ok model
  | _ => False

end Endpoint

variable {members : Dict Json} {v : Json} {idx : Option Nat} {b : Backend} {key : String}

/-! ## Forms by their members -/

theorem get?_dropNulls_eq_given (hnodup : (Dict.keys members).Nodup) (key : String) :
    Dict.get? (Form.dropNulls members) key = (Json.obj members).given key :=
  Form.get?_dropNulls hnodup key

theorem map_stream? {r : Record} (hnodup : (Dict.keys members).Nodup)
    (hsound : Form.Sound r members)
    (hstream : Record.schema.field? r "stream" = some ⟨"stream", .optional, .bool⟩) :
    (Form.stream? (.obj members) (Form.dropNulls members)).map Json.bool =
      Endpoint.completionMember (.obj members) "stream" := by
  have hkept := get?_dropNulls_eq_given hnodup "stream"
  cases hget : Dict.get? members "stream" with
  | none => simp [Form.stream?, Endpoint.completionMember, Json.field?, Json.object?, hget]
  | some w =>
      have hshape := hsound.get? hstream hget
      have hfield : (Json.obj members).field? "stream" = some w := hget
      rw [Form.stream?, hfield, hkept]
      simp only [Endpoint.completionMember, Json.given, hfield]
      cases w with
      | null => rfl
      | bool b => rfl
      | _ =>
          obtain habsent | ⟨w', hw⟩ := hshape
          · cases habsent
          · cases hw

/-- The messages of an accepted chat are those of the body, each without its `null` members. -/
theorem messagesOf_eq (hnodup : (Dict.keys members).Nodup) (hsound : Form.Sound .chat members) :
    some (.arr ((ChatForm.messagesOf (Form.dropNulls members)).map .obj)) =
      ((Json.obj members).given "messages").map Json.eachWithoutNulls := by
  have hfield : Record.schema.field? .chat "messages" =
      some ⟨"messages", .required, .list (.record .chatMessage)⟩ := rfl
  obtain ⟨m, hm, hname⟩ := List.mem_map.1
    (Form.missing?_eq_none_iff.1 hsound.2 _ (mem_fields_of_field? hfield).1 rfl)
  obtain ⟨name, w⟩ := m
  obtain rfl : name = "messages" := hname
  have hget : Dict.get? members "messages" = some w := (Dict.get?_eq_some_iff_mem hnodup).2 hm
  rcases hsound.get? hfield hget with habsent | ⟨w', hw⟩
  · cases habsent
  · cases w with
    | arr items =>
        obtain ⟨items', hitems, -⟩ := exists_ok_of_map hw
        have hgiven : (Json.obj members).given "messages" = some (.arr items) := by
          simp [Json.given, Json.field?, Json.object?, hget, Json.isNull]
        rw [ChatForm.messagesOf, get?_dropNulls_eq_given hnodup, hgiven]
        simp only [Option.bind_some, Json.array?, Option.getD_some, Option.map_some,
          Json.eachWithoutNulls, List.map_map]
        congr 2
        refine List.map_congr_left fun item hitem => ?_
        -- Every message is an object, since it was taken for a message.
        obtain ⟨w, hw⟩ := exists_decode_of_mem hitems item hitem
        obtain ⟨message, rfl⟩ := exists_obj_of_decode_record rfl hw
        rfl
    | _ => cases hw

/-- A form that asks for a completion has its own members, and the others as the body gives them. -/
theorem hasMembers_completion {r : Record} {own : Dict Json}
    (hswitch : ∀ m ∈ own, m.1 ≠ "stream") (hmetadata : ∀ m ∈ own, m.1 ≠ "metadata")
    (hnodup : (Dict.keys members).Nodup) (hsound : Form.Sound r members)
    (hstream : Record.schema.field? r "stream" = some ⟨"stream", .optional, .bool⟩) :
    (Json.ofMembers (own ++ Form.streamMember (Form.stream? (.obj members) (Form.dropNulls members))
      ++ Form.without (Dict.keys own ++ ["stream", "metadata"])
        (Form.dropNulls members))).HasMembers fun key =>
          (Dict.get? own.reverse key).or (Endpoint.completionMember (.obj members) key) := by
  have hkept : (Dict.keys (Form.dropNulls members)).Nodup :=
    hnodup.sublist (Form.keys_dropNulls_sublist members)
  have hown : ∀ m ∈ own, (Dict.keys own ++ ["stream", "metadata"]).contains m.1 = true := by
    intro m hm
    have hmem : m.1 ∈ Dict.keys own := List.mem_map_of_mem hm
    simp [hmem]
  have hnone (key : String) (hkey : ∀ m ∈ own, m.1 ≠ key) : Dict.get? own.reverse key = none :=
    Dict.get?_eq_none_of_forall_ne fun m hm => hkey m (List.mem_reverse.1 hm)
  refine (Json.hasMembers_stream hown (by simp) hkept _).congr fun key => ?_
  by_cases hkey : key = "stream"
  · subst hkey
    simp [map_stream? hnodup hsound hstream, hnone _ hswitch]
  · by_cases hdropped : key = "metadata"
    · subst hdropped
      simp [hnone _ hmetadata, Endpoint.completionMember]
    · cases hget : Dict.get? own.reverse key with
      | some w =>
          have hmem : key ∈ Dict.keys own :=
            List.mem_map_of_mem (List.mem_reverse.1 (Dict.mem_of_get? hget))
          simp [hmem, hkey]
      | none =>
          have hother : key ∉ Dict.keys own := by
            rintro hmem
            obtain ⟨m, hm, rfl⟩ := List.mem_map.1 hmem
            simpa using List.lookup_eq_none_iff.1 hget m (List.mem_reverse.2 hm)
          simp [hother, hkey, hdropped, Endpoint.completionMember, get?_dropNulls_eq_given hnodup]

theorem hasMembers_chat {f : ChatForm} (hnodup : (Dict.keys members).Nodup)
    (hf : ChatForm.parse (.obj members) = .ok f) (model : String) :
    ({ f with model }.toJson).HasMembers fun key =>
      if key = "model" then some (.str model) else Endpoint.chat.member (.obj members) key := by
  obtain ⟨hsound, g, hg, rfl⟩ := StreamForm.isBuilt_chat.parse_eq_ok_iff.1 hf
  obtain rfl := StreamForm.exists_eq_of_chatOf hg
  have hmessages := messagesOf_eq hnodup hsound
  refine (hasMembers_completion (by simp) (by simp) hnodup hsound rfl).congr fun key => ?_
  by_cases hmodel : key = "model"
  · simp [hmodel, Dict.get?_cons]
  · by_cases hkey : key = "messages"
    · simp [hkey, Dict.get?_cons, Endpoint.member, ← hmessages]
    · simp [hmodel, hkey, Dict.get?_cons, Endpoint.member]

theorem hasMembers_generate {f : GenerateForm} (hnodup : (Dict.keys members).Nodup)
    (hf : GenerateForm.parse (.obj members) = .ok f) (model : String) :
    ({ f with model }.toJson).HasMembers fun key =>
      if key = "model" then some (.str model)
      else Endpoint.generate.member (.obj members) key := by
  obtain ⟨hsound, g, hg, rfl⟩ := StreamForm.isBuilt_generate.parse_eq_ok_iff.1 hf
  obtain rfl := Except.ok.inj hg
  refine (hasMembers_completion (by simp) (by simp) hnodup hsound rfl).congr fun key => ?_
  by_cases hmodel : key = "model" <;> simp [hmodel, Dict.get?_cons, Endpoint.member]

theorem hasMembers_naming {keys : List String} (hkeys : keys.contains "model" = true)
    (hnodup : (Dict.keys members).Nodup) (model : String) :
    (Json.ofMembers
      (("model", .str model) :: Form.without keys (Form.dropNulls members))).HasMembers fun key =>
        if key = "model" then some (.str model)
        else if keys.contains key then none else (Json.obj members).given key := by
  have hkept : (Dict.keys (Form.dropNulls members)).Nodup :=
    hnodup.sublist (Form.keys_dropNulls_sublist members)
  have hown : ∀ m ∈ [("model", Json.str model)], keys.contains m.1 = true := by
    simpa using hkeys
  refine (Json.hasMembers_own hown hkept).congr fun key => ?_
  by_cases hmodel : key = "model"
  · simp only [hmodel, hkeys]
    rfl
  · simp [hmodel, Dict.get?_cons, get?_dropNulls_eq_given hnodup]

theorem hasMembers_embed {f : EmbedForm} (hnodup : (Dict.keys members).Nodup)
    (hf : EmbedForm.parse (.obj members) = .ok f) (model : String) :
    ({ f with model }.toJson).HasMembers fun key =>
      if key = "model" then some (.str model) else (Json.obj members).given key := by
  obtain ⟨kept, hmembers, rfl⟩ := exists_ok_of_map hf
  obtain ⟨_, hobj, rfl, -⟩ := (Form.members_eq_ok_iff Record.conserves_embed).1 hmembers
  obtain rfl := Json.obj.inj hobj
  refine (hasMembers_naming rfl hnodup model).congr fun key => ?_
  by_cases hmodel : key = "model" <;> simp [hmodel]

theorem exists_of_parse_modelName {f : ModelNameForm}
    (hf : ModelNameForm.parse (.obj members) = .ok f) :
    f = { model := (Form.text? (Form.dropNulls members) "model").or
            (Form.text? (Form.dropNulls members) "name")
          rest := Form.without ["model"] (Form.dropNulls members) } := by
  obtain ⟨kept, hmembers, rfl⟩ := exists_ok_of_map hf
  obtain ⟨_, hobj, rfl, -⟩ := (Form.members_eq_ok_iff Record.conserves_modelName).1 hmembers
  obtain rfl := Json.obj.inj hobj
  rfl

theorem hasMembers_modelName {f : ModelNameForm} (hnodup : (Dict.keys members).Nodup)
    (hf : ModelNameForm.parse (.obj members) = .ok f) (model : String) :
    ((f.naming model).toJson).HasMembers fun key =>
      if key = "model" then some (.str model)
      else if key = "name" then none else (Json.obj members).given key := by
  rw [exists_of_parse_modelName hf]
  simp only [ModelNameForm.naming, ModelNameForm.toJson, Form.without_without]
  refine (hasMembers_naming rfl hnodup model).congr fun key => ?_
  by_cases hmodel : key = "model" <;> simp [hmodel]

theorem hasMembers_pull {f : ModelNameForm} (hsorted : Dict.Sorted members)
    (hf : ModelNameForm.parse (.obj members) = .ok f) :
    ({ f with rest := Dict.insert f.rest "insecure" (.bool true) }.toJson).HasMembers fun key =>
      if key = "model" then (Endpoint.pull.named? (.obj members)).map .str
      else Endpoint.pull.member (.obj members) key := by
  have hgiven := get?_dropNulls_eq_given hsorted.nodup
  have hnamed : f.model = Endpoint.pull.named? (.obj members) := by
    rw [exists_of_parse_modelName hf]
    simp [Form.text?, Endpoint.named?, Endpoint.readsName, hgiven]
  have hsortedRest : Dict.Sorted f.rest := by
    rw [exists_of_parse_modelName hf]
    exact Form.sorted_without _ (Form.sorted_dropNulls hsorted)
  have hget (key : String) : Dict.get? (Dict.insert f.rest "insecure" (.bool true)).reverse key =
      if key = "insecure" then some (.bool true)
      else if key = "model" then none else (Json.obj members).given key := by
    have hinsert := (Dict.sorted_insert hsortedRest "insecure" (.bool true)).nodup
    rw [Dict.get?_reverse_of_nodup hinsert, Dict.get?_insert, exists_of_parse_modelName hf,
      Form.get?_without, hgiven]
    simp
  cases hmodel : f.model with
  | none =>
      rw [hmodel] at hnamed
      simp only [ModelNameForm.toJson]
      refine (Json.hasMembers_ofMembers _).congr fun key => ?_
      rw [hget, ← hnamed]
      by_cases hkey : key = "model" <;> simp [hkey, Endpoint.member]
  | some model =>
      rw [hmodel] at hnamed
      simp only [ModelNameForm.toJson]
      refine (Json.hasMembers_ofMembers _).congr fun key => ?_
      rw [List.reverse_cons, Dict.get?_append, hget, ← hnamed]
      by_cases hkey : key = "model" <;> simp [hkey, Endpoint.member, Dict.get?_cons]

/-! ## Endpoints -/

theorem attempt_ok {α : Type} (a : α) : attempt (.ok a) = pure a := rfl

theorem formOf_eq_ok {F : Type} {parse : Json → Except FormFault F} {r : Request} {f : F}
    (hv : bodyOf r = .ok v) (hparse : parse v = .ok f) : formOf parse r = .ok f := by
  simp [formOf, hv, hparse, bind, Except.bind, Except.mapError]

theorem complete_eq (rules : Rules) (r : Request) (idx : Option Nat) (c : Completion) :
    complete rules r idx c = (do
      let b ← resolve c.model idx
      let reply ← send (sending .post (b.endpoint c.path) (c.body (b.unqualify c.model))
        b.config.bearerKey (passedOn rules r c.chat))
      if c.isStream then return reply.passOn c.mediaType else Endpoint.document reply) := by
  unfold complete
  congr 1
  funext b
  cases hstream : c.isStream with
  | true => rfl
  | false => simp [postJson, Endpoint.document]

/-- All that the endpoint does with the body is to choose a backend, to send it the edited body, and
to make its answer of the reply. -/
def Endpoint.PassesOn (rules : Rules) (r : Request) (idx : Option Nat) (v : Json) (e : Endpoint) :
    Prop :=
  ∃ method path, e.target? = some (method, path) ∧ ∃ body : Backend → Json,
    (∀ b, (body b).HasMembers (e.sent idx b v)) ∧
    serve rules r idx e = (do
      let b ← e.choose idx (e.sought idx v)
      let reply ← send (sending method (b.endpoint path) (body b) b.config.bearerKey
        (passedOn rules r (e.conversation? v)))
      e.answer v reply)

section PassesOn

variable {rules : Rules} {r : Request}

/-- A body is passed on by completing it, if the completion tells what the body tells. -/
theorem passesOn_of_complete {e : Endpoint} {c : Completion}
    (htarget : e.target? = some (.post, c.path))
    (hserve : serve rules r idx e = complete rules r idx c)
    (hchoose : e.choose idx (e.sought idx v) = resolve c.model idx)
    (hbody : ∀ b, (c.body (b.unqualify c.model)).HasMembers (e.sent idx b v))
    (hchat : c.chat = e.conversation? v)
    (hanswer : ∀ reply, e.answer v reply =
      if c.isStream then return reply.passOn c.mediaType else Endpoint.document reply) :
    e.PassesOn rules r idx v := by
  refine ⟨_, _, htarget, fun b => c.body (b.unqualify c.model), hbody, ?_⟩
  rw [hserve, complete_eq, hchoose, ← hchat]
  simp only [hanswer]

/-- A form asks for a stream if its body does. -/
theorem isStream_eq_wantsStream {F : Type} {form : StreamForm F} {record : Record}
    {build : Dict Json → Except FormFault (Option Bool → F)} {f : F}
    (hbuilt : form.IsBuilt record build) (hnodup : (Dict.keys members).Nodup)
    (hf : form.parse (.obj members) = .ok f) :
    form.isStream f = Endpoint.wantsStream (.obj members) := by
  obtain ⟨hsound, g, hg, rfl⟩ := hbuilt.parse_eq_ok_iff.1 hf
  rw [hbuilt.isStream_eq hg, Endpoint.wantsStream,
    ← map_stream? hnodup hsound hbuilt.field?_stream]
  cases Form.stream? (.obj members) (Form.dropNulls members) <;> rfl

theorem passesOn_chat {f : ChatForm} (hv : bodyOf r = .ok (.obj members))
    (hnodup : (Dict.keys members).Nodup) (hf : ChatForm.parse (.obj members) = .ok f) :
    Endpoint.chat.PassesOn rules r idx (.obj members) := by
  have hgiven := get?_dropNulls_eq_given hnodup
  have hstream : f.isStream = Endpoint.wantsStream (.obj members) :=
    isStream_eq_wantsStream StreamForm.isBuilt_chat hnodup hf
  obtain ⟨-, g, hg, heq⟩ := StreamForm.isBuilt_chat.parse_eq_ok_iff.1 hf
  obtain rfl := StreamForm.exists_eq_of_chatOf hg
  have hmodel : (Completion.ofChat f).model = Endpoint.chat.sought idx (.obj members) := by
    simp [heq, Completion.ofChat, Form.text?, Endpoint.sought, Endpoint.named?, Endpoint.readsName,
      Endpoint.fillsTag, hgiven]
  refine passesOn_of_complete (c := .ofChat f) rfl ?_ (by rw [hmodel]; rfl) ?_ ?_ ?_
  · change (attempt (formOf ChatForm.parse r) >>= fun f => complete rules r idx (.ofChat f)) = _
    rw [formOf_eq_ok hv hf, attempt_ok, pure_bind]
  · intro b
    rw [hmodel]
    exact hasMembers_chat hnodup hf _
  · simp [heq, Completion.ofChat, ChatForm.chatId?, Endpoint.conversation?, hgiven]
  · intro reply
    simp only [Completion.ofChat, hstream]
    rfl

theorem passesOn_generate {f : GenerateForm} (hv : bodyOf r = .ok (.obj members))
    (hnodup : (Dict.keys members).Nodup) (hf : GenerateForm.parse (.obj members) = .ok f) :
    Endpoint.generate.PassesOn rules r idx (.obj members) := by
  have hgiven := get?_dropNulls_eq_given hnodup
  have hstream : f.isStream = Endpoint.wantsStream (.obj members) :=
    isStream_eq_wantsStream StreamForm.isBuilt_generate hnodup hf
  obtain ⟨-, g, hg, heq⟩ := StreamForm.isBuilt_generate.parse_eq_ok_iff.1 hf
  obtain rfl := Except.ok.inj hg
  have hmodel : (Completion.ofGenerate f).model = Endpoint.generate.sought idx (.obj members) := by
    simp [heq, Completion.ofGenerate, Form.text?, Endpoint.sought, Endpoint.named?,
      Endpoint.readsName, Endpoint.fillsTag, hgiven]
  refine passesOn_of_complete (c := .ofGenerate f) rfl ?_ (by rw [hmodel]; rfl) ?_ ?_ ?_
  · change (attempt (formOf GenerateForm.parse r) >>= fun f =>
      complete rules r idx (.ofGenerate f)) = _
    rw [formOf_eq_ok hv hf, attempt_ok, pure_bind]
  · intro b
    rw [hmodel]
    exact hasMembers_generate hnodup hf _
  · simp [heq, Completion.ofGenerate, GenerateForm.chatId?, Endpoint.conversation?, hgiven]
  · intro reply
    simp only [Completion.ofGenerate, hstream]
    rfl

theorem embed_eq {f : EmbedForm} {path : String} (hv : bodyOf r = .ok (.obj members))
    (hf : EmbedForm.parse (.obj members) = .ok f) :
    embed rules r idx path = (do
      let model := if idx.isNone then withDefaultTag f.model else f.model
      let b ← resolve model idx
      let reply ← send (sending .post (b.endpoint path)
        { f with model := b.unqualify model }.toJson b.config.bearerKey (passedOn rules r none))
      Endpoint.document reply) := by
  unfold embed
  rw [formOf_eq_ok hv hf, attempt_ok, pure_bind]
  simp [postJson, Endpoint.document]

theorem model_of_parse_embed {f : EmbedForm} (hnodup : (Dict.keys members).Nodup)
    (hf : EmbedForm.parse (.obj members) = .ok f) :
    f.model = (((Json.obj members).given "model").bind Json.string?).getD "" := by
  obtain ⟨kept, hmembers, rfl⟩ := exists_ok_of_map hf
  obtain ⟨_, hobj, rfl, -⟩ := (Form.members_eq_ok_iff Record.conserves_embed).1 hmembers
  obtain rfl := Json.obj.inj hobj
  simp [Form.text?, get?_dropNulls_eq_given hnodup]

theorem passesOn_embed {f : EmbedForm} (hv : bodyOf r = .ok (.obj members))
    (hnodup : (Dict.keys members).Nodup) (hf : EmbedForm.parse (.obj members) = .ok f) :
    Endpoint.embed.PassesOn rules r idx (.obj members) ∧
      Endpoint.embeddings.PassesOn rules r idx (.obj members) := by
  have hmodel := model_of_parse_embed hnodup hf
  have hsought (e : Endpoint) (hname : e.readsName = false) (htag : e.fillsTag idx = idx.isNone) :
      e.sought idx (.obj members) =
        if idx.isNone then withDefaultTag f.model else f.model := by
    simp [Endpoint.sought, Endpoint.named?, hname, htag, hmodel]
  constructor
  · refine ⟨_, _, rfl, fun b => { f with
      model := b.unqualify (Endpoint.embed.sought idx (.obj members)) }.toJson,
      fun b => hasMembers_embed hnodup hf _, ?_⟩
    change embed rules r idx "/api/embed" = _
    rw [embed_eq hv hf, hsought .embed rfl rfl]
    rfl
  · refine ⟨_, _, rfl, fun b => { f with
      model := b.unqualify (Endpoint.embeddings.sought idx (.obj members)) }.toJson,
      fun b => hasMembers_embed hnodup hf _, ?_⟩
    change embed rules r idx "/api/embeddings" = _
    rw [embed_eq hv hf, hsought .embeddings rfl rfl]
    rfl

theorem model_of_parse_modelName {f : ModelNameForm} (hnodup : (Dict.keys members).Nodup)
    (hf : ModelNameForm.parse (.obj members) = .ok f) {e : Endpoint} (he : e.readsName = true) :
    f.model = e.named? (.obj members) := by
  rw [exists_of_parse_modelName hf]
  simp [Form.text?, Endpoint.named?, he, get?_dropNulls_eq_given hnodup]

theorem model_of_requireModel {f : ModelNameForm} {named : String}
    (h : f.requireModel = .ok named) : f.model = some named := by
  unfold ModelNameForm.requireModel at h
  split at h
  · rename_i model hmodel
    obtain rfl := Except.ok.inj h
    exact (Option.filter_eq_some_iff.1 hmodel).1
  · cases h

theorem passesOn_describe {f : ModelNameForm} {named : String}
    (hv : bodyOf r = .ok (.obj members)) (hnodup : (Dict.keys members).Nodup)
    (hf : ModelNameForm.parse (.obj members) = .ok f) (hnamed : f.requireModel = .ok named) :
    Endpoint.describe.PassesOn rules r idx (.obj members) := by
  have hmodel : Endpoint.describe.named? (.obj members) = some named :=
    (model_of_parse_modelName hnodup hf rfl).symm.trans (model_of_requireModel hnamed)
  refine ⟨_, _, rfl, fun b => (f.naming (b.unqualify (withDefaultTag named))).toJson,
    fun b => (hasMembers_modelName hnodup hf _).congr fun key => ?_, ?_⟩
  · simp [Endpoint.sent, Endpoint.modelSent, Endpoint.sought, Endpoint.fillsTag, Endpoint.member,
      hmodel]
  · change describe rules r = _
    unfold describe
    rw [formOf_eq_ok hv hf, attempt_ok, pure_bind, hnamed]
    simp [Except.mapError, attempt_ok, postJson, Endpoint.answer, Endpoint.document,
      Endpoint.choose, Endpoint.sought, Endpoint.fillsTag, Endpoint.conversation?, hmodel]

theorem passesOn_delete {f : ModelNameForm} {named : String}
    (hv : bodyOf r = .ok (.obj members)) (hnodup : (Dict.keys members).Nodup)
    (hf : ModelNameForm.parse (.obj members) = .ok f) (hnamed : f.requireModel = .ok named) :
    Endpoint.delete.PassesOn rules r idx (.obj members) := by
  have hmodel : Endpoint.delete.named? (.obj members) = some named :=
    (model_of_parse_modelName hnodup hf rfl).symm.trans (model_of_requireModel hnamed)
  refine ⟨_, _, rfl, fun b =>
    (f.naming (b.unqualify (Endpoint.delete.sought idx (.obj members)))).toJson,
    fun b => (hasMembers_modelName hnodup hf _).congr fun key => ?_, ?_⟩
  · simp [Endpoint.sent, Endpoint.modelSent, Endpoint.member]
  · change delete rules r idx = _
    unfold delete
    rw [formOf_eq_ok hv hf, attempt_ok, pure_bind, hnamed]
    cases idx with
    | none =>
      simp [Except.mapError, attempt_ok, sendDelete, deletion, Endpoint.answer,
        Endpoint.choose, Endpoint.sought, Endpoint.fillsTag, Endpoint.conversation?, hmodel]
    | some idx =>
      simp [Except.mapError, attempt_ok, sendDelete, deletion, Endpoint.answer,
        Endpoint.choose, Endpoint.sought, Endpoint.fillsTag, Endpoint.conversation?, hmodel]

theorem passesOn_pull {f : ModelNameForm} (hv : bodyOf r = .ok (.obj members))
    (hsorted : Dict.Sorted members) (hf : ModelNameForm.parse (.obj members) = .ok f) :
    Endpoint.pull.PassesOn rules r idx (.obj members) := by
  refine ⟨_, _, rfl, fun b => { f with rest := Dict.insert f.rest "insecure" (.bool true) }.toJson,
    fun b => hasMembers_pull hsorted hf, ?_⟩
  change pull rules r idx = _
  unfold pull
  rw [formOf_eq_ok hv hf, attempt_ok, pure_bind]
  rfl

end PassesOn

theorem bodyOf_eq_ok_iff {r : Request} :
    bodyOf r = .ok v ↔
      r.announcesJson = true ∧ r.body.length ≤ maxBody ∧ Json.parseFault r.body = .ok v := by
  unfold bodyOf Request.json
  by_cases hannounces : r.announcesJson = true
  · by_cases hlength : r.body.length ≤ maxBody
    · simp only [hannounces, Nat.not_lt.2 hlength, hlength]
      cases Json.parseFault r.body <;> simp [Except.mapError]
    · simp [hannounces, hlength, Nat.not_le.1 hlength, Except.mapError]
  · simp [hannounces, Except.mapError]

theorem sorted_of_bodyOf {r : Request} (hv : bodyOf r = .ok (.obj members)) :
    Dict.Sorted members := by
  cases fits_of_readFault (bodyOf_eq_ok_iff.1 hv).2.2 with
  | obj hsorted hmembers => exact hsorted

theorem exists_obj_of_members {r : Record} {kept : Dict Json}
    (hconserves : Record.schema.Conserves (.record r)) (h : Form.members r v = .ok kept) :
    ∃ members, v = .obj members := by
  obtain ⟨members, hobj, -⟩ := (Form.members_eq_ok_iff hconserves).1 h
  exact ⟨members, hobj⟩

theorem exists_obj_of_accepts {e : Endpoint} (h : e.Accepts v) : ∃ members, v = .obj members := by
  cases e with
  | chat =>
      obtain ⟨f, hf⟩ := h
      rw [show ChatForm.parse v = _ from StreamForm.isBuilt_chat.parse_eq v] at hf
      obtain ⟨kept, hkept, -⟩ := exists_ok_of_bind hf
      exact exists_obj_of_members Record.conserves_chat hkept
  | generate =>
      obtain ⟨f, hf⟩ := h
      obtain ⟨kept, hkept, -⟩ := exists_ok_of_map hf
      exact exists_obj_of_members Record.conserves_generate hkept
  | embed | embeddings =>
      obtain ⟨f, hf⟩ := h
      obtain ⟨kept, hkept, -⟩ := exists_ok_of_map hf
      exact exists_obj_of_members Record.conserves_embed hkept
  | pull =>
      obtain ⟨f, hf⟩ := h
      obtain ⟨kept, hkept, -⟩ := exists_ok_of_map hf
      exact exists_obj_of_members Record.conserves_modelName hkept
  | describe | delete =>
      obtain ⟨f, model, hf, -⟩ := h
      obtain ⟨kept, hkept, -⟩ := exists_ok_of_map hf
      exact exists_obj_of_members Record.conserves_modelName hkept
  | _ => exact h.elim

theorem passesOn_of_accepts {rules : Rules} {r : Request} {e : Endpoint}
    (hv : bodyOf r = .ok (.obj members)) (haccepts : e.Accepts (.obj members)) :
    e.PassesOn rules r idx (.obj members) := by
  have hsorted : Dict.Sorted members := sorted_of_bodyOf hv
  cases e with
  | chat =>
      obtain ⟨f, hf⟩ := haccepts
      exact passesOn_chat hv hsorted.nodup hf
  | generate =>
      obtain ⟨f, hf⟩ := haccepts
      exact passesOn_generate hv hsorted.nodup hf
  | embed =>
      obtain ⟨f, hf⟩ := haccepts
      exact (passesOn_embed hv hsorted.nodup hf).1
  | embeddings =>
      obtain ⟨f, hf⟩ := haccepts
      exact (passesOn_embed hv hsorted.nodup hf).2
  | describe =>
      obtain ⟨f, named, hf, hnamed⟩ := haccepts
      exact passesOn_describe hv hsorted.nodup hf hnamed
  | pull =>
      obtain ⟨f, hf⟩ := haccepts
      exact passesOn_pull hv hsorted hf
  | delete =>
      obtain ⟨f, named, hf, hnamed⟩ := haccepts
      exact passesOn_delete hv hsorted.nodup hf hnamed
  | _ => exact haccepts.elim

end Gateway
end RunnerGateway
