import RunnerGateway.Proofs.Answers
import RunnerGateway.Proofs.Entries

/-!
# Which chats are taken

A value is taken for a chat if every field of the record has the shape that it should have and if
every message says something or calls a tool.  `Describes` puts a shape of the schema into a plain
property of values; for a record that is one condition on each of its fields, so that the whole
grammar of a chat is put together along its shapes (`describes_chat`).  A chat that only has silent
messages against it is refused with the position of the first one.
-/

namespace RunnerGateway

open Json

namespace Json

/-! ## Kinds of values -/

def IsString (v : Json) : Prop :=
  ∃ s, v = .str s

def IsBool (v : Json) : Prop :=
  ∃ b, v = .bool b

def IsObject (v : Json) : Prop :=
  ∃ members, v = .obj members

/-- The value is an array, and every item has the property. -/
def IsArrayOf (p : Json → Prop) (v : Json) : Prop :=
  ∃ items, v = .arr items ∧ ∀ item ∈ items, p item

/-- The member is there and has the property. -/
def Has (p : Json → Prop) (v : Json) (key : String) : Prop :=
  ∃ w, v.field? key = some w ∧ p w

/-- The member is absent or `null`, or it has the property. -/
def MayHave (p : Json → Prop) (v : Json) (key : String) : Prop :=
  ∀ w, v.field? key = some w → w = .null ∨ p w

theorem isNull_eq_true_iff {v : Json} : v.isNull = true ↔ v = .null := by
  cases v <;> simp [isNull]

end Json

/-! ## The grammar -/

/-- The value has the form of a message, which may yet be silent. -/
structure IsMessage (v : Json) : Prop where
  object : v.IsObject
  role : v.Has IsString "role"
  content : v.MayHave IsString "content"
  toolCalls : v.MayHave (IsArrayOf IsObject) "tool_calls"
  images : v.MayHave (IsArrayOf IsString) "images"

/-- The message says something or calls a tool. -/
def Speaks (v : Json) : Prop :=
  (v.given "content").isSome ∨ (v.given "tool_calls").isSome

/-- The value has the form of a chat, in which some messages may yet be silent. -/
structure IsChat (v : Json) : Prop where
  object : v.IsObject
  model : v.Has IsString "model"
  messages : v.Has (IsArrayOf IsMessage) "messages"
  options : v.MayHave IsObject "options"
  template : v.MayHave IsString "template"
  stream : v.MayHave IsBool "stream"
  tools : v.MayHave (IsArrayOf IsObject) "tools"

/-- The messages of a chat as the value gives them. -/
def messagesIn (v : Json) : List Json :=
  ((v.field? "messages").bind Json.array?).getD []

/-- The positions of the silent messages. -/
def silentIn (v : Json) : Set Nat :=
  {i | ∃ m, (messagesIn v)[i]? = some m ∧ ¬Speaks m}

/-! ## Shapes as properties -/

namespace Record

variable {item : Shape Record} {p : Json → Prop} {r : Record} {name : String}

/-- The values of the shape are those with the property. -/
def Describes (shape : Shape Record) (p : Json → Prop) : Prop :=
  ∀ v, v.WellFormed → ((∃ w, schema.decode shape v = .ok w) ↔ p v)

theorem describes_string : Describes .string IsString := by
  intro v _
  cases v <;> simp [Schema.decode, IsString]

theorem describes_bool : Describes .bool IsBool := by
  intro v _
  cases v <;> simp [Schema.decode, IsBool]

theorem decodeMembers_any (members : List (String × Json)) :
    schema.decodeMembers .any members = .ok members := by
  induction members with
  | nil => rfl
  | cons m members ih =>
      obtain ⟨k, v⟩ := m
      simp [Schema.decodeMembers, Schema.decode, ih, Except.map]

theorem describes_object : Describes object IsObject := by
  intro v _
  cases v <;> simp [object, Schema.decode, IsObject, decodeMembers_any, Except.map]

theorem describes_list (h : Describes item p) : Describes (.list item) (IsArrayOf p) := by
  intro v hv
  cases v with
  | arr items =>
      have hwell := wellFormed_of_mem_items hv
      constructor
      · rintro ⟨w, hw⟩
        obtain ⟨items', hitems', -⟩ := exists_ok_of_map hw
        exact ⟨items, rfl, fun item hitem =>
          (h item (hwell item hitem)).1 (exists_decode_of_mem hitems' item hitem)⟩
      · rintro ⟨_, heq, hall⟩
        obtain rfl := Json.arr.inj heq
        choose! made hmade using fun item hitem => (h item (hwell item hitem)).2 (hall item hitem)
        have hitems : schema.decodeItems item items = .ok (items.map made) :=
          decodeItems_eq_ok_iff.2
            (List.forall₂_map_right_iff.2 (List.forall₂_same.2 hmade))
        exact ⟨.arr (items.map made), by rw [Schema.decode, hitems]; rfl⟩
  | _ => simp [Schema.decode, IsArrayOf]

/-! ## Fields -/

/-- The value has what the field wants under its name. -/
def Meets (v : Json) (f : Json.Field Record) : Prop :=
  (f.presence = .required → (v.field? f.name).isSome) ∧
    ∀ w, v.field? f.name = some w → f.isAbsent w = true ∨ ∃ w', schema.decode f.shape w = .ok w'

theorem wellFormed_of_field? {v w : Json} (hv : v.WellFormed) {key : String}
    (h : v.field? key = some w) : w.WellFormed := by
  cases v with
  | obj members => exact wellFormed_of_mem_members hv.2 _ (Dict.mem_of_get? h)
  | _ => cases h

theorem meets_required_iff (h : Describes item p) {v : Json} (hv : v.WellFormed) :
    Meets v ⟨name, .required, item⟩ ↔ v.Has p name := by
  constructor
  · rintro ⟨hsome, hshape⟩
    obtain ⟨w, hw⟩ := Option.isSome_iff_exists.1 (hsome rfl)
    rcases hshape w hw with habsent | hdecodes
    · cases habsent
    · exact ⟨w, hw, (h w (wellFormed_of_field? hv hw)).1 hdecodes⟩
  · rintro ⟨w, hw, hp⟩
    refine ⟨fun _ => by simp [hw], fun w' hw' => .inr ?_⟩
    obtain rfl := Option.some.inj (hw.symm.trans hw')
    exact (h w (wellFormed_of_field? hv hw)).2 hp

theorem meets_optional_iff (h : Describes item p) {v : Json} (hv : v.WellFormed) :
    Meets v ⟨name, .optional, item⟩ ↔ v.MayHave p name := by
  constructor
  · rintro ⟨-, hshape⟩ w hw
    refine (hshape w hw).imp ?_ (h w (wellFormed_of_field? hv hw)).1
    intro habsent
    exact isNull_eq_true_iff.1 (by simpa [Json.Field.isAbsent] using habsent)
  · intro hmay
    constructor
    · intro hrequired
      cases hrequired
    · intro w hw
      refine (hmay w hw).imp ?_ (h w (wellFormed_of_field? hv hw)).2
      rintro rfl
      rfl

/-- A field that takes every value asks for nothing. -/
theorem meets_any (v : Json) (name : String) : Meets v ⟨name, .optional, .any⟩ :=
  ⟨nofun, fun w _ => .inr ⟨w, by rw [Schema.decode]⟩⟩

/-- Where every key stands once, the members are taken if what is found under the name of each field
is what the field wants. -/
theorem sound_iff_forall_meets (hnames : (r.fields.map Json.Field.name).Nodup)
    {members : Dict Json} (hnodup : (Dict.keys members).Nodup) :
    Form.Sound r members ↔ ∀ f ∈ r.fields, Meets (.obj members) f := by
  constructor
  · intro h f hf
    refine ⟨fun hrequired => ?_, fun w hw => h.get? (Form.field?_of_mem hnames hf) hw⟩
    obtain ⟨m, hm, hname⟩ := List.mem_map.1 (Form.missing?_eq_none_iff.1 h.2 f hf hrequired)
    have hget : Dict.get? members f.name = some m.2 :=
      (Dict.get?_eq_some_iff_mem hnodup).2 (hname ▸ hm)
    exact Option.isSome_iff_exists.2 ⟨m.2, hget⟩
  · intro h
    refine ⟨fun m hm f hfield => ?_, Form.missing?_eq_none_iff.2 fun f hf hrequired => ?_⟩
    · obtain ⟨hf, hname⟩ := mem_fields_of_field? hfield
      exact (h f hf).2 m.2 ((Dict.get?_eq_some_iff_mem hnodup).2 (hname ▸ hm))
    · obtain ⟨w, hw⟩ := Option.isSome_iff_exists.1 ((h f hf).1 hrequired)
      exact List.mem_map_of_mem (Dict.mem_of_get? hw)

/-- A record that conserves its values takes the objects that have what its fields want. -/
theorem describes_record (h : schema.Conserves (.record r))
    (hnames : (r.fields.map Json.Field.name).Nodup) :
    Describes (.record r) fun v => v.IsObject ∧ ∀ f ∈ r.fields, Meets v f := by
  intro v hv
  constructor
  · rintro ⟨w, hw⟩
    obtain ⟨-, members, rfl, hsound⟩ := (decode_record_eq_ok_iff h).1 hw
    exact ⟨⟨members, rfl⟩, (sound_iff_forall_meets hnames hv.1.nodup).1 hsound⟩
  · rintro ⟨⟨members, rfl⟩, hmeets⟩
    have hsound := (sound_iff_forall_meets hnames hv.1.nodup).2 hmeets
    exact ⟨_, (decode_record_eq_ok_iff h).2 ⟨rfl, members, rfl, hsound⟩⟩

theorem describes_message : Describes (.record .chatMessage) IsMessage := by
  intro v hv
  rw [describes_record conserves_chatMessage (by decide) v hv]
  simp only [fields, List.forall_mem_cons, List.not_mem_nil, false_imp_iff, implies_true, and_true,
    meets_required_iff describes_string hv, meets_optional_iff describes_string hv,
    meets_optional_iff (describes_list describes_object) hv,
    meets_optional_iff (describes_list describes_string) hv]
  constructor
  · rintro ⟨hobject, hrole, hcontent, htoolCalls, himages⟩
    exact ⟨hobject, hrole, hcontent, htoolCalls, himages⟩
  · intro h
    exact ⟨h.object, h.role, h.content, h.toolCalls, h.images⟩

theorem describes_chat : Describes (.record .chat) IsChat := by
  intro v hv
  rw [describes_record conserves_chat (by decide) v hv]
  simp only [fields, List.forall_mem_cons, List.not_mem_nil, false_imp_iff, implies_true, and_true,
    meets_any, true_and, meets_required_iff describes_string hv,
    meets_required_iff (describes_list describes_message) hv,
    meets_optional_iff describes_string hv, meets_optional_iff describes_bool hv,
    meets_optional_iff describes_object hv,
    meets_optional_iff (describes_list describes_object) hv]
  constructor
  · rintro ⟨hobject, hmodel, hmessages, hoptions, htemplate, hstream, htools⟩
    exact ⟨hobject, hmodel, hmessages, hoptions, htemplate, hstream, htools⟩
  · intro h
    exact ⟨h.object, h.model, h.messages, h.options, h.template, h.stream, h.tools⟩

end Record

/-! ## Silent messages -/

namespace ChatForm

variable {members : Dict Json} {v : Json} {i : Nat}

theorem silent?_eq (position : Nat) (messages : List (Dict Json)) :
    silent? position messages =
      (messages.findIdx? fun m => !saysSomething m).map (position + ·) := by
  induction messages generalizing position with
  | nil => rfl
  | cons m messages ih =>
      rw [silent?, List.findIdx?_cons, ih]
      cases saysSomething m with
      | false => simp
      | true => simp [Function.comp_def, Nat.add_assoc, Nat.add_comm 1]

theorem saysSomething_dropNulls_iff (hnodup : (Dict.keys members).Nodup) :
    saysSomething (Form.dropNulls members) = true ↔ Speaks (.obj members) := by
  rw [saysSomething, Bool.or_eq_true, Gateway.get?_dropNulls_eq_given hnodup,
    Gateway.get?_dropNulls_eq_given hnodup, Speaks]

theorem messagesIn_eq {items : List Json} (h : v.field? "messages" = some (.arr items)) :
    messagesIn v = items := by
  simp [messagesIn, h, array?]

/-- The form has the messages of the value in their places, and each of them says something if it
does so in the value. -/
theorem silence_iff (hv : (Json.obj members).WellFormed) (h : IsChat (.obj members)) :
    List.Forall₂ (fun m message => saysSomething message = true ↔ Speaks m)
      (messagesIn (.obj members)) (messagesOf (Form.dropNulls members)) := by
  obtain ⟨w, hw, items, rfl, hall⟩ := h.messages
  have hgiven : (Json.obj members).given "messages" = some (.arr items) := by
    simp [given, hw, isNull]
  rw [messagesIn_eq hw, messagesOf, Gateway.get?_dropNulls_eq_given hv.1.nodup, hgiven]
  simp only [Option.bind_some, array?, Option.getD_some]
  refine List.forall₂_map_right_iff.2 (List.forall₂_same.2 fun m hm => ?_)
  obtain ⟨message, rfl⟩ := (hall m hm).object
  have hmessage := wellFormed_of_mem_items (Record.wellFormed_of_field? hv hw) _ hm
  exact saysSomething_dropNulls_iff hmessage.1.nodup

/-- The position that is found is that of the first message which says nothing. -/
theorem silent?_eq_some_iff {messages : List (Dict Json)} :
    silent? 0 messages = some i ↔
      IsLeast {j | ∃ message, messages[j]? = some message ∧ saysSomething message = false} i := by
  rw [silent?_eq, Option.map_eq_some_iff]
  simp only [Nat.zero_add, exists_eq_right, List.findIdx?_eq_some_iff_getElem]
  constructor
  · rintro ⟨hi, hsilent, hbefore⟩
    refine ⟨⟨messages[i], List.getElem?_eq_getElem hi, by simpa using hsilent⟩, ?_⟩
    rintro j ⟨message, hj, hmessage⟩
    obtain ⟨hlt, rfl⟩ := List.getElem?_eq_some_iff.1 hj
    by_contra hji
    exact hbefore j (not_le.1 hji) (by simp [hmessage])
  · rintro ⟨⟨message, hi, hmessage⟩, hleast⟩
    obtain ⟨hlt, rfl⟩ := List.getElem?_eq_some_iff.1 hi
    refine ⟨hlt, by simp [hmessage], fun j hji hsilent => ?_⟩
    have hj : j < messages.length := hji.trans hlt
    exact absurd (hleast ⟨_, List.getElem?_eq_getElem hj, by simpa using hsilent⟩) (not_le.2 hji)

theorem silentIn_eq (hv : (Json.obj members).WellFormed) (h : IsChat (.obj members)) :
    {j | ∃ message, (messagesOf (Form.dropNulls members))[j]? = some message ∧
      saysSomething message = false} = silentIn (.obj members) := by
  obtain ⟨hlength, hsame⟩ := List.forall₂_iff_get.1 (silence_iff hv h)
  ext j
  constructor
  · rintro ⟨message, hj, hmessage⟩
    obtain ⟨hlt, rfl⟩ := List.getElem?_eq_some_iff.1 hj
    have hlt' := hlength ▸ hlt
    refine ⟨_, List.getElem?_eq_getElem hlt', fun hspeaks => ?_⟩
    have hspoken := (hsame j hlt' hlt).2 hspeaks
    rw [List.get_eq_getElem] at hspoken
    simp [hspoken] at hmessage
  · rintro ⟨m, hj, hsilent⟩
    obtain ⟨hlt, rfl⟩ := List.getElem?_eq_some_iff.1 hj
    have hlt' := hlength ▸ hlt
    refine ⟨_, List.getElem?_eq_getElem hlt', ?_⟩
    simpa using mt (hsame j hlt hlt').1 hsilent

theorem silentIn_eq_empty_iff : silentIn v = ∅ ↔ ∀ m ∈ messagesIn v, Speaks m := by
  constructor
  · intro hempty m hm
    obtain ⟨j, hj⟩ := List.mem_iff_getElem?.1 hm
    by_contra hsilent
    exact Set.eq_empty_iff_forall_notMem.1 hempty j ⟨m, hj, hsilent⟩
  · intro hall
    refine Set.eq_empty_of_forall_notMem ?_
    rintro j ⟨m, hj, hsilent⟩
    exact hsilent (hall m (List.mem_of_getElem? hj))

/-! ## Parsing -/

/-- A value of the form of a chat is refused for the first silent message, and taken if there is
none. -/
theorem parse_cases (hv : v.WellFormed) (h : IsChat v) :
    (∃ i, IsLeast (silentIn v) i ∧ parse v = .error (.emptyMessage i)) ∨
      silentIn v = ∅ ∧ ∃ f, parse v = .ok f := by
  obtain ⟨w, hw⟩ := (Record.describes_chat v hv).2 h
  obtain ⟨-, members, rfl, hsound⟩ := (decode_record_eq_ok_iff Record.conserves_chat).1 hw
  have hmembers := (Form.members_eq_ok_iff Record.conserves_chat).2 ⟨members, rfl, rfl, hsound⟩
  have hleast : ∀ i, silent? 0 (messagesOf (Form.dropNulls members)) = some i ↔
      IsLeast (silentIn (.obj members)) i := by
    intro i
    rw [silent?_eq_some_iff, silentIn_eq hv h]
  simp only [parse, hmembers]
  cases hsilent : silent? 0 (messagesOf (Form.dropNulls members)) with
  | some i => exact .inl ⟨i, (hleast i).1 hsilent, rfl⟩
  | none =>
      refine .inr ⟨Set.not_nonempty_iff_eq_empty.1 fun hsome => ?_, _, rfl⟩
      have hfound := (hleast _).2 (isLeast_csInf hsome)
      rw [hsilent] at hfound
      cases hfound

theorem isChat_of_parse (hv : v.WellFormed) {f : ChatForm} (h : parse v = .ok f) : IsChat v := by
  rw [show parse v = _ from StreamForm.isBuilt_chat.parse_eq v] at h
  obtain ⟨kept, hkept, -⟩ := exists_ok_of_bind h
  obtain ⟨members, rfl, -, hsound⟩ := (Form.members_eq_ok_iff Record.conserves_chat).1 hkept
  exact (Record.describes_chat _ hv).1
    ⟨_, (decode_record_eq_ok_iff Record.conserves_chat).2 ⟨rfl, members, rfl, hsound⟩⟩

theorem exists_parse_eq_ok_iff (hv : v.WellFormed) :
    (∃ f, parse v = .ok f) ↔ IsChat v ∧ ∀ m ∈ messagesIn v, Speaks m := by
  rw [← silentIn_eq_empty_iff]
  constructor
  · rintro ⟨f, hf⟩
    have hchat := isChat_of_parse hv hf
    rcases parse_cases hv hchat with ⟨i, -, hparse⟩ | ⟨hempty, -⟩
    · rw [hf] at hparse
      cases hparse
    · exact ⟨hchat, hempty⟩
  · rintro ⟨hchat, hempty⟩
    rcases parse_cases hv hchat with ⟨i, hleast, -⟩ | ⟨-, hparse⟩
    · exact (Set.eq_empty_iff_forall_notMem.1 hempty i hleast.1).elim
    · exact hparse

theorem exists_isLeast_of_silent (hv : v.WellFormed) (h : IsChat v)
    (hsilent : ¬∀ m ∈ messagesIn v, Speaks m) :
    ∃ i, IsLeast (silentIn v) i ∧ parse v = .error (.emptyMessage i) := by
  rcases parse_cases hv h with hleast | ⟨hempty, -⟩
  · exact hleast
  · exact (hsilent (silentIn_eq_empty_iff.1 hempty)).elim

end ChatForm

/-! ## Requests -/

namespace Gateway

open Exchange Http

/-- Who sends the value as a chat is told the text as an error of validation: the answer has the
status 400, and nothing is done for it. -/
def RefusesChat (v : Json) (text : String) : Prop :=
  ∀ r : Request, bodyOf r = .ok v →
    formOf ChatForm.parse r = .error (.validation text) ∧
      ∀ rules route idx, Served rules r route idx → route.endpoint = .chat →
        ∃ response : Response, response.status = 400 ∧
          response.body = .ofJson (.obj [("error", .str text)]) ∧
          respond rules r = pure (r.shown response)

theorem refusesChat_of_parse {v : Json} {fault : FormFault}
    (h : ChatForm.parse v = .error fault) : RefusesChat v fault.message := by
  intro r hv
  have hform : formOf ChatForm.parse r = .error (.validation fault.message) := by
    simp [formOf, hv, h, bind, Except.bind, Except.mapError]
  refine ⟨hform, fun rules route idx hserved hchat => ?_⟩
  refine ⟨.ofError (.validation fault.message), rfl, rfl, ?_⟩
  have hserve : serve rules r idx .chat = throw (.validation fault.message) := by
    change chat rules r idx = _
    rw [chat, hform, attempt_error_bind]
  rw [respond_of_served hserved, hchat, hserve]
  rfl

/-- A value is taken for a chat if and only if it has the form of one and no message is silent.  It
is refused with status 400 otherwise; and if nothing but silent messages is against it, the text
names the position of the first of them. -/
theorem chat_is_taken_iff (v : Json) (hv : v.WellFormed) :
    ((∃ f, ChatForm.parse v = .ok f) ↔ IsChat v ∧ ∀ m ∈ messagesIn v, Speaks m) ∧
      (∀ fault, ChatForm.parse v = .error fault → RefusesChat v fault.message) ∧
      (IsChat v → (¬∀ m ∈ messagesIn v, Speaks m) → ∃ i fault, IsLeast (silentIn v) i ∧
        ChatForm.parse v = .error fault ∧ fault.message = "messages[" ++ Text.numeral i ++
          "]: At least one of 'content' or 'tool_calls' must be provided") := by
  refine ⟨ChatForm.exists_parse_eq_ok_iff hv, fun fault => refusesChat_of_parse, ?_⟩
  intro hchat hsilent
  obtain ⟨i, hleast, hparse⟩ := ChatForm.exists_isLeast_of_silent hv hchat hsilent
  exact ⟨i, _, hleast, hparse, rfl⟩

/-- A chat whose second and third message are silent. -/
def muteChat : Json :=
  .obj [("messages", .arr [.obj [("content", .str "hi"), ("role", .str "user")],
    .obj [("content", .null), ("role", .str "user")], .obj [("role", .str "user")]]),
    ("model", .str "m")]

theorem isChat_muteChat : IsChat muteChat where
  object := ⟨_, rfl⟩
  model := ⟨_, rfl, _, rfl⟩
  messages := by
    refine ⟨_, rfl, _, rfl, ?_⟩
    simp only [List.forall_mem_cons]
    refine ⟨⟨⟨_, rfl⟩, ⟨_, rfl, _, rfl⟩, fun w hw => .inr ?_, nofun, nofun⟩,
      ⟨⟨_, rfl⟩, ⟨_, rfl, _, rfl⟩, fun w hw => .inl ?_, nofun, nofun⟩,
      ⟨⟨_, rfl⟩, ⟨_, rfl, _, rfl⟩, nofun, nofun, nofun⟩, List.forall_mem_nil _⟩
    · exact ⟨_, (Option.some.inj hw).symm⟩
    · exact (Option.some.inj hw).symm
  options := nofun
  template := nofun
  stream := nofun
  tools := nofun

theorem chat_is_taken_iff_mute :
    muteChat.WellFormed ∧ IsChat muteChat ∧
      RefusesChat muteChat
        "messages[1]: At least one of 'content' or 'tool_calls' must be provided" := by
  have hwell : muteChat.WellFormed := by
    refine ⟨by decide, ⟨⟨by decide, ?_⟩, ⟨by decide, ?_⟩, ⟨by decide, ?_⟩, ?_⟩, ?_⟩ <;>
      simp [WellFormedMembers, WellFormedItems, WellFormed]
  obtain ⟨-, hrefused, hleast⟩ := chat_is_taken_iff muteChat hwell
  have hsilent : ¬Speaks (.obj [("content", .null), ("role", .str "user")]) := by
    rintro (h | h) <;> cases h
  obtain ⟨i, fault, hi, hparse, hmessage⟩ := hleast isChat_muteChat fun hall =>
    hsilent (hall _ (List.mem_of_getElem? (i := 1) rfl))
  have hone : IsLeast (silentIn muteChat) 1 := by
    refine ⟨⟨_, rfl, hsilent⟩, ?_⟩
    rintro (_ | j) ⟨m, hm, hmute⟩
    · obtain rfl := Option.some.inj hm
      exact (hmute (.inl rfl)).elim
    · omega
  obtain rfl : i = 1 := hi.unique hone
  refine ⟨hwell, isChat_muteChat, ?_⟩
  have htext := hrefused fault hparse
  rw [hmessage] at htext
  exact htext

end Gateway
end RunnerGateway
