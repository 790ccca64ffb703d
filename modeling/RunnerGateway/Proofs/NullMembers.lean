import RunnerGateway.Gateway.Inference
import RunnerGateway.Proofs.Forms

/-!
# Members that are `null`

In the two forms whose answers may come piece by piece, a member that is `null` counts as missing,
with one exception.  A missing `stream` is filled in, so that the backend is told to answer piece by
piece.  A `stream` that is `null` is left out: the backend answers piece by piece nevertheless,
since that is what a body without the member asks for, but the gateway waits for one document.
-/

namespace RunnerGateway

open Json Gateway

variable {F : Type} {r : Record} {members kept : Dict Json}

/-- A form whose answer may come piece by piece: how it is read and written, and what it asks
for. -/
structure StreamForm (F : Type) where
  parse : Json → Except FormFault F
  toJson : F → Json
  isStream : F → Bool
  completion : F → Completion

namespace StreamForm

def chat : StreamForm ChatForm where
  parse := ChatForm.parse
  toJson := ChatForm.toJson
  isStream := ChatForm.isStream
  completion := .ofChat

def generate : StreamForm GenerateForm where
  parse := GenerateForm.parse
  toJson := GenerateForm.toJson
  isStream := GenerateForm.isStream
  completion := .ofGenerate

/-- A body that is an object counts as the object without its `null` members, unless its `stream` is
one of them. -/
structure NullsCountAsMissing (form : StreamForm F) (members : Dict Json) : Prop where
  accepted_iff : (∃ f, form.parse (.obj members) = .ok f) ↔
    ∃ f, form.parse (.obj (Form.dropNulls members)) = .ok f
  /-- The two forms are written alike and want their answers alike, except for that `stream`. -/
  alike_iff : ∀ f f₀, form.parse (.obj members) = .ok f →
    form.parse (.obj (Form.dropNulls members)) = .ok f₀ →
      (form.toJson f = form.toJson f₀ ∧ form.isStream f = form.isStream f₀ ↔
        Dict.get? members "stream" ≠ some .null)
  /-- The gateway waits for one document if the body that it sends says so, or because of that
  `stream`. -/
  waits_iff : ∀ f, form.parse (.obj members) = .ok f → ∀ model,
    ((form.completion f).isStream = false ↔
      ((form.completion f).body model).field? "stream" = some (.bool false) ∨
        Dict.get? members "stream" = some .null)

end StreamForm

/-! ## What a body says about `stream` -/

namespace Form

/-- The switch is unset only by a `stream` that is `null`. -/
theorem stream?_eq_none_iff (hnodup : (Dict.keys members).Nodup) (hsound : Sound r members)
    (hstream : Record.schema.field? r "stream" = some ⟨"stream", .optional, .bool⟩) :
    stream? (.obj members) (dropNulls members) = none ↔
      Dict.get? members "stream" = some .null := by
  have hkept := get?_dropNulls hnodup "stream"
  cases hget : Dict.get? members "stream" with
  | none => simp [stream?, Json.field?, Json.object?, hget]
  | some v =>
      have hshape := hsound.get? hstream hget
      cases v with
      | null => simp [stream?, Json.field?, Json.object?, hget, hkept, Json.isNull]
      | bool b => simp [stream?, Json.field?, Json.object?, hget, hkept, Json.isNull, Json.bool?]
      | _ =>
          obtain habsent | ⟨w, hw⟩ := hshape
          · cases habsent
          · cases hw

/-- A `stream` that is `null` is filled in once it is left out. -/
theorem stream?_dropNulls_of_null (hnodup : (Dict.keys members).Nodup)
    (hnull : Dict.get? members "stream" = some .null) :
    stream? (.obj (dropNulls members)) (dropNulls members) = some true := by
  have hkept : Dict.get? (dropNulls members) "stream" = none := by
    simp [get?_dropNulls hnodup, hnull, Json.isNull]
  simp [stream?, Json.field?, Json.object?, hkept]

/-- Without the members that are `null`, the body says the same about any other `stream`. -/
theorem stream?_dropNulls (hnodup : (Dict.keys members).Nodup)
    (hget : Dict.get? members "stream" ≠ some .null) :
    stream? (.obj (dropNulls members)) (dropNulls members) =
      stream? (.obj members) (dropNulls members) := by
  have hkept : Dict.get? (dropNulls members) "stream" = Dict.get? members "stream" := by
    rw [get?_dropNulls hnodup]
    cases hfound : Dict.get? members "stream" with
    | none => rfl
    | some v =>
        cases v with
        | null => exact (hget hfound).elim
        | _ => rfl
  simp [stream?, Json.field?, Json.object?, hkept]

end Form

/-! ## Forms that are built from given members -/

namespace StreamForm

variable {form : StreamForm F} {build : Dict Json → Except FormFault (Option Bool → F)} {f : F}

/-- A form is built from the members that are given and from the switch, which is all that counts of
the body itself, and what is written of it says how the switch was set. -/
structure IsBuilt (form : StreamForm F) (r : Record)
    (build : Dict Json → Except FormFault (Option Bool → F)) : Prop where
  conserves : Record.schema.Conserves (.record r)
  disownsNull : Form.DisownsNull r
  field?_stream : Record.schema.field? r "stream" = some ⟨"stream", .optional, .bool⟩
  parse_eq : ∀ v, form.parse v = (Form.members r v).bind fun kept =>
    (build kept).map fun f => f (Form.stream? v kept)
  isStream_eq : ∀ {kept f}, build kept = .ok f → ∀ switch,
    form.isStream (f switch) = switch.getD false
  stream_eq : ∀ {kept f}, (Dict.keys kept).Nodup → build kept = .ok f → ∀ switch model,
    ((form.completion (f switch)).body model).field? "stream" = switch.map .bool
  exists_model : ∀ f, ∃ model, form.toJson f = (form.completion f).body model
  waits_eq : ∀ f, (form.completion f).isStream = form.isStream f

namespace IsBuilt

theorem parse_eq_ok_iff (h : form.IsBuilt r build) :
    form.parse (.obj members) = .ok f ↔ Form.Sound r members ∧
      ∃ g, build (Form.dropNulls members) = .ok g ∧
        f = g (Form.stream? (.obj members) (Form.dropNulls members)) := by
  rw [h.parse_eq]
  constructor
  · intro hparse
    obtain ⟨kept, hkept, hbuild⟩ := exists_ok_of_bind hparse
    obtain ⟨_, hobj, rfl, hsound⟩ := (Form.members_eq_ok_iff h.conserves).1 hkept
    obtain rfl := Json.obj.inj hobj
    obtain ⟨g, hg, rfl⟩ := exists_ok_of_map hbuild
    exact ⟨hsound, g, hg, rfl⟩
  · rintro ⟨hsound, g, hg, rfl⟩
    rw [(Form.members_eq_ok_iff h.conserves).2 ⟨members, rfl, rfl, hsound⟩]
    simp [Except.bind, Except.map, hg]

theorem parse_dropNulls_eq_ok_iff (h : form.IsBuilt r build)
    (hnodup : (Dict.keys members).Nodup) :
    form.parse (.obj (Form.dropNulls members)) = .ok f ↔ Form.Sound r members ∧
      ∃ g, build (Form.dropNulls members) = .ok g ∧
        f = g (Form.stream? (.obj (Form.dropNulls members)) (Form.dropNulls members)) := by
  rw [h.parse_eq_ok_iff, Form.sound_dropNulls_iff h.disownsNull hnodup, Form.dropNulls_dropNulls]

theorem field?_toJson (h : form.IsBuilt r build) {g : Option Bool → F}
    (hnodup : (Dict.keys kept).Nodup) (hg : build kept = .ok g) (switch : Option Bool) :
    (form.toJson (g switch)).field? "stream" = switch.map .bool := by
  obtain ⟨model, hmodel⟩ := h.exists_model (g switch)
  rw [hmodel]
  exact h.stream_eq hnodup hg switch model

theorem nullsCountAsMissing (h : form.IsBuilt r build) (hsorted : Dict.Sorted members) :
    form.NullsCountAsMissing members := by
  have hnodup : (Dict.keys members).Nodup := hsorted.nodup
  have hnodup₀ : (Dict.keys (Form.dropNulls members)).Nodup :=
    (Form.sorted_dropNulls hsorted).nodup
  refine ⟨?_, ?_, ?_⟩
  · constructor
    · rintro ⟨f, hf⟩
      obtain ⟨hsound, g, hg, -⟩ := h.parse_eq_ok_iff.1 hf
      exact ⟨_, (h.parse_dropNulls_eq_ok_iff hnodup).2 ⟨hsound, g, hg, rfl⟩⟩
    · rintro ⟨f, hf⟩
      obtain ⟨hsound, g, hg, -⟩ := (h.parse_dropNulls_eq_ok_iff hnodup).1 hf
      exact ⟨_, h.parse_eq_ok_iff.2 ⟨hsound, g, hg, rfl⟩⟩
  · intro f f₀ hf hf₀
    obtain ⟨hsound, g, hg, rfl⟩ := h.parse_eq_ok_iff.1 hf
    obtain ⟨-, g₀, hg₀, rfl⟩ := (h.parse_dropNulls_eq_ok_iff hnodup).1 hf₀
    obtain rfl : g = g₀ := Except.ok.inj (hg.symm.trans hg₀)
    constructor
    · rintro ⟨halike, -⟩ hnull
      -- Only the body without `null` members says that it wants a stream.
      have hunset := (Form.stream?_eq_none_iff hnodup hsound h.field?_stream).2 hnull
      have hset := Form.stream?_dropNulls_of_null hnodup hnull
      have hfield := congrArg (fun v => v.field? "stream") halike
      simp [h.field?_toJson hnodup₀ hg, hunset, hset] at hfield
    · intro hget
      rw [Form.stream?_dropNulls hnodup hget]
      exact ⟨rfl, rfl⟩
  · intro f hf model
    obtain ⟨hsound, g, hg, rfl⟩ := h.parse_eq_ok_iff.1 hf
    rw [h.waits_eq, h.isStream_eq hg, h.stream_eq hnodup₀ hg,
      ← Form.stream?_eq_none_iff hnodup hsound h.field?_stream]
    cases Form.stream? (.obj members) (Form.dropNulls members) with
    | none => simp
    | some b => simp

end IsBuilt

/-! ## Chat and text generation -/

/-- The chat of given members, for a switch. -/
def chatOf (kept : Dict Json) : Except FormFault (Option Bool → ChatForm) :=
  match ChatForm.silent? 0 (ChatForm.messagesOf kept) with
  | some position => .error (.emptyMessage position)
  | none => .ok fun stream =>
    { model := (Form.text? kept "model").getD ""
      messages := ChatForm.messagesOf kept
      stream
      metadata := Dict.get? kept "metadata"
      rest := Form.without ChatForm.ownKeys kept }

/-- The request for a text of given members, for a switch. -/
def generationOf (kept : Dict Json) : Except FormFault (Option Bool → GenerateForm) :=
  .ok fun stream =>
    { model := (Form.text? kept "model").getD ""
      stream
      metadata := Dict.get? kept "metadata"
      rest := Form.without GenerateForm.ownKeys kept }

theorem disownsNull_chat : Form.DisownsNull .chat := by
  refine ⟨by decide, ?_⟩
  have hmodel : ∀ w, Record.schema.decode .string .null ≠ .ok w := nofun
  have hmessages : ∀ w, Record.schema.decode (.list (.record .chatMessage)) .null ≠ .ok w := nofun
  simp [Record.fields, hmodel, hmessages]

theorem disownsNull_generate : Form.DisownsNull .generate := by
  refine ⟨by decide, ?_⟩
  have hmodel : ∀ w, Record.schema.decode .string .null ≠ .ok w := nofun
  simp [Record.fields, hmodel]

/-- What a form writes says how the switch was set. -/
theorem field?_stream_own {keys : List String} {own : Dict Json}
    (hown : ∀ m ∈ own, keys.contains m.1 = true ∧ m.1 ≠ "stream")
    (hkey : keys.contains "stream" = true) (hnodup : (Dict.keys kept).Nodup)
    (switch : Option Bool) :
    (Json.ofMembers (own ++ Form.streamMember switch ++ Form.without keys kept)).field? "stream" =
      switch.map .bool := by
  have hnone : Dict.get? own.reverse "stream" = none :=
    Dict.get?_eq_none_of_forall_ne fun m hm => (hown m (List.mem_reverse.1 hm)).2
  change Dict.get? (Dict.ofList _) "stream" = _
  rw [Form.get?_ofList_stream (fun m hm => (hown m hm).1) hkey hnodup, if_pos hkey, if_pos rfl,
    hnone, Option.or_none]

theorem exists_eq_of_chatOf {f : Option Bool → ChatForm} (h : chatOf kept = .ok f) :
    f = fun stream =>
      { model := (Form.text? kept "model").getD ""
        messages := ChatForm.messagesOf kept
        stream
        metadata := Dict.get? kept "metadata"
        rest := Form.without ChatForm.ownKeys kept } := by
  unfold chatOf at h
  split at h
  · cases h
  · exact (Except.ok.inj h).symm

theorem isBuilt_chat : chat.IsBuilt .chat chatOf where
  conserves := Record.conserves_chat
  disownsNull := disownsNull_chat
  field?_stream := rfl
  parse_eq := by
    intro v
    change ChatForm.parse v = _
    unfold ChatForm.parse chatOf
    cases Form.members .chat v with
    | error fault => rfl
    | ok kept =>
        simp only [Except.bind]
        cases ChatForm.silent? 0 (ChatForm.messagesOf kept) with
        | none => rfl
        | some position => rfl
  isStream_eq := by
    intro kept f hf switch
    rw [exists_eq_of_chatOf hf]
    rfl
  stream_eq := by
    intro kept f hnodup hf switch model
    rw [exists_eq_of_chatOf hf]
    refine field?_stream_own ?_ rfl hnodup switch
    simp [ChatForm.ownKeys]
  exists_model := fun f => ⟨f.model, rfl⟩
  waits_eq := fun _ => rfl

theorem isBuilt_generate : generate.IsBuilt .generate generationOf where
  conserves := Record.conserves_generate
  disownsNull := disownsNull_generate
  field?_stream := rfl
  parse_eq := by
    intro v
    change GenerateForm.parse v = _
    unfold GenerateForm.parse
    cases Form.members .generate v with
    | error fault => rfl
    | ok kept => rfl
  isStream_eq := by
    intro kept f hf switch
    obtain rfl := Except.ok.inj hf
    rfl
  stream_eq := by
    intro kept f hnodup hf switch model
    obtain rfl := Except.ok.inj hf
    refine field?_stream_own ?_ rfl hnodup switch
    simp [GenerateForm.ownKeys]
  exists_model := fun f => ⟨f.model, rfl⟩
  waits_eq := fun _ => rfl

/-- In chats and in requests for a text, a member that is `null` counts as missing, and the gateway
waits for one document only if the body that it sends asks for one; but for a `stream` that is
`null` neither is so. -/
theorem nulls_count_as_missing_except_stream (hsorted : Dict.Sorted members) :
    chat.NullsCountAsMissing members ∧ generate.NullsCountAsMissing members :=
  ⟨isBuilt_chat.nullsCountAsMissing hsorted, isBuilt_generate.nullsCountAsMissing hsorted⟩

/-- A request for a text in which two members are `null`. -/
def idleGeneration : Dict Json :=
  [("keep_alive", .null), ("model", .str "m"), ("note", .null), ("stream", .bool false)]

theorem nulls_count_as_missing_when_idle :
    Dict.Sorted idleGeneration ∧
      ∃ f f₀, GenerateForm.parse (.obj idleGeneration) = .ok f ∧
        GenerateForm.parse (.obj (Form.dropNulls idleGeneration)) = .ok f₀ ∧
        f.toJson = f₀.toJson ∧ f.isStream = f₀.isStream := by
  have hsorted : Dict.Sorted idleGeneration := by decide
  have hmissing := (nulls_count_as_missing_except_stream hsorted).2
  obtain ⟨f, hf⟩ : ∃ f, GenerateForm.parse (.obj idleGeneration) = .ok f := ⟨_, rfl⟩
  obtain ⟨f₀, hf₀⟩ := hmissing.accepted_iff.1 ⟨f, hf⟩
  have hstream : Dict.get? idleGeneration "stream" ≠ some .null := nofun
  obtain ⟨halike, hsame⟩ := (hmissing.alike_iff f f₀ hf hf₀).2 hstream
  exact ⟨hsorted, f, f₀, hf, hf₀, halike, hsame⟩

/-- A chat with a `stream` that is `null`. -/
def unsetChat : Dict Json :=
  [("messages", .arr []), ("model", .str "m"), ("stream", .null)]

/-- The gateway waits for one document, and the body that it sends asks for a stream, as the one
without the `null` member does. -/
theorem null_stream_waits_for_a_stream :
    ∃ f f₀, ChatForm.parse (.obj unsetChat) = .ok f ∧
      ChatForm.parse (.obj (Form.dropNulls unsetChat)) = .ok f₀ ∧
      f.isStream = false ∧ f.toJson.field? "stream" = none ∧
      f₀.isStream = true ∧ f₀.toJson.field? "stream" = some (.bool true) :=
  ⟨_, _, rfl, rfl, rfl, by cbv, rfl, by cbv⟩

end StreamForm
end RunnerGateway
