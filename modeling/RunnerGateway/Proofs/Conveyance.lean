import RunnerGateway.Proofs.Answers
import RunnerGateway.Proofs.Threads

/-!
# What arrives at a backend

A body that is passed on goes out as one call, and what arrives is the text of the edited body
(`Endpoint.Conveys`).  Without floating-point numbers that text is read back as the same value.  A
number that is no 64-bit integer is read as a floating-point number and written as one, so its
digits may change on the way.

The discipline `Conveying` carries this over to runs: apart from reading, a request about a body
sends nothing but that call, to the backend that it has chosen.
-/

namespace RunnerGateway

/-! ## Values that were edited -/

namespace Json

section Edits

variable {v : Json} {levels : Nat}

theorem FloatFree.withoutNulls (h : FloatFree v) : FloatFree v.withoutNulls := by
  cases h with
  | obj hmembers => exact .obj fun m hm => hmembers m (List.mem_of_mem_filter hm)
  | arr hitems => exact .arr hitems
  | _ => constructor

theorem FloatFree.eachWithoutNulls (h : FloatFree v) : FloatFree v.eachWithoutNulls := by
  cases h with
  | arr hitems =>
      refine .arr fun w hw => ?_
      obtain ⟨item, hitem, rfl⟩ := List.mem_map.1 hw
      exact (hitems item hitem).withoutNulls
  | obj hmembers => exact .obj hmembers
  | _ => constructor

theorem Fits.withoutNulls (h : Fits levels v) : Fits levels v.withoutNulls := by
  cases h with
  | obj hsorted hmembers =>
      exact .obj (hsorted.filter _) fun m hm => hmembers m (List.mem_of_mem_filter hm)
  | arr hitems => exact .arr hitems
  | int _ hlow hhigh => exact .int _ hlow hhigh
  | _ => constructor

theorem Fits.eachWithoutNulls (h : Fits levels v) : Fits levels v.eachWithoutNulls := by
  cases h with
  | arr hitems =>
      refine .arr fun w hw => ?_
      obtain ⟨item, hitem, rfl⟩ := List.mem_map.1 hw
      exact (hitems item hitem).withoutNulls
  | obj hsorted hmembers => exact .obj hsorted hmembers
  | int _ hlow hhigh => exact .int _ hlow hhigh
  | _ => constructor

theorem forall_mem_of_hasMembers {P : Json → Prop} {d : Dict Json}
    {members : String → Option Json} (h : (Json.obj d).HasMembers members)
    (hP : ∀ key w, members key = some w → P w) : ∀ m ∈ d, P m.2 := by
  obtain ⟨d', hd, hsorted, hget⟩ := h
  obtain rfl := Json.obj.inj hd
  intro m hm
  exact hP m.1 m.2 ((hget m.1).symm.trans ((Dict.get?_eq_some_iff_mem hsorted.nodup).2 hm))

end Edits

end Json

namespace Gateway

open Exchange Http Json

section Sent

variable {rules : Rules} {r : Request} {idx : Option Nat} {v : Json} {e : Endpoint} {b : Backend}

/-- All that is sent is a text, a switch, or a member of the body, at most without `null` members
of its items. -/
theorem forall_sent {P : Json → Prop} (hstr : ∀ s, P (.str s)) (hbool : ∀ b, P (.bool b))
    (heach : ∀ w, P w → P w.eachWithoutNulls) (hfield : ∀ key w, v.field? key = some w → P w) :
    ∀ key w, e.sent idx b v key = some w → P w := by
  intro key w h
  have hgiven {w : Json} (h : v.given key = some w) : P w :=
    hfield key w (Option.filter_eq_some_iff.1 h).1
  have hcompletion {w : Json} (h : Endpoint.completionMember v key = some w) : P w := by
    unfold Endpoint.completionMember at h
    split at h
    · cases h
    · split at h
      · obtain rfl := Option.some.inj h
        exact hbool true
      · exact hgiven h
  unfold Endpoint.sent at h
  split at h
  · unfold Endpoint.modelSent at h
    split at h
    · obtain ⟨s, -, rfl⟩ := Option.map_eq_some_iff.1 h
      exact hstr s
    · obtain rfl := Option.some.inj h
      exact hstr _
  · cases e with
    | chat =>
        simp only [Endpoint.member] at h
        split at h
        · obtain ⟨w', hw', rfl⟩ := Option.map_eq_some_iff.1 h
          exact heach w' (hgiven hw')
        · exact hcompletion h
    | generate => exact hcompletion h
    | describe | delete =>
        simp only [Endpoint.member] at h
        split at h
        · cases h
        · exact hgiven h
    | pull =>
        simp only [Endpoint.member] at h
        split at h
        · obtain rfl := Option.some.inj h
          exact hbool true
        · exact hgiven h
    | _ => exact hgiven h

/-- Without floating-point numbers the edited body is read from its text as it is. -/
theorem parse_of_hasMembers {body : Json} (hv : bodyOf r = .ok v) (haccepts : e.Accepts v)
    (hbody : body.HasMembers (e.sent idx b v)) (hfree : FloatFree v) :
    Json.parseFault body.render.toUTF8.toList = .ok body := by
  obtain ⟨members, rfl⟩ := exists_obj_of_accepts haccepts
  obtain ⟨d, hd, hsorted, -⟩ := id hbody
  subst hd
  have hfits : Fits maxLevels (.obj d) := by
    cases fits_of_readFault (bodyOf_eq_ok_iff.1 hv).2.2 with
    | obj _ hmembers =>
        refine .obj hsorted (forall_mem_of_hasMembers hbody (forall_sent (.str _) (.bool _)
          (fun w => Fits.eachWithoutNulls) fun key w hw => ?_))
        exact hmembers _ (Dict.mem_of_get? hw)
  have hfreeBody : FloatFree (.obj d) := by
    cases hfree with
    | obj hmembers =>
        refine .obj (forall_mem_of_hasMembers hbody (forall_sent .str .bool
          (fun w => FloatFree.eachWithoutNulls) fun key w hw => ?_))
        exact hmembers _ (Dict.mem_of_get? hw)
  exact eq_ok_of_mapError (parse_render hfits hfreeBody)

/-- The call sends the edited body to the backend, and what arrives is the text of the edited body,
which is read as it is if there are no floating-point numbers in it. -/
def Endpoint.Conveys (rules : Rules) (r : Request) (idx : Option Nat) (v : Json) (e : Endpoint)
    (b : Backend) (call : Call) : Prop :=
  ∃ method path body, e.target? = some (method, path) ∧ body.HasMembers (e.sent idx b v) ∧
    call = sending method (b.endpoint path) body b.config.bearerKey
      (passedOn rules r (e.conversation? v)) ∧
    ∀ w, call.request? = some w →
      w.method = method ∧ w.body = body.render.toUTF8.toList ∧
        (FloatFree v → Json.parseFault w.body = .ok body)

theorem exists_conveys (rules : Rules) (idx : Option Nat) (hv : bodyOf r = .ok v)
    (haccepts : e.Accepts v) :
    ∃ call : Backend → Call, (∀ b, e.Conveys rules r idx v b (call b)) ∧
      serve rules r idx e = (do
        let b ← e.choose idx (e.sought idx v)
        let reply ← send (call b)
        e.answer v reply) := by
  obtain ⟨members, rfl⟩ := exists_obj_of_accepts haccepts
  have hpasses : e.PassesOn rules r idx (.obj members) := passesOn_of_accepts hv haccepts
  obtain ⟨method, path, htarget, body, hbody, hserve⟩ := hpasses
  refine ⟨_, fun b => ⟨method, path, body b, htarget, hbody b, rfl, fun w hw => ?_⟩, hserve⟩
  have hwire : w.body = (body b).render.toUTF8.toList := Call.body_of_request? hw
  refine ⟨Call.method_of_request? hw, hwire, fun hfree => ?_⟩
  rw [hwire]
  exact parse_of_hasMembers hv haccepts (hbody b) hfree

end Sent

/-! ## Runs -/

/-- Apart from reading, nothing is sent but the one call to the backend that has been chosen. -/
def Conveying (choice : Attempt Backend) (call : Backend → Call) : Discipline
  | past, .exchange calls =>
    (∀ c ∈ calls, c.method = .get) ∨
      ∃ start b, choice.run.Leads start past (.ok b) ∧ calls = [call b]
  | _, _ => True

theorem conveying_letsLook (choice : Attempt Backend) (call : Backend → Call) :
    Discipline.LetsLook (Conveying choice call) := by
  refine (letsAsk_of_permits fun op hasks past => ?_).toLetsLook
  cases op with
  | exchange calls => exact .inl hasks
  | _ => trivial

/-- An endpoint that accepts a body passes it on to the backend that it chooses: with every member
at any depth as it was read, but for those that are `null` and the few that it edits.  That is what
it does in every run, and all that is sent for the body. -/
theorem accepted_body_is_passed_on (rules : Rules) (r : Request) (idx : Option Nat) (e : Endpoint)
    (v : Json) (hv : bodyOf r = .ok v) (haccepts : e.Accepts v) :
    ∃ call : Backend → Call, (∀ b, e.Conveys rules r idx v b (call b)) ∧
      serve rules r idx e = (do
        let b ← e.choose idx (e.sought idx v)
        let reply ← send (call b)
        e.answer v reply) ∧
      ∀ route, Route.ofPath? r.path = some route → route.endpoint = e → route.index = .ok idx →
        ∀ seed store events i thread,
          let s := (System.start seed store).run rules events
          s.threads[i]? = some thread → thread.job = .respond r →
            ∀ calls, .sent calls ∈ s.log.past i → (∀ c ∈ calls, c.method = .get) ∨
              ∃ start before b, Act.sent calls :: before <:+ s.log.past i ∧
                (e.choose idx (e.sought idx v)).run.Leads start before (.ok b) ∧
                calls = [call b] := by
  obtain ⟨call, hconveys, hserve⟩ := exists_conveys rules idx hv haccepts
  refine ⟨call, hconveys, hserve, ?_⟩
  intro route hroute hendpoint hindex seed store events i thread s hthread hjob calls hsent
  let choice := e.choose idx (e.sought idx v)
  have hrespond : (respond rules r).Heeds (Conveying choice call) := by
    refine heeds_respond_of_serve fun route' hroute' _ idx' hindex' => ?_
    obtain rfl := Option.some.inj (hroute.symm.trans hroute')
    obtain rfl := Except.ok.inj (hindex.symm.trans hindex')
    rw [hendpoint]
    exact heeds_of_passesOn (conveying_letsLook choice call) (fun _ _ => trivial)
      (fun _ => trivial) hserve fun start past b hleads => .inr ⟨start, b, hleads, rfl⟩
  obtain ⟨job, progress⟩ := thread
  obtain rfl : job = .respond r := hjob
  obtain ⟨before, hsuffix, hreads | ⟨start, b, hleads, hcalls⟩⟩ :=
    ((System.follows_run rules seed store events).heeded hthread hrespond).exists_of_sent hsent
  · exact .inl hreads
  · exact .inr ⟨start, before, b, hsuffix, hleads, hcalls⟩

/-- A chat with metadata, with `null` in a message and in an option, and without `stream`. -/
def notedChat : Json :=
  .obj [("messages", .arr [.obj [("content", .str "hi"), ("role", .str "user"), ("tag", .null)]]),
    ("metadata", .arr []), ("model", .str "p.m"), ("options", .obj [("seed", .null)])]

/-- The request with that chat for the backend at position 0. -/
def notedRequest : Request where
  method := "POST"
  path := "/api/chat/0"
  headers := [.ofText contentType jsonType]
  body := notedChat.render.toUTF8.toList

/-- One backend, whose models have a name space. -/
def spacedAtA : RunnerConfig where
  baseUrls := ["http://a"]
  apiConfigs := [("0", { prefixId := some "p" })]

/-- The system that waits for the answer of the one backend to a request. -/
def waitingFor (config : RunnerConfig) (r : Request) : System :=
  (System.start config none).run {} [.begins (.respond r), .moves 0, .moves 0]

theorem follows_waitingFor (config : RunnerConfig) (r : Request) :
    (waitingFor config r).Follows {} :=
  System.follows_run {} config none _

theorem accepted_chat_is_passed_on :
    bodyOf notedRequest = .ok notedChat ∧ Endpoint.chat.Accepts notedChat ∧
      ∃ call w d, .sent [call] ∈ (waitingFor spacedAtA notedRequest).log.past 0 ∧
        call.request? = some w ∧ w.method = .post ∧ w.url.path = "/api/chat" ∧
        w.body = ("\x7b\"messages\":[\x7b\"content\":\"hi\",\"role\":\"user\"\x7d]," ++
          "\"model\":\"m:latest\",\"options\":\x7b\"seed\":null\x7d,\"stream\":true\x7d"
          ).toUTF8.toList ∧
        Json.parseFault w.body = .ok (.obj d) ∧
        Dict.get? d "messages" =
          some (.arr [.obj [("content", .str "hi"), ("role", .str "user")]]) ∧
        Dict.get? d "metadata" = none ∧ Dict.get? d "stream" = some (.bool true) ∧
        Dict.get? d "options" = some (.obj [("seed", .null)]) := by
  have hfree : FloatFree notedChat := by decide
  have hv : bodyOf notedRequest = .ok notedChat :=
    bodyOf_eq_ok_iff.2 ⟨by decide +kernel, by decide +kernel,
      eq_ok_of_mapError (parse_render (by decide) hfree)⟩
  have haccepts : Endpoint.chat.Accepts notedChat := ⟨_, rfl⟩
  have hawaited : (((waitingFor spacedAtA notedRequest).awaited? 0).map fun found =>
      (found.1, found.2.method, found.2.url.path, found.2.body)) =
        some (notedRequest, .post, "/api/chat",
          ("\x7b\"messages\":[\x7b\"content\":\"hi\",\"role\":\"user\"\x7d]," ++
            "\"model\":\"m:latest\",\"options\":\x7b\"seed\":null\x7d,\"stream\":true\x7d"
            ).toUTF8.toList) := by decide +kernel
  obtain ⟨⟨r, w⟩, hw, hparts⟩ := Option.map_eq_some_iff.1 hawaited
  obtain ⟨rfl, hparts⟩ := Prod.mk.inj hparts
  obtain ⟨hpost, hparts⟩ := Prod.mk.inj hparts
  obtain ⟨hpath, hbytes⟩ := Prod.mk.inj hparts
  obtain ⟨thread, call, hthread, hjob, hsent, hrequest⟩ :=
    (follows_waitingFor spacedAtA notedRequest).exists_of_awaited? hw
  obtain ⟨conveying, hconveys, -, hruns⟩ :=
    accepted_body_is_passed_on {} notedRequest (some 0) .chat notedChat hv haccepts
  have hroute : Route.ofPath? notedRequest.path = some ⟨.chat, some ['0']⟩ := by decide +kernel
  have hindex : Route.index ⟨.chat, some ['0']⟩ = .ok (some 0) := by decide +kernel
  rcases hruns _ hroute rfl hindex _ _ _ 0 thread hthread hjob [call] hsent with
    hreads | ⟨start, before, b, -, -, hcalls⟩
  · have hget : w.method = .get :=
      (Call.method_of_request? hrequest).trans (hreads call List.mem_cons_self)
    cases hget.symm.trans hpost
  · obtain rfl := List.singleton_inj.1 hcalls
    obtain ⟨method, path, body, -, ⟨d, rfl, -, hget⟩, -, hwire⟩ := hconveys b
    obtain ⟨-, -, hparse⟩ := hwire w hrequest
    exact ⟨hv, haccepts, _, w, d, hsent, hrequest, hpost, hpath, hbytes, hparse hfree,
      hget "messages", hget "metadata", hget "stream", hget "options"⟩

/-- A request for a text with a number that lies between two floating-point numbers. -/
def warmRequest : Request where
  method := "POST"
  path := "/api/generate/0"
  headers := [.ofText contentType jsonType]
  body := ("\x7b\"model\":\"m\",\"options\":\x7b\"temperature\":9.294355864180043\x7d," ++
    "\"prompt\":\"p\",\"stream\":true\x7d").toUTF8.toList

/-- A number may be sent with other digits than it came with. -/
theorem sent_number_may_change :
    ∃ call w, .sent [call] ∈ (waitingFor { baseUrls := ["http://a"] } warmRequest).log.past 0 ∧
      call.request? = some w ∧
        w.body = ("\x7b\"model\":\"m:latest\",\"options\":" ++
          "\x7b\"temperature\":9.294355864180044\x7d,\"prompt\":\"p\",\"stream\":true\x7d"
          ).toUTF8.toList := by
  have hawaited : ((waitingFor { baseUrls := ["http://a"] } warmRequest).awaited? 0).map
      (fun found => found.2.body) = some ("\x7b\"model\":\"m:latest\",\"options\":" ++
        "\x7b\"temperature\":9.294355864180044\x7d,\"prompt\":\"p\",\"stream\":true\x7d"
        ).toUTF8.toList := by decide +kernel
  obtain ⟨⟨r, w⟩, hw, hbytes⟩ := Option.map_eq_some_iff.1 hawaited
  obtain ⟨thread, call, -, -, hsent, hrequest⟩ :=
    (follows_waitingFor _ warmRequest).exists_of_awaited? hw
  exact ⟨call, w, hsent, hrequest, hbytes⟩

end Gateway
end RunnerGateway
