import RunnerGateway.Proofs.Answers
import RunnerGateway.Proofs.Routing
import RunnerGateway.Proofs.Threads

/-!
# What backends get to know of a client

Of the headers of a request only those about the user are passed on, and these only if the operator
wishes so.  All others serve to let the request in and to tell the type of its body: two requests
that differ in nothing else, and both come so far, are answered by one and the same task
(`respond_eq_of_agree`).  So whole histories that differ in such requests go on alike: leaving out
which request a thread answers makes them equal (`System.anonymous_run`).

The discipline `Attributed` says where the parts of every call come from: the URL and the key belong
to one backend of a configuration that the thread has read, or, where a connection is tried, to the
body of the request.  Nothing else authorizes a request on the wire (`Call.credentials`).
-/

namespace RunnerGateway

/-! ## What authorizes a call -/

namespace Exchange

open Http

/-- The name of the header that authorizes a request. -/
def authorization : String := "authorization"

/-- What authorizes a call: the user and the password in its URL, and its key. -/
def Call.credentials (c : Call) : Headers :=
  ((Url.parse? c.url).bind userHeader?).toList ++ (c.key.bind keyHeader?).toList

variable {h : Header}

theorem name_ne_of_isUserHeader (huser : isUserHeader h = true) : h.name ≠ authorization := by
  intro hname
  rw [isUserHeader, hname] at huser
  exact absurd huser (by decide)

theorem isUserHeader_of_mem_foldl_set {incoming hs : Headers}
    (hincoming : ∀ h ∈ incoming, isUserHeader h = true) (hhs : ∀ h ∈ hs, isUserHeader h = true)
    (hmem : h ∈ incoming.foldl (fun hs h => Headers.set hs h.name h.value) hs) :
    isUserHeader h = true := by
  induction incoming generalizing hs with
  | nil => exact hhs h hmem
  | cons first incoming ih =>
      obtain ⟨hfirst, hrest⟩ := List.forall_mem_cons.1 hincoming
      refine ih hrest (fun h' hset => ?_) hmem
      rcases List.mem_append.1 hset with hkept | hnew
      · exact hhs h' (List.mem_of_mem_filter hkept)
      · obtain rfl := List.mem_singleton.1 hnew
        exact hfirst

/-- What is passed on of the headers of a request never authorizes anything. -/
theorem name_ne_of_mem_forwarded {wished : Bool} {incoming : Headers} {chat : Option String}
    (hmem : h ∈ forwarded wished incoming chat) : h.name ≠ authorization := by
  unfold forwarded at hmem
  split at hmem
  · rcases List.mem_append.1 hmem with huser | hchat
    · refine name_ne_of_isUserHeader (isUserHeader_of_mem_foldl_set ?_ (by simp) huser)
      exact fun h' hfilter => (List.mem_filter.1 hfilter).2
    · obtain ⟨value, -, rfl⟩ := Option.map_eq_some_iff.1 (Option.mem_toList.1 hchat)
      have hname : chatHeader ≠ authorization := by decide
      exact hname
  · exact nomatch hmem

theorem name_of_userHeader? {url : Url} (huser : userHeader? url = some h) :
    h.name = authorization := by
  obtain ⟨name, -, hheader⟩ := Option.bind_eq_some_iff.1 huser
  obtain ⟨-, hsome⟩ := Option.ite_none_left_eq_some.1 hheader
  obtain rfl := Option.some.inj hsome
  rfl

theorem filter_replaceHeaders {name : String} {own others : Headers}
    (hothers : ∀ h ∈ others, h.name ≠ name) :
    (replaceHeaders own others).filter (fun h => h.name = name) =
      own.filter fun h => h.name = name := by
  have hnone : others.filter (fun h => h.name = name) = [] := by
    simpa [List.filter_eq_nil_iff] using hothers
  rw [replaceHeaders, List.filter_append, hnone, List.append_nil, List.filter_filter]
  refine List.filter_congr fun h hmem => ?_
  by_cases hname : h.name = name
  · simpa [hname] using hothers
  · simp [hname]

namespace Call

variable {c : Call} {url : Url} {headers : Headers}

theorem filter_wireHeaders (hplain : ∀ h ∈ c.headers, h.name ≠ authorization)
    (h : c.wireHeaders url = .ok headers) :
    headers.filter (fun h => h.name = authorization) =
      (userHeader? url).toList ++ (c.key.bind keyHeader?).toList := by
  have huser : ∀ h ∈ (userHeader? url).toList, h.name = authorization := fun h hmem =>
    name_of_userHeader? (Option.mem_toList.1 hmem)
  have hown : (replaceHeaders ((userHeader? url).toList ++ [.ofText contentType jsonType])
      c.headers).filter (fun h => h.name = authorization) = (userHeader? url).toList := by
    rw [filter_replaceHeaders hplain, List.filter_append,
      List.filter_eq_self.2 (by simpa using huser)]
    exact List.append_nil _
  unfold wireHeaders at h
  cases hkey : c.key with
  | none =>
      rw [hkey] at h
      obtain rfl := Except.ok.inj h
      simpa using hown
  | some key =>
      simp only [hkey] at h
      cases hheader : keyHeader? key with
      | none =>
          simp only [hheader] at h
          exact nomatch h
      | some header =>
          simp only [hheader] at h
          obtain rfl := Except.ok.inj h
          obtain ⟨value, -, rfl⟩ := Option.map_eq_some_iff.1 hheader
          rw [List.filter_append, hown, Option.bind_some, hheader]
          rfl

/-- A request on the wire is authorized by nothing but the URL and the key of its call. -/
theorem filter_headers_of_request? {w : WireRequest}
    (hplain : ∀ h ∈ c.headers, h.name ≠ authorization) (hw : c.request? = some w) :
    w.headers.filter (fun h => h.name = authorization) = c.credentials := by
  obtain ⟨url, headers, hparse, hheaders, -, rfl⟩ := exists_of_request? hw
  rw [credentials, hparse]
  exact filter_wireHeaders hplain hheaders

end Call
end Exchange

namespace Gateway

open Exchange Http

/-! ## Requests that differ in other headers -/

/-- The client is admitted, and if the body is read, its type is announced to be JSON. -/
def PassesChecks (rules : Rules) (r : Request) : Prop :=
  ∀ route, Route.ofPath? r.path = some route →
    route.endpoint.audience.admit rules.keys r.headers = .ok () ∧
      (route.endpoint.readsBody = true → r.announcesJson = true)

/-- The other headers agree with those of the request as far as they are passed on. -/
def AgreesOn (rules : Rules) (r : Request) (headers : Headers) : Prop :=
  rules.forwardsUser = true → headers.filter isUserHeader = r.headers.filter isUserHeader

section Agreement

variable {rules : Rules} {r : Request} {headers : Headers}

theorem passedOn_eq_of_agree (h : AgreesOn rules r headers) (chat : Option String) :
    passedOn rules { r with headers } chat = passedOn rules r chat := by
  unfold passedOn forwarded
  by_cases hforwards : rules.forwardsUser = true
  · simp only [hforwards, if_true, userHeaders, h hforwards]
  · simp only [hforwards]
    rfl

theorem bodyOf_eq_of_announces (h : r.announcesJson = true)
    (h' : Request.announcesJson { r with headers } = true) :
    bodyOf { r with headers } = bodyOf r := by
  simp only [bodyOf, Request.json, h, h']

/-- An endpoint looks at the headers of a request only to pass them on, and at its body. -/
theorem serve_eq_of_agree {e : Endpoint} (idx : Option Nat) (hagree : AgreesOn rules r headers)
    (hbody : e.readsBody = true → bodyOf { r with headers } = bodyOf r) :
    serve rules { r with headers } idx e = serve rules r idx e := by
  have hpassed := passedOn_eq_of_agree hagree
  have hform (hreads : e.readsBody = true) {F : Type} (parse : Json → Except FormFault F) :
      formOf parse { r with headers } = formOf parse r := by
    simp only [formOf, hbody hreads]
  cases e with
  | tags => cases idx <;> simp only [serve, tags, hpassed]
  | chat => simp only [serve, chat, complete, hform rfl, hpassed]
  | generate => simp only [serve, generate, complete, hform rfl, hpassed]
  | embed => simp only [serve, embed, hform rfl, hpassed]
  | embeddings => simp only [serve, embed, hform rfl, hpassed]
  | describe => simp only [serve, describe, hform rfl, hpassed]
  | pull => simp only [serve, pull, hform rfl, hpassed]
  | delete => simp only [serve, delete, hform rfl, hpassed]
  | verify => simp only [serve, tryConnection, hbody rfl]
  | configUpdate => simp only [serve, changeConfig, hbody rfl]
  | status | version | config | loaded => rfl

/-- Requests that agree on what is passed on, and both pass the checks, are answered alike. -/
theorem respond_eq_of_agree (hagree : AgreesOn rules r headers) (hpasses : PassesChecks rules r)
    (hpasses' : PassesChecks rules { r with headers }) :
    respond rules { r with headers } = respond rules r := by
  cases hroute : Route.ofPath? r.path with
  | none => simp only [respond, hroute]
  | some route =>
      obtain ⟨hadmitted, hjson⟩ := hpasses route hroute
      obtain ⟨hadmitted', hjson'⟩ := hpasses' route hroute
      have hserve (idx : Option Nat) :
          serve rules { r with headers } idx route.endpoint = serve rules r idx route.endpoint :=
        serve_eq_of_agree idx hagree fun hreads =>
          bodyOf_eq_of_announces (hjson hreads) (hjson' hreads)
      have hfollow : follow rules { r with headers } route = follow rules r route := by
        simp only [follow, hserve]
      have hreached : respond rules { r with headers } = reached rules { r with headers } route :=
        respond_of_admitted hroute hadmitted'
      rw [respond_of_admitted hroute hadmitted, hreached]
      simp only [reached, hfollow]

end Agreement

/-! ## Where calls come from -/

/-- The calls are made for a job, with URLs and keys of backends of the configuration `c`. -/
inductive Addressed (rules : Rules) (c : RunnerConfig) : Job → List Call → Prop
  /-- All enabled backends are asked for a list, with no header of a client. -/
  | lists (job : Job) (path : String) : Addressed rules c job (listingCalls c path)
  /-- The backend at a position is asked for what it tells itself. -/
  | asks {r : Request} {route : Route} {b : Backend} {headers : Headers}
      (hroute : Route.ofPath? r.path = some route) (hposition : route.position ≠ none)
      (hb : b ∈ c.backends) (path : String)
      (hheaders : headers = [] ∨ headers = passedOn rules r none) :
      Addressed rules c (.respond r) [reading (b.endpoint path) b.config.bearerKey headers]
  /-- A body is passed on to a backend. -/
  | sends {r : Request} {route : Route} {b : Backend} {method : Method} {path : String}
      (hroute : Route.ofPath? r.path = some route)
      (htarget : route.endpoint.target? = some (method, path)) (hb : b ∈ c.backends)
      (payload : Json) (chat : Option String) :
      Addressed rules c (.respond r)
        [sending method (b.endpoint path) payload b.config.bearerKey (passedOn rules r chat)]

/-- The calls try a connection, with the URL and the key that stand in the body of the request. -/
def Tries (job : Job) (calls : List Call) : Prop :=
  ∃ r route v form, job = .respond r ∧ Route.ofPath? r.path = some route ∧
    route.endpoint = .verify ∧ bodyOf r = .ok v ∧ VerifyForm.decode v = .ok form ∧
    calls = [reading (trialUrl form.url) (nonEmpty form.key) []]

/-- Every call for a job goes to a backend of a configuration that was read before, or tries a
connection. -/
def Attributed (rules : Rules) (job : Job) : Discipline
  | past, .exchange calls =>
    (∃ c, Act.did .config c ∈ past ∧ Addressed rules c job calls) ∨ Tries job calls
  | _, _ => True

section Attribution

variable {rules : Rules} {job : Job}

theorem attributed_letsLook (rules : Rules) (job : Job) :
    Discipline.LetsLook (Attributed rules job) := by
  have hfetch : fetchModels.Heeds (Attributed rules job) := fun past =>
    fetchModels_ensures (fun _ => trivial) (fun _ c path hc => .inl ⟨c, hc, .lists job path⟩)
      fun _ _ _ => trivial
  exact
    { config := fun _ => trivial
      cached := fun _ => trivial
      routed := fun _ _ => trivial
      refresh := heeds_refreshWithin hfetch (fun _ => trivial) (fun _ _ _ => trivial) 2 }

/-- A list may be asked for as soon as the configuration has been read. -/
theorem ensures_reports {past : List Act} {c : RunnerConfig} (hc : .did .config c ∈ past)
    (path : String) : (reports c path).Ensures (Attributed rules job) past fun _ _ => True :=
  Task.ensures_bind_iff.2 ⟨.inl ⟨c, hc, .lists job path⟩, fun _ _ => trivial⟩

theorem attributed_loadedModels : loadedModels.Heeds (Attributed rules job) := by
  intro past
  refine Task.ensures_config_bind_iff.2 ⟨trivial, fun c => ?_⟩
  unfold fetchLoaded
  split
  · refine Task.ensures_bind_iff.2 ?_
    exact (ensures_reports List.mem_cons_self "/api/ps").mono fun _ _ _ => trivial
  · trivial

/-- Who has the configuration has read it. -/
theorem did_config_of_leads {start later : List Act} {c : RunnerConfig}
    (h : (monadLift Task.config : Attempt RunnerConfig).run.Leads start later (.ok c)) :
    Act.did .config c ∈ later := by
  obtain ⟨c', hleads, hc⟩ := Attempt.leads_lift_iff.1 h
  obtain rfl := Except.ok.inj hc
  cases hleads with
  | step answer hadmits hdone =>
      cases hdone
      exact List.mem_cons_self

theorem attributed_lowestVersion : lowestVersion.Heeds (Attributed rules job) := by
  have hconfig : Task.config.Heeds (Attributed rules job) := heeds_config fun _ => trivial
  refine Attempt.heeds_bind_of_leads (Attempt.heeds_lift hconfig) ?_
  intro start past c hleads
  have hread : Act.did .config c ∈ past := did_config_of_leads hleads
  by_cases henabled : c.enabled = true
  · rw [if_pos henabled]
    have hlists : (monadLift (Task.exchange (listingCalls c "/api/version")) :
        Attempt (List Outcome)).run.Ensures (Attributed rules job) past fun _ _ => True :=
      ⟨.inl ⟨c, hread, .lists job "/api/version"⟩, fun _ _ => trivial⟩
    refine Attempt.ensures_bind_of_heeds hlists fun outcomes => ?_
    split
    · exact Attempt.heeds_pure _
    · exact Attempt.heeds_throw _
  · rw [if_neg henabled]
    trivial

/-- Who has the backend at a position has read a configuration in which it stands there. -/
theorem exists_config_of_leads_backendAt {start later : List Act} {idx : Nat} {b : Backend}
    (h : (backendAt idx).run.Leads start later (.ok b)) :
    ∃ c, .did .config c ∈ later ∧ b ∈ c.backends := by
  rcases Attempt.leads_bind_iff.1 h with ⟨between, c, hconfig, hrest⟩ | ⟨e, -, herror⟩
  · have hread : Act.did .config c ∈ between := did_config_of_leads hconfig
    cases hb : c.backend? idx with
    | none =>
        rw [hb] at hrest
        exact nomatch (Attempt.leads_throw_iff.1 hrest).2
    | some b' =>
        rw [hb] at hrest
        obtain ⟨rfl, hresult⟩ := Attempt.leads_pure_iff.1 hrest
        obtain rfl := Except.ok.inj hresult
        exact ⟨c, hread, List.mem_of_getElem? ((c.backends_getElem? idx).trans hb)⟩
  · exact nomatch herror

theorem exists_config_of_resolved {model : String} {start past : List Act} {b : Backend}
    (h : Resolved model start past b) : ∃ c, .did .config c ∈ past ∧ b ∈ c.backends := by
  obtain ⟨rest, c, between, e, rfl, -, hb⟩ := h
  obtain ⟨-, hbackend, -⟩ := mem_serving_iff.1 hb
  refine ⟨c, by simp, ?_⟩
  exact List.mem_of_getElem? ((c.backends_getElem? b.idx).trans hbackend)

/-- Who chose a backend has read a configuration in which it stands. -/
theorem exists_config_of_leads_choose {e : Endpoint} {idx : Option Nat} {model : String}
    {start later : List Act} {b : Backend}
    (h : (e.choose idx model).run.Leads start later (.ok b)) :
    ∃ c, .did .config c ∈ later ∧ b ∈ c.backends := by
  have hselect (hleads : (select model).run.Leads start later (.ok b)) :
      ∃ c, .did .config c ∈ later ∧ b ∈ c.backends :=
    exists_config_of_resolved ((select_ensures model start).of_leads hleads b rfl)
  cases e with
  | describe => exact hselect h
  | pull => exact exists_config_of_leads_backendAt h
  | delete =>
      cases idx with
      | some idx => exact exists_config_of_leads_backendAt h
      | none =>
          have hresolved := (firstServing_ensures model start).of_leads h b rfl
          exact exists_config_of_resolved hresolved
  | _ =>
      cases idx with
      | some idx => exact exists_config_of_leads_backendAt h
      | none => exact hselect h

end Attribution

/-! ## Requests -/

section Requests

variable {rules : Rules} {r : Request} {route : Route} {idx : Option Nat}

theorem position_ne_none_of_index {i : Nat} (h : route.index = .ok (some i)) :
    route.position ≠ none := by
  intro hnone
  rw [Route.index, hnone] at h
  exact nomatch h

/-- What is asked of the backend at a position is asked of a backend that was found there. -/
theorem attributed_fetch {i : Nat} {path : String} {headers : Headers}
    (hroute : Route.ofPath? r.path = some route) (hposition : route.position ≠ none)
    (hheaders : headers = [] ∨ headers = passedOn rules r none) :
    (backendAt i >>= fun b => do
      return Response.ofJson 200 (← fetch (b.endpoint path) b.config.bearerKey headers)).Heeds
        (Attributed rules (.respond r)) := by
  refine Attempt.heeds_bind_of_leads (heeds_backendAt (fun _ => trivial) i) ?_
  intro start later b hleads
  obtain ⟨c, hc, hb⟩ := exists_config_of_leads_backendAt hleads
  have hasks : Attributed rules (.respond r) later
      (.exchange [reading (b.endpoint path) b.config.bearerKey headers]) :=
    .inl ⟨c, hc, .asks hroute hposition hb path hheaders⟩
  exact Attempt.ensures_bind_of_heeds (ensures_fetch hasks) fun _ => Attempt.heeds_pure _

/-- A body is passed on to a backend that was found in a configuration. -/
theorem attributed_passesOn {v : Json} (hroute : Route.ofPath? r.path = some route)
    (h : route.endpoint.PassesOn rules r idx v) :
    (serve rules r idx route.endpoint).Heeds (Attributed rules (.respond r)) := by
  obtain ⟨method, path, htarget, body, -, hserve⟩ := h
  refine heeds_of_passesOn (attributed_letsLook rules (.respond r)) (fun _ _ => trivial)
    (fun _ => trivial) hserve fun start past b hleads => ?_
  obtain ⟨c, hc, hb⟩ := exists_config_of_leads_choose hleads
  exact .inl ⟨c, hc, .sends hroute htarget hb _ _⟩

theorem attributed_tryConnection (hroute : Route.ofPath? r.path = some route)
    (hverify : route.endpoint = .verify) :
    (tryConnection r).Heeds (Attributed rules (.respond r)) := by
  refine Attempt.heeds_attempt_bind fun v hv => ?_
  refine Attempt.heeds_attempt_bind fun form hform past => ?_
  have hdecode : VerifyForm.decode v = .ok form := by
    cases hdecode : VerifyForm.decode v with
    | error cause =>
        rw [hdecode] at hform
        exact nomatch hform
    | ok found =>
        rw [hdecode] at hform
        exact congrArg _ (Except.ok.inj hform)
  have htries : Attributed rules (.respond r) past
      (.exchange [reading (trialUrl form.url) (nonEmpty form.key) []]) :=
    .inr ⟨r, route, v, form, rfl, hroute, hverify, hv, hdecode, rfl⟩
  exact Attempt.ensures_bind_of_heeds (ensures_verify htries) fun _ => Attempt.heeds_pure _

theorem attributed_serve (hroute : Route.ofPath? r.path = some route)
    (hindex : route.index = .ok idx) :
    (serve rules r idx route.endpoint).Heeds (Attributed rules (.respond r)) := by
  have hlook := attributed_letsLook rules (.respond r)
  by_cases htakes : route.endpoint.Takes r
  · by_cases htarget : route.endpoint.target? = none
    · generalize he : route.endpoint = e at htarget
      cases e with
      | status => exact Attempt.heeds_pure _
      | config =>
          exact Attempt.heeds_bind (Attempt.heeds_lift (heeds_config hlook.config)) fun _ =>
            Attempt.heeds_pure _
      | loaded =>
          exact Attempt.heeds_bind (Attempt.heeds_lift attributed_loadedModels) fun _ =>
            Attempt.heeds_pure _
      | configUpdate => exact heeds_changeConfig (fun _ _ => trivial) (fun _ => trivial) r
      | verify => exact attributed_tryConnection hroute he
      | tags =>
          cases idx with
          | none =>
              exact Attempt.heeds_bind (Attempt.heeds_lift (heeds_allModels hlook)) fun _ =>
                Attempt.heeds_pure _
          | some i => exact attributed_fetch hroute (position_ne_none_of_index hindex) (.inr rfl)
      | version =>
          cases idx with
          | none => exact Attempt.heeds_bind attributed_lowestVersion fun _ => Attempt.heeds_pure _
          | some i =>
              refine Attempt.heeds_bind (Attempt.heeds_lift (heeds_config hlook.config)) fun c => ?_
              split
              · exact attributed_fetch hroute (position_ne_none_of_index hindex) (.inl rfl)
              · exact Attempt.heeds_pure _
      | _ => cases htarget
    · obtain ⟨v, -, -, hpasses⟩ := exists_passesOn_of_takes rules idx htarget htakes
      exact attributed_passesOn hroute hpasses
  · obtain ⟨text, hthrow⟩ := exists_serve_eq_throw rules idx htakes
    rw [hthrow]
    exact Attempt.heeds_throw _

/-- Every job calls backends of configurations that it has read, with what belongs to them. -/
theorem attributed_job (rules : Rules) (job : Job) :
    (job.task rules).Heeds (Attributed rules job) := by
  have hlook := attributed_letsLook rules job
  cases job with
  | respond r =>
      exact heeds_respond_of_serve fun route hroute _ idx hindex => attributed_serve hroute hindex
  | refresh => exact hlook.refresh
  | update form => exact Task.heeds_perform fun _ => trivial
  | select model => exact heeds_select_of_permits hlook fun _ => trivial

end Requests

/-- What a thread called belongs to a backend of a configuration that it had read, or tries a
connection. -/
theorem System.Follows.attributed {rules : Rules} {s : System} (h : s.Follows rules) {i : Nat}
    {thread : Thread} (hthread : s.threads[i]? = some thread) {calls : List Call}
    (hsent : .sent calls ∈ s.log.past i) :
    (∃ c, .did .config c ∈ s.log.past i ∧ Addressed rules c thread.job calls) ∨
      Tries thread.job calls := by
  obtain ⟨before, hsuffix, ⟨c, hc, haddressed⟩ | htries⟩ :=
    (h.heeded hthread (attributed_job rules thread.job)).exists_of_sent hsent
  · exact .inl ⟨c, hsuffix.mem (List.mem_cons_of_mem _ hc), haddressed⟩
  · exact .inr htries

theorem plain_of_addressed {rules : Rules} {c : RunnerConfig} {job : Job} {calls : List Call}
    (h : Addressed rules c job calls) {call : Call} (hcall : call ∈ calls) {header : Header}
    (hheader : header ∈ call.headers) : header.name ≠ authorization := by
  cases h with
  | lists =>
      obtain ⟨b, -, rfl⟩ := List.mem_map.1 hcall
      exact nomatch hheader
  | asks hroute hposition hb path hheaders =>
      obtain rfl := List.mem_singleton.1 hcall
      rcases hheaders with rfl | rfl
      · exact nomatch hheader
      · exact name_ne_of_mem_forwarded hheader
  | sends hroute htarget hb payload chat =>
      obtain rfl := List.mem_singleton.1 hcall
      exact name_ne_of_mem_forwarded hheader

/-! ## Histories that differ in other headers -/

/-- The thread without the request that it answers. -/
def Thread.anonymous : Thread → Thread
  | ⟨.respond _, progress⟩ => ⟨.respond { method := "", path := "" }, progress⟩
  | thread => thread

/-- The system without the requests that its threads answer. -/
def System.anonymous (s : System) : System :=
  { s with threads := s.threads.map Thread.anonymous }

/-- The events are the same, but for headers that are not passed on. -/
inductive Event.Alike (rules : Rules) : Event → Event → Prop
  | same (event : Event) : Alike rules event event
  | begins {r : Request} {headers : Headers} (hagree : AgreesOn rules r headers)
      (hpasses : PassesChecks rules r) (hpasses' : PassesChecks rules { r with headers }) :
      Alike rules (.begins (.respond r)) (.begins (.respond { r with headers }))

namespace System

variable {rules : Rules} {s s' : System} {event event' : Event}

theorem anonymous_advance (s : System) (i : Nat) (thread : Thread) (act : Act) (state : State) :
    (s.advance i thread act state).anonymous =
      s.anonymous.advance i thread.anonymous act state := by
  simp only [anonymous, advance, List.map_set]

theorem anonymous_move (s : System) (i : Nat) (thread : Thread) :
    (s.move rules i thread).anonymous = s.anonymous.move rules i thread.anonymous := by
  obtain ⟨job, progress⟩ := thread
  cases job <;> cases progress with
  | waiting calls next => rfl
  | going rest =>
      cases rest with
      | done a => rfl
      | step op next => cases op <;> exact anonymous_advance s i _ _ _

theorem anonymous_answer (s : System) (i : Nat) (outcomes : List Outcome) (thread : Thread) :
    (s.answer i outcomes thread).anonymous = s.anonymous.answer i outcomes thread.anonymous := by
  obtain ⟨job, progress⟩ := thread
  cases job <;> cases progress with
  | going rest => rfl
  | waiting calls next =>
      simp only [answer, Thread.anonymous]
      split
      · exact anonymous_advance s i _ _ _
      · rfl

theorem anonymous_begins (s : System) (job : Job) :
    (s.step rules (.begins job)).anonymous =
      { s.anonymous with
        threads := s.anonymous.threads ++ [Thread.anonymous ⟨job, .going (job.task rules)⟩] } := by
  simp only [step, anonymous, List.map_append, List.map_cons, List.map_nil]

/-- Threads go on without regard to the requests that they answer. -/
theorem anonymous_step_of_ne (hevent : ∀ job, event ≠ .begins job) (s : System) :
    (s.step rules event).anonymous = s.anonymous.step rules event := by
  have hthread (i : Nat) :
      s.anonymous.threads[i]? = (s.threads[i]?).map Thread.anonymous := List.getElem?_map
  cases event with
  | begins job => exact absurd rfl (hevent job)
  | moves i =>
      rw [step, step, hthread]
      cases s.threads[i]? with
      | none => rfl
      | some thread => exact anonymous_move s i thread
  | answered i outcomes =>
      rw [step, step, hthread]
      cases s.threads[i]? with
      | none => rfl
      | some thread => exact anonymous_answer s i outcomes thread
  | passes ms => rfl
  | closes => rfl

theorem anonymous_step (h : s'.anonymous = s.anonymous) (halike : event.Alike rules event') :
    (s'.step rules event').anonymous = (s.step rules event).anonymous := by
  cases halike with
  | same =>
      by_cases hevent : ∃ job, event = .begins job
      · obtain ⟨job, rfl⟩ := hevent
        rw [anonymous_begins, anonymous_begins, h]
      · have hne : ∀ job, event ≠ .begins job := fun job heq => hevent ⟨job, heq⟩
        rw [anonymous_step_of_ne hne, anonymous_step_of_ne hne, h]
  | @begins r headers hagree hpasses hpasses' =>
      have hrespond := respond_eq_of_agree hagree hpasses hpasses'
      have hthread : Thread.anonymous ⟨.respond { r with headers }, .going
            (Job.task rules (.respond { r with headers }))⟩ =
          Thread.anonymous ⟨.respond r, .going (Job.task rules (.respond r))⟩ := by
        simp only [Thread.anonymous, Job.task, hrespond]
        rfl
      rw [anonymous_begins, anonymous_begins, h, hthread]

theorem anonymous_run {events events' : List Event} (h : s'.anonymous = s.anonymous)
    (halike : List.Forall₂ (Event.Alike rules) events events') :
    (s'.run rules events').anonymous = (s.run rules events).anonymous := by
  induction halike generalizing s s' with
  | nil => exact h
  | cons hevent hrest ih => exact ih (anonymous_step h hevent)

end System

/-- Headers of a client that are not passed on never reach a backend.  Requests that differ in
nothing else, and pass the checks, are answered by one task; so histories that differ in such
requests only have the same calls, the same state and the same answers.  All that a thread calls
belongs to a backend of a configuration that it has read, or stands in the body of its request to
try a connection, and a call is authorized by nothing but its URL and its key. -/
theorem private_headers_stay_private (rules : Rules) (seed : RunnerConfig)
    (store : Option Store) :
    (∀ r headers, AgreesOn rules r headers → PassesChecks rules r →
      PassesChecks rules { r with headers } →
        respond rules { r with headers } = respond rules r) ∧
    (∀ events events', List.Forall₂ (Event.Alike rules) events events' →
      ((System.start seed store).run rules events').anonymous =
        ((System.start seed store).run rules events).anonymous) ∧
    ∀ events i thread calls,
      let s := (System.start seed store).run rules events
      s.threads[i]? = some thread → .sent calls ∈ s.log.past i →
        ((∃ c, .did .config c ∈ s.log.past i ∧ Addressed rules c thread.job calls) ∨
          Tries thread.job calls) ∧
        ∀ call ∈ calls, ∀ w, call.request? = some w →
          w.headers.filter (fun h => h.name = authorization) = call.credentials := by
  refine ⟨fun r headers => respond_eq_of_agree, fun events events' => System.anonymous_run rfl, ?_⟩
  intro events i thread calls s hthread hsent
  have hattributed := (System.follows_run rules seed store events).attributed hthread hsent
  refine ⟨hattributed, fun call hcall w hw => ?_⟩
  rcases hattributed with ⟨c, -, haddressed⟩ | ⟨r, route, v, form, -, -, -, -, -, rfl⟩
  · exact Call.filter_headers_of_request? (fun _ => plain_of_addressed haddressed hcall) hw
  · obtain rfl := List.mem_singleton.1 hcall
    exact Call.filter_headers_of_request? nofun hw

/-- A request for the list of the backend at position 0. -/
def askingAtZero (headers : Headers) : Request where
  method := "GET"
  path := "/api/tags/0"
  headers := headers

/-- The headers of a user who has a key for the gateway. -/
def keyedHeaders : Headers :=
  [.ofText "Authorization" "Bearer root", .ofText "X-OpenWebUI-User-Id" "7"]

/-- The headers of a user who has none. -/
def keylessHeaders : Headers :=
  [.ofText "Cookie" "token=root", .ofText "X-OpenWebUI-User-Id" "7"]

/-- A backend whose URL has a password, and which has a key as well. -/
def keyedBackend : RunnerConfig where
  baseUrls := ["http://u:p@a"]
  apiConfigs := [("0", { key := some "k" })]

/-- Either request makes the gateway send the same calls, with its own password and its own key. -/
theorem private_headers_stay_private_at_zero :
    let rules : Rules := { forwardsUser := true }
    let after (headers : Headers) : System := (System.start keyedBackend none).run rules
      [.begins (.respond (askingAtZero headers)), .moves 0, .moves 0]
    (after keylessHeaders).anonymous = (after keyedHeaders).anonymous ∧
      ∃ call w, .sent [call] ∈ (after keyedHeaders).log.past 0 ∧ call.request? = some w ∧
        w.headers.map Header.name =
          ["authorization", "content-type", "x-openwebui-user-id", "authorization"] ∧
        w.headers.filter (fun h => h.name = authorization) =
          [.ofText "Authorization" "Basic dTpw", .ofText "Authorization" "Bearer k"] := by
  intro rules after
  obtain ⟨-, hruns, hsent⟩ := private_headers_stay_private rules keyedBackend none
  have hpasses (headers : Headers) : PassesChecks rules (askingAtZero headers) := by
    intro route hroute
    have htags : Route.ofPath? (askingAtZero headers).path = some ⟨.tags, some ['0']⟩ := by
      change Route.ofPath? "/api/tags/0" = _
      decide +kernel
    obtain rfl := Option.some.inj (htags.symm.trans hroute)
    exact ⟨rfl, nofun⟩
  have hagree : AgreesOn rules (askingAtZero keyedHeaders) keylessHeaders := fun _ => by
    decide +kernel
  have hbegins : Event.Alike rules (.begins (.respond (askingAtZero keyedHeaders)))
      (.begins (.respond (askingAtZero keylessHeaders))) :=
    .begins hagree (hpasses keyedHeaders) (hpasses keylessHeaders)
  refine ⟨hruns _ _ (.cons hbegins (.cons (.same _) (.cons (.same _) .nil))), ?_⟩
  have hfound : (((after keyedHeaders).threads[0]?).bind Thread.sole?).bind
      (fun found => found.2.request?.map fun w =>
        (w.headers.map Header.name, found.2.credentials)) =
      some (["authorization", "content-type", "x-openwebui-user-id", "authorization"],
        [.ofText "Authorization" "Basic dTpw", .ofText "Authorization" "Bearer k"]) := by
    decide +kernel
  obtain ⟨⟨r, call⟩, hwaits, hrequest⟩ := Option.bind_eq_some_iff.1 hfound
  obtain ⟨w, hw, hheaders⟩ := Option.map_eq_some_iff.1 hrequest
  obtain ⟨hnames, hcredentials⟩ := Prod.mk.inj hheaders
  obtain ⟨thread, hthread, hsole⟩ := Option.bind_eq_some_iff.1 hwaits
  obtain ⟨next, rfl⟩ := exists_of_sole? hsole
  have hcall : .sent [call] ∈ (after keyedHeaders).log.past 0 :=
    (System.follows_run rules keyedBackend none _).sent_of_waiting hthread
  obtain ⟨-, hauthorized⟩ := hsent _ 0 _ [call] hthread hcall
  refine ⟨call, w, hcall, hw, hnames, ?_⟩
  rw [hauthorized call List.mem_cons_self w hw, hcredentials]

end Gateway
end RunnerGateway
