import RunnerGateway.Proofs.Discipline

/-!
# The conduct of all jobs

Every job is put together from few operations, and which of them it needs depends on what is asked
for.  `Discipline.LetsServe` lists what a discipline has to allow so that an endpoint keeps to it;
from there it goes up to whole requests, of which only those count that are admitted, and to jobs.

Most disciplines concern nothing but how a new catalogue is kept.  If such a discipline is open to
all other operations, and the task that makes a new catalogue keeps to it, then so does every job.
-/

namespace RunnerGateway
namespace Gateway

open Exchange Http

/-! ## What endpoints need -/

namespace Endpoint

/-- What is done at a backend for an endpoint that passes bodies on, and at which path. -/
def target? : Endpoint → Option (Method × String)
  | .chat => some (.post, "/api/chat")
  | .generate => some (.post, "/api/generate")
  | .embed => some (.post, "/api/embed")
  | .embeddings => some (.post, "/api/embeddings")
  | .describe => some (.post, "/api/show")
  | .pull => some (.post, "/api/pull")
  | .delete => some (.delete, "/api/delete")
  | _ => none

/-- The backend for a request is one whose turn it is. -/
def takesTurn (idx : Option Nat) : Endpoint → Bool
  | .describe => true
  | .chat | .generate | .embed | .embeddings => idx.isNone
  | _ => false

end Endpoint

/-- The operation asks for something, or keeps the catalogue that was asked for. -/
def Op.Asks : Op → Prop
  | .config | .cached | .generation | .routed _ | .publish _ _ => True
  | .exchange calls => ∀ c ∈ calls, c.method = .get
  | _ => False

namespace Discipline

/-- The operation is allowed at any time. -/
def Permits (allowed : Discipline) (op : Op) : Prop :=
  ∀ past, allowed past op

/-- Every operation but keeping a catalogue is allowed at any time. -/
def IsOpen (allowed : Discipline) : Prop :=
  ∀ past op, (∀ g models, op ≠ .publish g models) → allowed past op

/-- What is needed to ask backends for something. -/
structure LetsFetch (allowed : Discipline) : Prop where
  config : allowed.Permits .config
  asking : ∀ calls, (∀ c ∈ calls, c.method = .get) → allowed.Permits (.exchange calls)

/-- What every endpoint may need: asking backends, and the catalogue. -/
structure LetsAsk (allowed : Discipline) : Prop extends allowed.LetsFetch where
  cached : allowed.Permits .cached
  routed : ∀ model, allowed.Permits (.routed model)
  refresh : Task.Heeds allowed refresh

/-- What is needed to look a model up: the configuration and the catalogue, and making a new one. -/
structure LetsLook (allowed : Discipline) : Prop where
  config : allowed.Permits .config
  cached : allowed.Permits .cached
  routed : ∀ model, allowed.Permits (.routed model)
  refresh : Task.Heeds allowed refresh

theorem LetsAsk.toLetsLook {allowed : Discipline} (h : allowed.LetsAsk) : allowed.LetsLook where
  config := h.config
  cached := h.cached
  routed := h.routed
  refresh := h.refresh

/-- What one endpoint needs beyond that, for a request with the position `idx`. -/
structure LetsServe (allowed : Discipline) (e : Endpoint) (idx : Option Nat) : Prop
    extends allowed.LetsAsk where
  select : e.takesTurn idx = true → ∀ model, Attempt.Heeds allowed (select model)
  sending : ∀ method path, e.target? = some (method, path) → ∀ (b : Backend) payload key headers,
    allowed.Permits (.exchange [sending method (b.endpoint path) payload key headers])
  configure : e = .configUpdate → ∀ form, allowed.Permits (.configure form)
  invalidate : e = .configUpdate ∨ e = .delete → allowed.Permits .invalidate

end Discipline

section Conduct

variable {allowed : Discipline}

/-! ## Asking backends -/

section Sending

variable {past : List Act} {c : Call} {url : String} {payload : Json} {key : Option String}
  {headers : Headers}

theorem ensures_call (h : allowed past (.exchange [c])) :
    (Task.call c).Ensures allowed past fun _ _ => True := by
  refine Task.ensures_bind_iff.2 ⟨h, fun outcomes _ => ?_⟩
  cases (outcomes : List Outcome) with
  | nil => trivial
  | cons outcome outcomes => trivial

/-- What is made of the outcome of a call needs nothing more. -/
theorem ensures_call_bind {α : Type} {f : Outcome → Attempt α} (h : allowed past (.exchange [c]))
    (hf : ∀ outcome, (f outcome).Heeds allowed) :
    (monadLift (Task.call c) >>= f).run.Ensures allowed past fun _ _ => True := by
  have hlift : (monadLift (Task.call c) : Attempt Outcome).run.Ensures allowed past
      fun _ _ => True := Task.ensures_bind_iff.2 ((ensures_call h).mono fun _ _ _ => trivial)
  exact Attempt.ensures_bind_of_heeds hlift hf

theorem ensures_send (h : allowed past (.exchange [c])) :
    (send c).run.Ensures allowed past fun _ _ => True :=
  ensures_call_bind h fun _ => Attempt.heeds_attempt _

theorem ensures_fetch (h : allowed past (.exchange [reading url key headers])) :
    (fetch url key headers).run.Ensures allowed past fun _ _ => True :=
  ensures_call_bind h fun _ => Attempt.heeds_attempt _

theorem ensures_verify (h : allowed past (.exchange [reading (trialUrl url) key []])) :
    (verify url key).run.Ensures allowed past fun _ _ => True :=
  ensures_call_bind h fun _ => Attempt.heeds_attempt _

theorem ensures_postJson (h : allowed past (.exchange [sending .post url payload key headers])) :
    (postJson url payload key headers).run.Ensures allowed past fun _ _ => True :=
  Attempt.ensures_bind_of_heeds (ensures_send h) fun _ => Attempt.heeds_attempt _

theorem ensures_postStream (h : allowed past (.exchange [sending .post url payload key headers]))
    (mediaType : Option String) :
    (postStream url payload key headers mediaType).run.Ensures allowed past fun _ _ => True :=
  Attempt.ensures_bind_of_heeds (ensures_send h) fun _ => Attempt.heeds_pure _

end Sending

/-! ## Calls that are allowed at any time -/

theorem heeds_send {c : Call} (h : allowed.Permits (.exchange [c])) : (send c).Heeds allowed :=
  fun past => ensures_send (h past)

theorem heeds_postJson {url : String} {payload : Json} {key : Option String} {headers : Headers}
    (h : allowed.Permits (.exchange [sending .post url payload key headers])) :
    (postJson url payload key headers).Heeds allowed :=
  fun past => ensures_postJson (h past)

theorem heeds_postStream {url : String} {payload : Json} {key : Option String} {headers : Headers}
    (h : allowed.Permits (.exchange [sending .post url payload key headers]))
    (mediaType : Option String) : (postStream url payload key headers mediaType).Heeds allowed :=
  fun past => ensures_postStream (h past) mediaType

theorem heeds_sendDelete {url : String} {payload : Json} {key : Option String} {headers : Headers}
    (h : allowed.Permits (.exchange [sending .delete url payload key headers])) :
    (sendDelete url payload key headers).Heeds allowed :=
  Attempt.heeds_bind (heeds_send h) fun _ => Attempt.heeds_pure _

theorem method_of_mem_listingCalls {path : String} {bs : List Backend} {c : Call}
    (hc : c ∈ bs.map (listingCall path)) : c.method = .get := by
  obtain ⟨b, -, rfl⟩ := List.mem_map.1 hc
  rfl

theorem heeds_config (h : allowed.Permits .config) : Task.config.Heeds allowed :=
  Task.heeds_perform h

theorem heeds_backendAt (h : allowed.Permits .config) (idx : Nat) :
    (backendAt idx).Heeds allowed := by
  apply Attempt.heeds_bind (Attempt.heeds_lift (heeds_config h))
  intro c
  split
  · exact Attempt.heeds_pure _
  · exact Attempt.heeds_throw _

section Fetching

variable (h : allowed.LetsFetch)

include h

theorem heeds_fetch (url : String) (key : Option String) (headers : Headers) :
    (fetch url key headers).Heeds allowed :=
  fun past => ensures_fetch (h.asking _ (List.forall_mem_singleton.2 rfl) past)

theorem heeds_verify (url : String) (key : Option String) : (verify url key).Heeds allowed :=
  fun past => ensures_verify (h.asking _ (List.forall_mem_singleton.2 rfl) past)

theorem heeds_listing (path : String) (bs : List Backend) :
    (Task.exchange (bs.map (listingCall path))).Heeds allowed :=
  Task.heeds_perform (h.asking _ fun _ hc => method_of_mem_listingCalls hc)

/-! ## Models -/

theorem heeds_reports (c : RunnerConfig) (path : String) : (reports c path).Heeds allowed :=
  Task.heeds_bind (heeds_listing h path _) fun _ => Task.heeds_pure _

theorem heeds_fetchLoaded (c : RunnerConfig) : (fetchLoaded c).Heeds allowed := by
  unfold fetchLoaded
  split
  · exact Task.heeds_bind (heeds_reports h c _) fun _ => Task.heeds_pure _
  · exact Task.heeds_pure _

theorem heeds_loadedModels : loadedModels.Heeds allowed :=
  Task.heeds_bind (heeds_config h.config) fun c => heeds_fetchLoaded h c

theorem heeds_lowestVersion : lowestVersion.Heeds allowed := by
  apply Attempt.heeds_bind (Attempt.heeds_lift (heeds_config h.config))
  intro c
  split
  · apply Attempt.heeds_bind (Attempt.heeds_lift (heeds_listing h _ _))
    intro outcomes
    split
    · exact Attempt.heeds_pure _
    · exact Attempt.heeds_throw _
  · exact Attempt.heeds_pure _

theorem heeds_fetchModels : fetchModels.Heeds allowed := by
  apply Task.heeds_bind (heeds_config h.config)
  intro c
  split
  · apply Task.heeds_bind (heeds_reports h c _)
    intro reported
    exact Task.heeds_bind (heeds_fetchLoaded h c) fun _ => Task.heeds_pure _
  · exact Task.heeds_pure _

end Fetching

/-- Where a list may be kept at any time, a new catalogue may be made. -/
theorem heeds_refreshWithin (hfetch : fetchModels.Heeds allowed)
    (hgeneration : allowed.Permits .generation)
    (hpublish : ∀ g models, allowed.Permits (.publish g models)) (more : Nat) :
    (refreshWithin more).Heeds allowed := by
  have hattempt (next : List ModelEntry → Task (List ModelEntry))
      (hnext : ∀ models, (next models).Heeds allowed) :
      (Task.generation >>= fun g => fetchModels >>= fun models =>
        Task.publish g models >>= fun kept =>
          if kept then pure models else next models).Heeds allowed := by
    apply Task.heeds_bind (Task.heeds_perform hgeneration)
    intro g
    apply Task.heeds_bind hfetch
    intro models
    apply Task.heeds_bind (Task.heeds_perform (hpublish g models))
    intro kept
    split
    · exact Task.heeds_pure _
    · exact hnext models
  induction more with
  | zero => exact hattempt pure fun _ => Task.heeds_pure _
  | succ more ih => exact hattempt (fun _ => refreshWithin more) fun _ => ih

/-- Where one may ask at any time, every endpoint may ask. -/
theorem letsAsk_of_permits (h : ∀ op : Op, op.Asks → allowed.Permits op) : allowed.LetsAsk := by
  have hfetch : allowed.LetsFetch :=
    { config := h .config trivial
      asking := fun calls hcalls => h (.exchange calls) hcalls }
  exact
    { toLetsFetch := hfetch
      cached := h .cached trivial
      routed := fun model => h (.routed model) trivial
      refresh := heeds_refreshWithin (heeds_fetchModels hfetch) (h .generation trivial)
        (fun g models => h (.publish g models) trivial) 2 }

section Looking

variable (h : allowed.LetsLook)

include h

theorem heeds_allModels : allModels.Heeds allowed := by
  apply Task.heeds_bind (Task.heeds_perform h.cached)
  intro models
  split
  · exact Task.heeds_pure _
  · exact h.refresh

theorem heeds_lookup (model : String) : (lookup model).Heeds allowed := by
  apply Task.heeds_bind (Task.heeds_perform (h.routed model))
  intro entry
  split
  · exact Task.heeds_pure _
  · exact Task.heeds_bind (heeds_allModels h) fun _ => Task.heeds_pure _

/-! ## Choosing a backend -/

theorem heeds_candidates (model : String) : (candidates model).Heeds allowed := by
  refine Attempt.heeds_bind (Attempt.heeds_lift (heeds_lookup h model)) fun entry => ?_
  split
  · exact Attempt.heeds_throw _
  · exact Attempt.heeds_bind (Attempt.heeds_lift (heeds_config h.config)) fun _ =>
      Attempt.heeds_pure _

/-- Where turns may be taken at any time, a backend may be chosen by turns. -/
theorem heeds_select_of_permits {model : String} (hturn : allowed.Permits (.turn model)) :
    (select model).Heeds allowed := by
  apply Attempt.heeds_bind (heeds_candidates h model)
  intro serving
  split
  · exact Attempt.heeds_throw _
  · exact Attempt.heeds_bind (Attempt.heeds_lift (Task.heeds_perform hturn)) fun _ =>
      Attempt.heeds_pure _

theorem heeds_firstServing (model : String) : (firstServing model).Heeds allowed := by
  apply Attempt.heeds_bind (heeds_candidates h model)
  intro serving
  split
  · exact Attempt.heeds_throw _
  · exact Attempt.heeds_pure _

theorem heeds_resolve {idx : Option Nat}
    (hselect : idx = none → ∀ model, (select model).Heeds allowed) (model : String) :
    (resolve model idx).Heeds allowed := by
  cases idx with
  | some idx => exact heeds_backendAt h.config idx
  | none => exact hselect rfl model

theorem heeds_deletion (named : String) (idx : Option Nat) :
    (deletion named idx).Heeds allowed := by
  cases idx with
  | some idx =>
      exact Attempt.heeds_bind (heeds_backendAt h.config idx) fun _ => Attempt.heeds_pure _
  | none =>
      exact Attempt.heeds_bind (heeds_firstServing h _) fun _ => Attempt.heeds_pure _

end Looking

/-! ## Handlers that only ask -/

section Asking

variable (h : allowed.LetsAsk)

include h

theorem heeds_tags (rules : Rules) (r : Request) (idx : Option Nat) :
    (tags rules r idx).Heeds allowed := by
  cases idx with
  | none =>
      exact Attempt.heeds_bind (Attempt.heeds_lift (heeds_allModels h.toLetsLook)) fun _ =>
        Attempt.heeds_pure _
  | some idx =>
      apply Attempt.heeds_bind (heeds_backendAt h.config idx)
      intro b
      exact Attempt.heeds_bind (heeds_fetch h.toLetsFetch _ _ _) fun _ => Attempt.heeds_pure _

theorem heeds_version (idx : Option Nat) : (version idx).Heeds allowed := by
  cases idx with
  | none =>
      exact Attempt.heeds_bind (heeds_lowestVersion h.toLetsFetch) fun _ => Attempt.heeds_pure _
  | some idx =>
      apply Attempt.heeds_bind (Attempt.heeds_lift (heeds_config h.config))
      intro c
      split
      · apply Attempt.heeds_bind (heeds_backendAt h.config idx)
        intro b
        exact Attempt.heeds_bind (heeds_fetch h.toLetsFetch _ _ _) fun _ => Attempt.heeds_pure _
      · exact Attempt.heeds_pure _

theorem heeds_tryConnection (r : Request) : (tryConnection r).Heeds allowed := by
  apply Attempt.heeds_bind (Attempt.heeds_attempt _)
  intro v
  apply Attempt.heeds_bind (Attempt.heeds_attempt _)
  intro form
  exact Attempt.heeds_bind (heeds_verify h.toLetsFetch _ _) fun _ => Attempt.heeds_pure _

end Asking

/-! ## Handlers that pass bodies on -/

theorem heeds_complete {idx : Option Nat} {c : Completion}
    (hresolve : ∀ model, (resolve model idx).Heeds allowed)
    (hsend : ∀ (b : Backend) payload key headers,
      allowed.Permits (.exchange [sending .post (b.endpoint c.path) payload key headers]))
    (rules : Rules) (r : Request) : (complete rules r idx c).Heeds allowed := by
  apply Attempt.heeds_bind (hresolve _)
  intro b
  split
  · exact heeds_postStream (hsend _ _ _ _) _
  · exact Attempt.heeds_bind (heeds_postJson (hsend _ _ _ _)) fun _ => Attempt.heeds_pure _

theorem heeds_embed {idx : Option Nat} {path : String}
    (hresolve : ∀ model, (resolve model idx).Heeds allowed)
    (hsend : ∀ (b : Backend) payload key headers,
      allowed.Permits (.exchange [sending .post (b.endpoint path) payload key headers]))
    (rules : Rules) (r : Request) : (embed rules r idx path).Heeds allowed := by
  apply Attempt.heeds_bind (Attempt.heeds_attempt _)
  intro form
  apply Attempt.heeds_bind (hresolve _)
  intro b
  exact Attempt.heeds_bind (heeds_postJson (hsend _ _ _ _)) fun _ => Attempt.heeds_pure _

theorem heeds_describe {idx : Option Nat} (h : allowed.LetsServe .describe idx) (rules : Rules)
    (r : Request) : (describe rules r).Heeds allowed := by
  apply Attempt.heeds_bind (Attempt.heeds_attempt _)
  intro form
  apply Attempt.heeds_bind (Attempt.heeds_attempt _)
  intro named
  apply Attempt.heeds_bind (h.select rfl _)
  intro b
  have hsend := h.sending _ _ rfl b
  exact Attempt.heeds_bind (heeds_postJson (hsend _ _ _)) fun _ => Attempt.heeds_pure _

theorem heeds_pull {idx : Option Nat} (h : allowed.LetsServe .pull idx) (rules : Rules)
    (r : Request) : (pull rules r idx).Heeds allowed := by
  apply Attempt.heeds_bind (Attempt.heeds_attempt _)
  intro form
  apply Attempt.heeds_bind (heeds_backendAt h.config _)
  intro b
  exact heeds_postStream (h.sending _ _ rfl b _ _ _) _

theorem heeds_delete {idx : Option Nat} (h : allowed.LetsServe .delete idx) (rules : Rules)
    (r : Request) : (delete rules r idx).Heeds allowed := by
  apply Attempt.heeds_bind (Attempt.heeds_attempt _)
  intro form
  apply Attempt.heeds_bind (Attempt.heeds_attempt _)
  intro named
  apply Attempt.heeds_bind (heeds_deletion h.toLetsAsk.toLetsLook _ idx)
  intro chosen
  apply Attempt.heeds_bind (heeds_sendDelete (h.sending _ _ rfl chosen.2 _ _ _))
  intro _
  have hinvalidate : Task.invalidate.Heeds allowed :=
    Task.heeds_perform (h.invalidate (.inr rfl))
  exact Attempt.heeds_bind (Attempt.heeds_lift hinvalidate) fun _ => Attempt.heeds_pure _

theorem heeds_changeConfig (hconfigure : ∀ form, allowed.Permits (.configure form))
    (hinvalidate : allowed.Permits .invalidate) (r : Request) : (changeConfig r).Heeds allowed := by
  apply Attempt.heeds_bind (Attempt.heeds_attempt _)
  intro v
  apply Attempt.heeds_bind (Attempt.heeds_attempt _)
  intro form
  apply Attempt.heeds_bind (Attempt.heeds_mk (Task.heeds_perform (hconfigure form)))
  intro config
  have hthrown : Task.invalidate.Heeds allowed := Task.heeds_perform hinvalidate
  exact Attempt.heeds_bind (Attempt.heeds_lift hthrown) fun _ => Attempt.heeds_pure _

/-! ## Requests -/

theorem heeds_serve {e : Endpoint} {idx : Option Nat} (h : allowed.LetsServe e idx)
    (rules : Rules) (r : Request) : (serve rules r idx e).Heeds allowed := by
  have hask : allowed.LetsAsk := h.toLetsAsk
  -- The four endpoints that take turns unless there is a position.
  have hresolve (hturn : ∀ i : Option Nat, e.takesTurn i = i.isNone) (model : String) :
      (resolve model idx).Heeds allowed := by
    refine heeds_resolve hask.toLetsLook (fun hidx => h.select ?_) model
    rw [hturn, hidx]
    rfl
  cases e with
  | status => exact Attempt.heeds_pure _
  | version => exact heeds_version hask idx
  | tags => exact heeds_tags hask rules r idx
  | describe => exact heeds_describe h rules r
  | chat =>
      refine Attempt.heeds_bind (Attempt.heeds_attempt _) fun f => ?_
      exact heeds_complete (hresolve fun _ => rfl) (h.sending _ _ rfl) rules r
  | generate =>
      refine Attempt.heeds_bind (Attempt.heeds_attempt _) fun f => ?_
      exact heeds_complete (hresolve fun _ => rfl) (h.sending _ _ rfl) rules r
  | embed => exact heeds_embed (hresolve fun _ => rfl) (h.sending _ _ rfl) rules r
  | embeddings => exact heeds_embed (hresolve fun _ => rfl) (h.sending _ _ rfl) rules r
  | verify => exact heeds_tryConnection hask r
  | config =>
      exact Attempt.heeds_bind (Attempt.heeds_lift (heeds_config hask.config)) fun _ =>
        Attempt.heeds_pure _
  | configUpdate => exact heeds_changeConfig (h.configure rfl) (h.invalidate (.inl rfl)) r
  | loaded =>
      exact Attempt.heeds_bind (Attempt.heeds_lift (heeds_loadedModels hask.toLetsFetch)) fun _ =>
        Attempt.heeds_pure _
  | pull => exact heeds_pull h rules r
  | delete => exact heeds_delete h rules r

theorem heeds_respondOn {rules : Rules} {r : Request} {route : Route}
    (h : route.endpoint.audience.admit rules.keys r.headers = .ok () →
      ∀ idx, route.index = .ok idx → (serve rules r idx route.endpoint).Heeds allowed) :
    (respondOn rules r route).Heeds allowed := by
  unfold respondOn
  split
  · exact Task.heeds_pure _
  · rename_i hadmitted
    cases hknown : route.endpoint.methods.contains r.method with
    | false => exact Task.heeds_pure _
    | true =>
        refine Task.heeds_bind ?_ fun result => ?_
        · exact Attempt.heeds_attempt_bind fun idx hidx => h hadmitted idx hidx
        · split <;> exact Task.heeds_pure _

/-- A request keeps to what its endpoint keeps to, if it is admitted. -/
theorem heeds_respond_of_serve {rules : Rules} {r : Request}
    (h : ∀ route, Route.ofPath? r.path = some route →
      route.endpoint.audience.admit rules.keys r.headers = .ok () →
        ∀ idx, route.index = .ok idx → (serve rules r idx route.endpoint).Heeds allowed) :
    (respond rules r).Heeds allowed := by
  cases hroute : Route.ofPath? r.path with
  | none =>
      simp only [respond, hroute]
      exact Task.heeds_bind (Task.heeds_pure _) fun _ => Task.heeds_pure _
  | some route =>
      simp only [respond, hroute]
      exact Task.heeds_bind (heeds_respondOn (h route hroute)) fun _ => Task.heeds_pure _

/-- A request keeps to a discipline that lets the endpoint of its route be served, if it is
admitted. -/
theorem heeds_respond {rules : Rules} {r : Request}
    (h : ∀ route, Route.ofPath? r.path = some route →
      route.endpoint.audience.admit rules.keys r.headers = .ok () →
        ∀ idx, route.index = .ok idx → allowed.LetsServe route.endpoint idx) :
    (respond rules r).Heeds allowed :=
  heeds_respond_of_serve fun route hroute hadmitted idx hidx =>
    heeds_serve (h route hroute hadmitted idx hidx) rules r

/-- Every job keeps to a discipline that lets all endpoints be served and all jobs be done. -/
theorem heeds_job_of_letsServe (hserve : ∀ e idx, allowed.LetsServe e idx) (rules : Rules)
    (job : Job) : (job.task rules).Heeds allowed := by
  cases job with
  | respond request => exact heeds_respond fun route _ _ idx _ => hserve route.endpoint idx
  | refresh => exact (hserve .tags none).refresh
  | update form => exact Task.heeds_perform ((hserve .configUpdate none).configure rfl form)
  | select model => exact (hserve .chat none).select rfl model

/-! ## Open disciplines -/

theorem Discipline.IsOpen.letsServe (hopen : allowed.IsOpen)
    (hrefresh : Task.Heeds allowed refresh) (e : Endpoint) (idx : Option Nat) :
    allowed.LetsServe e idx := by
  have hpermits (op : Op) (hop : ∀ g models, op ≠ .publish g models) : allowed.Permits op :=
    fun past => hopen past op hop
  have hask : allowed.LetsAsk :=
    { config := hpermits _ nofun
      cached := hpermits _ nofun
      routed := fun _ => hpermits _ nofun
      asking := fun _ _ => hpermits _ nofun
      refresh := hrefresh }
  exact
    { toLetsAsk := hask
      select := fun _ _ => heeds_select_of_permits hask.toLetsLook (hpermits _ nofun)
      sending := fun _ _ _ _ _ _ _ => hpermits _ nofun
      configure := fun _ _ => hpermits _ nofun
      invalidate := fun _ => hpermits _ nofun }

/-- Every job keeps to an open discipline if making a new catalogue does. -/
theorem heeds_job (hopen : allowed.IsOpen) (hrefresh : Task.Heeds allowed refresh) (rules : Rules)
    (job : Job) : (job.task rules).Heeds allowed :=
  heeds_job_of_letsServe (hopen.letsServe hrefresh) rules job

end Conduct

end Gateway
end RunnerGateway
