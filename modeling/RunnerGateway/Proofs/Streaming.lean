import RunnerGateway.Proofs.BackendErrors
import RunnerGateway.Proofs.Moments

/-!
# Answers that come piece by piece

What a backend sends for a streamed chat or text, or while it fetches a model, is passed on as it
comes.  A header may stand several times, so what a client gets is told name by name
(`Endpoint.valuesPassed`): all values of the backend in their order, none for the names that belong
to a single connection, and for a chat one media type.  Status and body are those of the backend,
also if it breaks off.
-/

namespace RunnerGateway

namespace Http

/-- All values of a name, in order. -/
def Headers.values (hs : Headers) (name : String) : List (List UInt8) :=
  (hs.filter fun h => h.name = name).map Header.value

theorem values_filter_name (hs : Headers) (p : String → Bool) (name : String) :
    Headers.values (hs.filter fun h => p h.name) name =
      if p name then hs.values name else [] := by
  have hsame : (hs.filter fun h => p h.name).filter (fun h => h.name = name) =
      if p name then hs.filter fun h => h.name = name else [] := by
    rw [List.filter_filter]
    split
    · rename_i hp
      refine List.filter_congr fun h _ => ?_
      by_cases hname : h.name = name <;> simp [hname, hp]
    · rename_i hp
      refine List.filter_eq_nil_iff.2 fun h _ => ?_
      by_cases hname : h.name = name <;> simp [hname, hp]
  rw [Headers.values, hsame]
  split <;> rfl

theorem values_set (hs : Headers) (name name' : String) (value : List UInt8) :
    (Headers.set hs name value).values name' = if name' = name then [value] else hs.values name' := by
  have hsplit : (Headers.set hs name value).values name' =
      Headers.values (hs.filter fun h => h.name ≠ name) name' ++
        Headers.values [⟨name, value⟩] name' := by
    simp [Headers.set, Headers.values, List.filter_append]
  rw [hsplit, values_filter_name hs fun name' => name' ≠ name]
  by_cases hname : name' = name
  · simp [hname, Headers.values]
  · simp [hname, Headers.values, Ne.symm hname]

end Http

namespace Gateway

open Exchange Http

/-! ## What a client gets of a stream -/

namespace Endpoint

/-- The request asks for an answer that comes piece by piece. -/
def Streams (r : Request) (e : Endpoint) : Prop :=
  e = .pull ∨ (e = .chat ∨ e = .generate) ∧ ∃ v, bodyOf r = .ok v ∧ wantsStream v = true

/-- The values of a name that a client gets with a stream, if the backend told these headers. -/
def valuesPassed (told : Headers) (name : String) (e : Endpoint) : List (List UInt8) :=
  if e = .chat ∧ name = contentType then [linesType.toUTF8.toList]
  else if connectionHeaders.contains name then []
  else told.values name

end Endpoint

section Streams

variable {rules : Rules} {r : Request} {route : Route} {e : Endpoint} {v : Json}

theorem values_passedHeaders (e : Endpoint) (told : Headers) (name : String) :
    (passedHeaders (if e = .chat then some linesType else none) told).values name =
      e.valuesPassed told name := by
  have hkept : Headers.values (told.filter fun h => !connectionHeaders.contains h.name) name =
      if connectionHeaders.contains name then [] else told.values name := by
    rw [values_filter_name told (fun name => !connectionHeaders.contains name)]
    cases connectionHeaders.contains name <;> rfl
  unfold Endpoint.valuesPassed
  by_cases hchat : e = .chat
  · rw [if_pos hchat, ← hkept]
    simp only [passedHeaders, values_set, hchat, true_and]
  · rw [if_neg hchat, if_neg fun h => hchat h.1, ← hkept]
    rfl

/-- All that is done with a reply to such a request is to pass it on. -/
theorem answer_of_streams (hstreams : e.Streams r) (hv : bodyOf r = .ok v) (reply : Reply) :
    e.answer v reply = pure (reply.passOn (if e = .chat then some linesType else none)) := by
  obtain rfl | ⟨hcompletes, v', hv', hwants⟩ := hstreams
  · rfl
  · obtain rfl : v = v' := Except.ok.inj (hv.symm.trans hv')
    obtain rfl | rfl := hcompletes
    · exact if_pos hwants
    · exact if_pos hwants

theorem exists_target?_of_streams (hstreams : e.Streams r) :
    ∃ path, e.target? = some (.post, path) ∧ e.methods = ["POST"] := by
  obtain rfl | ⟨rfl | rfl, -⟩ := hstreams
  · exact ⟨_, rfl, rfl⟩
  · exact ⟨_, rfl, rfl⟩
  · exact ⟨_, rfl, rfl⟩

/-- A request for a stream that waits for the reply to what it posted passes every success on. -/
theorem next_of_streams {call : Call} {before : List Act} {next : List Outcome → Task Response}
    {reply : Reply} (hroute : Route.ofPath? r.path = some route)
    (hstreams : route.endpoint.Streams r) (hpost : call.method = .post)
    (hsuccess : reply.isSuccess = true)
    (h : (respond rules r).Reaches [] before (.step (.exchange [call]) next)) :
    next [.ok reply] =
      .done (reply.passOn (if route.endpoint = .chat then some linesType else none)) := by
  obtain ⟨path, htarget, hmethods⟩ := exists_target?_of_streams hstreams
  rw [← hpost] at htarget
  obtain ⟨idx, first, hserved, hfirst, hnext⟩ := exists_served_of_reaches hroute h
  obtain ⟨v, b, hv, -, hanswer⟩ := relays_body htarget hfirst
  have haccepted : accepted (.ok reply) = .ok reply := by simp [accepted, hsuccess]
  have hpassed : first [.ok reply] = .done (.ok (reply.passOn
      (if route.endpoint = .chat then some linesType else none))) := by
    rw [hanswer, haccepted, attempt_ok, pure_bind, answer_of_streams hstreams hv]
    rfl
  -- Streams are posted for, so nobody asks for their headers alone.
  have hmethod : r.method ≠ "HEAD" := by
    intro hhead
    have hknown := hserved.known
    rw [hhead, hmethods] at hknown
    exact absurd hknown (by decide)
  refine (hnext _).trans ?_
  simp only [hpassed]
  exact congrArg Task.done (Request.shown_eq_self hmethod _)

end Streams

/-! ## Streams as clients get them -/

/-- When a backend answers a streamed chat or text, or the wish to fetch a model, with success, the
client gets its status, its body, complete or broken off, and its headers name by name.  The headers
do not depend on the body, nothing changes in the gateway, and nothing more is done for the
request. -/
theorem stream_is_passed_on (rules : Rules) (seed : RunnerConfig) (store : Option Store)
    (events : List Event) (i : Nat) (r : Request) (route : Route) (call : Call)
    (next : List Outcome → Task Response) (status : Nat) (told : Headers)
    (hroute : Route.ofPath? r.path = some route) (hstreams : route.endpoint.Streams r)
    (hpost : call.method = .post)
    (hthread : ((System.start seed store).run rules events).threads[i]? =
      some ⟨.respond r, .waiting [call] next⟩)
    (hstatus : 200 ≤ status ∧ status ≤ 299) :
    let s := (System.start seed store).run rules events
    ∃ headers : Headers,
      (∀ name, headers.values name = route.endpoint.valuesPassed told name) ∧
      ∀ body : Body,
        let outcomes : List Outcome := [.ok { status, headers := told, body }]
        let ended : Thread := ⟨.respond r, .going (.done { status, headers, body })⟩
        s.step rules (.answered i outcomes) =
            s.advance i ended (.did (.exchange [call]) outcomes) s.state ∧
          ∀ later, let s' := (s.step rules (.answered i outcomes)).run rules later
            s'.threads[i]? = some ended ∧
              s'.log.past i = .did (.exchange [call]) outcomes :: s.log.past i := by
  intro s
  obtain ⟨before, -, hreaches⟩ :=
    (System.follows_run rules seed store events).threads i _ hthread
  refine ⟨_, values_passedHeaders route.endpoint told, ?_⟩
  intro body outcomes ended
  have hsuccess : Reply.isSuccess { status, headers := told, body } = true := by
    simp only [Reply.isSuccess]
    grind
  have hnext : next outcomes = .done { status, headers := _, body } :=
    next_of_streams hroute hstreams hpost hsuccess hreaches
  have hstep : s.step rules (.answered i outcomes) =
      s.advance i ended (.did (.exchange [call]) outcomes) s.state := by
    have hlen : outcomes.length = [call].length := rfl
    rw [System.step_answered rules hthread hlen, hnext]
    rfl
  refine ⟨hstep, fun later => ?_⟩
  have hfollows : (s.step rules (.answered i outcomes)).Follows rules := by
    rw [← System.run_concat]
    exact System.follows_run rules seed store _
  have hi : i < s.threads.length := (List.getElem?_eq_some_iff.1 hthread).1
  have hended : (s.step rules (.answered i outcomes)).threads[i]? = some ended := by
    rw [hstep]
    exact List.getElem?_set_self hi
  obtain ⟨hthread', hpast⟩ := System.ended_run hfollows hended later
  refine ⟨hthread', hpast.trans ?_⟩
  rw [hstep]
  exact Log.past_cons_self i _ _

/-- A chat at position 0, which says nothing about how its answer shall come. -/
def chatAtZero : Request where
  method := "POST"
  path := "/api/chat/0"
  headers := [.ofText contentType jsonType]
  body := "\x7b\"model\":\"m\",\"messages\":[]\x7d".toUTF8.toList

/-- Headers with two cookies, two media types, a value that is no text, and one for the connection
alone. -/
def mixedHeaders : Headers :=
  [.ofText "Set-Cookie" "a", .ofText "Content-Type" "text/plain", .ofText "Connection" "close",
    ⟨"x-raw", [0xFF]⟩, .ofText "Content-Type" "text/html", .ofText "Set-Cookie" "b"]

/-- A stream that breaks off is passed on with both cookies and the one media type of lines. -/
theorem stream_is_passed_on_broken_off :
    let s := (System.start { baseUrls := ["http://a"] } none).run {}
      [.begins (.respond chatAtZero), .moves 0, .moves 0]
    let body : Body := { bytes := [0x7B, 0xFF], complete := false }
    let s' := s.step {} (.answered 0 [.ok { status := 203, headers := mixedHeaders, body }])
    s'.state = s.state ∧ ∃ headers : Headers,
      s'.threads[0]? =
        some ⟨.respond chatAtZero, .going (.done { status := 203, headers, body })⟩ ∧
      headers.values "set-cookie" = ["a".toUTF8.toList, "b".toUTF8.toList] ∧
      headers.values "x-raw" = [[0xFF]] ∧ headers.values "connection" = [] ∧
      headers.values "content-type" = ["application/x-ndjson".toUTF8.toList] := by
  intro s body s'
  have hwaits : ((s.threads[0]?).bind Thread.sole?).map (fun found => (found.1, found.2.method)) =
      some (chatAtZero, .post) := by decide +kernel
  obtain ⟨⟨r, call⟩, hfound, hsame⟩ := Option.map_eq_some_iff.1 hwaits
  obtain ⟨rfl, hpost⟩ := Prod.mk.inj hsame
  obtain ⟨thread, hthread, hsole⟩ := Option.bind_eq_some_iff.1 hfound
  obtain ⟨next, rfl⟩ := exists_of_sole? hsole
  have hroute : Route.ofPath? chatAtZero.path = some ⟨.chat, some ['0']⟩ := by decide +kernel
  have hasked : (bodyOf chatAtZero).toOption.map Endpoint.wantsStream = some true := by
    decide +kernel
  have hstreams : Endpoint.chat.Streams chatAtZero := by
    cases hv : bodyOf chatAtZero with
    | error e =>
        rw [hv] at hasked
        exact nomatch hasked
    | ok v =>
        rw [hv] at hasked
        exact .inr ⟨.inl rfl, v, hv, Option.some.inj hasked⟩
  obtain ⟨headers, hvalues, hpassed⟩ := stream_is_passed_on {} { baseUrls := ["http://a"] } none _ 0
    _ _ call next 203 mixedHeaders hroute hstreams hpost hthread (by decide)
  obtain ⟨hstep, hlater⟩ := hpassed body
  have hs' : s' = _ := hstep
  refine ⟨by rw [hs']; rfl, headers, (hlater []).1, ?_⟩
  simp only [hvalues]
  decide +kernel

end Gateway
end RunnerGateway
