import RunnerGateway.Proofs.BackendErrors
import RunnerGateway.Proofs.Persistence
import RunnerGateway.Proofs.Saving
import RunnerGateway.Proofs.Sequence

/-!
# Trying a connection

Before the administration saves a base URL, it may try it.  A trial asks for the version at the URL
as it was written, without the slashes at its end; what is saved is the URL without the blanks
around it, too.  So a trial asks at the URL that is served later exactly if there are no such blanks,
and the request is the same if reading the URL skips them (`HidesBlanks`).  The key is the same in
any case.
-/

namespace RunnerGateway

/-! ## Base URLs with blanks around them -/

/-- The path at which a backend tells its version. -/
def versionPath : String := "/api/version"

/-- Reading the URL skips the blanks around it: those at its start are of ASCII, and those at its end
are tabs and line breaks with no slash before them. -/
def HidesBlanks (url : String) : Prop :=
  ∃ before after : List Char, url.toList = before ++ Text.trimBlank url.toList ++ after ∧
    (∀ c ∈ before, Text.isBlank c = true ∧ c.toNat ≤ 0x20) ∧
    (∀ c ∈ after, c = '\t' ∨ c = '\n' ∨ c = '\r') ∧
    (after = [] ∨ ¬Text.EndsIn (fun c => c = '/') (Text.trimBlank url.toList))

namespace Text

variable {α : Type} {p : α → Bool} {xs : List α}

theorem dropEndWhile_append_of_not_endsIn (h : ¬EndsIn p xs) (ys : List α) :
    dropEndWhile p (xs ++ ys) = xs ++ dropEndWhile p ys := by
  induction ys using List.reverseRecOn with
  | nil => simpa [dropEndWhile] using dropEndWhile_eq_self_iff.2 h
  | append_singleton ys y ih =>
      by_cases hy : p y = true
      · rw [← List.append_assoc, dropEndWhile_eq_rdropWhile, dropEndWhile_eq_rdropWhile,
          List.rdropWhile_concat_pos p _ y hy, List.rdropWhile_concat_pos p _ y hy]
        exact ih
      · have hkept (zs : List α) : dropEndWhile p (zs ++ [y]) = zs ++ [y] :=
          dropEndWhile_eq_self_iff.2 fun hends => hy (endsIn_concat.1 hends)
        rw [hkept, ← List.append_assoc, hkept]

end Text

namespace Url

/-- Reading a URL skips the character at its ends. -/
def isOuter (c : Char) : Bool := c.toNat ≤ 0x20

/-- Reading a URL does not skip the character wherever it stands. -/
def isInner (c : Char) : Bool := c ≠ '\t' && c ≠ '\n' && c ≠ '\r'

section Digits

variable {c : Char}

theorem isOuter_of_isDigit (h : c.isDigit = true) : isOuter c = false := by
  obtain ⟨hlow, -⟩ := Text.isDigit_iff.1 h
  exact decide_eq_false (by omega)

theorem isInner_of_isDigit (h : c.isDigit = true) : isInner c = true := by
  rw [isInner, Bool.and_eq_true, Bool.and_eq_true]
  refine ⟨⟨decide_eq_true ?_, decide_eq_true ?_⟩, decide_eq_true ?_⟩
  all_goals
    rintro rfl
    exact absurd h (by decide)

theorem isLetter_of_isDigit (h : c.isDigit = true) : isLetter c = false := by
  obtain ⟨-, hhigh⟩ := Text.isDigit_iff.1 h
  have hsmall : ¬('a' ≤ c) := fun hle => absurd (show 97 ≤ c.toNat from hle) (by omega)
  have hlarge : ¬('A' ≤ c) := fun hle => absurd (show 65 ≤ c.toNat from hle) (by omega)
  simp [isLetter, hsmall, hlarge]

end Digits

theorem significant_versionPath (cs : List Char) :
    significant (String.ofList (cs ++ versionPath.toList)) =
      (cs.dropWhile isOuter).filter isInner ++ versionPath.toList := by
  have hfirst : versionPath.toList.dropWhile isOuter = versionPath.toList := by decide +kernel
  have hdrop : (cs ++ versionPath.toList).dropWhile isOuter =
      cs.dropWhile isOuter ++ versionPath.toList := by
    rw [List.dropWhile_append]
    split
    · rename_i hempty
      rw [hfirst, List.isEmpty_iff.1 hempty]
      rfl
    · rfl
  have hend : Text.dropEndWhile isOuter (cs.dropWhile isOuter ++ versionPath.toList) =
      cs.dropWhile isOuter ++ versionPath.toList := by
    refine Text.dropEndWhile_eq_self_iff.2 ?_
    rintro ⟨c, hlast, hc⟩
    rw [List.getLast?_append] at hlast
    obtain rfl : 'n' = c := Option.some.inj hlast
    exact absurd hc (by decide)
  change (Text.dropEndWhile isOuter ((String.ofList _).toList.dropWhile isOuter)).filter isInner = _
  rw [String.toList_ofList, hdrop, hend, List.filter_append]
  congr 1

theorem significant_skipping {before base after : List Char}
    (hbefore : ∀ c ∈ before, c.toNat ≤ 0x20)
    (hafter : ∀ c ∈ after, c = '\t' ∨ c = '\n' ∨ c = '\r') :
    significant (String.ofList (before ++ base ++ after ++ versionPath.toList)) =
      significant (String.ofList (base ++ versionPath.toList)) := by
  have hstart : (before ++ base ++ after).dropWhile isOuter = (base ++ after).dropWhile isOuter := by
    rw [List.append_assoc, List.dropWhile_append_of_pos]
    intro c hc
    simpa [isOuter] using hbefore c hc
  have houter : after.dropWhile isOuter = [] := by
    refine List.dropWhile_eq_nil_iff.2 fun c hc => ?_
    obtain rfl | rfl | rfl := hafter c hc <;> rfl
  have hinner : after.filter isInner = [] := by
    refine List.filter_eq_nil_iff.2 fun c hc => ?_
    obtain rfl | rfl | rfl := hafter c hc <;> decide
  rw [significant_versionPath, significant_versionPath, hstart, List.dropWhile_append]
  split
  · rename_i hempty
    rw [houter, List.isEmpty_iff.1 hempty]
  · rw [List.filter_append, hinner, List.append_nil]

end Url

namespace Gateway

open Exchange Http

/-! ## Where a trial asks -/

theorem trialUrl_eq (url : String) :
    trialUrl url = String.ofList
      (Text.dropEndWhile (fun c => c = '/') url.toList ++ versionPath.toList) := by
  rw [trialUrl, ← String.toList_inj]
  simp [versionPath]

theorem normalizeBaseUrl_append_eq (url : String) :
    normalizeBaseUrl url ++ versionPath = String.ofList
      (Text.dropEndWhile (fun c => c = '/') (Text.trimBlank url.toList) ++ versionPath.toList) := by
  rw [normalizeBaseUrl, ← String.toList_inj]
  simp

/-- If trimming changes nothing but the slashes at the end, the text starts with no blank. -/
theorem isBlank_eq_false_of_head? {cs : List Char} {c : Char}
    (h : Text.dropEndWhile (fun c => c = '/') cs =
      Text.dropEndWhile (fun c => c = '/') (Text.trimBlank cs)) (hc : cs.head? = some c) :
    Text.isBlank c = false := by
  cases hfirst : (Text.dropEndWhile (fun c => c = '/') cs).head? with
  | some c' =>
      obtain rfl : c' = c :=
        Option.some.inj ((Text.head?_dropEndWhile hfirst).symm.trans hc)
      rw [h] at hfirst
      exact Text.isBlank_eq_false_of_head?_trimBlank (Text.head?_dropEndWhile hfirst)
  | none =>
      -- Of nothing but slashes the first one is a slash.
      obtain ⟨n, hn⟩ := Text.exists_eq_dropEndWhile_append '/' cs
      rw [List.head?_eq_none_iff.1 hfirst, List.nil_append] at hn
      obtain rfl := List.eq_of_mem_replicate (hn ▸ List.mem_of_mem_head? hc)
      rfl

/-- A trial asks where the saved URL is, exactly if no blanks are around the URL. -/
theorem trialUrl_eq_iff (url : String) :
    trialUrl url = normalizeBaseUrl url ++ versionPath ↔
      Text.trimBlank url.toList = url.toList := by
  rw [trialUrl_eq, normalizeBaseUrl_append_eq, String.ofList_inj, List.append_left_inj]
  generalize url.toList = cs
  constructor
  · intro h
    by_cases hblank : Text.EndsIn Text.isBlank cs
    · have hslash : ¬Text.EndsIn (fun c => c = '/') cs := by
        obtain ⟨c, hlast, hc⟩ := hblank
        rintro ⟨c', hlast', hc'⟩
        obtain rfl := Option.some.inj (hlast.symm.trans hlast')
        obtain rfl : c = '/' := by simpa using hc'
        exact absurd hc (by decide)
      rw [Text.dropEndWhile_eq_self_iff.2 hslash] at h
      have hkept : cs.Sublist (Text.trimBlank cs) := by
        conv_lhs => rw [h]
        exact Text.dropEndWhile_sublist _ _
      exact (Text.trimBlank_sublist cs).antisymm hkept
    · exact (Text.trimBlank_eq_self_iff fun c hc => isBlank_eq_false_of_head? h hc).2 hblank
  · intro h
    rw [h]

/-- If reading the URL skips the blanks, a trial asks at what is read as the saved URL. -/
theorem significant_trialUrl {url : String} (h : HidesBlanks url) :
    Url.significant (trialUrl url) = Url.significant (normalizeBaseUrl url ++ versionPath) := by
  obtain ⟨before, after, hurl, hbefore, hafter, hslashes⟩ := h
  have hdrop : Text.dropEndWhile (fun c => c = '/') url.toList =
      before ++ Text.dropEndWhile (fun c => c = '/') (Text.trimBlank url.toList) ++ after := by
    by_cases hnone : after = []
    · have hstart : ¬Text.EndsIn (fun c => c = '/') before := by
        rintro ⟨c, hlast, hc⟩
        obtain rfl : c = '/' := by simpa using hc
        exact absurd (hbefore '/' (List.mem_of_getLast? hlast)).1 (by decide)
      subst hnone
      conv_lhs => rw [hurl]
      rw [List.append_nil, List.append_nil, Text.dropEndWhile_append_of_not_endsIn hstart]
    · have hend : ¬Text.EndsIn (fun c => c = '/') url.toList := by
        rintro ⟨c, hlast, hc⟩
        obtain rfl : c = '/' := by simpa using hc
        rw [hurl, List.getLast?_append_of_ne_nil _ hnone] at hlast
        exact absurd (hafter '/' (List.mem_of_getLast? hlast)) (by decide)
      rw [Text.dropEndWhile_eq_self_iff.2 hend,
        Text.dropEndWhile_eq_self_iff.2 (hslashes.resolve_left hnone)]
      exact hurl
  rw [trialUrl_eq, normalizeBaseUrl_append_eq, hdrop]
  exact Url.significant_skipping (fun c hc => (hbefore c hc).2) hafter

/-! ## Requests that are answered by one call -/

/-- In a state, all that is done for the request is one call.  Its outcome settles the answer. -/
def AnsweredBy (rules : Rules) (r : Request) (s : State) (c : Call)
    (interpret : Outcome → Except GatewayError Json) : Prop :=
  ∀ (σ : Type) (net : Network σ) (n : σ), (respond rules r).run rules net s n =
    (r.shown (.ofResult ((interpret (net.call n c).1).map (.ofJson 200))), s, (net.call n c).2)

/-- The request passes all gates, and asks to try a connection. -/
def WantsTrial (rules : Rules) (r : Request) (form : VerifyForm) : Prop :=
  ∃ route idx v, Served rules r route idx ∧ route.endpoint = .verify ∧ bodyOf r = .ok v ∧
    VerifyForm.decode v = .ok form

/-- The request passes all gates, and asks for an update of the configuration. -/
def WantsUpdate (rules : Rules) (r : Request) (form : ConfigUpdate) : Prop :=
  ∃ route idx v, Served rules r route idx ∧ route.endpoint = .configUpdate ∧ bodyOf r = .ok v ∧
    ConfigUpdate.decode v = .ok form

/-- The request passes all gates, and asks for the version of the backend at a position. -/
def WantsVersion (rules : Rules) (r : Request) (idx : Nat) : Prop :=
  ∃ route, Served rules r route (some idx) ∧ route.endpoint = .version

section Answers

variable {rules : Rules} {r : Request} {s : State} {idx : Nat}

/-- A call whose value is the answer, when nothing interrupts it. -/
theorem run_calling_ofJson (c : Call) (interpret : Outcome → Except GatewayError Json) {σ : Type}
    (net : Network σ) (n : σ) :
    (calling c interpret >>= fun v => pure (Response.ofJson 200 v)).run.run rules net s n =
      ((interpret (net.call n c).1).map (.ofJson 200), s, (net.call n c).2) := by
  rw [run_calling]
  change Task.run rules net
    (attempt (interpret (net.call n c).1) >>= fun v => pure (Response.ofJson 200 v)).run s
      (net.call n c).2 = _
  cases interpret (net.call n c).1 <;> rfl

theorem answeredBy_of_serve {route : Route} {position : Option Nat} {c : Call}
    {interpret : Outcome → Except GatewayError Json} (hserved : Served rules r route position)
    (h : ∀ (σ : Type) (net : Network σ) (n : σ),
      (serve rules r position route.endpoint).run.run rules net s n =
        (calling c interpret >>= fun v => pure (Response.ofJson 200 v)).run.run rules net s n) :
    AnsweredBy rules r s c interpret := by
  intro σ net n
  rw [respond_of_served hserved, Task.run_bind, h, run_calling_ofJson]
  rfl

theorem answeredBy_of_wantsTrial {form : VerifyForm} (h : WantsTrial rules r form) (s : State) :
    AnsweredBy rules r s (reading (trialUrl form.url) (nonEmpty form.key) []) trial := by
  obtain ⟨route, position, v, hserved, hverify, hv, hform⟩ := h
  refine answeredBy_of_serve hserved fun σ net n => ?_
  rw [hverify]
  simp only [serve, tryConnection, hv, hform, attempt_ok, pure_bind, Except.mapError]
  rfl

theorem run_backendAt {b : Backend} (hb : s.config.backend? idx = some b) {σ : Type}
    (net : Network σ) (n : σ) : (backendAt idx).run.run rules net s n = (.ok b, s, n) := by
  change Task.run rules net (ExceptT.bindCont _ (Except.ok s.config)) s n = _
  dsimp only [ExceptT.bindCont]
  rw [hb]
  rfl

theorem answeredBy_of_wantsVersion {b : Backend} (h : WantsVersion rules r idx)
    (henabled : s.config.enabled = true) (hb : s.config.backend? idx = some b) :
    AnsweredBy rules r s (reading (b.endpoint versionPath) b.config.bearerKey []) listing := by
  obtain ⟨route, hserved, hversion⟩ := h
  refine answeredBy_of_serve hserved fun σ net n => ?_
  rw [hversion]
  change (if s.config.enabled = true then _ else _ : Attempt Response).run.run rules net s n = _
  rw [if_pos henabled]
  exact Task.run_bind_of_eq (run_backendAt hb net n)

/-- Positions in paths are words of 64 bits. -/
theorem le_maxWord_of_index {route : Route} (h : route.index = .ok (some idx)) :
    idx ≤ Text.maxWord := by
  unfold Route.index at h
  split at h
  · exact nomatch h
  · unfold Route.readPosition at h
    split at h
    · exact nomatch h
    · split at h
      · rename_i found hword
        obtain rfl : found = idx := Option.some.inj (Except.ok.inj h)
        exact Text.le_maxWord_of_readWord hword
      · exact nomatch h

/-- An update fails only if the store is closed. -/
theorem configure_of_error {form : ConfigUpdate} {e : GatewayError} {s' : State}
    (h : s.configure form = (.error e, s')) : e = Store.closed "Failed to set setting" := by
  cases hstore : s.store with
  | none =>
      rw [State.configure, hstore] at h
      cases h
  | some store =>
      by_cases hopen : store.isOpen = true
      · obtain ⟨kept, hok⟩ := State.configure_of_open hstore hopen form
        cases hok.symm.trans h
      · rw [State.configure_of_closed hstore (by simpa using hopen)] at h
        obtain ⟨herror, -⟩ := Prod.mk.inj h
        exact (Except.error.inj herror).symm

theorem run_configure_bind {α σ : Type} (form : ConfigUpdate) (f : RunnerConfig → Attempt α)
    (net : Network σ) (n : σ) :
    (ExceptT.mk (Task.configure form) >>= f).run.run rules net s n =
      match s.configure form with
      | (.ok config, s') => (f config).run.run rules net s' n
      | (.error e, s') => (.error e, s', n) := by
  change (ExceptT.bindCont f (s.configure form).1).run rules net (s.configure form).2 n = _
  rcases s.configure form with ⟨config | e, s'⟩ <;> rfl

/-- An update that was answered with success is in force. -/
theorem config_of_wantsUpdate {form : ConfigUpdate} (h : WantsUpdate rules r form) {σ : Type}
    (net : Network σ) (n : σ) (hsaved : ((respond rules r).run rules net s n).1.status = 200) :
    ((respond rules r).run rules net s n).2.1.config = s.config.applyUpdate form := by
  obtain ⟨route, position, v, hserved, hupdate, hv, hform⟩ := h
  rw [respond_of_served hserved, Task.run_bind, hupdate] at hsaved ⊢
  simp only [serve, changeConfig, hv, hform, attempt_ok, pure_bind, Except.mapError,
    run_configure_bind] at hsaved ⊢
  obtain ⟨store, hok⟩ | ⟨e, herror⟩ := s.configure_cases form
  · rw [hok]
    rfl
  · obtain rfl := configure_of_error herror
    rw [herror] at hsaved
    exact absurd ((r.status_shown _).symm.trans hsaved) (show ¬500 = 200 by decide)

end Answers

/-! ## The saved backend -/

section Saved

variable {url : String}

/-- Nothing can be asked at a URL that is only a number. -/
theorem parse?_of_namesPosition {len : Nat} (h : NamesPosition len url) :
    Url.parse? (url ++ versionPath) = none := by
  obtain ⟨idx, -, -, hdecimal⟩ := h
  obtain ⟨c, cs, hcs⟩ := List.exists_cons_of_ne_nil hdecimal.nonempty
  have hdigit : c.isDigit = true := hdecimal.digits c (by simp [hcs])
  have htext : url ++ versionPath = String.ofList (c :: cs ++ versionPath.toList) := by
    rw [← String.toList_inj, String.toList_ofList, String.toList_append, hcs]
  have hread : Url.significant (url ++ versionPath) =
      c :: (cs.filter Url.isInner ++ versionPath.toList) := by
    rw [htext, Url.significant_versionPath, List.dropWhile_cons_of_neg (by simp [Url.isOuter_of_isDigit hdigit]),
      List.filter_cons_of_pos (Url.isInner_of_isDigit hdigit)]
    rfl
  have hscheme : Url.splitScheme? (Url.significant (url ++ versionPath)) = none := by
    rw [hread, Url.splitScheme?]
    split
    · rename_i c' rest hfirst _
      obtain rfl := Option.some.inj hfirst
      simp [Url.isLetter_of_isDigit hdigit]
    · rfl
  rw [Url.parse?, hscheme]

/-- After an update that has a URL and a key for a position, a backend with both is there.  Only if
the URL is itself the number of a position, its key may be another one. -/
theorem exists_backend?_of_update (c : RunnerConfig) {form : ConfigUpdate} {idx : Nat}
    {key : Option String} (hword : idx ≤ Text.maxWord) (hurl : form.baseUrls[idx]? = some url)
    (hkey : (Dict.get? form.apiConfigs (Text.numeral idx)).bind BackendConfig.bearerKey =
      nonEmpty key) :
    ∃ b, (c.applyUpdate form).backend? idx = some b ∧ b.url = normalizeBaseUrl url ∧
      (b.config.bearerKey = nonEmpty key ∨
        NamesPosition form.baseUrls.length (normalizeBaseUrl url)) := by
  have hidx : idx < form.baseUrls.length := (List.getElem?_eq_some_iff.1 hurl).1
  have hsaved : (c.applyUpdate form).baseUrls[idx]? = some (normalizeBaseUrl url) := by
    rw [RunnerConfig.baseUrls_applyUpdate, List.getElem?_map, hurl]
    rfl
  rw [RunnerConfig.backend?, hsaved, Option.map_some]
  refine ⟨_, rfl, rfl, ?_⟩
  by_cases hname : NamesPosition form.baseUrls.length (normalizeBaseUrl url)
  · exact .inr hname
  · refine .inl ?_
    rw [RunnerConfig.entryFor?_applyUpdate c form hidx hword hname, ← hkey]
    cases Dict.get? form.apiConfigs (Text.numeral idx) <;> rfl

end Saved

/-! ## Trial and service -/

/-- What becomes of reading a URL depends on what is read as the URL, and on the key. -/
theorem address_reading_eq {url url' : String} {key key' : Option String}
    (hread : Url.significant url = Url.significant url')
    (hkey : key = key' ∨ Url.parse? url' = none) :
    (reading url key []).address = (reading url' key' []).address := by
  have hparse : Url.parse? url = Url.parse? url' := by
    simp only [Url.parse?, hread]
  obtain rfl | hnone := hkey
  · simp only [Call.address, reading, hparse]
    rfl
  · simp only [Call.address, reading, hparse, hnone]

/-- A network cannot tell calls apart that have the same request. -/
theorem call_reading_eq {url url' : String} {key key' : Option String}
    (h : (reading url key []).address = (reading url' key' []).address) {σ : Type}
    (net : Network σ) (n : σ) :
    net.call n (reading url key []) = net.call n (reading url' key' []) := by
  have hrequest : (reading url key []).request? = (reading url' key' []).request? := by
    simp only [Call.request?, h]
    rfl
  have houtcome (deliver : WireRequest → Delivery) :
      (reading url key []).outcome deliver = (reading url' key' []).outcome deliver := by
    simp only [Call.outcome, h]
    rfl
  simp only [Network.call, hrequest, houtcome]

/-- An outcome that is good enough for a trial is good enough for service, with the same value. -/
theorem listing_of_trial {outcome : Outcome} {v : Json} (h : trial outcome = .ok v) :
    listing outcome = .ok v := by
  cases outcome with
  | error fault => cases h
  | ok reply =>
      rw [trial] at h
      split at h
      · rename_i hstatus
        have hsuccess : reply.isSuccess = true := by simp [Reply.isSuccess, hstatus]
        rw [listing, if_pos hsuccess, Reply.json]
        cases hv : reply.json? with
        | some v' =>
            rw [hv] at h
            exact h
        | none =>
            rw [hv] at h
            cases h
      · cases h

/-- A trial of a URL and a key is one call, in whatever state.  Once an update has saved both for a
position, the version of the backend there is told by one call, too.  The first call asks at the URL
of the second one exactly if there are no blanks around the URL; if reading the URL skips them, no
network can tell the two calls apart.  The keys are the same if anything can be asked at all, and
what passes the trial is served. -/
theorem trial_asks_as_served_unless_blanks_show (rules : Rules) {σ : Type} (net : Network σ) (n : σ)
    (s : State) (update tried asked : Request) (change : ConfigUpdate) (form : VerifyForm) (idx : Nat)
    (hupdate : WantsUpdate rules update change) (htried : WantsTrial rules tried form)
    (hasked : WantsVersion rules asked idx)
    (hsaved : ((respond rules update).run rules net s n).1.status = 200)
    (henabled : (s.config.applyUpdate change).enabled = true)
    (hurl : change.baseUrls[idx]? = some form.url)
    (hkey : (Dict.get? change.apiConfigs (Text.numeral idx)).bind BackendConfig.bearerKey =
      nonEmpty form.key) :
    ∃ first second : Call,
      (∀ s', AnsweredBy rules tried s' first trial) ∧
      (∀ s', s'.config = ((respond rules update).run rules net s n).2.1.config →
        AnsweredBy rules asked s' second listing) ∧
      (first.url = second.url ↔ Text.trimBlank form.url.toList = form.url.toList) ∧
      (HidesBlanks form.url → first.address = second.address ∧
        ∀ (σ : Type) (net : Network σ) (n : σ), net.call n first = net.call n second) ∧
      (∀ address, second.address = .ok address → first.key = second.key) ∧
      ∀ outcome v, trial outcome = .ok v → listing outcome = .ok v := by
  have hword : idx ≤ Text.maxWord := by
    obtain ⟨route, hserved, -⟩ := hasked
    exact le_maxWord_of_index hserved.index
  obtain ⟨b, hb, hburl, hbkey⟩ := exists_backend?_of_update s.config hword hurl hkey
  have hconfig := config_of_wantsUpdate hupdate net n hsaved
  have hendpoint : b.endpoint versionPath = normalizeBaseUrl form.url ++ versionPath :=
    congrArg (· ++ versionPath) hburl
  have hsame : nonEmpty form.key = b.config.bearerKey ∨
      Url.parse? (b.endpoint versionPath) = none := by
    obtain hbkey | hname := hbkey
    · exact .inl hbkey.symm
    · exact .inr (hendpoint ▸ parse?_of_namesPosition hname)
  refine ⟨_, reading (b.endpoint versionPath) b.config.bearerKey [],
    answeredBy_of_wantsTrial htried, fun s' hs' => ?_, ?_, fun hhides => ?_, ?_,
    fun _ _ => listing_of_trial⟩
  · rw [hconfig] at hs'
    exact answeredBy_of_wantsVersion hasked (hs' ▸ henabled) (hs' ▸ hb)
  · change trialUrl form.url = b.endpoint versionPath ↔ _
    rw [hendpoint]
    exact trialUrl_eq_iff form.url
  · have hread := significant_trialUrl hhides
    rw [← hendpoint] at hread
    have haddress := address_reading_eq hread hsame
    exact ⟨haddress, fun σ net n => call_reading_eq haddress net n⟩
  · rintro address haddress
    refine hsame.resolve_right fun hnone => ?_
    simp only [Call.address, reading, hnone] at haddress
    exact nomatch haddress

/-- A request with a JSON body. -/
def posting (path : String) (body : Json) : Request where
  method := "POST"
  path := path
  headers := [.ofText contentType jsonType]
  body := body.render.toUTF8.toList

/-- A wish to try a URL with a key. -/
def trying (url key : String) : Request :=
  posting "/verify" (VerifyForm.toJson ⟨url, some key⟩)

/-- A wish to save a URL with a key, or without one. -/
def saving (url : String) (key : Option String) : Request :=
  posting "/config/update" (ConfigUpdate.toJson ⟨none, [url], [("0", { key })]⟩)

/-- A question for the version of the first backend. -/
def askingVersion : Request where
  method := "GET"
  path := "/api/version/0"

theorem eq_ok_of_toOption {ε α : Type} {x : Except ε α} {a : α} (h : x.toOption = some a) :
    x = .ok a := by
  cases x with
  | ok a' => exact congrArg Except.ok (Option.some.inj h)
  | error e => exact nomatch h

theorem exists_of_decoded {F β : Type} (decode : Json → Except Json.Cause F) {r : Request}
    {f : F → β} {b : β} (h : ((bodyOf r).toOption.bind fun v => (decode v).toOption).map f = some b) :
    ∃ v form, bodyOf r = .ok v ∧ decode v = .ok form ∧ f form = b := by
  obtain ⟨form, hform, hb⟩ := Option.map_eq_some_iff.1 h
  obtain ⟨v, hv, hdecode⟩ := Option.bind_eq_some_iff.1 hform
  exact ⟨v, form, eq_ok_of_toOption hv, eq_ok_of_toOption hdecode, hb⟩

/-- A blank before a URL and a line break after it are skipped, and an empty key is none. -/
theorem trial_asks_as_served_in_line :
    let url := " http://a\n"
    let saved := (respond {} (saving url none)).run {} failingNetwork {} ()
    ∃ first second : Call,
      AnsweredBy {} (trying url "") {} first trial ∧
      AnsweredBy {} askingVersion saved.2.1 second listing ∧
      first.url ≠ second.url ∧ first.address = second.address := by
  intro url saved
  obtain ⟨v, form, hv, hform, hfields⟩ := exists_of_decoded VerifyForm.decode
    (r := trying url "") (f := fun form => (form.url, nonEmpty form.key))
    (b := (url, none)) (by decide +kernel)
  obtain ⟨hformUrl, hformKey⟩ := Prod.mk.inj hfields
  obtain ⟨w, change, hw, hchange, hparts⟩ := exists_of_decoded ConfigUpdate.decode
    (r := saving url none)
    (f := fun change => (change.enabled, change.baseUrls[0]?,
      (Dict.get? change.apiConfigs (Text.numeral 0)).bind BackendConfig.bearerKey))
    (b := (none, some url, none)) (by decide +kernel)
  obtain ⟨hswitch, hparts⟩ := Prod.mk.inj hparts
  obtain ⟨hchangeUrl, hchangeKey⟩ := Prod.mk.inj hparts
  have hupdate : WantsUpdate {} (saving url none) change :=
    ⟨⟨.configUpdate, none⟩, none, w, ⟨by decide +kernel, rfl, by decide, rfl⟩, rfl, hw, hchange⟩
  have htried : WantsTrial {} (trying url "") form :=
    ⟨⟨.verify, none⟩, none, v, ⟨by decide +kernel, rfl, by decide, rfl⟩, rfl, hv, hform⟩
  have hasked : WantsVersion {} askingVersion 0 :=
    ⟨⟨.version, some ['0']⟩, ⟨by decide +kernel, rfl, by decide, by decide +kernel⟩, rfl⟩
  have henabled : (({} : State).config.applyUpdate change).enabled = true :=
    congrArg (Option.getD · true) hswitch
  obtain ⟨first, second, hfirst, hsecond, hsame, hskipped, -⟩ :=
    trial_asks_as_served_unless_blanks_show {} failingNetwork () {} _ _ _ change form 0 hupdate htried
      hasked (by decide +kernel) henabled (hchangeUrl.trans (congrArg some hformUrl.symm))
      (hchangeKey.trans hformKey.symm)
  rw [hformUrl] at hsame hskipped
  have htrim : Text.trimBlank url.toList = "http://a".toList := by decide +kernel
  have hhides : HidesBlanks url := by
    refine ⟨[' '], ['\n'], ?_, ?_, ?_, .inr ?_⟩
    · rw [htrim]
      decide +kernel
    · exact List.forall_mem_singleton.2 ⟨rfl, by decide⟩
    · exact List.forall_mem_singleton.2 (.inr (.inl rfl))
    · rw [htrim]
      rintro ⟨c, hlast, hc⟩
      obtain rfl : 'a' = c := Option.some.inj hlast
      exact absurd hc (by decide)
  refine ⟨first, second, hfirst _, hsecond _ rfl, fun hurl => ?_, (hskipped hhides).1⟩
  have := htrim.symm.trans (hsame.1 hurl)
  exact absurd this (by decide +kernel)

/-- A trial keeps a blank that saving drops, so it asks at another path. -/
theorem trial_asks_elsewhere_for_a_blank :
    let net : Network (List String) := fun asked w => (.lost, asked ++ [w.url.toText])
    let url := "http://a/ "
    let saved := (respond {} (saving url (some "k"))).run {} net {} []
    saved.1.status = 200 ∧
      ((respond {} (trying url "k")).run {} net saved.2.1 []).2.2 =
        ["http://a/%20/api/version"] ∧
      ((respond {} askingVersion).run {} net saved.2.1 []).2.2 = ["http://a/api/version"] := by
  intro net url saved
  exact ⟨by decide +kernel, by decide +kernel, by decide +kernel⟩

end Gateway
end RunnerGateway
