import RunnerGateway.Proofs.Answers
import RunnerGateway.Proofs.Membership

/-!
# The lowest version

Versions are compared by their keys, which are lists of numbers in lexicographic order.  Of a list
of versions `Version.lowest?` takes the first one whose key is the least (`lowest?_eq_some_iff`).
So it does not matter where versions without a key stand, and the least key is the same in every
order.  The gateway tells the version that is taken from those of its enabled backends.
-/

namespace RunnerGateway
namespace Version

variable {α : Type} {items : List (List Nat × α)} {x z : List Nat × α}
  {versions versions' : List String} {lowest : String} {key : List Nat}

theorem before_iff_lt {a b : List Nat} : before a b = true ↔ a < b := by
  fun_induction before a b with
  | case1 a => simp
  | case2 b bs => simp
  | case3 a as b bs ih => simp [List.cons_lt_cons_iff, ih]

/-! ## Keyed elements -/

theorem lowestKeyed_eq_none_iff : lowestKeyed items = none ↔ items = [] := by
  cases items with
  | nil => simp [lowestKeyed]
  | cons x rest =>
      rw [lowestKeyed]
      split
      · simp
      · split <;> simp

/-- The element has the least key, and none before it has the same. -/
def IsFirst (items : List (List Nat × α)) (x : List Nat × α) : Prop :=
  ∃ earlier later, items = earlier ++ x :: later ∧ (∀ y ∈ earlier, x.1 < y.1) ∧
    ∀ y ∈ later, x.1 ≤ y.1

theorem IsFirst.mem (h : IsFirst items x) : x ∈ items := by
  obtain ⟨earlier, later, rfl, -, -⟩ := h
  simp

theorem IsFirst.le (h : IsFirst items x) : ∀ y ∈ items, x.1 ≤ y.1 := by
  obtain ⟨earlier, later, rfl, hearlier, hlater⟩ := h
  intro y hy
  rcases List.mem_append.1 hy with hy | hy
  · exact (hearlier y hy).le
  · rcases List.mem_cons.1 hy with rfl | hy
    · exact le_rfl
    · exact hlater y hy

/-- Either the head is the first one, or it has a greater key than the first one of the rest. -/
theorem isFirst_cons_iff : IsFirst (z :: items) x ↔
    (x = z ∧ ∀ y ∈ items, z.1 ≤ y.1) ∨ (x.1 < z.1 ∧ IsFirst items x) := by
  constructor
  · rintro ⟨earlier, later, hsplit, hearlier, hlater⟩
    cases earlier with
    | nil =>
        obtain ⟨rfl, rfl⟩ := List.cons.inj hsplit
        exact .inl ⟨rfl, hlater⟩
    | cons e earlier =>
        obtain ⟨rfl, rfl⟩ := List.cons.inj hsplit
        obtain ⟨hlt, hearlier⟩ := List.forall_mem_cons.1 hearlier
        exact .inr ⟨hlt, earlier, later, rfl, hearlier, hlater⟩
  · rintro (⟨rfl, hle⟩ | ⟨hlt, earlier, later, rfl, hearlier, hlater⟩)
    · exact ⟨[], items, rfl, by simp, hle⟩
    · exact ⟨z :: earlier, later, rfl, List.forall_mem_cons.2 ⟨hlt, hearlier⟩, hlater⟩

theorem lowestKeyed_eq_some_iff : lowestKeyed items = some x ↔ IsFirst items x := by
  induction items generalizing x with
  | nil => simp [lowestKeyed, IsFirst]
  | cons z rest ih =>
      rw [lowestKeyed, isFirst_cons_iff]
      cases hrest : lowestKeyed rest with
      | none =>
          obtain rfl := lowestKeyed_eq_none_iff.1 hrest
          simp [IsFirst, eq_comm]
      | some y =>
          have hy : IsFirst rest y := ih.1 hrest
          have hsame : IsFirst rest x → y = x :=
            fun hx => Option.some.inj (hrest.symm.trans (ih.2 hx))
          by_cases hlt : y.1 < z.1
          · simp only [if_pos (before_iff_lt.2 hlt), Option.some.injEq]
            constructor
            · rintro rfl
              exact .inr ⟨hlt, hy⟩
            · rintro (⟨rfl, hle⟩ | ⟨-, hx⟩)
              · exact absurd hlt (not_lt.2 (hle y hy.mem))
              · exact hsame hx
          · have hle : z.1 ≤ y.1 := not_lt.1 hlt
            simp only [if_neg (mt before_iff_lt.1 hlt), Option.some.injEq]
            constructor
            · rintro rfl
              exact .inl ⟨rfl, fun w hw => hle.trans (hy.le w hw)⟩
            · rintro (⟨rfl, -⟩ | ⟨hless, hx⟩)
              · rfl
              · rw [hsame hx] at hlt
                exact absurd hless hlt

/-! ## Versions -/

/-- The version has the least key of all versions with a key, and none before it has the same. -/
def IsLowest (versions : List String) (lowest : String) : Prop :=
  ∃ earlier later key, versions = earlier ++ lowest :: later ∧ key? lowest = some key ∧
    (∀ version ∈ versions, ∀ k, key? version = some k → key ≤ k) ∧
    ∀ version ∈ earlier, key? version ≠ some key

/-- A version with its key, if it has one. -/
def keyed? (version : String) : Option (List Nat × String) :=
  (key? version).map fun key => (key, version)

theorem keyed?_eq_some_iff {version : String} {x : List Nat × String} :
    keyed? version = some x ↔ key? version = some x.1 ∧ x.2 = version := by
  obtain ⟨key, found⟩ := x
  simp [keyed?, eq_comm]

theorem keyed?_eq_none_iff {version : String} : keyed? version = none ↔ key? version = none := by
  simp [keyed?]

theorem lowest?_eq (versions : List String) :
    lowest? versions = (lowestKeyed (versions.filterMap keyed?)).map Prod.snd :=
  rfl

theorem lowest?_eq_none_iff :
    lowest? versions = none ↔ ∀ version ∈ versions, key? version = none := by
  rw [lowest?_eq, Option.map_eq_none_iff, lowestKeyed_eq_none_iff, List.filterMap_eq_nil_iff]
  simp only [keyed?_eq_none_iff]

theorem mem_filterMap_keyed?_iff {y : List Nat × String} :
    y ∈ versions.filterMap keyed? ↔ y.2 ∈ versions ∧ key? y.2 = some y.1 := by
  rw [List.mem_filterMap]
  constructor
  · rintro ⟨version, hmem, hkeyed⟩
    obtain ⟨hkey, rfl⟩ := keyed?_eq_some_iff.1 hkeyed
    exact ⟨hmem, hkey⟩
  · rintro ⟨hmem, hkey⟩
    exact ⟨y.2, hmem, keyed?_eq_some_iff.2 ⟨hkey, rfl⟩⟩

theorem isLowest_of_isFirst (h : IsFirst (versions.filterMap keyed?) (key, lowest)) :
    IsLowest versions lowest := by
  have hleast : ∀ w ∈ versions, ∀ k, key? w = some k → key ≤ k :=
    fun w hw k hk => h.le (k, w) (mem_filterMap_keyed?_iff.2 ⟨hw, hk⟩)
  obtain ⟨earlier, later, hsplit, hearlier, -⟩ := h
  obtain ⟨front, back, rfl, rfl, hback⟩ := List.filterMap_eq_append_iff.1 hsplit
  obtain ⟨silent, found, rest, rfl, hsilent, hkeyed, rfl⟩ := List.filterMap_eq_cons_iff.1 hback
  obtain ⟨hkey, rfl⟩ := keyed?_eq_some_iff.1 hkeyed
  refine ⟨front ++ silent, rest, key, by simp, hkey, hleast, fun w hw hk => ?_⟩
  rcases List.mem_append.1 hw with hw | hw
  · exact lt_irrefl key (hearlier (key, w) (mem_filterMap_keyed?_iff.2 ⟨hw, hk⟩))
  · rw [keyed?_eq_none_iff.1 (hsilent w hw)] at hk
    cases hk

theorem IsLowest.exists_isFirst (h : IsLowest versions lowest) :
    ∃ key, IsFirst (versions.filterMap keyed?) (key, lowest) := by
  obtain ⟨earlier, later, key, rfl, hkey, hleast, hfirst⟩ := h
  have hkeyed : keyed? lowest = some (key, lowest) := keyed?_eq_some_iff.2 ⟨hkey, rfl⟩
  refine ⟨key, earlier.filterMap keyed?, later.filterMap keyed?, ?_, fun y hy => ?_,
    fun y hy => ?_⟩
  · rw [List.filterMap_append, List.filterMap_cons_some hkeyed]
  · obtain ⟨hmem, hy⟩ := mem_filterMap_keyed?_iff.1 hy
    refine lt_of_le_of_ne (hleast y.2 (by simp [hmem]) y.1 hy) fun heq => hfirst y.2 hmem ?_
    rw [hy, ← heq]
  · obtain ⟨hmem, hy⟩ := mem_filterMap_keyed?_iff.1 hy
    exact hleast y.2 (by simp [hmem]) y.1 hy

theorem lowest?_eq_some_iff : lowest? versions = some lowest ↔ IsLowest versions lowest := by
  rw [lowest?_eq, Option.map_eq_some_iff]
  constructor
  · rintro ⟨⟨key, version⟩, hfound, rfl⟩
    exact isLowest_of_isFirst (lowestKeyed_eq_some_iff.1 hfound)
  · intro h
    obtain ⟨key, hfirst⟩ := h.exists_isFirst
    exact ⟨(key, lowest), lowestKeyed_eq_some_iff.2 hfirst, rfl⟩

/-- The key of the version that is taken is the least of all keys. -/
theorem bind_key?_lowest?_eq_some_iff :
    (lowest? versions).bind key? = some key ↔
      IsLeast {k | ∃ version ∈ versions, key? version = some k} key := by
  constructor
  · intro h
    obtain ⟨lowest, hlowest, hkey⟩ := Option.bind_eq_some_iff.1 h
    obtain ⟨earlier, later, key', rfl, hkey', hleast, -⟩ := lowest?_eq_some_iff.1 hlowest
    obtain rfl := Option.some.inj (hkey'.symm.trans hkey)
    refine ⟨⟨lowest, by simp, hkey⟩, ?_⟩
    rintro k ⟨version, hmem, hk⟩
    exact hleast version hmem k hk
  · rintro ⟨⟨version, hmem, hkey⟩, hleast⟩
    cases hlowest : lowest? versions with
    | none =>
        rw [lowest?_eq_none_iff.1 hlowest version hmem] at hkey
        cases hkey
    | some lowest =>
        obtain ⟨earlier, later, key', rfl, hkey', hleast', -⟩ := lowest?_eq_some_iff.1 hlowest
        have hle : key' ≤ key := hleast' version hmem key hkey
        have hge : key ≤ key' := hleast ⟨lowest, by simp, hkey'⟩
        exact hkey'.trans (congrArg some (le_antisymm hle hge))

/-- The order of the versions does not matter for the key. -/
theorem bind_key?_lowest?_perm (h : versions.Perm versions') :
    (lowest? versions).bind key? = (lowest? versions').bind key? := by
  have hmem : ∀ version, version ∈ versions ↔ version ∈ versions' := fun _ => h.mem_iff
  refine Option.ext fun key => ?_
  rw [bind_key?_lowest?_eq_some_iff, bind_key?_lowest?_eq_some_iff]
  simp only [hmem]

/-- Versions without a key do not count. -/
theorem lowest?_filter (versions : List String) :
    lowest? (versions.filter fun version => (key? version).isSome) = lowest? versions := by
  rw [lowest?_eq, lowest?_eq, List.filterMap_filter]
  congr 2
  refine List.filterMap_congr fun version _ => ?_
  cases hkey : key? version with
  | none => simp [keyed?, hkey]
  | some key => simp

end Version

namespace Gateway

open Exchange Http

variable {c : RunnerConfig} {answer : Nat → Outcome} {past : List Act}

/-! ## The versions of the backends -/

/-- The backend answered with success and in JSON, and told the version. -/
def TellsVersion (answer : Outcome) (version : String) : Prop :=
  ∃ reply v, answer = .ok reply ∧ 200 ≤ reply.status ∧ reply.status < 300 ∧
    reply.json? = some v ∧ v.field? "version" = some (.str version)

/-- The versions that the enabled backends tell, in their order. -/
def toldVersions (c : RunnerConfig) (answer : Nat → Outcome) : List String :=
  (asked c).filterMap fun b => toldVersion? (answer b.idx)

/-- What is done to get the lowest version, latest first. -/
def askingVersions (c : RunnerConfig) (answer : Nat → Outcome) : List Act :=
  [.did (.exchange (listingCalls c "/api/version")) (outcomesOf c answer),
    .sent (listingCalls c "/api/version"), .did .config c]

theorem toldVersion?_eq_some_iff {outcome : Outcome} {version : String} :
    toldVersion? outcome = some version ↔ TellsVersion outcome version := by
  have hstring : ∀ found : Option Json, found.bind Json.string? = some version ↔
      found = some (.str version) := by
    intro found
    rcases found with _ | (_ | _ | _ | _ | _ | _ | _) <;> simp [Json.string?]
  rw [toldVersion?, hstring, Option.bind_eq_some_iff]
  constructor
  · rintro ⟨v, hv, hfield⟩
    obtain ⟨reply, hreply, hlow, hhigh, hjson⟩ := value?_eq_some_iff.1 hv
    exact ⟨reply, v, hreply, hlow, hhigh, hjson, hfield⟩
  · rintro ⟨reply, v, hreply, hlow, hhigh, hjson, hfield⟩
    exact ⟨v, value?_eq_some_iff.2 ⟨reply, hreply, hlow, hhigh, hjson⟩, hfield⟩

/-- Exactly the enabled backends count. -/
theorem mem_toldVersions_iff {version : String} :
    version ∈ toldVersions c answer ↔ ∃ idx b, c.backend? idx = some b ∧
      b.config.enable = true ∧ TellsVersion (answer idx) version := by
  simp only [toldVersions, asked, List.mem_filterMap, List.mem_filter, toldVersion?_eq_some_iff,
    and_assoc]
  constructor
  · rintro ⟨b, hb, henabled, htells⟩
    obtain ⟨idx, hidx⟩ := List.mem_iff_getElem?.1 hb
    rw [RunnerConfig.backends_getElem?] at hidx
    rw [RunnerConfig.backend?_idx hidx] at htells
    exact ⟨idx, b, hidx, henabled, htells⟩
  · rintro ⟨idx, b, hidx, henabled, htells⟩
    have hb : b ∈ c.backends :=
      List.mem_of_getElem? ((RunnerConfig.backends_getElem? c idx).trans hidx)
    exact ⟨b, hb, henabled, RunnerConfig.backend?_idx hidx ▸ htells⟩

/-! ## The lowest one -/

/-- The version that is told, or the error if nobody tells one. -/
def lowestTold (c : RunnerConfig) (answer : Nat → Outcome) : Except GatewayError String :=
  match Version.lowest? (toldVersions c answer) with
  | some version => .ok version
  | none => .error .runnerNotFound

/-- The answer to a request for the version. -/
def versionResponse (lowest : Except GatewayError String) : Response :=
  .ofResult (lowest.map fun version => .ofJson 200 (.obj [("version", .str version)]))

theorem lowestVersion_leads (hc : c.enabled = true) (answer : Nat → Outcome) (past : List Act) :
    lowestVersion.run.Leads past (askingVersions c answer ++ past)
      ((lowestTold c answer).map .str) := by
  have htold : (outcomesOf c answer).filterMap toldVersion? = toldVersions c answer := by
    rw [outcomesOf, List.filterMap_map]
    rfl
  refine Task.Leads.step c trivial ?_
  change Task.Leads (ExceptT.run (if c.enabled = true then _ else _)) _ _ _
  rw [if_pos hc]
  refine Task.Leads.step (outcomesOf c answer) (length_outcomesOf _ _ _) ?_
  change Task.Leads (ExceptT.run (match Version.lowest? ((outcomesOf c answer).filterMap
    toldVersion?) with | some version => _ | none => _)) _ _ _
  rw [htold, lowestTold]
  cases Version.lowest? (toldVersions c answer) with
  | some version => exact .done _ _
  | none => exact .done _ _

theorem respond_leads_askingVersions {rules : Rules} {r : Request} (hmethod : r.method = "GET")
    (hpath : r.path = "/api/version") (hc : c.enabled = true) (answer : Nat → Outcome)
    (past : List Act) :
    (respond rules r).Leads past (askingVersions c answer ++ past)
      (versionResponse (lowestTold c answer)) := by
  have hserved : Served rules r ⟨.version, none⟩ none := by
    refine ⟨?_, rfl, ?_, rfl⟩
    · rw [hpath]
      decide +kernel
    · rw [hmethod]
      decide
  rw [respond_of_served hserved, Task.leads_bind_iff]
  refine ⟨askingVersions c answer ++ past, (lowestTold c answer).map fun version =>
    .ofJson 200 (.obj [("version", .str version)]), ?_, ?_⟩
  · have hserve : serve rules r none .version =
        lowestVersion >>= fun v => pure (Response.ofJson 200 (.obj [("version", v)])) := rfl
    rw [hserve, Attempt.leads_bind_iff]
    have hleads := lowestVersion_leads hc answer past
    cases hlowest : lowestTold c answer with
    | ok version =>
        rw [hlowest] at hleads
        exact .inl ⟨_, .str version, hleads, .done _ _⟩
    | error e =>
        rw [hlowest] at hleads
        exact .inr ⟨e, hleads, rfl⟩
  · have hshown : r.method ≠ "HEAD" := by simp [hmethod]
    rw [Request.shown_eq_self hshown]
    exact .done _ _

/-- The lowest of some versions is the first one with the least key: there is none exactly if no
version has a key, its key does not depend on the order of the versions, and versions without a key
do not count.  A request for the version gets the lowest of those that the enabled backends tell
with success, and an error exactly if none of them has a key. -/
theorem lowest_version_is_the_least (versions : List String) :
    (Version.lowest? versions = none ↔ ∀ version ∈ versions, Version.key? version = none) ∧
    (∀ lowest, Version.lowest? versions = some lowest ↔ Version.IsLowest versions lowest) ∧
    (∀ versions', versions.Perm versions' →
      (Version.lowest? versions).bind Version.key? =
        (Version.lowest? versions').bind Version.key?) ∧
    (∀ versions', (versions'.filter fun version => (Version.key? version).isSome) =
        (versions.filter fun version => (Version.key? version).isSome) →
      Version.lowest? versions' = Version.lowest? versions) ∧
    ∀ (rules : Rules) (r : Request), r.method = "GET" → r.path = "/api/version" →
      ∀ (c : RunnerConfig) (answer : Nat → Outcome) (past : List Act), c.enabled = true →
        (∀ version, version ∈ toldVersions c answer ↔ ∃ idx b, c.backend? idx = some b ∧
          b.config.enable = true ∧ TellsVersion (answer idx) version) ∧
        ∃ lowest, (∀ response,
            (respond rules r).Leads past (askingVersions c answer ++ past) response ↔
              response = versionResponse lowest) ∧
          (∀ version, lowest = .ok version ↔
            Version.IsLowest (toldVersions c answer) version) ∧
          (lowest = .error .runnerNotFound ↔
            ∀ version ∈ toldVersions c answer, Version.key? version = none) ∧
          ∀ e, lowest = .error e → e = .runnerNotFound := by
  refine ⟨Version.lowest?_eq_none_iff, fun lowest => Version.lowest?_eq_some_iff,
    fun versions' => Version.bind_key?_lowest?_perm, fun versions' hsame => ?_,
    fun rules r hmethod hpath c answer past hc => ⟨fun version => mem_toldVersions_iff, ?_⟩⟩
  · rw [← Version.lowest?_filter, hsame, Version.lowest?_filter]
  · refine ⟨lowestTold c answer, fun response => ⟨fun h => ?_, ?_⟩, fun version => ?_, ?_, ?_⟩
    · exact h.unique (respond_leads_askingVersions hmethod hpath hc answer past)
    · rintro rfl
      exact respond_leads_askingVersions hmethod hpath hc answer past
    · rw [← Version.lowest?_eq_some_iff, lowestTold]
      split <;> simp_all
    · rw [← Version.lowest?_eq_none_iff, lowestTold]
      split <;> simp_all
    · intro e he
      unfold lowestTold at he
      split at he
      · cases he
      · exact (Except.error.inj he).symm

/-- Two backends, of which the first one is ahead by more than a digit. -/
def tenAndNine (idx : Nat) : Outcome :=
  let version := if idx = 0 then "v0.10.0" else "0.9.1-beta"
  let text := "\x7b\"version\":\"" ++ version ++ "\"\x7d"
  .ok { status := 200, headers := [], body := { bytes := text.toUTF8.toList } }

theorem lowest_version_is_the_least_of_two :
    let told := ["v0.10.0", "0.9.1-beta"]
    let asking : Request := { method := "GET", path := "/api/version" }
    (told.Perm told.reverse ∧
      (("dev" :: told).filter fun version => (Version.key? version).isSome) =
        (told.filter fun version => (Version.key? version).isSome) ∧
      asking.method = "GET" ∧ asking.path = "/api/version" ∧ nestedSpaces.enabled = true) ∧
    (Version.lowest? told).bind Version.key? = (Version.lowest? told.reverse).bind Version.key? ∧
    Version.lowest? ("dev" :: told) = Version.lowest? told ∧
    (respond {} asking).Leads [] (askingVersions nestedSpaces tenAndNine ++ [])
      (.ofJson 200 (.obj [("version", .str "0.9.1-beta")])) := by
  intro told asking
  have hperm : told.Perm told.reverse := (List.reverse_perm told).symm
  have hdev : (("dev" :: told).filter fun version => (Version.key? version).isSome) =
      (told.filter fun version => (Version.key? version).isSome) := by decide +kernel
  obtain ⟨-, -, horder, hsilent, htells⟩ := lowest_version_is_the_least told
  refine ⟨⟨hperm, hdev, rfl, rfl, rfl⟩, horder _ hperm, hsilent _ hdev, ?_⟩
  obtain ⟨-, lowest, hleads, hok, -, -⟩ := htells {} asking rfl rfl nestedSpaces tenAndNine [] rfl
  have htold : toldVersions nestedSpaces tenAndNine = told := by decide +kernel
  have hlowest : lowest = .ok "0.9.1-beta" := by
    rw [hok, htold, ← Version.lowest?_eq_some_iff]
    decide +kernel
  rw [hleads, hlowest]
  rfl

end Gateway
end RunnerGateway
