import RunnerGateway.Proofs.Pieces
import RunnerGateway.Proofs.Updating
import RunnerGateway.Settings

/-!
# The first base URLs

Before anything is stored, the base URLs come from the environment.  `Settings.Seeds` says which
ones: a list that is not blank, or else a single URL, or else the URL of the older variable without
the path at its end, or else a default.  Of the URLs that are read the path is taken off wherever
they come from, so this is kept unless the URL of the newer variable ends in that path.
-/

namespace RunnerGateway
namespace Settings

/-! ## Which URLs are wanted -/

/-- The parts are what stands between the semicolons of a text. -/
def IsJoined (parts : List String) (text : String) : Prop :=
  parts ≠ [] ∧ (∀ part ∈ parts, ';' ∉ part.toList) ∧ ";".intercalate parts = text

/-- One path `/api` at the end of a URL is taken off, if it stands there. -/
def IsWithoutPath (url short : String) : Prop :=
  url = short ++ "/api" ∨ (∀ start, url ≠ start ++ "/api") ∧ short = url

/-- There is no list: the variable for it is unset or blank. -/
def NoList (env : Environment) : Prop :=
  ∀ text, env.text? "DOCKER_MODEL_RUNNER_BASE_URLS" = some text →
    ∀ c ∈ text.toList, Text.isBlank c = true

/-- No variable tells a URL; the older one does not count if the newer one is set. -/
structure NoUrl (env : Environment) : Prop where
  list : NoList env
  newer : ∀ value, env.text? "DOCKER_MODEL_RUNNER_BASE_URL" = some value →
    normalizeBaseUrl value = ""
  older : env.text? "DOCKER_MODEL_RUNNER_BASE_URL" = none → ∀ value,
    env.text? "DOCKER_MODEL_RUNNER_API_BASE_URL" = some value → normalizeBaseUrl value = ""

/-- The runner is on the same machine. -/
def IsLocal (env : Environment) : Prop :=
  ∃ value, env.text? "USE_DOCKER_MODEL_RUNNER_DOCKER" = some value ∧ isAffirmative value = true

/-- The base URLs that an environment asks for, by the precedence of its variables. -/
inductive Seeds (env : Environment) : List String → Prop
  | list {text : String} {parts : List String}
      (htext : env.text? "DOCKER_MODEL_RUNNER_BASE_URLS" = some text)
      (hblank : ∃ c ∈ text.toList, Text.isBlank c = false) (hparts : IsJoined parts text) :
      Seeds env ((parts.map normalizeBaseUrl).filter fun url => url ≠ "")
  | newer {value : String} (hlist : NoList env)
      (hvalue : env.text? "DOCKER_MODEL_RUNNER_BASE_URL" = some value)
      (hurl : normalizeBaseUrl value ≠ "") : Seeds env [normalizeBaseUrl value]
  | older {value url : String} (hlist : NoList env)
      (hnewer : env.text? "DOCKER_MODEL_RUNNER_BASE_URL" = none)
      (hvalue : env.text? "DOCKER_MODEL_RUNNER_API_BASE_URL" = some value)
      (hurl : normalizeBaseUrl value ≠ "") (hpath : IsWithoutPath (normalizeBaseUrl value) url) :
      Seeds env [url]
  | machine (hnone : NoUrl env) (hlocal : IsLocal env) : Seeds env ["http://localhost:12434"]
  | container (hnone : NoUrl env) (hlocal : ¬IsLocal env) :
      Seeds env ["http://model-runner.docker.internal"]

/-- The newer variable for a single URL counts, and its URL ends in the path that only the older one
should have. -/
def EndsNewerInPath (env : Environment) : Prop :=
  NoList env ∧ ∃ value start, env.text? "DOCKER_MODEL_RUNNER_BASE_URL" = some value ∧
    normalizeBaseUrl value = start ++ "/api"

/-! ## Which URLs are read -/

section Reading

variable {env : Environment} {urls : List String}

theorem splitBaseUrls_of_isJoined {parts : List String} {text : String}
    (h : IsJoined parts text) :
    splitBaseUrls text = (parts.map normalizeBaseUrl).filter fun url => url ≠ "" := by
  obtain ⟨hne, hclean, rfl⟩ := h
  have hpieces : Text.pieces ';' (";".intercalate parts).toList = parts.map String.toList := by
    refine Text.pieces_eq_iff.2 ⟨by simpa using hne, ?_, by simp⟩
    simpa using hclean
  rw [splitBaseUrls, hpieces, List.map_map]
  simp [Function.comp_def]

theorem exists_isJoined (text : String) : ∃ parts, IsJoined parts text := by
  obtain ⟨hne, hclean, hjoin⟩ := Text.pieces_eq_iff.1 (rfl : Text.pieces ';' text.toList = _)
  refine ⟨(Text.pieces ';' text.toList).map String.ofList, by simpa using hne, ?_, ?_⟩
  · simpa using hclean
  · rw [← String.toList_inj]
    simpa [Function.comp_def] using hjoin

theorem withoutApiPath_eq_iff {url short : String} :
    withoutApiPath url = short ↔ IsWithoutPath url short := by
  have hends (start : List Char) :
      Text.after? "/api".toList.reverse url.toList.reverse = some start ↔
        url = String.ofList start.reverse ++ "/api" := by
    rw [Text.after?_eq_some_iff, ← String.toList_inj, ← List.reverse_inj]
    simp
  unfold withoutApiPath IsWithoutPath
  cases hfound : Text.after? "/api".toList.reverse url.toList.reverse with
  | some start =>
      have hurl := (hends start).1 hfound
      constructor
      · rintro rfl
        exact .inl hurl
      · rintro (hshort | ⟨hnone, -⟩)
        · exact (String.append_left_inj "/api").1 (hurl.symm.trans hshort)
        · exact absurd hurl (hnone _)
  | none =>
      have hnone (start : String) : url ≠ start ++ "/api" := by
        intro hurl
        have := (hends start.toList.reverse).2 (by simpa using hurl)
        rw [hfound] at this
        exact nomatch this
      constructor
      · rintro rfl
        exact .inr ⟨hnone, rfl⟩
      · rintro (hshort | ⟨-, rfl⟩)
        · exact absurd hshort (hnone _)
        · rfl

/-- A list that is not blank is read and nothing else. -/
theorem value_baseUrls_of_list {text : String}
    (htext : env.text? "DOCKER_MODEL_RUNNER_BASE_URLS" = some text)
    (hblank : ∃ c ∈ text.toList, Text.isBlank c = false) :
    (baseUrls env).value = splitBaseUrls text := by
  have htrim : Text.trim text ≠ "" := by
    obtain ⟨c, hc, hfalse⟩ := hblank
    intro hempty
    rw [Text.trim, String.ofList_eq_empty_iff, Text.trimBlank_eq_nil_iff] at hempty
    exact Bool.false_ne_true (hfalse.symm.trans (hempty c hc))
  have hlist : (env.text? "DOCKER_MODEL_RUNNER_BASE_URLS").filter
      (fun list => Text.trim list ≠ "") = some text := by
    simp [htext, htrim]
  rw [baseUrls, hlist]
  rfl

theorem value_renamed? (env : Environment) (name oldName : String) :
    (env.renamed? name oldName).value = (env.text? name).or (env.text? oldName) := by
  unfold Environment.renamed?
  cases env.text? name with
  | some value => rfl
  | none => cases env.text? oldName <;> rfl

/-- Without a list, the first of the two variables that is set tells a URL, or the default counts;
the path is taken off the URL of either. -/
theorem value_baseUrls_of_noList (h : NoList env) :
    (baseUrls env).value =
      match (((env.text? "DOCKER_MODEL_RUNNER_BASE_URL").or
        (env.text? "DOCKER_MODEL_RUNNER_API_BASE_URL")).map normalizeBaseUrl).filter
          fun url => url ≠ "" with
      | some url => [withoutApiPath url]
      | none => [defaultUrl env] := by
  have hlist : (env.text? "DOCKER_MODEL_RUNNER_BASE_URLS").filter
      (fun list => Text.trim list ≠ "") = none := by
    refine Option.filter_eq_none_iff.2 fun text htext => ?_
    have hnil := Text.trimBlank_eq_nil_iff.2 (h text htext)
    simp [Text.trim, hnil]
  have hsingle : (singleUrl? env).value = ((((env.text? "DOCKER_MODEL_RUNNER_BASE_URL").or
      (env.text? "DOCKER_MODEL_RUNNER_API_BASE_URL")).map normalizeBaseUrl).filter
        fun url => url ≠ "").map withoutApiPath := by
    rw [← value_renamed?]
    rfl
  have hvalue : (baseUrls env).value =
      match (singleUrl? env).value with
      | some url => [url]
      | none => [defaultUrl env] := by
    rw [baseUrls, hlist]
    change Noted.value (Noted.bind (singleUrl? env) _) = _
    rw [Noted.bind]
    cases (singleUrl? env).value <;> rfl
  rw [hvalue, hsingle]
  cases Option.filter _ _ <;> rfl

theorem value_baseUrls_of_single {value : String} (hlist : NoList env)
    (hvalue : (env.text? "DOCKER_MODEL_RUNNER_BASE_URL").or
      (env.text? "DOCKER_MODEL_RUNNER_API_BASE_URL") = some value)
    (hurl : normalizeBaseUrl value ≠ "") :
    (baseUrls env).value = [withoutApiPath (normalizeBaseUrl value)] := by
  have hkept : ((some value).map normalizeBaseUrl).filter (fun url => url ≠ "") =
      some (normalizeBaseUrl value) := by
    simp [hurl]
  rw [value_baseUrls_of_noList hlist, hvalue, hkept]

theorem value_baseUrls_of_noUrl (h : NoUrl env) : (baseUrls env).value = [defaultUrl env] := by
  have hnone : (((env.text? "DOCKER_MODEL_RUNNER_BASE_URL").or
      (env.text? "DOCKER_MODEL_RUNNER_API_BASE_URL")).map normalizeBaseUrl).filter
        (fun url => url ≠ "") = none := by
    refine Option.filter_eq_none_iff.2 fun url hmap => ?_
    obtain ⟨value, hvalue, rfl⟩ := Option.map_eq_some_iff.1 hmap
    cases hnewer : env.text? "DOCKER_MODEL_RUNNER_BASE_URL" with
    | some newer =>
        rw [hnewer] at hvalue
        obtain rfl := Option.some.inj hvalue
        simp [h.newer newer hnewer]
    | none =>
        rw [hnewer] at hvalue
        simp [h.older hnewer value hvalue]
  rw [value_baseUrls_of_noList h.list, hnone]

theorem defaultUrl_eq_localUrl (h : IsLocal env) : defaultUrl env = localUrl := by
  obtain ⟨value, hvalue, hon⟩ := h
  simp [defaultUrl, Environment.switch, hvalue, hon]

theorem defaultUrl_eq_containerUrl (h : ¬IsLocal env) : defaultUrl env = containerUrl := by
  unfold defaultUrl Environment.switch
  cases hvalue : env.text? "USE_DOCKER_MODEL_RUNNER_DOCKER" with
  | none => rfl
  | some value =>
      have hoff : isAffirmative value = false := by
        by_contra hon
        exact h ⟨value, hvalue, by simpa using hon⟩
      simp [hoff]

/-- Every environment asks for base URLs. -/
theorem exists_seeds (env : Environment) : ∃ urls, Seeds env urls := by
  by_cases hlist : NoList env
  · by_cases hnone : NoUrl env
    · by_cases hlocal : IsLocal env
      · exact ⟨_, .machine hnone hlocal⟩
      · exact ⟨_, .container hnone hlocal⟩
    · cases hnewer : env.text? "DOCKER_MODEL_RUNNER_BASE_URL" with
      | some newer =>
          by_cases hurl : normalizeBaseUrl newer = ""
          · have : NoUrl env := ⟨hlist, by simp [hnewer, hurl], by simp [hnewer]⟩
            exact absurd this hnone
          · exact ⟨_, .newer hlist hnewer hurl⟩
      | none =>
          have holder : ∃ value, env.text? "DOCKER_MODEL_RUNNER_API_BASE_URL" = some value ∧
              normalizeBaseUrl value ≠ "" := by
            by_contra hempty
            push Not at hempty
            exact hnone ⟨hlist, by simp [hnewer], fun _ => hempty⟩
          obtain ⟨value, hvalue, hurl⟩ := holder
          exact ⟨_, .older hlist hnewer hvalue hurl (withoutApiPath_eq_iff.1 rfl)⟩
  · unfold NoList at hlist
    push Not at hlist
    obtain ⟨text, htext, c, hc, hblank⟩ := hlist
    obtain ⟨parts, hparts⟩ := exists_isJoined text
    exact ⟨_, .list htext ⟨c, hc, by simpa using hblank⟩ hparts⟩

/-- The base URLs that are read are those that are asked for, if no path is taken off the URL of
the newer variable. -/
theorem value_baseUrls_of_seeds (h : Seeds env urls) (hpath : ¬EndsNewerInPath env) :
    (baseUrls env).value = urls := by
  cases h with
  | list htext hblank hparts =>
      rw [value_baseUrls_of_list htext hblank, splitBaseUrls_of_isJoined hparts]
  | newer hlist hvalue hurl =>
      have hkept : withoutApiPath (normalizeBaseUrl _) = normalizeBaseUrl _ :=
        withoutApiPath_eq_iff.2
          (.inr ⟨fun start hstart => hpath ⟨hlist, _, start, hvalue, hstart⟩, rfl⟩)
      rw [value_baseUrls_of_single hlist (by rw [hvalue]; rfl) hurl, hkept]
  | older hlist hnewer hvalue hurl hshort =>
      rw [value_baseUrls_of_single hlist (by rw [hnewer, hvalue]; rfl) hurl,
        withoutApiPath_eq_iff.2 hshort]
  | machine hnone hlocal =>
      rw [value_baseUrls_of_noUrl hnone, defaultUrl_eq_localUrl hlocal]
      rfl
  | container hnone hlocal =>
      rw [value_baseUrls_of_noUrl hnone, defaultUrl_eq_containerUrl hlocal]
      rfl

/-- If the URL of the newer variable ends in the path, it is asked for with the path, and read
without it. -/
theorem seeds_of_endsNewerInPath (h : EndsNewerInPath env) :
    ∃ start, (baseUrls env).value = [start] ∧ ∀ urls, Seeds env urls ↔ urls = [start ++ "/api"] := by
  obtain ⟨hlist, value, start, hvalue, hstart⟩ := h
  have hurl : normalizeBaseUrl value ≠ "" := by
    intro hempty
    have := congrArg String.length (hstart.symm.trans hempty)
    simp at this
  refine ⟨start, ?_, fun urls => ⟨fun hseeds => ?_, ?_⟩⟩
  · rw [value_baseUrls_of_single hlist (by rw [hvalue]; rfl) hurl,
      withoutApiPath_eq_iff.2 (.inl hstart)]
  · cases hseeds with
    | list htext hblank _ =>
        obtain ⟨c, hc, hfalse⟩ := hblank
        exact absurd (hlist _ htext c hc) (by simp [hfalse])
    | newer _ hvalue' _ =>
        obtain rfl := Option.some.inj (hvalue.symm.trans hvalue')
        rw [hstart]
    | older _ hnewer _ _ _ => exact nomatch hvalue.symm.trans hnewer
    | machine hnone _ => exact absurd (hnone.newer value hvalue) hurl
    | container hnone _ => exact absurd (hnone.newer value hvalue) hurl
  · rintro rfl
    rw [← hstart]
    exact .newer hlist hvalue hurl

end Reading

/-- The base URLs are those that the environment asks for, unless the URL of the newer variable ends
in `/api`, which is then taken off.  In any case the configuration made of them has no empty URL and
none that ends in a slash. -/
theorem base_urls_keep_precedence_unless_newer_ends_in_path (env : Environment) :
    (∃ urls, Seeds env urls) ∧
    (∀ urls, Seeds env urls → ((baseUrls env).value = urls ↔ ¬EndsNewerInPath env)) ∧
    (EndsNewerInPath env → ∃ start, (baseUrls env).value = [start] ∧
      ∀ urls, Seeds env urls ↔ urls = [start ++ "/api"]) ∧
    ∀ url ∈ (runners env).value.baseUrls, url ≠ "" ∧ url.toList.getLast? ≠ some '/' := by
  refine ⟨exists_seeds env, fun urls hseeds => ?_, seeds_of_endsNewerInPath, fun url hurl => ?_⟩
  · constructor
    · rintro rfl hpath
      obtain ⟨start, hread, hasked⟩ := seeds_of_endsNewerInPath hpath
      have hsame : [start] = [start ++ "/api"] := hread.symm.trans ((hasked _).1 hseeds)
      have := congrArg String.length (List.singleton_inj.1 hsame)
      simp at this
    · exact value_baseUrls_of_seeds hseeds
  · have hkept : url ∈ ((baseUrls env).value.map normalizeBaseUrl).filter fun url => url ≠ "" :=
      hurl
    obtain ⟨hmem, hne⟩ := List.mem_filter.1 hkept
    obtain ⟨raw, -, rfl⟩ := List.mem_map.1 hmem
    exact ⟨by simpa using hne, getLast?_normalizeBaseUrl raw⟩

/-- A blank list, a newer variable that is no text, and an older one with slashes and a path. -/
def olderEnvironment : Environment :=
  [("DOCKER_MODEL_RUNNER_BASE_URLS", " ".toUTF8.toList),
    ("DOCKER_MODEL_RUNNER_BASE_URL", [0xFF]),
    ("DOCKER_MODEL_RUNNER_API_BASE_URL", " http://old//api/ ".toUTF8.toList)]

/-- A slash before the path is left by the first reading, and gone in the configuration. -/
theorem base_urls_keep_precedence_of_older :
    Seeds olderEnvironment ["http://old/"] ∧ ¬EndsNewerInPath olderEnvironment ∧
      (baseUrls olderEnvironment).value = ["http://old/"] ∧
      "http://old" ∈ (runners olderEnvironment).value.baseUrls ∧
      ("http://old" ≠ "" ∧ "http://old".toList.getLast? ≠ some '/') := by
  have hnewer : olderEnvironment.text? "DOCKER_MODEL_RUNNER_BASE_URL" = none := by decide +kernel
  have hlist : NoList olderEnvironment := by
    intro text htext
    have hblank : olderEnvironment.text? "DOCKER_MODEL_RUNNER_BASE_URLS" = some " " := by
      decide +kernel
    obtain rfl := Option.some.inj (hblank.symm.trans htext)
    exact List.all_eq_true.1 (by decide +kernel)
  have hvalue : olderEnvironment.text? "DOCKER_MODEL_RUNNER_API_BASE_URL" =
      some " http://old//api/ " := by
    decide +kernel
  have hseeds : Seeds olderEnvironment ["http://old/"] :=
    .older hlist hnewer hvalue (by decide +kernel) (.inl (by decide +kernel))
  have hpath : ¬EndsNewerInPath olderEnvironment := by
    rintro ⟨-, value, start, hvalue, -⟩
    exact nomatch hnewer.symm.trans hvalue
  obtain ⟨-, hread, -, hurls⟩ :=
    base_urls_keep_precedence_unless_newer_ends_in_path olderEnvironment
  have hmem : "http://old" ∈ (runners olderEnvironment).value.baseUrls := by decide +kernel
  exact ⟨hseeds, hpath, (hread _ hseeds).2 hpath, hmem, hurls _ hmem⟩

/-- The path is taken off the URL of the newer variable, from which it should not be taken. -/
theorem newer_url_loses_its_path :
    let env : Environment := [("DOCKER_MODEL_RUNNER_BASE_URL", "http://a/api".toUTF8.toList)]
    Seeds env ["http://a/api"] ∧ (baseUrls env).value = ["http://a"] ∧
      (runners env).value.baseUrls = ["http://a"] := by
  intro env
  have hlist : NoList env := by
    intro text htext
    have hnone : env.text? "DOCKER_MODEL_RUNNER_BASE_URLS" = none := by decide +kernel
    exact nomatch hnone.symm.trans htext
  have hurl : normalizeBaseUrl "http://a/api" = "http://a/api" := by decide +kernel
  have hseeds : Seeds env [normalizeBaseUrl "http://a/api"] :=
    .newer hlist (by decide +kernel) (by decide +kernel)
  exact ⟨hurl ▸ hseeds, by decide +kernel, by decide +kernel⟩

end Settings
end RunnerGateway
