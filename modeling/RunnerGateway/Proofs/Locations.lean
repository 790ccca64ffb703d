import RunnerGateway.Proofs.Directories
import RunnerGateway.Proofs.Json.Tokens
import RunnerGateway.Store.Opening

/-!
# Where a database is, and where its directory

The URL of a database is read twice: once for the directory that is made, and once for the file that
is opened.  The first reading takes the path as it is written.  The second one takes off the scheme
and the two slashes as often as they stand there, and replaces escapes.  Where both find the same
text up to the last slash, exactly those directories are made that the file needs
(`missing_directories_are_made`); an escape in the name of the file does no harm.
-/

namespace RunnerGateway

namespace Text

theorem after?_eq_none_iff {start cs : List Char} : after? start cs = none ↔ ¬start <+: cs := by
  rw [Option.eq_none_iff_forall_ne_some]
  constructor
  · rintro h ⟨rest, hrest⟩
    exact h rest (after?_eq_some_iff.2 hrest.symm)
  · rintro h rest hrest
    exact h ⟨rest, (after?_eq_some_iff.1 hrest).symm⟩

/-- What does not begin a text does not begin it when something is appended that begins with a
character it does not have. -/
theorem prefix_append_iff {start cs query : List Char} {c : Char} (hc : c ∉ start)
    (hquery : query = [] ∨ ∃ rest, query = c :: rest) : start <+: cs ++ query ↔ start <+: cs := by
  constructor
  · intro h
    obtain hprefix | ⟨beyond, rfl⟩ := List.prefix_or_prefix_of_prefix h (List.prefix_append cs query)
    · exact hprefix
    · rw [List.prefix_append_right_inj] at h
      cases beyond with
      | nil => simp
      | cons a beyond =>
          obtain ⟨tail, htail⟩ := h
          obtain rfl | ⟨rest, rfl⟩ := hquery
          · exact nomatch htail
          · obtain ⟨rfl, -⟩ := List.cons.inj htail
            simp at hc
  · exact fun h => h.trans (List.prefix_append cs query)

end Text

namespace Url

/-! ## Escapes -/

/-- There is a complete escape among the bytes. -/
def HasEscape (bs : List UInt8) : Prop :=
  ∃ before a b after, bs = before ++ 0x25 :: a :: b :: after ∧
    (hexValue? a).isSome = true ∧ (hexValue? b).isSome = true

theorem percentDecode_cons_of_ne {c : UInt8} (hc : c ≠ 0x25) (rest : List UInt8) :
    percentDecode (c :: rest) = c :: percentDecode rest := by
  rw [percentDecode]
  rintro a b more hpercent -
  exact hc hpercent

/-- A percent sign without two digits of base sixteen after it stays. -/
theorem percentDecode_percent {rest : List UInt8}
    (h : ∀ a b more, rest = a :: b :: more → hexValue? a = none ∨ hexValue? b = none) :
    percentDecode (0x25 :: rest) = 0x25 :: percentDecode rest := by
  rcases rest with _ | ⟨a, _ | ⟨b, more⟩⟩
  · rfl
  · rfl
  · rw [percentDecode]
    obtain ha | hb := h a b more rfl
    · rw [ha]
    · rw [hb]
      cases hexValue? a <;> rfl

theorem percentDecode_eq_self {bs : List UInt8} (h : ¬HasEscape bs) : percentDecode bs = bs := by
  induction bs with
  | nil => rfl
  | cons c bs ih =>
      have hrest : ¬HasEscape bs := by
        rintro ⟨before, a, b, after, rfl, ha, hb⟩
        exact h ⟨c :: before, a, b, after, rfl, ha, hb⟩
      by_cases hc : c = 0x25
      · subst hc
        rw [percentDecode_percent, ih hrest]
        rintro a b more rfl
        by_contra hboth
        rw [not_or, ← ne_eq, ← ne_eq, ← Option.isSome_iff_ne_none, ← Option.isSome_iff_ne_none]
          at hboth
        exact h ⟨[], a, b, more, rfl, hboth⟩
      · rw [percentDecode_cons_of_ne hc, ih hrest]

/-- No escape goes across a slash. -/
theorem percentDecode_append_slash (bs rest : List UInt8) :
    percentDecode (bs ++ 0x2F :: rest) = percentDecode bs ++ 0x2F :: percentDecode rest := by
  have hslash : hexValue? 0x2F = none := by decide
  induction bs using percentDecode.induct with
  | case1 a b more high low ha hb ih =>
      simp only [List.cons_append, percentDecode, ha, hb, ih]
  | case2 a b more hnone ih =>
      have hstays (tail : List UInt8) :
          percentDecode (0x25 :: a :: b :: tail) = 0x25 :: percentDecode (a :: b :: tail) := by
        refine percentDecode_percent ?_
        rintro a' b' more' htail
        simp only [List.cons.injEq] at htail
        obtain ⟨rfl, rfl, -⟩ := htail
        by_contra hboth
        rw [not_or] at hboth
        obtain ⟨high, hhigh⟩ := Option.ne_none_iff_exists'.1 hboth.1
        obtain ⟨low, hlow⟩ := Option.ne_none_iff_exists'.1 hboth.2
        exact hnone high low hhigh hlow
      rw [List.cons_append, List.cons_append, List.cons_append, hstays, hstays, List.cons_append,
        ← ih]
      rfl
  | case3 c more hc ih =>
      by_cases hpercent : c = 0x25
      · -- The percent sign is the last byte or the last but one, so the slash comes too early.
        subst hpercent
        have hstays : percentDecode (0x25 :: more) = 0x25 :: percentDecode more :=
          percentDecode_percent fun a b more' hmore => (hc a b more' rfl hmore).elim
        rw [List.cons_append, hstays, List.cons_append, ← ih]
        refine percentDecode_percent fun a b more' hmore => ?_
        rcases more with _ | ⟨x, _ | ⟨y, more⟩⟩
        · obtain ⟨rfl, -⟩ := List.cons.inj hmore
          exact .inl hslash
        · obtain ⟨rfl, -⟩ := List.cons.inj (List.cons.inj hmore).2
          exact .inr hslash
        · exact (hc x y more rfl rfl).elim
      · rw [List.cons_append, percentDecode_cons_of_ne hpercent, percentDecode_cons_of_ne hpercent,
          ih, List.cons_append]
  | case4 => exact percentDecode_cons_of_ne (by decide) rest

end Url

namespace Store

/-! ## Taking off what stands in front -/

theorem afterAll_append {start : List Char} (hstart : start ≠ []) (cs : List Char) :
    afterAll start (start ++ cs) = afterAll start cs := by
  have hafter : Text.after? start (start ++ cs) = some cs := Text.after?_eq_some_iff.2 rfl
  have hshort : cs.length < (start ++ cs).length := by
    have := List.length_pos_iff.2 hstart
    simpa using this
  rw [afterAll, if_neg hstart, hafter]
  exact if_pos hshort

theorem afterAll_eq_self {start cs : List Char} (h : ¬start <+: cs) : afterAll start cs = cs := by
  rw [afterAll, Text.after?_eq_none_iff.2 h, ite_self]

/-! ## URLs of files -/

/-- The text of escaped bytes. -/
def unescaped? (text : String) : Option String :=
  String.fromUTF8? (Url.percentDecode text.toUTF8.toList).toByteArray

theorem toUTF8_toList (text : String) : text.toUTF8.toList = Json.utf8 text.toList := by
  rw [← Json.toList_toUTF8_ofList, String.ofList_toList]

/-- The bytes of which a text was made are its own. -/
theorem eq_utf8_of_fromUTF8? {bs : List UInt8} {text : String}
    (h : String.fromUTF8? bs.toByteArray = some text) : bs = Json.utf8 text.toList := by
  unfold String.fromUTF8? at h
  split at h
  · rename_i hvalid
    obtain rfl := Option.some.inj h
    have hbytes : (Json.utf8 (String.fromUTF8 bs.toByteArray hvalid).toList).toByteArray =
        bs.toByteArray := String.utf8Encode_toList
    have hlists := congrArg (fun a => a.data.toList) hbytes
    simpa only [List.toList_data_toByteArray] using hlists.symm
  · exact nomatch h

/-- The parts of a URL in which both readings find the same path: nothing more is taken off before
the path than stands there for the scheme. -/
structure PlainUrl where
  /-- What stands between the scheme and the path. -/
  slashes : String
  path : String
  /-- The parameters with the question mark before them. -/
  query : String
  slashes_eq : slashes = "" ∨ slashes = "//"
  query_eq : query = "" ∨ ∃ rest, query = "?" ++ rest
  noQuery : '?' ∉ path.toList
  noSlashes : ¬"//".toList <+: path.toList
  noScheme : slashes = "" → ¬"sqlite:".toList <+: path.toList

namespace PlainUrl

/-- The URL as it is written. -/
def text (u : PlainUrl) : String :=
  "sqlite:" ++ u.slashes ++ u.path ++ u.query

theorem toList_text (u : PlainUrl) : u.text.toList =
    "sqlite:".toList ++ (u.slashes.toList ++ (u.path.toList ++ u.query.toList)) := by
  simp [text]

theorem query_chars (u : PlainUrl) : u.query.toList = [] ∨ ∃ rest, u.query.toList = '?' :: rest := by
  obtain hnone | ⟨rest, hrest⟩ := u.query_eq
  · exact .inl (by rw [hnone]; rfl)
  · exact .inr ⟨rest.toList, by rw [hrest, String.toList_append]; rfl⟩

/-- Nothing without a question mark begins the rest of the URL, unless it begins the path. -/
theorem prefix_iff (u : PlainUrl) {front : List Char} (hfront : '?' ∉ front) :
    front <+: u.path.toList ++ u.query.toList ↔ front <+: u.path.toList :=
  Text.prefix_append_iff hfront u.query_chars

theorem takeWhile_path (u : PlainUrl) :
    (u.path.toList ++ u.query.toList).takeWhile (fun c => c ≠ '?') = u.path.toList := by
  have hpath : ∀ c ∈ u.path.toList, decide (c ≠ '?') = true := by
    intro c hc
    refine decide_eq_true ?_
    rintro rfl
    exact u.noQuery hc
  have hquery : u.query.toList.takeWhile (fun c => c ≠ '?') = [] := by
    obtain hnone | ⟨rest, hrest⟩ := u.query_chars
    · rw [hnone]
      rfl
    · rw [hrest]
      rfl
  rw [List.takeWhile_append_of_pos hpath, hquery, List.append_nil]

/-- The directory is looked for in the path as it is written. -/
theorem pathOf?_text (u : PlainUrl) : pathOf? u.text =
    if u.path = "" ∨ Location.memoryName.toList <+: u.path.toList then none else some u.path := by
  have hscheme : Text.after? "sqlite:".toList u.text.toList =
      some (u.slashes.toList ++ (u.path.toList ++ u.query.toList)) :=
    Text.after?_eq_some_iff.2 u.toList_text
  have hslashes : (Text.after? "//".toList
      (u.slashes.toList ++ (u.path.toList ++ u.query.toList))).getD
        (u.slashes.toList ++ (u.path.toList ++ u.query.toList)) =
          u.path.toList ++ u.query.toList := by
    obtain hnone | hsome := u.slashes_eq
    · have hstays : Text.after? "//".toList (u.path.toList ++ u.query.toList) = none :=
        Text.after?_eq_none_iff.2 fun h => u.noSlashes ((u.prefix_iff (by decide)).1 h)
      rw [hnone, String.toList_empty, List.nil_append, hstays]
      rfl
    · rw [hsome, Text.after?_eq_some_iff.2 rfl]
      rfl
  have hmemory : (Text.after? ":memory:".toList u.path.toList).isSome = true ↔
      Location.memoryName.toList <+: u.path.toList := by
    rw [Option.isSome_iff_ne_none, ne_eq, Text.after?_eq_none_iff, not_not]
    rfl
  simp only [pathOf?, hscheme, hslashes, u.takeWhile_path, hmemory, String.toList_eq_nil_iff,
    String.ofList_toList]

/-- The file is looked for in the path without its escapes. -/
theorem ofUrl_text (u : PlainUrl) : Location.ofUrl u.text =
    Location.ofPath u.path.toList >>= fun l =>
      (Location.parameters (((u.path.toList ++ u.query.toList).dropWhile fun c => c ≠ '?').drop
        1)).foldlM Location.adjust l := by
  have hscheme : ¬"sqlite:".toList <+: u.slashes.toList ++ (u.path.toList ++ u.query.toList) := by
    obtain hnone | hsome := u.slashes_eq
    · rw [hnone, String.toList_empty, List.nil_append, u.prefix_iff (by decide)]
      exact u.noScheme hnone
    · rw [hsome]
      rintro ⟨rest, hrest⟩
      exact absurd (List.cons.inj hrest).1 (by decide)
  have hpath : afterAll "//".toList (u.path.toList ++ u.query.toList) =
      u.path.toList ++ u.query.toList :=
    afterAll_eq_self fun h => u.noSlashes ((u.prefix_iff (by decide)).1 h)
  have hrest : afterAll "//".toList (afterAll "sqlite:".toList u.text.toList) =
      u.path.toList ++ u.query.toList := by
    rw [u.toList_text, afterAll_append (by decide), afterAll_eq_self hscheme]
    obtain hnone | hsome := u.slashes_eq
    · rw [hnone, String.toList_empty, List.nil_append, hpath]
    · rw [hsome, afterAll_append (by decide), hpath]
  simp only [Location.ofUrl, hrest, u.takeWhile_path]

end PlainUrl

theorem name_of_adjust {l l' : Location} {p : String × String}
    (h : Location.adjust l p = .ok l') : l'.name = l.name := by
  unfold Location.adjust at h
  split at h
  -- Each parameter that is known leaves the name as it is, and any other one is refused.
  all_goals first
    | obtain rfl := Except.ok.inj h
      rfl
    | split at h <;> exact nomatch h

/-- The parameters do not change which file it is. -/
theorem name_of_foldlM {l l' : Location} {ps : List (String × String)}
    (h : ps.foldlM Location.adjust l = .ok l') : l'.name = l.name := by
  induction ps generalizing l with
  | nil => rw [← Except.ok.inj h]
  | cons p ps ih =>
      rw [List.foldlM_cons] at h
      cases hfirst : Location.adjust l p with
      | error fault =>
          rw [hfirst] at h
          exact nomatch h
      | ok first =>
          rw [hfirst] at h
          exact (ih h).trans (name_of_adjust hfirst)

/-- The parts of a URL that names a file in a directory which both readings find: up to its last
slash the path has no escape. -/
structure FileUrl extends PlainUrl where
  /-- The path up to its last slash. -/
  start : String
  /-- The rest of the path as it is written. -/
  written : String
  /-- The name of the file. -/
  name : String
  path_eq : path = start ++ written
  isStart : Path.IsStart start
  noSlash : '/' ∉ written.toList
  unescaped : unescaped? written = some name
  isProper : Path.IsProper name
  noEscape : ¬Url.HasEscape start.toUTF8.toList
  notMemory : ¬Location.memoryName.toList <+: path.toList

namespace FileUrl

variable {u : FileUrl} {l : Location}

theorem isProper_written (u : FileUrl) : Path.IsProper u.written := by
  have hname {text : String} (htext : unescaped? text = some text) (hwritten : u.written = text) :
      u.name = text := by
    have hboth := u.unescaped
    rw [hwritten, htext] at hboth
    exact (Option.some.inj hboth).symm
  have hempty : unescaped? "" = some "" := by decide +kernel
  have hdot : unescaped? "." = some "." := by decide +kernel
  have hdots : unescaped? ".." = some ".." := by decide +kernel
  exact
    { noSlash := u.noSlash
      nonempty := fun h => u.isProper.nonempty (hname hempty h)
      notSame := fun h => u.isProper.notSame (hname hdot h)
      notBack := fun h => u.isProper.notBack (hname hdots h) }

theorem pathOf?_text (u : FileUrl) : pathOf? u.text = some (u.start ++ u.written) := by
  have hpath : ¬(u.path = "" ∨ Location.memoryName.toList <+: u.path.toList) := by
    rintro (hempty | hmemory)
    · rw [u.path_eq, String.append_eq_empty_iff] at hempty
      exact u.isProper_written.nonempty hempty.2
    · exact u.notMemory hmemory
  rw [u.toPlainUrl.pathOf?_text, if_neg hpath, u.path_eq]

/-- What stands up to the last slash has no escape, and is not changed. -/
theorem percentDecode_start (u : FileUrl) (bs : List UInt8) :
    Url.percentDecode (Json.utf8 u.start.toList ++ bs) =
      Json.utf8 u.start.toList ++ Url.percentDecode bs := by
  have hescape := u.noEscape
  rw [toUTF8_toList] at hescape
  obtain hnone | ⟨before, hbefore⟩ := u.isStart
  · rw [hnone]
    rfl
  · have hbytes : Json.utf8 u.start.toList = Json.utf8 before.toList ++ [0x2F] := by
      rw [hbefore, String.toList_append, Json.utf8_append]
      rfl
    have hkept : ¬Url.HasEscape (Json.utf8 before.toList) := by
      rintro ⟨start, a, b, after, hstart, hdigits⟩
      exact hescape ⟨start, a, b, after ++ [0x2F], by simp [hbytes, hstart], hdigits⟩
    rw [hbytes, List.append_assoc, List.singleton_append, Url.percentDecode_append_slash,
      Url.percentDecode_eq_self hkept, List.append_assoc, List.singleton_append]

theorem ofPath_path (u : FileUrl) :
    Location.ofPath u.path.toList = .ok { name := u.start ++ u.name } := by
  have hfile : u.path.toList ≠ Location.memoryName.toList := by
    intro hpath
    exact u.notMemory ⟨[], by rw [List.append_nil, hpath]⟩
  have hbytes : Url.percentDecode (String.ofList u.path.toList).toUTF8.toList =
      Json.utf8 (u.start ++ u.name).toList := by
    have hwritten := u.unescaped
    rw [unescaped?, toUTF8_toList] at hwritten
    rw [Json.toList_toUTF8_ofList, u.path_eq, String.toList_append, Json.utf8_append,
      u.percentDecode_start, eq_utf8_of_fromUTF8? hwritten, String.toList_append, Json.utf8_append]
  have hname := Json.decodeUtf8?_utf8 (u.start ++ u.name)
  rw [Json.decodeUtf8?] at hname
  rw [Location.ofPath, if_neg hfile, hbytes, hname]

/-- The file that is opened has the start that is written, and its own name. -/
theorem name_of_ofUrl (h : Location.ofUrl u.text = .ok l) : l.name = u.start ++ u.name := by
  rw [u.ofUrl_text, u.ofPath_path] at h
  exact name_of_foldlM h

end FileUrl

end Store
end RunnerGateway
