import RunnerGateway.Proofs.Locations

/-!
# The directory of the database that is opened

Before a database is opened, the directory of its file is made.  If both readings of the URL find
this directory, the directories that the file needs are made and no others, so that the file does
not lack its directory (`missing_directories_are_made`).  For a database in memory nothing is made.
-/

namespace RunnerGateway

namespace Path

theorem start_eq {d : Disk} {path path' : Path} (h : path.absolute = path'.absolute) :
    d.start path = d.start path' := by
  rw [Disk.start, Disk.start, h]

end Path

namespace Disk

/-- The places of the directories on the way to what a path names. -/
def ancestors (d : Disk) (text : String) : List Place :=
  stages (d.start (Path.ofText text)) (Path.ofText text).names.dropLast

/-- All directories on the way to what a path names are there or can be made. -/
structure IsReachable (d : Disk) (text : String) : Prop where
  begins : d.node? (d.start (Path.ofText text)) = some .directory
  free : d.IsFree (d.start (Path.ofText text)) (Path.ofText text).names.dropLast

section Walking

variable {d : Disk} {start name : String}

theorem eq_of_walk {place place' : Place} {names : List String}
    (h : d.walk place names = .ok place') : place' = names.foldl enter place := by
  induction names generalizing place with
  | nil => exact (Except.ok.inj h).symm
  | cons name names ih =>
      rw [walk] at h
      split at h
      · exact nomatch h
      · split at h
        · exact nomatch h
        · exact nomatch h
        · exact ih h

/-- Where nothing stands, nothing is found. -/
theorem find?_eq_none {text : String} (h : d.node? (d.placeOf text) = none) :
    d.find? (Path.ofText text) = none := by
  unfold find?
  split
  · rfl
  · rename_i place hwalk
    obtain rfl := eq_of_walk hwalk
    change d.node? (List.foldl enter _ _) = none at h
    simp only [h]

theorem ancestors_append (hstart : Path.IsStart start) (hname : Path.IsProper name) :
    d.ancestors (start ++ name) =
      stages (d.start (Path.ofText start)) (Path.ofText start).names := by
  rw [ancestors, Path.names_ofText_append hstart hname, List.dropLast_concat,
    Path.start_eq (Path.absolute_ofText_append hstart hname)]

theorem placeOf_eq {d' : Disk} (h : d'.working = d.working) (text : String) :
    d'.placeOf text = d.placeOf text := by
  simp only [placeOf, Disk.start, h]

theorem placeOf_append (hstart : Path.IsStart start) (hname : Path.IsProper name) :
    d.placeOf (start ++ name) =
      (Path.ofText start).names.foldl enter (d.start (Path.ofText start)) ++ [name] := by
  change List.foldl enter _ _ = _
  rw [Path.names_ofText_append hstart hname, List.foldl_append,
    Path.start_eq (Path.absolute_ofText_append hstart hname)]
  exact if_neg hname.notBack

end Walking

end Disk

namespace Store

/-! ## Making the directory -/

theorem prepare_eq {url written parent : String} {d d' : Disk} (hpath : pathOf? url = some written)
    (hparent : Path.parent? written = some parent)
    (hvalid : ∀ name ∈ (Path.ofText parent).names, Disk.nameFault? name = none)
    (hmade : d.makeDirectories (d.start (Path.ofText parent)) (Path.ofText parent).names =
      (d', .ok ())) : prepare d url = (d', .ok ()) := by
  have hdirectory : directoryOf? url = (some parent).filter fun directory => directory ≠ "" := by
    rw [directoryOf?, hpath, Option.bind_some, hparent]
  by_cases hnone : parent = ""
  · -- A file in the working directory has no start, and there is nothing to make.
    have hskipped : directoryOf? url = none := by
      rw [hdirectory, hnone]
      rfl
    rw [hnone, show (Path.ofText "").names = [] from rfl, Disk.makeDirectories] at hmade
    obtain ⟨rfl, -⟩ := Prod.mk.inj hmade
    simp only [prepare, hskipped]
  · have hmake : d.makeDirectory parent = (d', .ok ()) := (Disk.makeDirectory_eq hvalid).trans hmade
    rw [prepare, hdirectory, Option.filter_some, if_pos (by simpa using hnone)]
    simp only [hmake]

/-- The directories on the way to the file are made. -/
theorem prepare_text (u : FileUrl) {d : Disk} (h : d.IsReachable (u.start ++ u.name)) :
    ∃ d', prepare d u.text = (d', .ok ()) ∧
      Disk.AddsDirectories (d.ancestors (u.start ++ u.name)) d d' ∧
      d'.node? (d.placeOf (u.start ++ u.name)).dropLast = some .directory := by
  obtain ⟨hbegins, hfree⟩ := h
  rw [Path.start_eq (Path.absolute_ofText_append u.isStart u.isProper)] at hbegins hfree
  rw [Path.names_ofText_append u.isStart u.isProper, List.dropLast_concat] at hfree
  obtain ⟨d', hmade, hadds⟩ := Disk.makeDirectories_of_isFree hfree
  obtain ⟨parent, hparent, hnames, habsolute⟩ := Path.exists_parent? u.isStart u.isProper_written
  refine ⟨d', prepare_eq u.pathOf?_text hparent (hnames ▸ hfree.valid) ?_, ?_, ?_⟩
  · rw [Path.start_eq habsolute, hnames, hmade]
  · rw [Disk.ancestors_append u.isStart u.isProper]
    exact hadds
  · rw [Disk.placeOf_append u.isStart u.isProper, List.dropLast_concat]
    exact Disk.node?_foldl_enter hfree hadds hbegins

/-! ## Opening the file -/

/-- A new file may be created and written at the location, if there is a directory for it. -/
structure Location.IsWritable (d : Disk) (l : Location) : Prop where
  notMemory : l.inMemory = false
  named : l.name ≠ "" ∧ l.name ≠ memoryName
  writes : l.readOnly = false ∧ l.immutable = false
  hasEngine : ∀ engine, l.engine = some engine → engine ∈ engines
  noNul : '\x00' ∉ l.name.toList
  valid : (d.placeOf l.name).getLast?.bind Disk.nameFault? = none

section Opening

variable {d d' : Disk} {url : String} {l : Location}

theorem openAt_of_isWritable (h : l.IsWritable d) (create : Bool) : openAt d l create =
    match d.node? (d.placeOf l.name) with
    | some .directory => .error .cannotOpen
    | some (.file _) => .ok (d, .file (d.placeOf l.name))
    | none =>
      if create = true ∧ d.node? (d.placeOf l.name).dropLast = some .directory then
        .ok (d.put (d.placeOf l.name) (.file .empty), .file (d.placeOf l.name))
      else .error .cannotOpen := by
  have hengine : l.engine.filter (fun engine => !engines.contains engine) = none := by
    refine Option.filter_eq_none_iff.2 fun engine hsome => ?_
    simpa using h.hasEngine engine hsome
  have hfile : ¬(l.inMemory = true ∨ l.name = "" ∨ l.name = Location.memoryName) := by
    simp [h.notMemory, h.named]
  have hnul : ¬(!l.inMemory && l.name.toList.contains '\x00') = true := by
    simp [h.noNul]
  simp only [openAt, if_neg hnul, hengine, if_neg hfile, h.writes.1, h.valid]
  cases d.node? (d.placeOf l.name) with
  | none => simp
  | some node => cases node <;> rfl

/-- A file that can be written is created where nothing stands, if there is a directory for it. -/
theorem openUrl_of_prepared (h : l.IsWritable d') (hprepared : prepare d url = (d', .ok ()))
    (hl : Location.ofUrl url = .ok l) (hnone : d'.node? (d'.placeOf l.name) = none)
    (hparent : d'.node? (d'.placeOf l.name).dropLast = some .directory) :
    openUrl d url =
      ((d'.put (d'.placeOf l.name) (.file .empty)).put (d'.placeOf l.name) (.file (.database [])),
        .ok { store := {}, origin := .file (d'.placeOf l.name) }) := by
  generalize hplaceOf : d'.placeOf l.name = place at hnone hparent ⊢
  have hplace : place ≠ [] := by
    rintro rfl
    exact nomatch hnone
  generalize hput : d'.put place (.file .empty) = created
  have hcreated : created.node? place = some (.file .empty) := by
    rw [← hput, Disk.node?_put _ hplace, if_pos rfl]
  have hsame : created.placeOf l.name = place := by
    rw [← hplaceOf, ← hput]
    exact Disk.placeOf_eq rfl l.name
  have hwritable : l.IsWritable created :=
    { h with valid := by rw [hsame, ← hplaceOf]; exact h.valid }
  have hcreate : create d' l = .ok created := by
    have hopen : openAt d' l true = .ok (created, .file place) := by
      rw [openAt_of_isWritable h, hplaceOf, hnone, hput]
      exact if_pos ⟨rfl, hparent⟩
    simp only [create, hopen, hcreated]
    rfl
  have hensure : ensure d' l = .ok created := by
    simp only [ensure, h.notMemory, Disk.find?_eq_none (hplaceOf ▸ hnone), hcreate]
    rfl
  have hopen : openAt created l false = .ok (created, .file place) := by
    rw [openAt_of_isWritable hwritable, hsame, hcreated]
  have hmigrate : migrate created l (.file place) =
      .ok (created.put place (.file (.database [])), []) := by
    simp only [migrate, hcreated, h.writes]
    rfl
  simp only [openUrl, hprepared, hl, hensure, hopen, hmigrate]

end Opening

/-! ## Databases in memory -/

/-- The parts of a URL of a database without a file. -/
structure MemoryUrl extends PlainUrl where
  noFile : path = "" ∨ path = Location.memoryName

section Memory

variable {d : Disk} {l : Location}

theorem openAt_memory (h : l.name = "" ∨ l.name = Location.memoryName) (create : Bool) :
    openAt d l create = .ok (d, .memory) ∨ ∃ fault, openAt d l create = .error fault := by
  unfold openAt
  split
  · exact .inr ⟨_, rfl⟩
  · split
    · exact .inr ⟨_, rfl⟩
    · exact .inl (if_pos (.inr h))

theorem ensure_memory (h : l.name = "" ∨ l.name = Location.memoryName) :
    ensure d l = .ok d ∨ ∃ e, ensure d l = .error e := by
  unfold ensure
  split
  · exact .inl rfl
  · obtain hopen | ⟨fault, hopen⟩ := openAt_memory h (d := d) true
    · exact .inl (by simp only [create, hopen]; rfl)
    · exact .inr ⟨_, by simp only [create, hopen]; rfl⟩

/-- A database without a file leaves the disk as it is. -/
theorem openUrl_memory (u : MemoryUrl) (d : Disk) : (openUrl d u.text).1 = d := by
  have hpath : pathOf? u.text = none := by
    rw [u.pathOf?_text, if_pos]
    obtain hempty | hmemory := u.noFile
    · exact .inl hempty
    · exact .inr (by rw [hmemory])
  have hprepare : prepare d u.text = (d, .ok ()) := by
    simp only [prepare, directoryOf?, hpath]
    rfl
  simp only [openUrl, hprepare]
  cases hl : Location.ofUrl u.text with
  | error fault => rfl
  | ok l =>
      have hname : l.name = "" ∨ l.name = Location.memoryName := by
        rw [u.ofUrl_text] at hl
        obtain hempty | hmemory := u.noFile
        · have hread : Location.ofPath "".toList = .ok { name := "" } := by decide +kernel
          rw [hempty, hread] at hl
          exact .inl (name_of_foldlM hl)
        · rw [hmemory] at hl
          exact .inr (name_of_foldlM hl)
      obtain hensure | ⟨e, hensure⟩ := ensure_memory hname (d := d)
      · obtain hopen | ⟨fault, hopen⟩ := openAt_memory hname (d := d) false
        · simp only [hensure, hopen]
          rfl
        · simp only [hensure, hopen]
      · simp only [hensure]

end Memory

/-! ## Both readings -/

/-- For a file in a directory that both readings of the URL find, those directories on the way to
the file are made that are missing, and no others.  So the file has a directory, and if nothing
stands in its place and it may be written, it is created there.  For a database without a file,
nothing is made. -/
theorem missing_directories_are_made (d : Disk) :
    (∀ (u : FileUrl) (l : Location), Location.ofUrl u.text = .ok l → d.IsReachable l.name →
      ∃ d', prepare d u.text = (d', .ok ()) ∧
        Disk.AddsDirectories (d.ancestors l.name) d d' ∧
        d'.node? (d.placeOf l.name).dropLast = some .directory ∧
        (l.IsWritable d → d.node? (d.placeOf l.name) = none →
          d.placeOf l.name ∉ d.ancestors l.name →
          ∃ d'', openUrl d u.text =
              (d'', .ok { store := {}, origin := .file (d.placeOf l.name) }) ∧
            ∀ other, d''.node? other = if other = d.placeOf l.name then
              some (.file (.database [])) else d'.node? other)) ∧
    ∀ u : MemoryUrl, (openUrl d u.text).1 = d := by
  refine ⟨fun u l hl hreachable => ?_, fun u => openUrl_memory u d⟩
  have hname := u.name_of_ofUrl hl
  rw [hname] at hreachable
  obtain ⟨d', hprepared, hadds, hparent⟩ := prepare_text u hreachable
  rw [← hname] at hadds hparent
  refine ⟨d', hprepared, hadds, hparent, fun hwritable hnone hmissing => ?_⟩
  have hplace : d'.placeOf l.name = d.placeOf l.name := Disk.placeOf_eq hadds.working l.name
  have hfree : d'.node? (d'.placeOf l.name) = none := by
    rw [hplace, hadds.nodes, if_neg fun h => hmissing h.1, hnone]
  have hwritable' : l.IsWritable d' := { hwritable with valid := by rw [hplace, hwritable.valid] }
  have hopen := openUrl_of_prepared hwritable' hprepared hl hfree (by rw [hplace, hparent])
  rw [hplace] at hopen
  have hroot : d.placeOf l.name ≠ [] := by
    intro hroot
    rw [hroot] at hnone
    exact nomatch hnone
  refine ⟨_, hopen, fun other => ?_⟩
  rw [Disk.node?_put _ hroot, Disk.node?_put _ hroot]
  by_cases hother : other = d.placeOf l.name
  · rw [if_pos hother, if_pos hother]
  · rw [if_neg hother, if_neg hother, if_neg hother]

/-- A file whose own name has an escape, in two directories of which the first one is there. -/
def spacedUrl : FileUrl where
  slashes := "//"
  path := "/a/b/x%20y.db"
  query := "?mode=rwc"
  start := "/a/b/"
  written := "x%20y.db"
  name := "x y.db"
  slashes_eq := .inr rfl
  query_eq := .inr ⟨"mode=rwc", rfl⟩
  noQuery := by decide
  noSlashes := by decide
  noScheme := nofun
  path_eq := rfl
  isStart := .inr ⟨"/a/b", rfl⟩
  noSlash := by decide
  unescaped := by decide +kernel
  isProper := ⟨by decide, by decide, by decide, by decide⟩
  noEscape := by
    rintro ⟨before, a, b, after, hbytes, -⟩
    have hpercent : (0x25 : UInt8) ∈ "/a/b/".toUTF8.toList := by
      rw [hbytes]
      simp
    exact absurd hpercent (by decide +kernel)
  notMemory := by decide

/-- The second directory and the file are made, and the database is there. -/
theorem missing_directories_are_made_for_spaces :
    let d : Disk := { nodes := [(["a"], .directory)] }
    (openUrl d spacedUrl.text).1.node? ["a", "b"] = some .directory ∧
      (openUrl d spacedUrl.text).1.node? ["a", "b", "x y.db"] = some (.file (.database [])) := by
  intro d
  let l : Location := { name := "/a/b/x y.db" }
  have hl : Location.ofUrl spacedUrl.text = .ok l := by decide +kernel
  have hstart : d.start (Path.ofText l.name) = [] := by decide +kernel
  have hnames : (Path.ofText l.name).names.dropLast = ["a", "b"] := by decide +kernel
  have hplace : d.placeOf l.name = ["a", "b", "x y.db"] := by decide +kernel
  have hancestors : d.ancestors l.name = [["a"], ["a", "b"]] := by decide +kernel
  have hfree : d.IsFree [] ["a", "b"] := by
    refine ⟨by decide +kernel, fun stage hstage content => ?_⟩
    have hstage' : stage = ["a"] ∨ stage = ["a", "b"] := by
      simpa [Disk.stages, Disk.enter] using hstage
    have hnode : d.node? stage = some .directory ∨ d.node? stage = none := by
      obtain rfl | rfl := hstage'
      · exact .inl (by decide +kernel)
      · exact .inr (by decide +kernel)
    obtain hnode | hnode := hnode
    · simp [hnode]
    · simp [hnode]
  have hreachable : d.IsReachable l.name := by
    refine ⟨?_, ?_⟩
    · rw [hstart]
      rfl
    · rw [hstart, hnames]
      exact hfree
  have hwritable : l.IsWritable d :=
    { notMemory := rfl
      named := ⟨by decide, by decide⟩
      writes := ⟨rfl, rfl⟩
      hasEngine := fun engine h => absurd h (Option.some_ne_none engine).symm
      noNul := by decide
      valid := by decide +kernel }
  obtain ⟨d', hprepared, hadds, hparent, hopens⟩ :=
    (missing_directories_are_made d).1 spacedUrl l hl hreachable
  obtain ⟨d'', hopen, hnodes⟩ := hopens hwritable (by decide +kernel) (by decide +kernel)
  rw [hplace] at hparent hnodes
  rw [hopen]
  refine ⟨?_, ?_⟩
  · rw [hnodes, if_neg (by decide)]
    exact hparent
  · rw [hnodes, if_pos rfl]

/-- The directory that is made has the escape in its name, the one of the file has not. -/
theorem escaped_directory_is_not_made :
    let opened := openUrl {} "sqlite:/p%20c/x.db"
    (Location.ofUrl "sqlite:/p%20c/x.db").map Location.name = .ok "/p c/x.db" ∧
      opened.1.node? ["p%20c"] = some .directory ∧ opened.1.node? ["p c"] = none ∧
      opened.2 = .error (.database ("Failed to create database: " ++ OpenFault.cannotOpen.message)) := by
  decide +kernel

end Store
end RunnerGateway
