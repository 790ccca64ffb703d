import RunnerGateway.Disk
import RunnerGateway.Proofs.Pieces
import RunnerGateway.Proofs.Trimming

/-!
# Directories on the way to a file

The path of a file is the text up to its last slash, and the name of the file after it.  The
directory that is made for the file is cut out of this text again, and `exists_parent?` says that it
has the names of the text before the slash.  Making it puts a directory at every stage of the way
where nothing stood before, and changes nothing else (`makeDirectories_of_isFree`).
-/

namespace RunnerGateway

namespace Text

theorem pieces_append {sep : Char} (xs ys : List Char) :
    pieces sep (xs ++ sep :: ys) = pieces sep xs ++ pieces sep ys := by
  induction xs with
  | nil => simp [pieces]
  | cons x xs ih =>
      rw [List.cons_append, pieces, pieces, ih]
      split
      · rfl
      · cases hxs : pieces sep xs with
        | nil => exact absurd hxs (pieces_ne_nil sep xs)
        | cons piece rest => rfl

theorem pieces_of_not_mem {sep : Char} {cs : List Char} (h : sep ∉ cs) : pieces sep cs = [cs] :=
  pieces_eq_iff.2 ⟨by simp, by simpa using h, by simp⟩

theorem exists_mem_pieces {sep c : Char} {cs : List Char} (hc : c ∈ cs) (hsep : c ≠ sep) :
    ∃ piece ∈ pieces sep cs, c ∈ piece := by
  induction cs with
  | nil => exact absurd hc List.not_mem_nil
  | cons x cs ih =>
      rw [pieces]
      split
      · rename_i hx
        have hrest : c ∈ cs := (List.mem_cons.1 hc).resolve_left fun h => hsep (h.trans hx)
        obtain ⟨piece, hpiece, hmem⟩ := ih hrest
        exact ⟨piece, List.mem_cons_of_mem _ hpiece, hmem⟩
      · split
        · rename_i hnone
          exact absurd hnone (pieces_ne_nil sep cs)
        · rename_i first rest hpieces
          rcases List.mem_cons.1 hc with rfl | hrest
          · exact ⟨_, List.mem_cons_self, List.mem_cons_self⟩
          · obtain ⟨piece, hpiece, hmem⟩ := ih hrest
            rw [hpieces] at hpiece
            rcases List.mem_cons.1 hpiece with rfl | hpiece
            · exact ⟨_, List.mem_cons_self, List.mem_cons_of_mem _ hmem⟩
            · exact ⟨piece, List.mem_cons_of_mem _ hpiece, hmem⟩

/-- A text starts with the separator exactly if its first piece is empty and not the only one. -/
theorem head?_eq_some_iff {sep : Char} {cs : List Char} :
    cs.head? = some sep ↔ ∃ piece rest, pieces sep cs = [] :: piece :: rest := by
  cases cs with
  | nil => simp [pieces]
  | cons c cs =>
      by_cases hc : c = sep
      · obtain ⟨piece, rest, hpieces⟩ := List.exists_cons_of_ne_nil (pieces_ne_nil sep cs)
        simp [pieces, hc, hpieces]
      · cases hpieces : pieces sep cs <;> simp [pieces, hc, hpieces]

theorem filter_dropEndWhile {α : Type} (p : α → Bool) (xs : List α) :
    ((dropEndWhile p xs).filter fun x => !p x) = xs.filter fun x => !p x := by
  have hdropped : ((xs.rtakeWhile p).filter fun x => !p x) = [] := by
    refine List.filter_eq_nil_iff.2 fun x hx => ?_
    simp [List.mem_rtakeWhile_imp hx]
  conv_rhs => rw [← List.rdropWhile_append_rtakeWhile (p := p) (l := xs)]
  rw [dropEndWhile_eq_rdropWhile, List.filter_append, hdropped, List.append_nil]

end Text

namespace Path

/-- The text of a path up to and with its last slash. -/
def IsStart (text : String) : Prop :=
  text = "" ∨ ∃ before, text = before ++ "/"

/-- A name that leads from a directory to something in it. -/
structure IsProper (name : String) : Prop where
  noSlash : '/' ∉ name.toList
  nonempty : name ≠ ""
  notSame : name ≠ "."
  notBack : name ≠ ".."

section Parent

variable {start name : String}

theorem stays_eq_false (h : IsProper name) : stays name.toList = false := by
  have hdot : name.toList ≠ ['.'] := fun hdot => h.notSame (String.toList_inj.1 hdot)
  simp [stays, h.nonempty, hdot]

/-- The pieces of a path are those of its start, and in place of the empty one at the end the
name. -/
theorem exists_pieces (h : IsStart start) :
    ∃ ps, Text.pieces '/' start.toList = ps ++ [[]] ∧
      ∀ name : List Char, '/' ∉ name → Text.pieces '/' (start.toList ++ name) = ps ++ [name] := by
  obtain rfl | ⟨before, rfl⟩ := h
  · refine ⟨[], rfl, fun name hname => ?_⟩
    rw [String.toList_empty, List.nil_append, Text.pieces_of_not_mem hname, List.nil_append]
  · have hstart : (before ++ "/").toList = before.toList ++ ['/'] := String.toList_append
    refine ⟨Text.pieces '/' before.toList, ?_, fun name hname => ?_⟩
    · rw [hstart, Text.pieces_append]
      rfl
    · rw [hstart, List.append_assoc, List.singleton_append, Text.pieces_append,
        Text.pieces_of_not_mem hname]

theorem absolute_ofText_iff (text : String) :
    (ofText text).absolute = true ↔
      ∃ piece rest, Text.pieces '/' text.toList = [] :: piece :: rest := by
  rw [← Text.head?_eq_some_iff]
  change text.startsWith "/" = true ↔ _
  rw [String.startsWith_string_iff]
  cases text.toList with
  | nil => simp
  | cons c cs => simp [List.cons_prefix_cons, eq_comm]

theorem names_ofText (text : String) : (ofText text).names =
    ((Text.pieces '/' text.toList).filter fun piece => !stays piece).map String.ofList := rfl

theorem names_ofText_append (hstart : IsStart start) (hname : IsProper name) :
    (ofText (start ++ name)).names = (ofText start).names ++ [name] := by
  obtain ⟨ps, hps, happend⟩ := exists_pieces hstart
  have hkept : [name.toList].filter (fun piece => !stays piece) = [name.toList] :=
    List.filter_cons_of_pos (by simp [stays_eq_false hname])
  rw [names_ofText, names_ofText, String.toList_append, hps, happend _ hname.noSlash,
    List.filter_append, List.filter_append, hkept]
  simp [stays]

theorem absolute_ofText_append (hstart : IsStart start) (hname : IsProper name) :
    (ofText (start ++ name)).absolute = (ofText start).absolute := by
  obtain ⟨ps, hps, happend⟩ := exists_pieces hstart
  rw [Bool.eq_iff_iff, absolute_ofText_iff, absolute_ofText_iff, String.toList_append, hps,
    happend _ hname.noSlash]
  cases ps with
  | nil => simp
  | cons first ps => cases ps <;> simp

/-- Joining pieces and taking them apart again keeps all that lead somewhere. -/
theorem filter_pieces_intercalate {ps : List (List Char)} (h : ∀ piece ∈ ps, '/' ∉ piece) :
    ((Text.pieces '/' (['/'].intercalate ps)).filter fun piece => !stays piece) =
      ps.filter fun piece => !stays piece := by
  by_cases hnone : ps = []
  · rw [hnone]
    rfl
  · rw [Text.pieces_eq_iff.2 ⟨hnone, h, rfl⟩]

/-- A text of pieces, the first of which may be the empty one before the root. -/
def joined (first : List Char) (rest : List (List Char)) : String :=
  String.ofList (if first = [] then '/' :: ['/'].intercalate rest else ['/'].intercalate (first :: rest))

theorem names_ofText_joined {first : List Char} {rest : List (List Char)}
    (h : ∀ piece ∈ first :: rest, '/' ∉ piece) : (ofText (joined first rest)).names =
      ((first :: rest).filter fun piece => !stays piece).map String.ofList := by
  rw [names_ofText, joined, String.toList_ofList]
  split
  · rename_i hfirst
    have hpieces : Text.pieces '/' ('/' :: ['/'].intercalate rest) =
        [] :: Text.pieces '/' (['/'].intercalate rest) := Text.pieces_append [] _
    have hrest : ∀ piece ∈ rest, '/' ∉ piece := fun piece hpiece =>
      h piece (List.mem_cons_of_mem _ hpiece)
    rw [hpieces, hfirst, List.filter_cons, List.filter_cons, filter_pieces_intercalate hrest]
  · rw [filter_pieces_intercalate h]

theorem absolute_ofText_joined {first : List Char} {rest : List (List Char)}
    (h : ∀ piece ∈ first :: rest, '/' ∉ piece) :
    (ofText (joined first rest)).absolute = true ↔ first = [] := by
  rw [absolute_ofText_iff, joined, String.toList_ofList]
  split
  · rename_i hfirst
    simp [← Text.head?_eq_some_iff, hfirst]
  · rename_i hfirst
    rw [Text.pieces_eq_iff.2 ⟨List.cons_ne_nil _ _, h, rfl⟩]
    simp [hfirst]

theorem parent?_of_pieces {text : String} {first last : List Char} {ps : List (List Char)}
    (htext : Text.pieces '/' text.toList = first :: (ps ++ [last])) (hlast : stays last = false) :
    parent? text = some (joined first (Text.dropEndWhile stays ps)) := by
  have hrest : Text.dropEndWhile stays (ps ++ [last]) = ps ++ [last] :=
    Text.dropEndWhile_eq_self_iff.2 (by simp [Text.endsIn_concat, hlast])
  obtain ⟨second, others, hsecond⟩ :=
    List.exists_cons_of_ne_nil (List.concat_ne_nil last ps)
  have hcut : (second :: others).dropLast = ps := by
    rw [← hsecond, List.dropLast_concat]
  rw [hsecond] at htext hrest
  cases first with
  | nil => simp only [parent?, joined, htext, hrest, hcut, if_true]
  | cons c cs => simp only [parent?, joined, htext, hrest, hcut, reduceCtorEq, if_false]

/-- The directory of a file is the start of its path. -/
theorem exists_parent? (hstart : IsStart start) (hname : IsProper name) :
    ∃ parent, parent? (start ++ name) = some parent ∧
      (ofText parent).names = (ofText start).names ∧
      (ofText parent).absolute = (ofText start).absolute := by
  obtain ⟨ps, hps, happend⟩ := exists_pieces hstart
  have htext := happend _ hname.noSlash
  rw [← String.toList_append] at htext
  have hclean : ∀ piece ∈ ps, '/' ∉ piece := fun piece hpiece =>
    Text.not_mem_of_mem_pieces (hps ▸ List.mem_append_left _ hpiece)
  cases ps with
  | nil =>
      obtain ⟨c, cs, hcs⟩ :=
        List.exists_cons_of_ne_nil (mt String.toList_eq_nil_iff.1 hname.nonempty)
      refine ⟨"", ?_, ?_, ?_⟩
      · simp only [parent?, htext, hcs]
        rfl
      · rw [names_ofText, names_ofText, hps]
        rfl
      · rw [Bool.eq_iff_iff, absolute_ofText_iff, absolute_ofText_iff, hps]
        rfl
  | cons first ps =>
      have hkept : ∀ piece ∈ first :: Text.dropEndWhile stays ps, '/' ∉ piece := fun piece hpiece =>
        hclean piece (((Text.dropEndWhile_sublist stays ps).cons_cons first).mem hpiece)
      refine ⟨_, parent?_of_pieces htext (stays_eq_false hname), ?_, ?_⟩
      · -- What was cut off before the last name leads nowhere.
        rw [names_ofText_joined hkept, names_ofText, hps, List.filter_append, List.filter_cons,
          List.filter_cons, Text.filter_dropEndWhile]
        simp [stays]
      · rw [Bool.eq_iff_iff, absolute_ofText_joined hkept, absolute_ofText_iff, hps]
        cases ps <;> simp

end Parent

end Path

namespace Disk

/-! ## Making directories -/

/-- The places that names lead to, one after the other. -/
def stages (place : Place) : List String → List Place
  | [] => []
  | name :: names => enter place name :: stages (enter place name) names

/-- In the second disk there are directories at those of the places where nothing stands in the
first one.  That is the only difference. -/
structure AddsDirectories (places : List Place) (d d' : Disk) : Prop where
  working : d'.working = d.working
  nodes : ∀ place, d'.node? place =
    if place ∈ places ∧ d.node? place = none then some .directory else d.node? place

/-- Directories can be made on the way: a file can have each name, and none stands in the way. -/
structure IsFree (d : Disk) (place : Place) (names : List String) : Prop where
  valid : ∀ name ∈ names, nameFault? name = none
  noFile : ∀ stage ∈ stages place names, ∀ content, d.node? stage ≠ some (.file content)

section Making

variable {d d' : Disk} {place : Place} {name : String} {names : List String}

theorem IsFree.tail (h : d.IsFree place (name :: names)) : d.IsFree (enter place name) names :=
  ⟨fun n hn => h.valid n (List.mem_cons_of_mem _ hn),
    fun q hq => h.noFile q (List.mem_cons_of_mem _ hq)⟩

theorem lookup_filter_ne (nodes : List (Place × Node)) (place other : Place) :
    (nodes.filter fun entry => entry.1 ≠ place).lookup other =
      if other = place then none else nodes.lookup other := by
  induction nodes with
  | nil => simp
  | cons entry nodes ih =>
      by_cases hentry : entry.1 = place
      · rw [List.filter_cons_of_neg (by simpa using hentry), ih, List.lookup_cons, hentry]
        split
        · rfl
        · rename_i hother
          rw [beq_false_of_ne hother]
      · rw [List.filter_cons_of_pos (by simpa using hentry), List.lookup_cons, List.lookup_cons, ih]
        split
        · rename_i hother
          rw [if_neg fun h => hentry ((eq_of_beq hother).symm.trans h)]
        · rfl

theorem node?_put (node : Node) (hplace : place ≠ []) (other : Place) :
    (d.put place node).node? other = if other = place then some node else d.node? other := by
  unfold node?
  by_cases hroot : other = []
  · simp [hroot, Ne.symm hplace]
  · simp only [hroot, if_false, put, List.lookup_append, lookup_filter_ne]
    by_cases hother : other = place
    · simp [hother]
    · simp [hother, List.lookup_cons, beq_false_of_ne hother]

/-- The last of the places that names lead to. -/
theorem foldl_enter_mem_stages (hnames : names ≠ []) :
    names.foldl enter place ∈ stages place names := by
  induction names generalizing place with
  | nil => exact absurd rfl hnames
  | cons name names ih =>
      by_cases hnone : names = []
      · rw [hnone]
        exact List.mem_cons_self
      · exact List.mem_cons_of_mem _ (ih hnone)

/-- If files can have all names of a path, its text has no NUL. -/
theorem makeDirectory_eq {text : String}
    (hvalid : ∀ name ∈ (Path.ofText text).names, nameFault? name = none) :
    d.makeDirectory text =
      d.makeDirectories (d.start (Path.ofText text)) (Path.ofText text).names := by
  refine if_neg fun hnul => ?_
  obtain ⟨piece, hpiece, hmem⟩ : ∃ piece ∈ Text.pieces '/' text.toList, '\x00' ∈ piece :=
    Text.exists_mem_pieces (List.contains_iff_mem.1 hnul) (by decide)
  have hname : String.ofList piece ∈ (Path.ofText text).names := by
    refine List.mem_map_of_mem (List.mem_filter.2 ⟨hpiece, ?_⟩)
    have hstays : piece ≠ [] ∧ piece ≠ ['.'] :=
      ⟨List.ne_nil_of_mem hmem, fun h => absurd (h ▸ hmem) (by decide)⟩
    simpa [Path.stays] using hstays
  have hfault := hvalid _ hname
  rw [nameFault?, if_pos (by simpa using hmem)] at hfault
  exact nomatch hfault

/-- Making directories on a free way puts them at the stages where nothing stands. -/
theorem makeDirectories_of_isFree (h : d.IsFree place names) :
    ∃ d', d.makeDirectories place names = (d', .ok ()) ∧
      AddsDirectories (stages place names) d d' := by
  induction names generalizing d place with
  | nil => exact ⟨d, rfl, rfl, by simp [stages]⟩
  | cons name names ih =>
      have hname := h.valid name List.mem_cons_self
      have hnext := h.noFile (enter place name) List.mem_cons_self
      cases hnode : d.node? (enter place name) with
      | some node =>
          cases node with
          | file content => exact absurd hnode (hnext content)
          | directory =>
              obtain ⟨d', hmade, hadds⟩ := ih h.tail
              refine ⟨d', by simp only [makeDirectories, hname, hnode, hmade], hadds.working,
                fun q => ?_⟩
              rw [hadds.nodes]
              by_cases hq : q = enter place name
              · simp [hq, hnode]
              · simp [stages, hq]
      | none =>
          have hplace : enter place name ≠ [] := by
            intro hroot
            rw [hroot] at hnode
            exact nomatch hnode
          have hput := node?_put (d := d) .directory hplace
          have hfree : (d.put (enter place name) .directory).IsFree (enter place name) names := by
            refine ⟨h.tail.valid, fun q hq content => ?_⟩
            rw [hput]
            split
            · simp
            · exact h.tail.noFile q hq content
          obtain ⟨d', hmade, hadds⟩ := ih hfree
          refine ⟨d', by simp only [makeDirectories, hname, hnode, hmade], hadds.working,
            fun q => ?_⟩
          rw [hadds.nodes, hput]
          by_cases hq : q = enter place name
          · simp [hq, hnode, stages]
          · simp [stages, hq]

/-- Afterwards there is a directory at every stage. -/
theorem node?_stage (h : d.IsFree place names) (hadds : AddsDirectories (stages place names) d d')
    {stage : Place} (hstage : stage ∈ stages place names) : d'.node? stage = some .directory := by
  rw [hadds.nodes]
  cases hnode : d.node? stage with
  | none => simp [hstage]
  | some node =>
      cases node with
      | directory => simp
      | file content => exact absurd hnode (h.noFile stage hstage content)

/-- Afterwards the way ends at a directory, if it begins at one. -/
theorem node?_foldl_enter (h : d.IsFree place names)
    (hadds : AddsDirectories (stages place names) d d') (hplace : d.node? place = some .directory) :
    d'.node? (names.foldl enter place) = some .directory := by
  by_cases hnone : names = []
  · rw [hnone, List.foldl_nil, hadds.nodes, hplace]
    simp
  · exact node?_stage h hadds (foldl_enter_mem_stages hnone)

end Making

end Disk
end RunnerGateway
