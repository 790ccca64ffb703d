import RunnerGateway.Proofs.Json.Values

/-!
# Reading back what was printed: shapes

`Schema.Reads` says that the printed text of a value is read as a value of a shape, inside any text.
It is put together along the shapes: a list is read if its items are, and an object if its members
are.  A value of any kind is read as it was if it `Fits` the depth and is `FloatFree`.
-/

namespace RunnerGateway
namespace Json

variable {ρ : Type} {σ : Schema ρ} {levels : Nat}

/-- With enough fuel the printed text of `v` is read as the value `v'` of a shape. -/
structure Schema.Reads (σ : Schema ρ) (levels : Nat) (shape : Shape ρ) (v v' : Json) : Prop where
  floatFree : FloatFree v
  read : ∀ fuel rest, (utf8 v.chars).length < fuel → Ends rest →
    σ.readValue fuel levels shape (utf8 v.chars ++ rest) = .ok (v', rest)

/-- A whole printed text is read. -/
theorem Schema.Reads.read_render {shape : Shape ρ} {v v' : Json}
    (h : σ.Reads maxLevels shape v v') : σ.read shape v.render = .ok v' := by
  have hread := h.read (fuelFor (utf8 v.chars)) [] (by unfold fuelFor; omega) ends_nil
  rw [List.append_nil] at hread
  rw [Schema.read, render, toList_toUTF8_ofList]
  simp only [Schema.readFault, hread]
  rfl

/-! ## Lists and objects -/

theorem floatFree_of_reads {shape : Shape ρ} {items items' : List Json}
    (h : List.Forall₂ (σ.Reads levels shape) items items') : ∀ v ∈ items, FloatFree v := by
  have hboth : List.Forall₂ (fun v v' => FloatFree v ∧ σ.Reads levels shape v v') items items' :=
    List.Forall₂.imp (fun v v' hread => ⟨hread.floatFree, hread⟩) h
  exact ((List.forall₂_and_left items items').1 hboth).1

/-- The text of a list is read if the texts of its items are. -/
theorem around_items {shape : Shape ρ} {items items' : List Json} {fuel : Nat}
    (h : List.Forall₂ (σ.Reads levels shape) items items')
    (hfuel : (utf8 (itemChars items)).length < fuel) (rest : Bytes) :
    Bracket.square.around (readItems (fun b => σ.readValue fuel levels shape b) fuel []
      (utf8 (itemChars items) ++ rest)) = .ok (items', rest) := by
  obtain ⟨hitems, hlength⟩ := length_le_itemChars (floatFree_of_reads h)
  have hreads : List.Forall₂ (ReadsAs fun b => σ.readValue fuel levels shape b) items items' := by
    refine List.Forall₂.imp ?_ ((List.forall₂_and_left items items').2 ⟨hitems, h⟩)
    rintro v v' ⟨hv, hread⟩
    exact ⟨hread.floatFree, fun rest hrest => hread.read fuel rest (by omega) hrest⟩
  rw [readItems_itemChars hreads (by omega), around_square]

/-- The text of an object is read if the texts of its members are. -/
theorem readMembers_of_reads {member : MemberReader} {members members' : List (String × Json)}
    {fuel : Nat}
    (h : List.Forall₂ (fun m m' => (utf8 m.2.chars).length < fuel → ReadsMemberAs member m m')
      members members')
    (hnodup : (Dict.keys members).Nodup) (hfuel : (utf8 (memberChars members)).length < fuel)
    (rest : Bytes) :
    readMembers member fuel fuel true [] (utf8 (memberChars members) ++ rest) =
      .ok (members', ascii '\x7d' :: rest) := by
  obtain ⟨hmembers, hlength⟩ := length_le_memberChars members
  have hreads : List.Forall₂ (ReadsMemberAs member) members members' := by
    refine List.Forall₂.imp ?_ ((List.forall₂_and_left members members').2 ⟨hmembers, h⟩)
    rintro m m' ⟨⟨-, hvalue⟩, hread⟩
    exact hread (by omega)
  refine readMembers_memberChars hreads ?_ (by omega) hnodup rest
  intro m hm
  have := (hmembers m hm).1
  omega

theorem readColon_cons (rest : Bytes) : readColon (ascii ':' :: rest) = .ok rest := by
  simp only [readColon, skipSpace_cons (show isSpace (ascii ':') = false by decide), if_true]

theorem readsMemberAs_plain {shape : Shape ρ} {fuel : Nat} {k : String} {v v' : Json}
    (h : σ.Reads levels shape v v') (hfuel : (utf8 v.chars).length < fuel) :
    ReadsMemberAs (plainMember fun b => σ.readValue fuel levels shape b) (k, v) (k, v') := by
  refine ⟨rfl, fun done rest hfresh hrest => ?_⟩
  simp only [plainMember, readColon_cons, h.read fuel rest hfuel hrest]

theorem length_chars_arr (items : List Json) :
    (utf8 (chars (.arr items))).length = (utf8 (itemChars items)).length + 1 := by
  rw [chars, utf8_cons_ascii (by decide), List.length_cons]

theorem length_chars_obj (members : List (String × Json)) :
    (utf8 (chars (.obj members))).length = (utf8 (memberChars members)).length + 1 := by
  rw [chars, utf8_cons_ascii (by decide), List.length_cons]

theorem isSpace_square : isSpace (ascii '[') = false := by decide

theorem isSpace_brace : isSpace (ascii '\x7b') = false := by decide

theorem brace_ne_square : ascii '\x7b' ≠ ascii '[' := by decide

theorem reads_list {item : Shape ρ} {items items' : List Json}
    (h : List.Forall₂ (σ.Reads levels item) items items') :
    σ.Reads (levels + 1) (.list item) (.arr items) (.arr items') where
  floatFree := .arr (floatFree_of_reads h)
  read := by
    intro fuel rest hfuel hrest
    rw [length_chars_arr] at hfuel
    have hitems := around_items h (show _ < fuel by omega) rest
    rw [chars, utf8_cons_ascii (by decide), List.cons_append, Schema.readValue]
    simp only [skipSpace_cons isSpace_square, if_true, hitems]
    rfl

/-- Members of an object that are read by one shape, up to their order. -/
def Schema.ReadsMembers (σ : Schema ρ) (levels : Nat) (shape : Shape ρ)
    (members members' : List (String × Json)) : Prop :=
  List.Forall₂ (fun m m' => m.1 = m'.1 ∧ σ.Reads levels shape m.2 m'.2) members members'

theorem Schema.ReadsMembers.floatFree {shape : Shape ρ} {members members' : List (String × Json)}
    (h : σ.ReadsMembers levels shape members members') : ∀ m ∈ members, FloatFree m.2 := by
  have hboth : List.Forall₂ (fun m m' => FloatFree m.2 ∧ m.1 = m'.1 ∧
      σ.Reads levels shape m.2 m'.2) members members' :=
    List.Forall₂.imp (fun m m' hread => ⟨hread.2.floatFree, hread⟩) h
  exact ((List.forall₂_and_left members members').1 hboth).1

theorem Schema.ReadsMembers.readMembers {shape : Shape ρ} {members members' : List (String × Json)}
    {fuel : Nat} (h : σ.ReadsMembers levels shape members members')
    (hnodup : (Dict.keys members).Nodup) (hfuel : (utf8 (memberChars members)).length < fuel)
    (rest : Bytes) :
    Bracket.brace.around (readMembers (plainMember fun b => σ.readValue fuel levels shape b)
      fuel fuel true [] (utf8 (memberChars members) ++ rest)) = .ok (members', rest) := by
  rw [readMembers_of_reads ?_ hnodup hfuel, around_brace]
  refine List.Forall₂.imp ?_ h
  rintro ⟨k, v⟩ ⟨k', v'⟩ ⟨hkey, hread⟩ hfuel
  obtain rfl : k = k' := hkey
  exact readsMemberAs_plain hread hfuel

theorem reads_dict {item : Shape ρ} {members members' : List (String × Json)}
    (h : σ.ReadsMembers levels item members members') (hnodup : (Dict.keys members).Nodup) :
    σ.Reads (levels + 1) (.dict item) (.obj members) (.ofMembers members') where
  floatFree := .obj h.floatFree
  read := by
    intro fuel rest hfuel hrest
    rw [length_chars_obj] at hfuel
    have hmembers := h.readMembers hnodup (show _ < fuel by omega) rest
    rw [chars, utf8_cons_ascii (by decide), List.cons_append, Schema.readValue]
    simp only [skipSpace_cons isSpace_brace, if_true, hmembers]
    rfl

/-! ## Scalars -/

/-- The printed text of a scalar is read as the scalar. -/
def ReadsScalar (fuel : Nat) (v : Json) (rest : Bytes) : Prop :=
  ∃ c b, utf8 v.chars ++ rest = c :: b ∧ isSpace c = false ∧ c ≠ ascii '[' ∧
    c ≠ ascii '\x7b' ∧ readScalar? fuel c b = some (.ok (v, rest))

theorem readsScalar_null (fuel : Nat) (rest : Bytes) : ReadsScalar fuel .null rest := by
  have hletters := readLetters_utf8 ['u', 'l', 'l'] (by simp) rest
  refine ⟨ascii 'n', utf8 ['u', 'l', 'l'] ++ rest, ?_, by decide, by decide, by decide, ?_⟩
  · rw [chars, utf8_cons_ascii (by decide), List.cons_append]
  · simp only [readScalar?, if_true, hletters]
    rfl

theorem readsScalar_true (fuel : Nat) (rest : Bytes) : ReadsScalar fuel (.bool true) rest := by
  have hletters := readLetters_utf8 ['r', 'u', 'e'] (by simp) rest
  refine ⟨ascii 't', utf8 ['r', 'u', 'e'] ++ rest, ?_, by decide, by decide, by decide, ?_⟩
  · rw [chars, utf8_cons_ascii (by decide), List.cons_append]
  · have hn : ascii 't' ≠ ascii 'n' := by decide
    simp only [readScalar?, if_neg hn, if_true, hletters]
    rfl

theorem readsScalar_false (fuel : Nat) (rest : Bytes) : ReadsScalar fuel (.bool false) rest := by
  have hletters := readLetters_utf8 ['a', 'l', 's', 'e'] (by simp) rest
  refine ⟨ascii 'f', utf8 ['a', 'l', 's', 'e'] ++ rest, ?_, by decide, by decide, by decide, ?_⟩
  · rw [chars, utf8_cons_ascii (by decide), List.cons_append]
  · have hn : ascii 'f' ≠ ascii 'n' := by decide
    have ht : ascii 'f' ≠ ascii 't' := by decide
    simp only [readScalar?, if_neg hn, if_neg ht, if_true, hletters]
    rfl

theorem readsScalar_str {s : String} {fuel : Nat} (hfuel : (utf8 (chars (.str s))).length < fuel)
    (rest : Bytes) : ReadsScalar fuel (.str s) rest := by
  rw [chars, utf8_stringChars, List.length_cons] at hfuel
  have hstring := readString_stringTail s rest (show (stringTail s).length ≤ fuel by omega)
  refine ⟨ascii '"', stringTail s ++ rest, ?_, by decide, by decide, by decide, ?_⟩
  · rw [chars, utf8_stringChars, List.cons_append]
  · have hne : ascii '"' ≠ ascii 'n' ∧ ascii '"' ≠ ascii 't' ∧ ascii '"' ≠ ascii 'f' ∧
        ascii '"' ≠ ascii '-' ∧ (digit? (ascii '"')).isSome = false := by decide
    simp only [readScalar?, hne, hstring, if_true, if_false, Bool.false_eq_true]
    rfl

theorem readsScalar_digits {n : Nat} (hn : n ≤ Text.maxWord) (fuel : Nat) {rest : Bytes}
    (hrest : Ends rest) : ReadsScalar fuel (.int (n : Int)) rest := by
  obtain ⟨d, digits, hd, hdigits⟩ := exists_toDigits_eq_cons n
  have hread := readNumber_of_ends false hn hrest
  rw [hdigits, List.cons_append] at hread
  have hall : ∀ m < 10, isSpace (ascii m.digitChar) = false ∧
      ascii m.digitChar ≠ ascii '[' ∧ ascii m.digitChar ≠ ascii '\x7b' ∧
      ascii m.digitChar ≠ ascii 'n' ∧ ascii m.digitChar ≠ ascii 't' ∧
      ascii m.digitChar ≠ ascii 'f' ∧ ascii m.digitChar ≠ ascii '-' := by decide
  obtain ⟨hspace, hsquare, hbrace, hn, ht, hf, hminus⟩ := hall d hd
  refine ⟨ascii d.digitChar, digits ++ rest, ?_, hspace, hsquare, hbrace, ?_⟩
  · rw [utf8_signedNumeral_ofNat, hdigits, List.cons_append]
  · simp only [readScalar?, if_neg hn, if_neg ht, if_neg hf, if_neg hminus,
      digit?_digitChar hd, Option.isSome_some, if_true, hread]
    rfl

theorem readsScalar_negative {n : Nat} (hn : n ≤ Text.maxSigned) (fuel : Nat) {rest : Bytes}
    (hrest : Ends rest) : ReadsScalar fuel (.int (.negSucc n)) rest := by
  have hword : n + 1 ≤ Text.maxWord := by
    have : Text.maxSigned + 1 ≤ Text.maxWord := by decide
    omega
  have hvalue : wholeNumber true (n + 1) = .int (.negSucc n) := by
    have hsmall : ¬(n + 1 = 0 ∨ Text.maxSigned + 1 < n + 1) := by omega
    rw [wholeNumber, if_pos rfl, if_neg hsmall]
    rfl
  refine ⟨ascii '-', utf8 (Nat.toDigits 10 (n + 1)) ++ rest, ?_, by decide, by decide,
    by decide, ?_⟩
  · rw [utf8_signedNumeral_negSucc, List.cons_append]
  · have hne : ascii '-' ≠ ascii 'n' ∧ ascii '-' ≠ ascii 't' ∧ ascii '-' ≠ ascii 'f' := by decide
    simp only [readScalar?, hne, if_false, if_true, readNumber_of_ends true hword hrest, hvalue]

theorem readsScalar_int {n : Int} (hlow : -(Text.maxSigned : Int) - 1 ≤ n)
    (hhigh : n ≤ (Text.maxWord : Int)) (fuel : Nat) {rest : Bytes} (hrest : Ends rest) :
    ReadsScalar fuel (.int n) rest := by
  cases n with
  | ofNat n => exact readsScalar_digits (by simpa using hhigh) fuel hrest
  | negSucc n => exact readsScalar_negative (by omega) fuel hrest

/-! ## Shapes -/

theorem reads_any_of_scalar {v : Json} (hv : FloatFree v)
    (h : ∀ fuel rest, (utf8 v.chars).length < fuel → Ends rest → ReadsScalar fuel v rest) :
    σ.Reads levels .any v v where
  floatFree := hv
  read := by
    intro fuel rest hfuel hrest
    obtain ⟨c, b, hbytes, hspace, hsquare, hbrace, hread⟩ := h fuel rest hfuel hrest
    rw [hbytes, Schema.readValue]
    simp only [skipSpace_cons hspace, if_neg hsquare, if_neg hbrace, hread]

theorem reads_any_arr {items : List Json} (h : ∀ v ∈ items, σ.Reads levels .any v v) :
    σ.Reads (levels + 1) .any (.arr items) (.arr items) where
  floatFree := .arr fun v hv => (h v hv).floatFree
  read := by
    intro fuel rest hfuel hrest
    rw [length_chars_arr] at hfuel
    have hitems := around_items (List.forall₂_same.2 h) (show _ < fuel by omega) rest
    rw [chars, utf8_cons_ascii (by decide), List.cons_append, Schema.readValue]
    simp only [skipSpace_cons isSpace_square, if_true, hitems]

theorem reads_any_obj {members : List (String × Json)} (hsorted : Dict.Sorted members)
    (h : ∀ m ∈ members, σ.Reads levels .any m.2 m.2) :
    σ.Reads (levels + 1) .any (.obj members) (.obj members) where
  floatFree := .obj fun m hm => (h m hm).floatFree
  read := by
    intro fuel rest hfuel hrest
    rw [length_chars_obj] at hfuel
    have hreads : σ.ReadsMembers levels .any members members :=
      List.forall₂_same.2 fun m hm => ⟨rfl, h m hm⟩
    have hmembers := hreads.readMembers hsorted.nodup (show _ < fuel by omega) rest
    rw [chars, utf8_cons_ascii (by decide), List.cons_append, Schema.readValue]
    simp only [skipSpace_cons isSpace_brace, if_neg brace_ne_square, if_true, hmembers, ofMembers,
      Dict.ofList_eq_self hsorted]

/-- A value of any kind is read as it was. -/
theorem reads_any {v : Json} (hfits : Fits levels v) (hfree : FloatFree v) :
    σ.Reads levels .any v v := by
  induction hfits with
  | null levels => exact reads_any_of_scalar hfree fun fuel rest _ _ => readsScalar_null fuel rest
  | bool levels b =>
      refine reads_any_of_scalar hfree fun fuel rest _ _ => ?_
      cases b with
      | true => exact readsScalar_true fuel rest
      | false => exact readsScalar_false fuel rest
  | int levels hlow hhigh =>
      exact reads_any_of_scalar hfree fun fuel rest _ hrest =>
        readsScalar_int hlow hhigh fuel hrest
  | float levels x => cases hfree
  | str levels s =>
      exact reads_any_of_scalar hfree fun fuel rest hfuel _ => readsScalar_str hfuel rest
  | arr hitems ih =>
      cases hfree with
      | arr hfree => exact reads_any_arr fun v hv => ih v hv (hfree v hv)
  | obj hsorted hmembers ih =>
      cases hfree with
      | obj hfree => exact reads_any_obj hsorted fun m hm => ih m hm (hfree m hm)

/-- The text of a value is parsed as that value. -/
theorem parse_render {v : Json} (hfits : Fits maxLevels v) (hfree : FloatFree v) :
    parse v.render = .ok v :=
  (reads_any hfits hfree).read_render

theorem readsScalar_bool (b : Bool) (fuel : Nat) (rest : Bytes) :
    ReadsScalar fuel (.bool b) rest := by
  cases b with
  | true => exact readsScalar_true fuel rest
  | false => exact readsScalar_false fuel rest

theorem reads_bool (b : Bool) : σ.Reads levels .bool (.bool b) (.bool b) where
  floatFree := .bool b
  read := by
    intro fuel rest hfuel hrest
    obtain ⟨c, tail, hbytes, hspace, -, -, hread⟩ := readsScalar_bool b fuel rest
    have hc : c = ascii 't' ∨ c = ascii 'f' := by
      cases b with
      | true =>
          rw [chars, utf8_cons_ascii (by decide), List.cons_append] at hbytes
          exact .inl (List.cons.inj hbytes).1.symm
      | false =>
          rw [chars, utf8_cons_ascii (by decide), List.cons_append] at hbytes
          exact .inr (List.cons.inj hbytes).1.symm
    rw [hbytes, Schema.readValue]
    simp only [skipSpace_cons hspace, if_pos hc, hread, Option.getD_some]

theorem reads_string (s : String) : σ.Reads levels .string (.str s) (.str s) where
  floatFree := .str s
  read := by
    intro fuel rest hfuel hrest
    rw [chars, utf8_stringChars, List.length_cons] at hfuel
    have hstring := readString_stringTail s rest (show (stringTail s).length ≤ fuel by omega)
    have hspace : isSpace (ascii '"') = false := by decide
    rw [chars, utf8_stringChars, List.cons_append, Schema.readValue]
    simp only [skipSpace_cons hspace, if_true, hstring]
    rfl

theorem reads_index {n : Nat} (hn : n ≤ Text.maxWord) :
    σ.Reads levels .index (.int n) (.int n) where
  floatFree := .int n
  read := by
    intro fuel rest hfuel hrest
    obtain ⟨c, tail, hbytes, hspace, -, -, hread⟩ := readsScalar_digits hn fuel hrest
    obtain ⟨d, digits, hd, hdigits⟩ := exists_toDigits_eq_cons n
    have hc : (digit? c).isSome = true := by
      have hcons := hbytes
      rw [utf8_signedNumeral_ofNat, hdigits, List.cons_append] at hcons
      rw [← (List.cons.inj hcons).1, digit?_digitChar hd]
      rfl
    rw [hbytes, Schema.readValue]
    simp only [skipSpace_cons hspace, hc, or_true, if_true, hread]

theorem reads_tag_str (s : String) : σ.Reads levels .tag (.str s) (.str s) where
  floatFree := .str s
  read := by
    intro fuel rest hfuel hrest
    obtain ⟨c, tail, hbytes, hspace, hsquare, hbrace, hread⟩ := readsScalar_str hfuel rest
    rw [hbytes, Schema.readValue]
    simp only [skipSpace_cons hspace, if_neg hsquare, if_neg hbrace, hread]

theorem reads_tag_obj (s : String) :
    σ.Reads (levels + 1) .tag (.obj [("name", .str s)]) (.obj [("name", .str s)]) where
  floatFree := .obj fun m hm => by
    obtain rfl := List.mem_singleton.1 hm
    exact .str s
  read := by
    intro fuel rest hfuel hrest
    rw [length_chars_obj] at hfuel
    have hreads : σ.ReadsMembers levels .any [("name", .str s)] [("name", .str s)] :=
      .cons ⟨rfl, reads_any (.str levels s) (.str s)⟩ .nil
    have hmembers := hreads.readMembers (List.nodup_singleton _) (show _ < fuel by omega) rest
    rw [chars, utf8_cons_ascii (by decide), List.cons_append, Schema.readValue]
    simp only [skipSpace_cons isSpace_brace, if_neg brace_ne_square, if_true, hmembers]
    rfl

/-! ## Records -/

/-- A member of a record is read: a field by its shape, unless it is `null`, and another member as
it is, if the record keeps it. -/
def Schema.ReadsField (σ : Schema ρ) (levels : Nat) (r : ρ) (m m' : String × Json) : Prop :=
  m.1 = m'.1 ∧
    match σ.field? r m.1 with
    | some f => m.2 ≠ .null ∧ σ.Reads levels f.shape m.2 m'.2
    | none => σ.rest r = .kept ∧ σ.Reads levels .any m.2 m'.2

theorem readField_of_reads {f : Field ρ} {v v' : Json} (hnull : v ≠ .null)
    (h : σ.Reads levels f.shape v v') {fuel : Nat} (hfuel : (utf8 v.chars).length < fuel)
    {rest : Bytes} (hrest : Ends rest) :
    readField (fun s b => σ.readValue fuel levels s b) f (utf8 v.chars ++ rest) =
      .ok (v', rest) := by
  have hread := h.read fuel rest hfuel hrest
  obtain ⟨c, more, hchars, hspace, -, hn⟩ := exists_chars_eq_cons h.floatFree
  rw [hchars, List.cons_append] at hread ⊢
  unfold readField
  cases f.presence with
  | optional => simp only [skipSpace_cons hspace, if_neg (hn hnull), hread]
  | required => simp only [skipSpace_cons hspace, hread]
  | defaulted => simp only [skipSpace_cons hspace, hread]

theorem readsMemberAs_record {r : ρ} {fuel : Nat} {m m' : String × Json}
    (h : σ.ReadsField levels r m m') (hfuel : (utf8 m.2.chars).length < fuel) :
    ReadsMemberAs (recordMember σ r fuel fun s b => σ.readValue fuel levels s b) m m' := by
  obtain ⟨hkey, hread⟩ := h
  refine ⟨hkey, fun done rest hfresh hrest => ?_⟩
  unfold recordMember
  cases hfield : σ.field? r m.1 with
  | some f =>
      simp only [hfield] at hread
      have hnew : (done.any fun found => found.1 = m.1) = false := by
        simp only [List.any_eq_false, decide_eq_true_eq]
        intro found hfound hsame
        exact hfresh (hsame ▸ List.mem_map_of_mem hfound)
      simp only [hnew, Bool.false_eq_true, if_false, readColon_cons,
        readField_of_reads hread.1 hread.2 hfuel hrest]
      rfl
  | none =>
      simp only [hfield] at hread
      simp only [readColon_cons, hread.1, hread.2.read fuel rest hfuel hrest]
      rfl

/-- A record is read if its members are, and none is missing. -/
theorem reads_record {r : ρ} {members members' : List (String × Json)}
    (h : List.Forall₂ (σ.ReadsField levels r) members members')
    (hfree : ∀ m ∈ members, FloatFree m.2) (hnodup : (Dict.keys members).Nodup)
    (hmissing : σ.missing? r (Dict.keys members') = none) :
    σ.Reads (levels + 1) (.record r) (.obj members) (.ofMembers members') where
  floatFree := .obj hfree
  read := by
    intro fuel rest hfuel hrest
    rw [length_chars_obj] at hfuel
    have hreads : List.Forall₂ (fun m m' => (utf8 m.2.chars).length < fuel →
        ReadsMemberAs (recordMember σ r fuel fun s b => σ.readValue fuel levels s b) m m')
        members members' := List.Forall₂.imp (fun m m' hm => readsMemberAs_record hm) h
    have hmembers := readMembers_of_reads hreads hnodup (show _ < fuel by omega) rest
    rw [chars, utf8_cons_ascii (by decide), List.cons_append, Schema.readValue]
    simp only [skipSpace_cons isSpace_brace, if_true, hmembers, checkMissing, hmissing,
      around_brace]
    rfl

end Json
end RunnerGateway
