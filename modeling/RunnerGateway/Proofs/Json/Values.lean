import RunnerGateway.Json.Reader
import RunnerGateway.Proofs.Dict
import RunnerGateway.Proofs.Json.Tokens

/-!
# Reading back what was printed: values

`Fits` bounds how deep a value is nested, and `FloatFree` keeps floating-point numbers out of it.
The printed text of such a value starts with a byte that tells its kind, and is longer than the
texts inside it, so that the fuel for the whole is enough for its parts.  The items of a list and
the members of an object are read one after the other, if a reader for them reads each.
-/

namespace RunnerGateway
namespace Json

/-! ## Kinds of values -/

/-- Integers are in range, the keys of every object ascend, and at most `levels` lists and objects
are nested in each other. -/
inductive Fits : Nat → Json → Prop
  | null (levels : Nat) : Fits levels .null
  | bool (levels : Nat) (b : Bool) : Fits levels (.bool b)
  | int (levels : Nat) {n : Int} (hlow : -(Text.maxSigned : Int) - 1 ≤ n)
      (hhigh : n ≤ (Text.maxWord : Int)) : Fits levels (.int n)
  | float (levels : Nat) (x : Double) : Fits levels (.float x)
  | str (levels : Nat) (s : String) : Fits levels (.str s)
  | arr {levels : Nat} {items : List Json} (hitems : ∀ v ∈ items, Fits levels v) :
      Fits (levels + 1) (.arr items)
  | obj {levels : Nat} {members : List (String × Json)} (hsorted : Dict.Sorted members)
      (hmembers : ∀ m ∈ members, Fits levels m.2) : Fits (levels + 1) (.obj members)

/-- There is no floating-point number in the value. -/
inductive FloatFree : Json → Prop
  | null : FloatFree .null
  | bool (b : Bool) : FloatFree (.bool b)
  | int (n : Int) : FloatFree (.int n)
  | str (s : String) : FloatFree (.str s)
  | arr {items : List Json} (hitems : ∀ v ∈ items, FloatFree v) : FloatFree (.arr items)
  | obj {members : List (String × Json)} (hmembers : ∀ m ∈ members, FloatFree m.2) :
      FloatFree (.obj members)

mutual

/-- It can be decided whether there is no floating-point number in a value. -/
def decideFloatFree : (v : Json) → Decidable (FloatFree v)
  | .null => isTrue .null
  | .bool b => isTrue (.bool b)
  | .int n => isTrue (.int n)
  | .float _ => isFalse fun h => by cases h
  | .str s => isTrue (.str s)
  | .arr items =>
    @decidable_of_iff _ (∀ v ∈ items, FloatFree v) ⟨.arr, fun h => by cases h; assumption⟩
      (decideFloatFreeItems items)
  | .obj members =>
    @decidable_of_iff _ (∀ m ∈ members, FloatFree m.2) ⟨.obj, fun h => by cases h; assumption⟩
      (decideFloatFreeMembers members)

/-- It can be decided of the items of an array. -/
def decideFloatFreeItems : (items : List Json) → Decidable (∀ v ∈ items, FloatFree v)
  | [] => isTrue (List.forall_mem_nil _)
  | v :: items =>
    @decidable_of_iff _ (FloatFree v ∧ ∀ v ∈ items, FloatFree v) List.forall_mem_cons.symm
      (@instDecidableAnd _ _ (decideFloatFree v) (decideFloatFreeItems items))

/-- It can be decided of the members of an object. -/
def decideFloatFreeMembers :
    (members : List (String × Json)) → Decidable (∀ m ∈ members, FloatFree m.2)
  | [] => isTrue (List.forall_mem_nil _)
  | (key, v) :: members =>
    @decidable_of_iff _ (FloatFree v ∧ ∀ m ∈ members, FloatFree m.2)
      (List.forall_mem_cons (p := fun m : String × Json => FloatFree m.2) (a := (key, v))).symm
      (@instDecidableAnd _ _ (decideFloatFree v) (decideFloatFreeMembers members))

end

instance : DecidablePred FloatFree := decideFloatFree

mutual

/-- It can be decided whether a value fits a depth. -/
def decideFits : (levels : Nat) → (v : Json) → Decidable (Fits levels v)
  | levels, .null => isTrue (.null levels)
  | levels, .bool b => isTrue (.bool levels b)
  | levels, .int n =>
    decidable_of_iff (-(Text.maxSigned : Int) - 1 ≤ n ∧ n ≤ (Text.maxWord : Int))
      ⟨fun h => .int levels h.1 h.2, fun h => by cases h; exact ⟨‹_›, ‹_›⟩⟩
  | levels, .float x => isTrue (.float levels x)
  | levels, .str s => isTrue (.str levels s)
  | 0, .arr _ => isFalse fun h => by cases h
  | levels + 1, .arr items =>
    @decidable_of_iff _ (∀ v ∈ items, Fits levels v) ⟨.arr, fun h => by cases h; assumption⟩
      (decideFitsItems levels items)
  | 0, .obj _ => isFalse fun h => by cases h
  | levels + 1, .obj members =>
    @decidable_of_iff _ ((Dict.keys members).Pairwise (· < ·) ∧ ∀ m ∈ members, Fits levels m.2)
      ⟨fun h => .obj h.1 h.2, fun h => by cases h; exact ⟨‹_›, ‹_›⟩⟩
      (@instDecidableAnd _ _ inferInstance (decideFitsMembers levels members))

/-- It can be decided of the items of an array. -/
def decideFitsItems (levels : Nat) :
    (items : List Json) → Decidable (∀ v ∈ items, Fits levels v)
  | [] => isTrue (List.forall_mem_nil _)
  | v :: items =>
    @decidable_of_iff _ (Fits levels v ∧ ∀ v ∈ items, Fits levels v) List.forall_mem_cons.symm
      (@instDecidableAnd _ _ (decideFits levels v) (decideFitsItems levels items))

/-- It can be decided of the members of an object. -/
def decideFitsMembers (levels : Nat) :
    (members : List (String × Json)) → Decidable (∀ m ∈ members, Fits levels m.2)
  | [] => isTrue (List.forall_mem_nil _)
  | (key, v) :: members =>
    @decidable_of_iff _ (Fits levels v ∧ ∀ m ∈ members, Fits levels m.2)
      (List.forall_mem_cons (p := fun m : String × Json => Fits levels m.2) (a := (key, v))).symm
      (@instDecidableAnd _ _ (decideFits levels v) (decideFitsMembers levels members))

end

instance (levels : Nat) : DecidablePred (Fits levels) := decideFits levels

/-! ## The first byte of a value -/

theorem skipSpace_cons {c : UInt8} (hc : isSpace c = false) (b : Bytes) :
    skipSpace (c :: b) = c :: b := by
  simp [skipSpace, hc]

/-- The byte may be the first one of a value other than `null`. -/
def Starts (c : UInt8) : Prop :=
  isSpace c = false ∧ c ≠ ascii ']' ∧ c ≠ ascii 'n'

theorem starts_digitChar {n : Nat} (hn : n < 10) : Starts (ascii n.digitChar) := by
  have hall : ∀ m < 10, isSpace (ascii m.digitChar) = false ∧ ascii m.digitChar ≠ ascii ']' ∧
      ascii m.digitChar ≠ ascii 'n' := by decide
  exact hall n hn

theorem exists_toDigits_eq_cons (n : Nat) :
    ∃ d rest, d < 10 ∧ utf8 (Nat.toDigits 10 n) = ascii (Nat.digitChar d) :: rest := by
  induction n using Nat.strongRecOn with
  | ind n ih =>
      rcases Nat.lt_or_ge n 10 with hlt | hge
      · exact ⟨n, [], hlt, utf8_toDigits_of_lt hlt⟩
      · obtain ⟨d, rest, hd, hdigits⟩ := ih (n / 10) (by omega)
        exact ⟨d, rest ++ [_], hd, by rw [utf8_toDigits_of_le hge, hdigits, List.cons_append]⟩

theorem utf8_signedNumeral_ofNat (n : Nat) :
    utf8 (chars (.int (n : Int))) = utf8 (Nat.toDigits 10 n) := by
  rw [chars]
  exact congrArg utf8 String.toList_ofList

theorem utf8_signedNumeral_negSucc (n : Nat) :
    utf8 (chars (.int (.negSucc n))) = ascii '-' :: utf8 (Nat.toDigits 10 (n + 1)) := by
  have htext : chars (.int (.negSucc n)) = '-' :: Nat.toDigits 10 (n + 1) := by
    simp [chars, Text.signedNumeral, Text.numeral]
  rw [htext, utf8_cons_ascii (by decide)]

theorem exists_chars_eq_cons {v : Json} (hv : FloatFree v) :
    ∃ c rest, utf8 v.chars = c :: rest ∧ isSpace c = false ∧ c ≠ ascii ']' ∧
      (v ≠ .null → c ≠ ascii 'n') := by
  have hascii : ∀ (c : Char) (cs : List Char), c.toNat ≤ 0x7F → Starts (ascii c) →
      ∃ b rest, utf8 (c :: cs) = b :: rest ∧ isSpace b = false ∧ b ≠ ascii ']' ∧
        (v ≠ .null → b ≠ ascii 'n') := by
    intro c cs hc hstarts
    exact ⟨_, _, utf8_cons_ascii hc cs, hstarts.1, hstarts.2.1, fun _ => hstarts.2.2⟩
  cases hv with
  | null => exact ⟨_, _, rfl, by decide, by decide, fun h => (h rfl).elim⟩
  | bool b => cases b <;> exact hascii _ _ (by decide) (by unfold Starts; decide)
  | int n =>
      cases n with
      | ofNat n =>
          obtain ⟨d, rest, hd, hdigits⟩ := exists_toDigits_eq_cons n
          have hstarts := starts_digitChar hd
          exact ⟨_, rest, (utf8_signedNumeral_ofNat n).trans hdigits, hstarts.1, hstarts.2.1,
            fun _ => hstarts.2.2⟩
      | negSucc n =>
          exact ⟨_, _, utf8_signedNumeral_negSucc n, by decide, by decide, fun _ => by decide⟩
  | str s => exact hascii _ _ (by decide) (by unfold Starts; decide)
  | arr hitems => exact hascii _ _ (by decide) (by unfold Starts; decide)
  | obj hmembers => exact hascii _ _ (by decide) (by unfold Starts; decide)

/-! ## Lengths -/

theorem length_pos_of_floatFree {v : Json} (hv : FloatFree v) : 0 < (utf8 v.chars).length := by
  obtain ⟨c, rest, hchars, -⟩ := exists_chars_eq_cons hv
  simp [hchars]

theorem length_moreItemChars_cons (v : Json) (items : List Json) :
    (utf8 (moreItemChars (v :: items))).length =
      (utf8 v.chars).length + (utf8 (moreItemChars items)).length + 1 := by
  rw [moreItemChars, utf8_cons_ascii (by decide), utf8_append]
  simp

/-- Every item but the first takes its text and a comma. -/
theorem length_le_moreItemChars (items : List Json) :
    (∀ v ∈ items, (utf8 v.chars).length < (utf8 (moreItemChars items)).length) ∧
      items.length < (utf8 (moreItemChars items)).length := by
  induction items with
  | nil => simp [moreItemChars, utf8_cons_ascii]
  | cons v items ih =>
      obtain ⟨hitems, hlength⟩ := ih
      rw [length_moreItemChars_cons, List.length_cons]
      refine ⟨?_, by omega⟩
      intro w hw
      rcases List.mem_cons.1 hw with rfl | hw
      · omega
      · have := hitems w hw
        omega

theorem length_le_itemChars {items : List Json} (hitems : ∀ v ∈ items, FloatFree v) :
    (∀ v ∈ items, (utf8 v.chars).length ≤ (utf8 (itemChars items)).length) ∧
      items.length < (utf8 (itemChars items)).length := by
  cases items with
  | nil => simp [itemChars, utf8_cons_ascii]
  | cons v items =>
      have hpos := length_pos_of_floatFree (hitems v List.mem_cons_self)
      obtain ⟨hrest, hlength⟩ := length_le_moreItemChars items
      rw [itemChars, utf8_append, List.length_append, List.length_cons]
      refine ⟨?_, by omega⟩
      intro w hw
      rcases List.mem_cons.1 hw with rfl | hw
      · omega
      · have := hrest w hw
        omega

theorem length_moreMemberChars_cons (k : String) (v : Json) (members : List (String × Json)) :
    (utf8 (moreMemberChars ((k, v) :: members))).length =
      (stringTail k).length + (utf8 v.chars).length +
        (utf8 (moreMemberChars members)).length + 3 := by
  rw [moreMemberChars, utf8_cons_ascii (by decide), utf8_append, utf8_stringChars,
    utf8_cons_ascii (by decide), utf8_append]
  simp only [List.length_append, List.length_cons]
  omega

theorem length_memberChars_cons (k : String) (v : Json) (members : List (String × Json)) :
    (utf8 (memberChars ((k, v) :: members))).length =
      (stringTail k).length + (utf8 v.chars).length +
        (utf8 (moreMemberChars members)).length + 2 := by
  rw [memberChars, utf8_append, utf8_stringChars, utf8_cons_ascii (by decide), utf8_append]
  simp only [List.length_append, List.length_cons]
  omega

theorem length_le_moreMemberChars (members : List (String × Json)) :
    (∀ m ∈ members, (stringTail m.1).length < (utf8 (moreMemberChars members)).length ∧
        (utf8 m.2.chars).length < (utf8 (moreMemberChars members)).length) ∧
      members.length < (utf8 (moreMemberChars members)).length := by
  induction members with
  | nil => simp [moreMemberChars, utf8_cons_ascii]
  | cons m members ih =>
      obtain ⟨k, v⟩ := m
      obtain ⟨hmembers, hlength⟩ := ih
      rw [length_moreMemberChars_cons, List.length_cons]
      refine ⟨?_, by omega⟩
      intro w hw
      rcases List.mem_cons.1 hw with rfl | hw
      · constructor <;> dsimp only <;> omega
      · obtain ⟨hkey, hvalue⟩ := hmembers w hw
        exact ⟨by omega, by omega⟩

theorem length_le_memberChars (members : List (String × Json)) :
    (∀ m ∈ members, (stringTail m.1).length < (utf8 (memberChars members)).length ∧
        (utf8 m.2.chars).length < (utf8 (memberChars members)).length) ∧
      members.length < (utf8 (memberChars members)).length := by
  cases members with
  | nil => simp [memberChars, utf8_cons_ascii]
  | cons m members =>
      obtain ⟨k, v⟩ := m
      obtain ⟨hrest, hlength⟩ := length_le_moreMemberChars members
      rw [length_memberChars_cons, List.length_cons]
      refine ⟨?_, by omega⟩
      intro w hw
      rcases List.mem_cons.1 hw with rfl | hw
      · constructor <;> dsimp only <;> omega
      · obtain ⟨hkey, hvalue⟩ := hrest w hw
        exact ⟨by omega, by omega⟩

/-! ## Items -/

theorem ends_moreItemChars (items : List Json) (rest : Bytes) :
    Ends (utf8 (moreItemChars items) ++ rest) := by
  cases items with
  | nil => exact ends_cons (.inr (.inl rfl)) rest
  | cons v items =>
      rw [moreItemChars, utf8_cons_ascii (by decide), List.cons_append]
      exact ends_cons (.inl rfl) _

/-- The reader reads the printed text of `v` as `v'`, if the text then ends. -/
def ReadsAs (read : Bytes → Result Json) (v v' : Json) : Prop :=
  FloatFree v ∧ ∀ rest, Ends rest → read (utf8 v.chars ++ rest) = .ok (v', rest)

theorem nextItem?_close (first : Bool) (rest : Bytes) :
    nextItem? first (ascii ']' :: rest) = .ok none := by
  simp only [nextItem?, skipSpace_cons (show isSpace (ascii ']') = false by decide), if_true]

theorem nextItem?_first {v : Json} (hv : FloatFree v) (rest : Bytes) :
    nextItem? true (utf8 v.chars ++ rest) = .ok (some (utf8 v.chars ++ rest)) := by
  obtain ⟨c, more, hchars, hspace, hclose, -⟩ := exists_chars_eq_cons hv
  rw [hchars, List.cons_append]
  simp only [nextItem?, skipSpace_cons hspace, if_neg hclose, if_true]

theorem nextItem?_more {v : Json} (hv : FloatFree v) (rest : Bytes) :
    nextItem? false (ascii ',' :: (utf8 v.chars ++ rest)) =
      .ok (some (utf8 v.chars ++ rest)) := by
  obtain ⟨c, more, hchars, hspace, hclose, -⟩ := exists_chars_eq_cons hv
  have hcomma : ascii ',' ≠ ascii ']' := by decide
  rw [hchars, List.cons_append]
  simp only [nextItem?, skipSpace_cons (show isSpace (ascii ',') = false by decide),
    if_neg hcomma, Bool.false_eq_true, if_false, if_true, skipSpace_cons hspace, if_neg hclose]

theorem readItems_more {read : Bytes → Result Json} {items items' : List Json}
    (h : List.Forall₂ (ReadsAs read) items items') {fuel : Nat} (hfuel : items.length < fuel)
    (done : List Json) (hdone : done ≠ []) (rest : Bytes) :
    readItems read fuel done (utf8 (moreItemChars items) ++ rest) =
      .ok (done.reverse ++ items', ascii ']' :: rest) := by
  obtain ⟨left, rfl⟩ : ∃ left, fuel = left + 1 := ⟨fuel - 1, by omega⟩
  have hempty : done.isEmpty = false := by simp [hdone]
  induction h generalizing left done with
  | nil =>
      rw [moreItemChars, utf8_cons_ascii (by decide), utf8_nil, List.singleton_append, readItems,
        nextItem?_close, skipSpace_cons (by decide), List.append_nil]
  | @cons v v' items items' hv hitems ih =>
      obtain ⟨hfree, hread⟩ := hv
      obtain ⟨left, rfl⟩ : ∃ more, left = more + 1 :=
        ⟨left - 1, by simp only [List.length_cons] at hfuel; omega⟩
      rw [moreItemChars, utf8_cons_ascii (by decide), utf8_append, List.cons_append,
        List.append_assoc, readItems, hempty, nextItem?_more hfree]
      simp only [hread _ (ends_moreItemChars items rest)]
      rw [ih (v' :: done) (by simp) left (by simpa using hfuel) rfl, List.reverse_cons,
        List.append_assoc, List.singleton_append]

/-- The items of a printed list are read one after the other. -/
theorem readItems_itemChars {read : Bytes → Result Json} {items items' : List Json}
    (h : List.Forall₂ (ReadsAs read) items items') {fuel : Nat} (hfuel : items.length < fuel)
    (rest : Bytes) :
    readItems read fuel [] (utf8 (itemChars items) ++ rest) = .ok (items', ascii ']' :: rest) := by
  obtain ⟨left, rfl⟩ : ∃ left, fuel = left + 1 := ⟨fuel - 1, by omega⟩
  cases h with
  | nil =>
      rw [itemChars, utf8_cons_ascii (by decide), utf8_nil, List.singleton_append, readItems,
        nextItem?_close, skipSpace_cons (by decide), List.reverse_nil]
  | @cons v v' items items' hv hitems =>
      obtain ⟨hfree, hread⟩ := hv
      rw [itemChars, utf8_append, List.append_assoc, readItems, List.isEmpty_nil,
        nextItem?_first hfree]
      simp only [hread _ (ends_moreItemChars items rest)]
      exact readItems_more hitems (by simpa using hfuel) [v'] (by simp) rest

theorem around_square {α : Type} (items : α) (rest : Bytes) :
    Bracket.square.around (.ok (items, ascii ']' :: rest)) = .ok (items, rest) := by
  simp only [Bracket.around, Bracket.close,
    skipSpace_cons (show isSpace (ascii ']') = false by decide), Bracket.closing, if_true]
  rfl

/-! ## Members -/

theorem ends_moreMemberChars (members : List (String × Json)) (rest : Bytes) :
    Ends (utf8 (moreMemberChars members) ++ rest) := by
  cases members with
  | nil => exact ends_cons (.inr (.inr rfl)) rest
  | cons m members =>
      rw [moreMemberChars, utf8_cons_ascii (by decide), List.cons_append]
      exact ends_cons (.inl rfl) _

/-- After its key, the printed member `m` is read as the member `m'`, unless its key was read
before. -/
def ReadsMemberAs (member : MemberReader) (m m' : String × Json) : Prop :=
  m.1 = m'.1 ∧ ∀ (done : List (String × Json)) (rest : Bytes), m.1 ∉ Dict.keys done →
    Ends rest → member done m.1 (ascii ':' :: (utf8 m.2.chars ++ rest)) = .ok (some m'.2, rest)

theorem nextKey?_close (strings : Nat) (first : Bool) (rest : Bytes) :
    nextKey? strings first (ascii '\x7d' :: rest) = .ok none := by
  simp only [nextKey?, skipSpace_cons (show isSpace (ascii '\x7d') = false by decide), if_true]

theorem nextKey?_first {k : String} {strings : Nat} (hstrings : (stringTail k).length ≤ strings)
    (rest : Bytes) :
    nextKey? strings true (ascii '"' :: (stringTail k ++ rest)) = .ok (some (k, rest)) := by
  have hclose : ascii '"' ≠ ascii '\x7d' := by decide
  simp only [nextKey?, skipSpace_cons (show isSpace (ascii '"') = false by decide),
    if_neg hclose, if_true, readString_stringTail k rest hstrings]
  rfl

theorem nextKey?_more {k : String} {strings : Nat} (hstrings : (stringTail k).length ≤ strings)
    (rest : Bytes) :
    nextKey? strings false (ascii ',' :: ascii '"' :: (stringTail k ++ rest)) =
      .ok (some (k, rest)) := by
  have hclose : ascii ',' ≠ ascii '\x7d' := by decide
  simp only [nextKey?, skipSpace_cons (show isSpace (ascii ',') = false by decide),
    if_neg hclose, Bool.false_eq_true, if_false, if_true,
    skipSpace_cons (show isSpace (ascii '"') = false by decide),
    readString_stringTail k rest hstrings]
  rfl

theorem readMembers_more {member : MemberReader} {members members' : List (String × Json)}
    (h : List.Forall₂ (ReadsMemberAs member) members members') {strings fuel : Nat}
    (hstrings : ∀ m ∈ members, (stringTail m.1).length ≤ strings) (hfuel : members.length < fuel)
    (done : List (String × Json)) (hnodup : (Dict.keys done ++ Dict.keys members).Nodup)
    (rest : Bytes) :
    readMembers member strings fuel false done (utf8 (moreMemberChars members) ++ rest) =
      .ok (done.reverse ++ members', ascii '\x7d' :: rest) := by
  obtain ⟨left, rfl⟩ : ∃ left, fuel = left + 1 := ⟨fuel - 1, by omega⟩
  induction h generalizing left done with
  | nil =>
      rw [moreMemberChars, utf8_cons_ascii (by decide), utf8_nil, List.singleton_append,
        readMembers, nextKey?_close, skipSpace_cons (by decide), List.append_nil]
  | @cons m m' members members' hm hmembers ih =>
      obtain ⟨k, v⟩ := m
      obtain ⟨k', v'⟩ := m'
      obtain ⟨hkey, hread⟩ := hm
      obtain rfl : k = k' := hkey
      obtain ⟨left, rfl⟩ : ∃ more, left = more + 1 :=
        ⟨left - 1, by simp only [List.length_cons] at hfuel; omega⟩
      have hmiddle : (k :: (Dict.keys done ++ Dict.keys members)).Nodup :=
        List.nodup_middle.1 hnodup
      have hfresh : k ∉ Dict.keys done := fun hmem =>
        (List.nodup_cons.1 hmiddle).1 (List.mem_append_left _ hmem)
      rw [moreMemberChars, utf8_cons_ascii (by decide), utf8_append, utf8_stringChars,
        utf8_cons_ascii (by decide), utf8_append, List.cons_append, List.append_assoc,
        List.cons_append, List.cons_append, List.append_assoc, readMembers,
        nextKey?_more (hstrings (k, v) List.mem_cons_self)]
      simp only [hread done _ hfresh (ends_moreMemberChars members rest)]
      rw [ih (fun m hm => hstrings m (List.mem_cons_of_mem _ hm)) ((k, v') :: done) hmiddle left
        (by simpa using hfuel), List.reverse_cons, List.append_assoc, List.singleton_append]

/-- The members of a printed object are read one after the other. -/
theorem readMembers_memberChars {member : MemberReader} {members members' : List (String × Json)}
    (h : List.Forall₂ (ReadsMemberAs member) members members') {strings fuel : Nat}
    (hstrings : ∀ m ∈ members, (stringTail m.1).length ≤ strings) (hfuel : members.length < fuel)
    (hnodup : (Dict.keys members).Nodup) (rest : Bytes) :
    readMembers member strings fuel true [] (utf8 (memberChars members) ++ rest) =
      .ok (members', ascii '\x7d' :: rest) := by
  obtain ⟨left, rfl⟩ : ∃ left, fuel = left + 1 := ⟨fuel - 1, by omega⟩
  cases h with
  | nil =>
      rw [memberChars, utf8_cons_ascii (by decide), utf8_nil, List.singleton_append, readMembers,
        nextKey?_close, skipSpace_cons (by decide), List.reverse_nil]
  | @cons m m' members members' hm hmembers =>
      obtain ⟨k, v⟩ := m
      obtain ⟨k', v'⟩ := m'
      obtain ⟨hkey, hread⟩ := hm
      obtain rfl : k = k' := hkey
      rw [memberChars, utf8_append, utf8_stringChars, utf8_cons_ascii (by decide), utf8_append,
        List.cons_append, List.cons_append, List.append_assoc, List.cons_append,
        List.append_assoc, readMembers, nextKey?_first (hstrings (k, v) List.mem_cons_self)]
      simp only [hread [] _ List.not_mem_nil (ends_moreMemberChars members rest)]
      exact readMembers_more hmembers (fun m hm => hstrings m (List.mem_cons_of_mem _ hm))
        (by simpa using hfuel) [(k, v')] hnodup rest

theorem around_brace {α : Type} (members : α) (rest : Bytes) :
    Bracket.brace.around (.ok (members, ascii '\x7d' :: rest)) = .ok (members, rest) := by
  simp only [Bracket.around, Bracket.close,
    skipSpace_cons (show isSpace (ascii '\x7d') = false by decide), Bracket.closing, if_true]
  rfl

end Json
end RunnerGateway
