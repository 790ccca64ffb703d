import RunnerGateway.Proofs.Json.Values

/-!
# What readers give

Whatever text a value is read from, the value `Fits` the depth that its reader allows: integers are
in range, the keys of every object ascend, and lists and objects are not nested deeper.
-/

namespace RunnerGateway
namespace Json

/-! ## Computations that may fail -/

section Except

variable {ε ε' α β : Type} {result : Except ε α}

theorem eq_ok_of_mapError {f : ε → ε'} {a : α} (h : result.mapError f = .ok a) :
    result = .ok a := by
  cases result with
  | error e => cases h
  | ok a' =>
      cases h
      rfl

theorem exists_ok_of_map {f : α → β} {b : β} (h : result.map f = .ok b) :
    ∃ a, result = .ok a ∧ f a = b := by
  cases result with
  | error e => cases h
  | ok a => exact ⟨a, rfl, Except.ok.inj h⟩

theorem exists_ok_of_bind {f : α → Except ε β} {b : β} (h : result >>= f = .ok b) :
    ∃ a, result = .ok a ∧ f a = .ok b := by
  cases result with
  | error e => cases h
  | ok a => exact ⟨a, rfl, h⟩

end Except

/-! ## Readers -/

/-- If the reader gives a value, the value is as wanted. -/
def Gives {α : Type} (wanted : α → Prop) (result : Result α) : Prop :=
  ∀ a rest, result = .ok (a, rest) → wanted a

variable {α β : Type} {wanted : α → Prop} {levels : Nat}

theorem gives_error (f : Fault) : Gives wanted (.error f) :=
  fun _ _ h => nomatch h

theorem gives_ok {a : α} (h : wanted a) (rest : Bytes) : Gives wanted (.ok (a, rest)) := by
  intro a' rest' heq
  cases heq
  exact h

theorem Gives.map {wanted' : β → Prop} {f : α → β} {result : Result α} (h : Gives wanted result)
    (himp : ∀ a, wanted a → wanted' (f a)) :
    Gives wanted' (result.map fun (a, rest) => (f a, rest)) := by
  cases result with
  | error fault => exact gives_error fault
  | ok found => exact gives_ok (himp _ (h _ _ rfl)) _

theorem gives_map {wanted : β → Prop} {f : α → β} (h : ∀ a, wanted (f a)) (result : Result α) :
    Gives wanted (result.map fun (a, rest) => (f a, rest)) := by
  cases result with
  | error fault => exact gives_error fault
  | ok found => exact gives_ok (h found.1) _

theorem gives_map_rest {a : α} (h : wanted a) (result : Except Fault Bytes) :
    Gives wanted (result.map fun rest => (a, rest)) := by
  cases result with
  | error fault => exact gives_error fault
  | ok rest => exact gives_ok h rest

/-! ## Numbers -/

theorem gives_finishDouble (negative : Bool) (significand : Nat) (exponent : Int) (b : Bytes) :
    Gives (Fits levels) (finishDouble negative significand exponent b) := by
  unfold finishDouble
  split
  · exact gives_ok (.float levels _) b
  · exact gives_error _

theorem gives_finishHugeExponent (negative : Bool) (significand : Nat) (down : Bool) (b : Bytes) :
    Gives (Fits levels) (finishHugeExponent negative significand down b) := by
  unfold finishHugeExponent
  split
  · exact gives_error _
  · exact gives_ok (.float levels _) _

theorem gives_readExponentDigits (negative : Bool) (significand : Nat) (start : Int) (down : Bool)
    (value : Nat) (b : Bytes) :
    Gives (Fits levels) (readExponentDigits negative significand start down value b) := by
  induction b generalizing value with
  | nil => exact gives_finishDouble _ _ _ _
  | cons c b ih =>
      unfold readExponentDigits
      split
      · dsimp only
        split
        · exact ih _
        · exact gives_finishHugeExponent _ _ _ _
      · exact gives_finishDouble _ _ _ _

theorem gives_readUnsignedExponent (negative : Bool) (significand : Nat) (start : Int)
    (down : Bool) (b : Bytes) :
    Gives (Fits levels) (readUnsignedExponent negative significand start down b) := by
  unfold readUnsignedExponent
  split
  · exact gives_error _
  · split
    · exact gives_readExponentDigits _ _ _ _ _ _
    · exact gives_error _

theorem gives_readExponent (negative : Bool) (significand : Nat) (start : Int) (b : Bytes) :
    Gives (Fits levels) (readExponent negative significand start b) := by
  unfold readExponent
  split
  · exact gives_readUnsignedExponent _ _ _ _ _
  · split
    · exact gives_readUnsignedExponent _ _ _ _ _
    · split
      · exact gives_readUnsignedExponent _ _ _ _ _
      · exact gives_readUnsignedExponent _ _ _ _ _

theorem gives_finishDigits (negative : Bool) (significand : Nat) (exponent : Int) (b : Bytes) :
    Gives (Fits levels) (finishDigits negative significand exponent b) := by
  unfold finishDigits
  split
  · exact gives_finishDouble _ _ _ _
  · split
    · exact gives_readExponent _ _ _ _
    · exact gives_finishDouble _ _ _ _

theorem gives_readFraction (negative : Bool) (significand before after : Nat) (b : Bytes) :
    Gives (Fits levels) (readFraction negative significand before after b) := by
  induction b generalizing significand after with
  | nil =>
      unfold readFraction
      split
      · exact gives_error _
      · exact gives_finishDigits _ _ _ _
  | cons c b ih =>
      unfold readFraction
      split
      · dsimp only
        split
        · exact ih _ _
        · exact gives_finishDigits _ _ _ _
      · split
        · exact gives_error _
        · exact gives_finishDigits _ _ _ _

theorem gives_readLongWhole (negative : Bool) (significand dropped : Nat) (b : Bytes) :
    Gives (Fits levels) (readLongWhole negative significand dropped b) := by
  induction b generalizing dropped with
  | nil => exact gives_finishDouble _ _ _ _
  | cons c b ih =>
      unfold readLongWhole
      split
      · exact ih _
      · split
        · exact gives_readFraction _ _ _ _ _
        · exact gives_finishDigits _ _ _ _

/-- A significand that fits a word makes an integer in range, or a double. -/
theorem fits_wholeNumber (negative : Bool) {significand : Nat}
    (hword : significand ≤ Text.maxWord) : Fits levels (wholeNumber negative significand) := by
  unfold wholeNumber
  split
  · split
    · exact .float levels _
    · exact .int levels (by omega) (by omega)
  · exact .int levels (by omega) (by omega)

theorem gives_finishWhole (negative : Bool) {significand : Nat}
    (hword : significand ≤ Text.maxWord) (b : Bytes) :
    Gives (Fits levels) (finishWhole negative significand b) := by
  unfold finishWhole
  split
  · exact gives_ok (fits_wholeNumber negative hword) _
  · split
    · exact gives_readFraction _ _ _ _ _
    · split
      · exact gives_readExponent _ _ _ _
      · exact gives_ok (fits_wholeNumber negative hword) _

theorem gives_readWhole (negative : Bool) {significand : Nat}
    (hword : significand ≤ Text.maxWord) (b : Bytes) :
    Gives (Fits levels) (readWhole negative significand b) := by
  induction b generalizing significand with
  | nil => exact gives_finishWhole negative hword []
  | cons c b ih =>
      unfold readWhole
      split
      · dsimp only
        split
        case isTrue hgrown => exact ih hgrown
        case isFalse => exact gives_readLongWhole _ _ _ _
      · exact gives_finishWhole negative hword _

theorem digit?_lt {c : UInt8} {d : Nat} (h : digit? c = some d) : d < 10 := by
  unfold digit? at h
  split at h
  case isTrue hc =>
    have hle : c.toNat ≤ 0x39 := hc.2
    cases h
    omega
  case isFalse => cases h

theorem gives_readNumber (negative : Bool) (b : Bytes) :
    Gives (Fits levels) (readNumber negative b) := by
  have hzero : 0 ≤ Text.maxWord := Nat.zero_le _
  unfold readNumber
  split
  · exact gives_error _
  · split
    · exact gives_error _
    · split
      · exact gives_finishWhole negative hzero _
      · split
        · exact gives_error _
        · exact gives_finishWhole negative hzero _
    · rename_i c rest d hd hdigit
      have hlt := digit?_lt hdigit
      have hword : 10 ≤ Text.maxWord := by decide
      exact gives_readWhole negative (by omega) _

theorem gives_readScalar? {fuel : Nat} {c : UInt8} {b : Bytes} {result : Result Json}
    (h : readScalar? fuel c b = some result) : Gives (Fits levels) result := by
  unfold readScalar? at h
  split at h
  · cases h
    exact gives_map_rest (.null levels) _
  split at h
  · cases h
    exact gives_map_rest (.bool levels true) _
  split at h
  · cases h
    exact gives_map_rest (.bool levels false) _
  split at h
  · cases h
    exact gives_readNumber true b
  split at h
  · cases h
    exact gives_readNumber false _
  split at h
  · cases h
    exact gives_map (fun s => .str levels s) _
  · cases h

/-! ## Lists and objects -/

theorem gives_around {result : Result α} (k : Bracket) (h : Gives wanted result) :
    Gives wanted (k.around result) := by
  unfold Bracket.around
  split
  · exact gives_error _
  · exact gives_map_rest (h _ _ rfl) _

theorem gives_readItems {item : Bytes → Result Json} {wanted : Json → Prop}
    (hitem : ∀ b, Gives wanted (item b)) (fuel : Nat) {done : List Json}
    (hdone : ∀ v ∈ done, wanted v) (b : Bytes) :
    Gives (fun items => ∀ v ∈ items, wanted v) (readItems item fuel done b) := by
  induction fuel generalizing done b with
  | zero => exact gives_error _
  | succ fuel ih =>
      unfold readItems
      split
      · exact gives_error _
      · exact gives_ok (fun v hv => hdone v (List.mem_reverse.1 hv)) _
      · split
        · exact gives_error _
        · rename_i v rest hv
          refine ih ?_ rest
          intro w hw
          rcases List.mem_cons.1 hw with rfl | hw
          · exact hitem _ _ _ hv
          · exact hdone w hw

/-- The reader of members gives only members with wanted values. -/
def MemberReader.Gives (member : MemberReader) (wanted : Json → Prop) : Prop :=
  ∀ before key b, Json.Gives (fun found => ∀ v, found = some v → wanted v) (member before key b)

theorem gives_readMembers {member : MemberReader} {wanted : Json → Prop}
    (hmember : member.Gives wanted) (strings fuel : Nat) (first : Bool)
    {done : List (String × Json)} (hdone : ∀ m ∈ done, wanted m.2) (b : Bytes) :
    Gives (fun members => ∀ m ∈ members, wanted m.2)
      (readMembers member strings fuel first done b) := by
  induction fuel generalizing first done b with
  | zero => exact gives_error _
  | succ fuel ih =>
      unfold readMembers
      split
      · exact gives_error _
      · exact gives_ok (fun m hm => hdone m (List.mem_reverse.1 hm)) _
      · split
        · exact gives_error _
        · rename_i v rest hv
          refine ih false ?_ rest
          intro m hm
          rcases List.mem_cons.1 hm with rfl | hm
          · exact hmember _ _ _ _ _ hv v rfl
          · exact hdone m hm
        · exact ih false hdone _

theorem gives_plainMember {value : Bytes → Result Json} {wanted : Json → Prop}
    (hvalue : ∀ b, Gives wanted (value b)) : (plainMember value).Gives wanted := by
  intro before key b
  unfold plainMember
  split
  · exact gives_error _
  · split
    · exact gives_error _
    · rename_i v rest hv
      refine gives_ok ?_ rest
      intro w hw
      obtain rfl := Option.some.inj hw
      exact hvalue _ _ _ hv

theorem fits_ofMembers {members : List (String × Json)} (h : ∀ m ∈ members, Fits levels m.2) :
    Fits (levels + 1) (.ofMembers members) :=
  .obj (Dict.sorted_ofList members) fun m hm => h m (Dict.mem_of_mem_ofList hm)

/-! ## Records -/

section Records

variable {ρ : Type} {σ : Schema ρ}

theorem gives_readField {shape : Shape ρ → Bytes → Result Json}
    (hshape : ∀ s b, Gives (Fits levels) (shape s b)) (f : Field ρ) (b : Bytes) :
    Gives (Fits levels) (readField shape f b) := by
  unfold readField
  split
  · split
    · exact gives_map_rest (.null levels) _
    · exact hshape _ _
  · exact hshape _ _

theorem gives_recordMember (r : ρ) (fuel : Nat) {shape : Shape ρ → Bytes → Result Json}
    (hshape : ∀ s b, Gives (Fits levels) (shape s b)) :
    (recordMember σ r fuel shape).Gives (Fits levels) := by
  have hsome : ∀ v, Fits levels v → ∀ w, some v = some w → Fits levels w := by
    intro v hv w hw
    obtain rfl := Option.some.inj hw
    exact hv
  intro before key b
  unfold recordMember
  split
  · split
    · exact gives_error _
    · split
      · exact gives_error _
      · exact (gives_readField hshape _ _).map hsome
  · split
    · exact gives_error _
    · split
      · exact (hshape .any _).map hsome
      · exact gives_map_rest (by simp) _

theorem gives_checkMissing (r : ρ) {result : Result (List (String × Json))}
    {wanted : List (String × Json) → Prop} (h : Gives wanted result) :
    Gives wanted (checkMissing σ r result) := by
  unfold checkMissing
  split
  · exact gives_error _
  · split
    · exact gives_error _
    · exact gives_ok (h _ _ rfl) _

theorem fits_insert {members : Dict Json} (h : Fits (levels + 1) (.obj members)) (key : String)
    {v : Json} (hv : Fits levels v) : Fits (levels + 1) (.obj (Dict.insert members key v)) := by
  cases h with
  | obj hsorted hmembers =>
      refine .obj (Dict.sorted_insert hsorted key v) fun m hm => ?_
      rcases Dict.mem_insert_key hm with rfl | hm
      · exact hv
      · exact hmembers m hm

theorem gives_readPositions (r : ρ) {shape : Shape ρ → Bytes → Result Json}
    (hshape : ∀ s b, Gives (Fits levels) (shape s b)) (index : Nat) {done : Dict Json}
    (hdone : Fits (levels + 1) (.obj done)) (fields : List (Field ρ)) (b : Bytes) :
    Gives (fun members => Fits (levels + 1) (.obj members))
      (readPositions σ r shape index done fields b) := by
  induction fields generalizing index done b with
  | nil =>
      refine gives_ok ?_ b
      exact hdone
  | cons f fields ih =>
      unfold readPositions
      split
      · exact gives_error _
      · split
        · exact gives_error _
        · refine gives_ok ?_ b
          exact hdone
      · split
        · exact gives_error _
        · rename_i v rest hv
          exact ih _ (fits_insert hdone f.name (gives_readField hshape f _ _ _ hv)) _

/-! ## Shapes -/

theorem fits_tagOfMembers? {members : List (String × Json)} {tag : Json}
    (h : tagOfMembers? members = some tag) : Fits (levels + 1) tag := by
  unfold tagOfMembers? at h
  split at h
  · cases h
    refine .obj (by simp [Dict.sorted_cons_iff]) fun m hm => ?_
    obtain rfl := List.mem_singleton.1 hm
    exact .str levels _
  · cases h

/-- What is read one level less deep fits that depth, whatever its shape. -/
def Schema.GivesInner (σ : Schema ρ) (fuel levels : Nat) : Prop :=
  ∀ inner, levels = inner + 1 → ∀ shape b, Gives (Fits inner) (σ.readValue fuel inner shape b)

variable {fuel : Nat} {c : UInt8} {b rest : Bytes} (hspace : skipSpace b = c :: rest)

include hspace

theorem gives_readValue_bool : Gives (Fits levels) (σ.readValue fuel levels .bool b) := by
  rw [Schema.readValue, hspace]
  dsimp only
  split
  · cases hscalar : readScalar? fuel c rest with
    | none => exact gives_error _
    | some result => exact gives_readScalar? hscalar
  · exact gives_error _

theorem gives_readValue_string : Gives (Fits levels) (σ.readValue fuel levels .string b) := by
  rw [Schema.readValue, hspace]
  dsimp only
  split
  · exact gives_map (fun s => .str levels s) _
  · exact gives_error _

theorem gives_readValue_index : Gives (Fits levels) (σ.readValue fuel levels .index b) := by
  rw [Schema.readValue, hspace]
  dsimp only
  split
  · split
    · exact gives_error _
    · rename_i n rest hscalar
      exact gives_ok (gives_readScalar? hscalar _ _ rfl) _
    · exact gives_error _
    · exact gives_error _
  · exact gives_error _

variable (hinner : σ.GivesInner fuel levels)

include hinner

theorem gives_readValue_list (item : Shape ρ) :
    Gives (Fits levels) (σ.readValue fuel levels (.list item) b) := by
  rw [Schema.readValue, hspace]
  dsimp only
  split
  · split
    · exact gives_error _
    · rename_i inner
      have hitems := gives_readItems (hinner inner rfl item) fuel (List.forall_mem_nil _) rest
      have haround := gives_around .square hitems
      exact haround.map fun items hitems => .arr hitems
  · exact gives_error _

theorem gives_readValue_dict (item : Shape ρ) :
    Gives (Fits levels) (σ.readValue fuel levels (.dict item) b) := by
  rw [Schema.readValue, hspace]
  dsimp only
  split
  · split
    · exact gives_error _
    · rename_i inner
      have hmember := gives_plainMember (hinner inner rfl item)
      have hmembers := gives_readMembers hmember fuel fuel true (List.forall_mem_nil _) rest
      have haround := gives_around .brace hmembers
      exact haround.map fun members hmembers => fits_ofMembers hmembers
  · exact gives_error _

theorem gives_readValue_record (r : ρ) :
    Gives (Fits levels) (σ.readValue fuel levels (.record r) b) := by
  rw [Schema.readValue, hspace]
  dsimp only
  split
  · split
    · exact gives_error _
    · rename_i inner
      have hmember := gives_recordMember (σ := σ) r fuel (hinner inner rfl)
      have hmembers := gives_readMembers hmember fuel fuel true (List.forall_mem_nil _) rest
      have haround := gives_around .brace (gives_checkMissing (σ := σ) r hmembers)
      exact haround.map fun members hmembers => fits_ofMembers hmembers
  · split
    · split
      · exact gives_error _
      · rename_i inner
        have hnone : Fits (inner + 1) (.obj []) :=
          .obj Dict.sorted_nil (List.forall_mem_nil _)
        have hmembers :=
          gives_readPositions (σ := σ) r (hinner inner rfl) 0 hnone (σ.fields r) rest
        have haround := gives_around .square hmembers
        exact haround.map fun members hmembers => hmembers
    · exact gives_error _

theorem gives_readValue_any : Gives (Fits levels) (σ.readValue fuel levels .any b) := by
  rw [Schema.readValue, hspace]
  dsimp only
  split
  · split
    · exact gives_error _
    · rename_i inner
      have hitems := gives_readItems (hinner inner rfl .any) fuel (List.forall_mem_nil _) rest
      have haround := gives_around .square hitems
      split
      · exact gives_error _
      · rename_i items rest hread
        exact gives_ok (.arr (haround _ _ hread)) rest
  · split
    · split
      · exact gives_error _
      · rename_i inner
        have hmember := gives_plainMember (hinner inner rfl .any)
        have hmembers := gives_readMembers hmember fuel fuel true (List.forall_mem_nil _) rest
        have haround := gives_around .brace hmembers
        split
        · exact gives_error _
        · rename_i members rest hread
          exact gives_ok (fits_ofMembers (haround _ _ hread)) rest
    · split
      · exact gives_error _
      · exact gives_error _
      · rename_i v rest hscalar
        exact gives_ok (gives_readScalar? hscalar _ _ rfl) rest

omit hinner

theorem gives_readValue_tag : Gives (Fits levels) (σ.readValue fuel levels .tag b) := by
  rw [Schema.readValue, hspace]
  dsimp only
  split
  · split
    · exact gives_error _
    · split
      · exact gives_error _
      · exact gives_error _
  · split
    · split
      · exact gives_error _
      · split
        · exact gives_error _
        · split
          · rename_i htag
            exact gives_ok (fits_tagOfMembers? htag) _
          · exact gives_error _
    · split
      · exact gives_error _
      · exact gives_error _
      · split
        · exact gives_ok (.str levels _) _
        · exact gives_error _

omit hspace

/-- What is read as a value of a shape fits the depth that the reader allows. -/
theorem gives_readValue (fuel levels : Nat) (shape : Shape ρ) (b : Bytes) :
    Gives (Fits levels) (σ.readValue fuel levels shape b) := by
  induction levels using Nat.strongRecOn generalizing shape b with
  | ind levels ih =>
      have hinner : σ.GivesInner fuel levels := by
        intro inner hlevels shape b
        exact ih inner (by omega) shape b
      cases hspace : skipSpace b with
      | nil =>
          rw [readValue_of_blank hspace]
          exact gives_error _
      | cons c rest =>
          cases shape with
          | any => exact gives_readValue_any hspace hinner
          | bool => exact gives_readValue_bool hspace
          | string => exact gives_readValue_string hspace
          | index => exact gives_readValue_index hspace
          | tag => exact gives_readValue_tag hspace
          | list item => exact gives_readValue_list hspace hinner item
          | dict item => exact gives_readValue_dict hspace hinner item
          | record r => exact gives_readValue_record hspace hinner r

theorem fits_of_readFault {shape : Shape ρ} {text : Bytes} {v : Json}
    (h : σ.readFault shape text = .ok v) : Fits maxLevels v := by
  unfold Schema.readFault at h
  split at h
  · cases h
  · rename_i v' rest hread
    split at h
    · cases h
      exact gives_readValue _ _ _ _ _ _ hread
    · cases h

/-- The value of a text of a given shape fits the depth of texts. -/
theorem fits_of_read {shape : Shape ρ} {text : String} {v : Json}
    (h : σ.read shape text = .ok v) : Fits maxLevels v :=
  fits_of_readFault (eq_ok_of_mapError h)

end Records

/-- The value of a text fits the depth of texts. -/
theorem fits_of_parseBytes {text : Bytes} {v : Json} (h : parseBytes text = .ok v) :
    Fits maxLevels v :=
  fits_of_readFault (eq_ok_of_mapError h)

end Json
end RunnerGateway
