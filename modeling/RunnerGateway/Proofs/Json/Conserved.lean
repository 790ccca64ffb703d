import Mathlib
import RunnerGateway.Json.Shape
import RunnerGateway.Proofs.Json.Outcomes

/-!
# Shapes that conserve values

Most shapes only refuse values: what they do not refuse comes back as it was.  A tag loses members,
and so does a record that ignores the members which are no fields; a record that keeps them
conserves its values if its fields do.  For such a record being accepted is a matter of its single
members, and of the required ones being there.
-/

namespace RunnerGateway
namespace Json

variable {ρ : Type} {σ : Schema ρ}

/-- The shape gives every value that it does not refuse back as it was. -/
inductive Schema.Conserves (σ : Schema ρ) : Shape ρ → Prop
  | any : Conserves σ .any
  | bool : Conserves σ .bool
  | string : Conserves σ .string
  | index : Conserves σ .index
  | list {item : Shape ρ} (hitem : Conserves σ item) : Conserves σ (.list item)
  | dict {item : Shape ρ} (hitem : Conserves σ item) : Conserves σ (.dict item)
  | record {r : ρ} (hkept : σ.rest r = .kept) (hfields : ∀ f ∈ σ.fields r, Conserves σ f.shape) :
      Conserves σ (.record r)

/-- The record does not refuse the member for itself: it is no field, or absent, or it has the shape
of its field. -/
def Schema.Accepts (σ : Schema ρ) (r : ρ) (m : String × Json) : Prop :=
  ∀ f, σ.field? r m.1 = some f → f.isAbsent m.2 = true ∨ ∃ v, σ.decode f.shape m.2 = .ok v

theorem mem_fields_of_field? {r : ρ} {key : String} {f : Field ρ} (h : σ.field? r key = some f) :
    f ∈ σ.fields r ∧ f.name = key :=
  ⟨List.mem_of_find?_eq_some h, by simpa using List.find?_some h⟩

/-! ## Lists and dictionaries -/

/-- A list is held against the shape of its items item by item. -/
theorem decodeItems_eq_ok_iff {item : Shape ρ} {items items' : List Json} :
    σ.decodeItems item items = .ok items' ↔
      List.Forall₂ (fun v w => σ.decode item v = .ok w) items items' := by
  induction items generalizing items' with
  | nil => simp [Schema.decodeItems, eq_comm]
  | cons v items ih =>
      rw [Schema.decodeItems, List.forall₂_cons_left_iff]
      constructor
      · intro h
        split at h
        · cases h
        · rename_i w hw
          obtain ⟨rest, hrest, rfl⟩ := exists_ok_of_map h
          exact ⟨w, rest, hw, ih.1 hrest, rfl⟩
      · rintro ⟨w, rest, hw, hrest, rfl⟩
        rw [hw, ih.2 hrest]
        rfl

theorem eq_of_decodeItems {item : Shape ρ} {items items' : List Json}
    (hitem : ∀ v w, σ.decode item v = .ok w → w = v) (h : σ.decodeItems item items = .ok items') :
    items' = items := by
  have heq : List.Forall₂ (fun v w => v = w) items items' :=
    (decodeItems_eq_ok_iff.1 h).imp fun v w hw => (hitem v w hw).symm
  rw [List.forall₂_eq_eq_eq] at heq
  exact heq.symm

theorem exists_decode_of_mem {item : Shape ρ} {items items' : List Json}
    (h : σ.decodeItems item items = .ok items') : ∀ v ∈ items, ∃ w, σ.decode item v = .ok w := by
  induction decodeItems_eq_ok_iff.1 h with
  | nil => simp
  | cons hv hitems ih =>
      exact List.forall_mem_cons.2 ⟨⟨_, hv⟩, ih (decodeItems_eq_ok_iff.2 hitems)⟩

theorem eq_of_decodeMembers {item : Shape ρ} {members members' : List (String × Json)}
    (hitem : ∀ v w, σ.decode item v = .ok w → w = v)
    (h : σ.decodeMembers item members = .ok members') : members' = members := by
  induction members generalizing members' with
  | nil =>
      rw [Schema.decodeMembers] at h
      exact (Except.ok.inj h).symm
  | cons m members ih =>
      obtain ⟨k, v⟩ := m
      rw [Schema.decodeMembers] at h
      split at h
      · cases h
      · rename_i w hw
        obtain ⟨rest, hrest, rfl⟩ := exists_ok_of_map h
        rw [hitem v w hw, ih hrest]

/-! ## Records -/

/-- The canonical form of a value under a key of a record: the value of a field takes the shape of
the field, unless it counts as absent. -/
def Schema.decodeUnder (σ : Schema ρ) (r : ρ) (key : String) (v : Json) : Except Cause Json :=
  match σ.field? r key with
  | none => .ok v
  | some f => if f.isAbsent v then .ok v else σ.decode f.shape v

/-- The first member gives the second one: the canonical form of its value, under its key. -/
def Schema.Becomes (σ : Schema ρ) (r : ρ) (m m' : String × Json) : Prop :=
  m'.1 = m.1 ∧ σ.decodeUnder r m.1 m.2 = .ok m'.2

theorem decodeFields_cons {r : ρ} (hkept : σ.rest r = .kept) (m : String × Json)
    (members : List (String × Json)) :
    σ.decodeFields r (m :: members) =
      (σ.decodeUnder r m.1 m.2).bind fun v =>
        (σ.decodeFields r members).map ((m.1, v) :: ·) := by
  obtain ⟨k, v⟩ := m
  rw [Schema.decodeFields, Schema.decodeUnder]
  cases σ.field? r k with
  | none => simp only [hkept, Except.bind]
  | some f =>
      by_cases habsent : f.isAbsent v = true
      · simp only [if_pos habsent, Except.bind]
      · simp only [if_neg habsent]
        cases σ.decode f.shape v with
        | error cause => rfl
        | ok w => rfl

/-- A record that keeps all its members is held against its fields member by member. -/
theorem decodeFields_eq_ok_iff_forall₂ {r : ρ} (hkept : σ.rest r = .kept)
    {members members' : List (String × Json)} :
    σ.decodeFields r members = .ok members' ↔ List.Forall₂ (σ.Becomes r) members members' := by
  induction members generalizing members' with
  | nil => simp [Schema.decodeFields, eq_comm]
  | cons m members ih =>
      rw [decodeFields_cons hkept, List.forall₂_cons_left_iff]
      constructor
      · intro h
        obtain ⟨v, hv, h⟩ := exists_ok_of_bind h
        obtain ⟨rest, hrest, rfl⟩ := exists_ok_of_map h
        exact ⟨(m.1, v), rest, ⟨rfl, hv⟩, ih.1 hrest, rfl⟩
      · rintro ⟨⟨k, v⟩, rest, ⟨rfl, hv⟩, hrest, rfl⟩
        rw [hv, ih.2 hrest]
        rfl

theorem accepts_iff {r : ρ} {m : String × Json} :
    σ.Accepts r m ↔ ∃ v, σ.decodeUnder r m.1 m.2 = .ok v := by
  unfold Schema.Accepts Schema.decodeUnder
  cases σ.field? r m.1 with
  | none => simp
  | some f => by_cases habsent : f.isAbsent m.2 = true <;> simp [habsent]

theorem becomes_iff {r : ρ}
    (hfields : ∀ f ∈ σ.fields r, ∀ v w, σ.decode f.shape v = .ok w → w = v)
    {m m' : String × Json} : σ.Becomes r m m' ↔ m' = m ∧ σ.Accepts r m := by
  have heq : ∀ w, σ.decodeUnder r m.1 m.2 = .ok w → w = m.2 := by
    intro w hw
    unfold Schema.decodeUnder at hw
    split at hw
    · exact (Except.ok.inj hw).symm
    · rename_i f hfield
      split at hw
      · exact (Except.ok.inj hw).symm
      · exact hfields f (mem_fields_of_field? hfield).1 _ _ hw
  rw [accepts_iff]
  constructor
  · rintro ⟨hkey, hvalue⟩
    exact ⟨Prod.ext hkey (heq _ hvalue), _, hvalue⟩
  · rintro ⟨rfl, w, hw⟩
    exact ⟨rfl, heq w hw ▸ hw⟩

/-- The members of a record that keeps them all come back as they were, if each is accepted. -/
theorem decodeFields_eq_ok_iff {r : ρ} (hkept : σ.rest r = .kept)
    (hfields : ∀ f ∈ σ.fields r, ∀ v w, σ.decode f.shape v = .ok w → w = v)
    {members members' : List (String × Json)} :
    σ.decodeFields r members = .ok members' ↔
      members' = members ∧ ∀ m ∈ members, σ.Accepts r m := by
  rw [decodeFields_eq_ok_iff_forall₂ hkept]
  constructor
  · intro h
    induction h with
    | nil => simp
    | cons hm _ ih =>
        obtain ⟨rfl, haccepts⟩ := (becomes_iff hfields).1 hm
        exact ⟨congrArg _ ih.1, List.forall_mem_cons.2 ⟨haccepts, ih.2⟩⟩
  · rintro ⟨rfl, hmembers⟩
    exact List.forall₂_same.2 fun m hm => (becomes_iff hfields).2 ⟨rfl, hmembers m hm⟩

theorem exists_obj_of_decode_record {r : ρ} (hkept : σ.rest r = .kept) {v w : Json}
    (h : σ.decode (.record r) v = .ok w) : ∃ members, v = .obj members := by
  cases v with
  | obj members => exact ⟨members, rfl⟩
  | arr items =>
      rw [Schema.decode] at h
      simp [hkept] at h
  | null | bool | int | float | str => cases h

theorem decode_record_obj_eq_ok_iff {r : ρ} (hkept : σ.rest r = .kept)
    (hfields : ∀ f ∈ σ.fields r, ∀ v w, σ.decode f.shape v = .ok w → w = v)
    {members : List (String × Json)} {w : Json} :
    σ.decode (.record r) (.obj members) = .ok w ↔
      w = .obj members ∧ (∀ m ∈ members, σ.Accepts r m) ∧
        σ.missing? r (Dict.keys members) = none := by
  rw [Schema.decode]
  cases hdecode : σ.decodeFields r members with
  | error cause =>
      have hrefused : ¬∀ m ∈ members, σ.Accepts r m := by
        intro hall
        rw [(decodeFields_eq_ok_iff hkept hfields).2 ⟨rfl, hall⟩] at hdecode
        cases hdecode
      exact ⟨nofun, fun h => (hrefused h.2.1).elim⟩
  | ok members' =>
      obtain ⟨rfl, hall⟩ := (decodeFields_eq_ok_iff hkept hfields).1 hdecode
      cases hmissing : σ.missing? r (Dict.keys members') with
      | some name => simp
      | none => exact ⟨fun h => ⟨(Except.ok.inj h).symm, hall, rfl⟩, fun h => h.1 ▸ rfl⟩

/-! ## Values -/

/-- A value comes back as it was, if it comes back. -/
theorem Schema.Conserves.eq {shape : Shape ρ} (h : σ.Conserves shape) {v w : Json}
    (hdecode : σ.decode shape v = .ok w) : w = v := by
  induction h generalizing v w with
  | any =>
      rw [Schema.decode] at hdecode
      exact (Except.ok.inj hdecode).symm
  | bool => cases v <;> cases hdecode; rfl
  | string => cases v <;> cases hdecode; rfl
  | index =>
      cases v with
      | int n =>
          cases n with
          | ofNat n =>
              cases hdecode
              rfl
          | negSucc n => cases hdecode
      | _ => cases hdecode
  | list hitem ih =>
      cases v with
      | arr items =>
          obtain ⟨items', hitems', rfl⟩ := exists_ok_of_map hdecode
          rw [eq_of_decodeItems (fun _ _ => ih) hitems']
      | _ => cases hdecode
  | dict hitem ih =>
      cases v with
      | obj members =>
          obtain ⟨members', hmembers', rfl⟩ := exists_ok_of_map hdecode
          rw [eq_of_decodeMembers (fun _ _ => ih) hmembers']
      | _ => cases hdecode
  | record hkept hfields ih =>
      obtain ⟨members, rfl⟩ := exists_obj_of_decode_record hkept hdecode
      exact ((decode_record_obj_eq_ok_iff hkept fun f hf _ _ => ih f hf).1 hdecode).1

/-- A record that keeps all members takes the objects whose members it accepts, if no required one
is missing. -/
theorem decode_record_eq_ok_iff {r : ρ} (h : σ.Conserves (.record r)) {v w : Json} :
    σ.decode (.record r) v = .ok w ↔
      w = v ∧ ∃ members, v = .obj members ∧ (∀ m ∈ members, σ.Accepts r m) ∧
        σ.missing? r (Dict.keys members) = none := by
  obtain ⟨hkept, hfields⟩ : σ.rest r = .kept ∧ ∀ f ∈ σ.fields r, σ.Conserves f.shape := by
    cases h with
    | record hkept hfields => exact ⟨hkept, hfields⟩
  have hiff : ∀ (members : List (String × Json)) (w : Json),
      σ.decode (.record r) (.obj members) = .ok w ↔
        w = .obj members ∧ (∀ m ∈ members, σ.Accepts r m) ∧
          σ.missing? r (Dict.keys members) = none :=
    fun _ _ => decode_record_obj_eq_ok_iff hkept fun f hf _ _ => (hfields f hf).eq
  constructor
  · intro hdecode
    obtain ⟨members, rfl⟩ := exists_obj_of_decode_record hkept hdecode
    obtain ⟨rfl, hrest⟩ := (hiff members w).1 hdecode
    exact ⟨rfl, members, rfl, hrest⟩
  · rintro ⟨rfl, members, rfl, hrest⟩
    exact (hiff members _).2 ⟨rfl, hrest⟩

end Json
end RunnerGateway
