import RunnerGateway.Proofs.Json.Outcomes

/-!
# Canonical forms

A value that is held against a shape comes back in canonical form.  That form `Fits` the depth of
the value: items and members are only dropped, or put into the ascending order of their keys.
-/

namespace RunnerGateway
namespace Json

variable {ρ : Type} {σ : Schema ρ} {levels : Nat}

/-! ## Lists and records -/

/-- Whatever the value is held against, its canonical form fits the depth. -/
def Schema.DecodesTo (σ : Schema ρ) (levels : Nat) (v : Json) : Prop :=
  ∀ shape w, σ.decode shape v = .ok w → Fits levels w

theorem fits_of_decodeItems {item : Shape ρ} {items items' : List Json}
    (hitems : ∀ v ∈ items, σ.DecodesTo levels v) (h : σ.decodeItems item items = .ok items') :
    ∀ v ∈ items', Fits levels v := by
  induction items generalizing items' with
  | nil =>
      simp only [Schema.decodeItems, Except.ok.injEq] at h
      simp [← h]
  | cons v items ih =>
      rw [List.forall_mem_cons] at hitems
      rw [Schema.decodeItems] at h
      split at h
      · cases h
      · rename_i w hw
        obtain ⟨rest, hrest, rfl⟩ := exists_ok_of_map h
        exact List.forall_mem_cons.2 ⟨hitems.1 item w hw, ih hitems.2 hrest⟩

theorem fits_of_decodeMembers {item : Shape ρ} {members members' : List (String × Json)}
    (hmembers : ∀ m ∈ members, σ.DecodesTo levels m.2)
    (h : σ.decodeMembers item members = .ok members') :
    Dict.keys members' = Dict.keys members ∧ ∀ m ∈ members', Fits levels m.2 := by
  induction members generalizing members' with
  | nil =>
      simp only [Schema.decodeMembers, Except.ok.injEq] at h
      simp [← h]
  | cons m members ih =>
      obtain ⟨k, v⟩ := m
      rw [List.forall_mem_cons] at hmembers
      rw [Schema.decodeMembers] at h
      split at h
      · cases h
      · rename_i w hw
        obtain ⟨rest, hrest, rfl⟩ := exists_ok_of_map h
        obtain ⟨hkeys, hfits⟩ := ih hmembers.2 hrest
        exact ⟨congrArg (k :: ·) hkeys, List.forall_mem_cons.2 ⟨hmembers.1 item w hw, hfits⟩⟩

/-- The canonical form of a record has some of its members, in their order. -/
theorem fits_of_decodeFields {r : ρ} {members members' : List (String × Json)}
    (hmembers : ∀ m ∈ members, Fits levels m.2 ∧ σ.DecodesTo levels m.2)
    (h : σ.decodeFields r members = .ok members') :
    (Dict.keys members').Sublist (Dict.keys members) ∧ ∀ m ∈ members', Fits levels m.2 := by
  induction members generalizing members' with
  | nil =>
      simp only [Schema.decodeFields, Except.ok.injEq] at h
      simp [← h]
  | cons m members ih =>
      obtain ⟨k, v⟩ := m
      rw [List.forall_mem_cons] at hmembers
      obtain ⟨⟨hv, hdecodes⟩, hmembers⟩ := hmembers
      have hcons : ∀ w rest, Fits levels w → σ.decodeFields r members = .ok rest →
          (Dict.keys ((k, w) :: rest)).Sublist (Dict.keys ((k, v) :: members)) ∧
            ∀ m ∈ (k, w) :: rest, Fits levels m.2 := by
        intro w rest hw hrest
        obtain ⟨hkeys, hfits⟩ := ih hmembers hrest
        exact ⟨hkeys.cons_cons k, List.forall_mem_cons.2 ⟨hw, hfits⟩⟩
      rw [Schema.decodeFields] at h
      split at h
      · split at h
        · obtain ⟨rest, hrest, rfl⟩ := exists_ok_of_map h
          exact hcons v rest hv hrest
        · obtain ⟨hkeys, hfits⟩ := ih hmembers h
          exact ⟨hkeys.cons k, hfits⟩
      · split at h
        · obtain ⟨rest, hrest, rfl⟩ := exists_ok_of_map h
          exact hcons v rest hv hrest
        · split at h
          · cases h
          · rename_i w hw
            obtain ⟨rest, hrest, rfl⟩ := exists_ok_of_map h
            exact hcons w rest (hdecodes _ w hw) hrest

theorem fits_of_decodePositions {r : ρ} {length index : Nat} {fields : List (Field ρ)}
    {items : List Json} {members : List (String × Json)}
    (hitems : ∀ v ∈ items, Fits levels v ∧ σ.DecodesTo levels v)
    (h : σ.decodePositions r length index fields items = .ok members) :
    Fits (levels + 1) (.obj members) := by
  induction items generalizing index fields members with
  | nil =>
      rw [Schema.decodePositions] at h
      split at h
      · cases h
      · cases h
        exact .obj Dict.sorted_nil (List.forall_mem_nil _)
  | cons v items ih =>
      rw [List.forall_mem_cons] at hitems
      obtain ⟨⟨hv, hdecodes⟩, hitems⟩ := hitems
      cases fields with
      | nil =>
          rw [Schema.decodePositions] at h
          cases h
      | cons f fields =>
          rw [Schema.decodePositions] at h
          split at h
          · obtain ⟨rest, hrest, rfl⟩ := exists_ok_of_map h
            exact fits_insert (ih hitems hrest) _ hv
          · split at h
            · cases h
            · rename_i w hw
              obtain ⟨rest, hrest, rfl⟩ := exists_ok_of_map h
              exact fits_insert (ih hitems hrest) _ (hdecodes _ w hw)

theorem fits_tagOf? {v tag : Json} (hv : Fits levels v) (h : tagOf? v = some tag) :
    Fits levels tag := by
  cases hv with
  | str levels s =>
      cases h
      exact .str _ s
  | @obj levels members hsorted hmembers =>
      simp only [tagOf?] at h
      split at h
      · cases h
        refine .obj (by simp [Dict.sorted_cons_iff]) fun m hm => ?_
        obtain rfl := List.mem_singleton.1 hm
        exact .str levels _
      · cases h
  | null | bool | int | float | arr => cases h

/-! ## Values -/

/-- What a tag is for a scalar is the scalar. -/
theorem tagOf?_scalar {v tag : Json} (hobj : ∀ members, v ≠ .obj members)
    (h : tagOf? v = some tag) : tag = v := by
  unfold tagOf? at h
  split at h
  · cases h
    rfl
  · exact (hobj _ rfl).elim
  · cases h

/-- A scalar is its own canonical form. -/
theorem decode_scalar {v w : Json} {shape : Shape ρ} (harr : ∀ items, v ≠ .arr items)
    (hobj : ∀ members, v ≠ .obj members) (h : σ.decode shape v = .ok w) : w = v := by
  unfold Schema.decode at h
  split at h
  · cases h
    rfl
  · cases h
    rfl
  · cases h
    rfl
  · cases h
    rfl
  · exact (harr _ rfl).elim
  · exact (hobj _ rfl).elim
  · exact (hobj _ rfl).elim
  · exact (harr _ rfl).elim
  · split at h
    · rename_i tag htag
      cases h
      exact tagOf?_scalar hobj htag
    · cases h
  · cases h

theorem decodesTo_arr {items : List Json} (hitems : ∀ v ∈ items, Fits levels v)
    (hdecodes : ∀ v ∈ items, σ.DecodesTo levels v) : σ.DecodesTo (levels + 1) (.arr items) := by
  intro shape w h
  have hboth : ∀ v ∈ items, Fits levels v ∧ σ.DecodesTo levels v :=
    fun v hv => ⟨hitems v hv, hdecodes v hv⟩
  cases shape with
  | any =>
      cases h
      exact .arr hitems
  | list item =>
      obtain ⟨items', hitems', rfl⟩ := exists_ok_of_map h
      exact .arr (fits_of_decodeItems hdecodes hitems')
  | record r =>
      rw [Schema.decode] at h
      split at h
      · cases h
      · obtain ⟨members, hmembers, rfl⟩ := exists_ok_of_map h
        exact fits_of_decodePositions hboth hmembers
  | bool | string | index | tag | dict => cases h

theorem decodesTo_obj {members : List (String × Json)} (hsorted : Dict.Sorted members)
    (hmembers : ∀ m ∈ members, Fits levels m.2)
    (hdecodes : ∀ m ∈ members, σ.DecodesTo levels m.2) :
    σ.DecodesTo (levels + 1) (.obj members) := by
  intro shape w h
  have hboth : ∀ m ∈ members, Fits levels m.2 ∧ σ.DecodesTo levels m.2 :=
    fun m hm => ⟨hmembers m hm, hdecodes m hm⟩
  cases shape with
  | any =>
      cases h
      exact .obj hsorted hmembers
  | dict item =>
      obtain ⟨members', hmembers', rfl⟩ := exists_ok_of_map h
      obtain ⟨hkeys, hfits⟩ := fits_of_decodeMembers hdecodes hmembers'
      exact .obj (show Dict.Sorted members' by unfold Dict.Sorted; rwa [hkeys]) hfits
  | record r =>
      rw [Schema.decode] at h
      split at h
      · cases h
      · rename_i members' hmembers'
        split at h
        · cases h
        · cases h
          obtain ⟨hkeys, hfits⟩ := fits_of_decodeFields hboth hmembers'
          exact .obj (hsorted.sublist hkeys) hfits
  | tag =>
      rw [Schema.decode] at h
      split at h
      · rename_i tag htag
        cases h
        exact fits_tagOf? (.obj hsorted hmembers) htag
      · cases h
  | bool | string | index | list => cases h

theorem decodesTo_scalar {v : Json} (hv : Fits levels v) (harr : ∀ items, v ≠ .arr items)
    (hobj : ∀ members, v ≠ .obj members) : σ.DecodesTo levels v := by
  intro shape w h
  rwa [decode_scalar harr hobj h]

/-- The canonical form of a value is nested no deeper than the value. -/
theorem decodesTo_of_fits {v : Json} (hv : Fits levels v) : σ.DecodesTo levels v := by
  induction hv with
  | arr hitems ih => exact decodesTo_arr hitems ih
  | obj hsorted hmembers ih => exact decodesTo_obj hsorted hmembers ih
  | null levels => exact decodesTo_scalar (.null levels) nofun nofun
  | bool levels b => exact decodesTo_scalar (.bool levels b) nofun nofun
  | int levels hlow hhigh => exact decodesTo_scalar (.int levels hlow hhigh) nofun nofun
  | float levels x => exact decodesTo_scalar (.float levels x) nofun nofun
  | str levels s => exact decodesTo_scalar (.str levels s) nofun nofun

end Json
end RunnerGateway
