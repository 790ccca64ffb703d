import RunnerGateway.Proofs.Json.Canonical
import RunnerGateway.Proofs.StoredConfig

/-!
# Configurations out of JSON text

A text may be nested 127 deep, and so may the text of a configuration.  Because the members that an
entry only keeps are always three levels inside, in the text of an update as in the stored one,
every configuration that came as text can be stored and read back, unless it has floating-point
numbers.
-/

namespace RunnerGateway

open Json

/-! ## Entries -/

/-- The entries are in order, and so is each of them. -/
structure OrderlyEntries (entries : Dict BackendConfig) : Prop where
  sorted : Dict.Sorted entries
  orderly : ∀ entry ∈ entries, entry.2.Orderly

/-- There is no floating-point number among the members that entries only keep. -/
def FloatFreeEntries (entries : Dict BackendConfig) : Prop :=
  ∀ entry ∈ entries, ∀ m ∈ entry.2.extra, FloatFree m.2

variable {entries : Dict BackendConfig} {levels : Nat} {v : Json}

theorem OrderlyEntries.storable (h : OrderlyEntries entries) (hfree : FloatFreeEntries entries) :
    StorableEntries entries where
  sorted := h.sorted
  storable entry hentry := ⟨h.orderly entry hentry, hfree entry hentry⟩

theorem StorableEntries.filter (h : StorableEntries entries) (p : String × BackendConfig → Bool) :
    StorableEntries (entries.filter p) where
  sorted := h.sorted.filter p
  storable entry hentry := h.storable entry (List.mem_of_mem_filter hentry)

theorem orderlyEntries_nil : OrderlyEntries [] :=
  ⟨Dict.sorted_nil, List.forall_mem_nil _⟩

/-! ## Entries out of values -/

theorem fits_of_object (hv : Fits (levels + 1) v) :
    Dict.Sorted (v.object?.getD []) ∧ ∀ m ∈ v.object?.getD [], Fits levels m.2 := by
  cases hv with
  | obj hsorted hmembers => exact ⟨hsorted, hmembers⟩
  | null | bool | int | float | str | arr => exact ⟨Dict.sorted_nil, List.forall_mem_nil _⟩

theorem fits_of_member? {members : Dict Json} {key : String}
    (hmembers : ∀ m ∈ members, Fits levels m.2) (h : Record.member? members key = some v) :
    Fits levels v := by
  unfold Record.member? at h
  split at h
  · cases h
  · exact hmembers _ (Dict.mem_of_get? h)

theorem orderly_ofCanonical (hv : Fits (BackendConfig.extraLevels + 1) v) :
    (BackendConfig.ofCanonical v).Orderly where
  sorted := (fits_of_object hv).1.filter _
  unknown _ hm := Option.isNone_iff_eq_none.1 (List.mem_filter.1 hm).2
  fits m hm := (fits_of_object hv).2 m (List.mem_of_mem_filter hm)

theorem orderlyEntries_entriesOfCanonical (hv : Fits (BackendConfig.extraLevels + 2) v) :
    OrderlyEntries (entriesOfCanonical v) := by
  obtain ⟨hsorted, hmembers⟩ := fits_of_object hv
  refine ⟨Dict.sorted_map_snd.2 hsorted, fun entry hentry => ?_⟩
  obtain ⟨m, hm, rfl⟩ := List.mem_map.1 hentry
  exact orderly_ofCanonical (hmembers m hm)

theorem orderlyEntries_member? (hv : Fits maxLevels v) :
    OrderlyEntries (((Record.member? (v.object?.getD []) Record.apiConfigsKey).map
      entriesOfCanonical).getD []) := by
  have hlevels : maxLevels = BackendConfig.extraLevels + 2 + 1 := rfl
  rw [hlevels] at hv
  cases hmember : Record.member? (v.object?.getD []) Record.apiConfigsKey with
  | none => exact orderlyEntries_nil
  | some found =>
      exact orderlyEntries_entriesOfCanonical (fits_of_member? (fits_of_object hv).2 hmember)

/-! ## Configurations and updates -/

/-- The configuration has no entries, or it was decoded from JSON text. -/
inductive RunnerConfig.Decoded : RunnerConfig → Prop
  | ofUrls (enabled : Bool) (urls : List String) : Decoded (.ofUrls enabled urls)
  | ofText {text : String} {c : RunnerConfig} (hread : read text = .ok c) : Decoded c
  | ofValue {text : Bytes} {v : Json} {c : RunnerConfig} (hparse : parseBytes text = .ok v)
      (hdecode : decode v = .ok c) : Decoded c

/-- The update was decoded from JSON text. -/
inductive ConfigUpdate.Decoded : ConfigUpdate → Prop
  | ofText {text : String} {v : Json}
      (hread : Record.schema.read (.record .configUpdate) text = .ok v) : Decoded (.ofCanonical v)
  | ofValue {text : Bytes} {v : Json} {form : ConfigUpdate} (hparse : parseBytes text = .ok v)
      (hdecode : decode v = .ok form) : Decoded form

theorem RunnerConfig.Decoded.orderlyEntries {c : RunnerConfig} (h : c.Decoded) :
    OrderlyEntries c.apiConfigs := by
  cases h with
  | ofUrls enabled urls => exact orderlyEntries_nil
  | ofText hread =>
      obtain ⟨v, hv, rfl⟩ := exists_ok_of_map hread
      exact orderlyEntries_member? (fits_of_read hv)
  | ofValue hparse hdecode =>
      obtain ⟨w, hw, rfl⟩ := exists_ok_of_map hdecode
      exact orderlyEntries_member? (decodesTo_of_fits (fits_of_parseBytes hparse) _ w hw)

theorem ConfigUpdate.Decoded.orderlyEntries {form : ConfigUpdate} (h : form.Decoded) :
    OrderlyEntries form.apiConfigs := by
  cases h with
  | ofText hread => exact orderlyEntries_member? (fits_of_read hread)
  | ofValue hparse hdecode =>
      obtain ⟨w, hw, rfl⟩ := exists_ok_of_map hdecode
      exact orderlyEntries_member? (decodesTo_of_fits (fits_of_parseBytes hparse) _ w hw)

/-- The entries of an updated configuration are some of those that the update brings. -/
theorem RunnerConfig.storable_applyUpdate (c : RunnerConfig) {form : ConfigUpdate}
    (h : StorableEntries form.apiConfigs) : StorableEntries (c.applyUpdate form).apiConfigs :=
  h.filter _

end RunnerGateway
