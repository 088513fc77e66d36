import Intake.Proofs.Json.Numeral
import Intake.Proofs.Json.Settled

/-!
# What is read is regular

Whatever text is read, the value is regular: a number with a fraction is rounded to a floating-point
number, and the members of an object are set one after the other. By induction on the reader's supply
of steps, for values, items and members at once.
-/

namespace Intake.Json

theorem regular_readMagnitude {negative : Bool} {t rest : Text} {v : Value}
    (h : readMagnitude negative t = some (v, rest)) : v.Regular := by
  rw [Numeral.readMagnitude_eq] at h
  split at h
  · cases h
  · simp only at h
    split at h
    · obtain ⟨rfl, -⟩ := Prod.mk.inj (Option.some.inj h)
      trivial
    · obtain ⟨rfl, -⟩ := Prod.mk.inj (Option.some.inj h)
      exact Binary64.sound_ofDecimal _ _ _

theorem regular_readScalar {t rest : Text} {v : Value} (h : readScalar t = some (v, rest)) :
    v.Regular := by
  have hword {w : Value} {u : Text} (h : some (w, u) = some (v, rest)) (hw : w.Regular) :
      v.Regular := by
    obtain ⟨rfl, -⟩ := Prod.mk.inj (Option.some.inj h)
    exact hw
  unfold readScalar at h
  split at h
  · exact hword h trivial
  split at h
  · exact hword h trivial
  split at h
  · exact hword h trivial
  split at h
  · exact hword h trivial
  split at h
  · exact hword h trivial
  split at h
  · exact hword h trivial
  split at h
  · split at h
    · exact regular_readMagnitude h
    · exact regular_readMagnitude h
  · cases h

theorem regular_obj {ms : List (Text × Value)} (h : ∀ e ∈ ms, e.2.Regular) :
    (Value.obj (Members.ofPairs ms)).Regular :=
  ⟨Members.nodup_keys_ofPairs ms,
    Value.regularMembers_iff.2 fun e he => h e (Members.mem_ofPairs he)⟩

/-- What the reader gives with a supply of steps is regular. -/
structure ReadsRegular (fuel : Nat) : Prop where
  value : ∀ t v rest, readValue fuel t = some (v, rest) → v.Regular
  items : ∀ t vs rest, readItems fuel t = some (vs, rest) → ∀ v ∈ vs, v.Regular
  members : ∀ t ms rest, readMembers fuel t = some (ms, rest) → ∀ e ∈ ms, e.2.Regular

namespace ReadsRegular

variable {fuel : Nat}

theorem value_succ (h : ReadsRegular fuel) {t rest : Text} {v : Value}
    (hv : readValue (fuel + 1) t = some (v, rest)) : v.Regular := by
  cases t with
  | nil => simp [readValue] at hv
  | cons c t =>
    rw [readValue] at hv
    split at hv
    · obtain ⟨⟨s, u⟩, -, heq⟩ := Option.map_eq_some_iff.1 hv
      obtain ⟨rfl, -⟩ := Prod.mk.inj heq
      trivial
    split at hv
    · split at hv
      · split at hv
        · obtain ⟨rfl, -⟩ := Prod.mk.inj (Option.some.inj hv)
          trivial
        · obtain ⟨⟨vs, u⟩, hvs, heq⟩ := Option.map_eq_some_iff.1 hv
          obtain ⟨rfl, -⟩ := Prod.mk.inj heq
          exact Value.regularItems_iff.2 (h.items _ _ _ hvs)
      · cases hv
    split at hv
    · split at hv
      · split at hv
        · obtain ⟨rfl, -⟩ := Prod.mk.inj (Option.some.inj hv)
          exact ⟨List.nodup_nil, trivial⟩
        · obtain ⟨⟨ms, u⟩, hms, heq⟩ := Option.map_eq_some_iff.1 hv
          obtain ⟨rfl, -⟩ := Prod.mk.inj heq
          exact regular_obj (h.members _ _ _ hms)
      · cases hv
    · exact regular_readScalar hv

theorem items_succ (h : ReadsRegular fuel) {t rest : Text} {vs : List Value}
    (hvs : readItems (fuel + 1) t = some (vs, rest)) : ∀ v ∈ vs, v.Regular := by
  rw [readItems] at hvs
  split at hvs
  · cases hvs
  rename_i v u hv
  have hregular := h.value _ _ _ hv
  split at hvs
  · split at hvs
    · obtain ⟨⟨ws, u⟩, hws, heq⟩ := Option.map_eq_some_iff.1 hvs
      obtain ⟨rfl, -⟩ := Prod.mk.inj heq
      exact List.forall_mem_cons.2 ⟨hregular, h.items _ _ _ hws⟩
    split at hvs
    · obtain ⟨rfl, -⟩ := Prod.mk.inj (Option.some.inj hvs)
      exact List.forall_mem_singleton.2 hregular
    · cases hvs
  · cases hvs

theorem members_succ (h : ReadsRegular fuel) {t rest : Text} {ms : List (Text × Value)}
    (hms : readMembers (fuel + 1) t = some (ms, rest)) : ∀ e ∈ ms, e.2.Regular := by
  cases t with
  | nil => simp [readMembers] at hms
  | cons q t =>
    rw [readMembers] at hms
    -- the opening quote, the key, the colon and the value, each of which may be missing
    split at hms
    · split at hms
      · cases hms
      split at hms
      · split at hms
        · split at hms
          · cases hms
          rename_i v u hv
          have hregular := h.value _ _ _ hv
          split at hms
          · split at hms
            · obtain ⟨⟨ws, u⟩, hws, heq⟩ := Option.map_eq_some_iff.1 hms
              obtain ⟨rfl, -⟩ := Prod.mk.inj heq
              exact List.forall_mem_cons.2 ⟨hregular, h.members _ _ _ hws⟩
            split at hms
            · obtain ⟨rfl, -⟩ := Prod.mk.inj (Option.some.inj hms)
              exact List.forall_mem_singleton.2 hregular
            · cases hms
          · cases hms
        · cases hms
      · cases hms
    · cases hms

end ReadsRegular

theorem readsRegular (fuel : Nat) : ReadsRegular fuel := by
  induction fuel with
  | zero => exact ⟨by simp [readValue], by simp [readItems], by simp [readMembers]⟩
  | succ fuel ih =>
    exact ⟨fun _ _ _ h => ih.value_succ h, fun _ _ _ h => ih.items_succ h,
      fun _ _ _ h => ih.members_succ h⟩

/-- Every value that is read is regular. -/
theorem regular_read? {t : Text} {v : Value} (h : read? t = some v) : v.Regular := by
  rw [read?] at h
  split at h
  · rename_i w rest hw
    split at h
    · exact Option.some.inj h ▸ (readsRegular _).value _ _ _ hw
    · cases h
  · cases h

end Intake.Json
