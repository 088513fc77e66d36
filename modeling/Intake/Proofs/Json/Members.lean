import Intake.Json.Value
import Mathlib.Data.List.Induction

/-!
# Members with distinct keys

Setting a key keeps the keys distinct, so every object that was read names each key once. Setting
members with distinct keys one after the other gives just these members. Setting or erasing a key changes
what is found under this key alone.
-/

namespace Intake.Members

variable {m : Members} {k key : Text} {v : Value}

theorem mem_of_get? (h : m.get? key = some v) : (key, v) ∈ m := by
  induction m with
  | nil => cases h
  | cons e rest ih =>
    obtain ⟨k, w⟩ := e
    rw [get?_cons] at h
    split at h
    · rename_i hk
      obtain rfl := Option.some.inj h
      simp [hk]
    · exact List.mem_cons_of_mem _ (ih h)

/-- Among distinct keys every member is found under its key. -/
theorem get?_of_mem (hm : m.keys.Nodup) (h : (key, v) ∈ m) : m.get? key = some v := by
  induction m with
  | nil => cases h
  | cons e rest ih =>
    obtain ⟨k, w⟩ := e
    rw [keys, List.map_cons, List.nodup_cons] at hm
    rw [get?_cons]
    rcases List.mem_cons.1 h with heq | h
    · simp only [Prod.mk.injEq] at heq
      rw [if_pos heq.1.symm, heq.2]
    · have hne : k ≠ key := by
        rintro rfl
        exact hm.1 (List.mem_map.2 ⟨(k, v), h, rfl⟩)
      rw [if_neg hne, ih hm.2 h]

theorem set_of_not_mem (h : k ∉ m.keys) : m.set k v = m ++ [(k, v)] := by
  induction m with
  | nil => rfl
  | cons e rest ih =>
    obtain ⟨l, w⟩ := e
    rw [keys, List.map_cons, List.mem_cons, not_or] at h
    rw [set, if_neg (Ne.symm h.1), ih h.2, List.cons_append]

theorem keys_set_of_mem (h : k ∈ m.keys) (v : Value) : (m.set k v).keys = m.keys := by
  induction m with
  | nil => cases h
  | cons e rest ih =>
    obtain ⟨l, w⟩ := e
    rw [set]
    by_cases hl : l = k
    · rw [if_pos hl]; rfl
    · rw [if_neg hl]
      rw [keys, List.map_cons, List.mem_cons] at h
      change l :: (set rest k v).keys = l :: keys rest
      rw [ih (h.resolve_left (Ne.symm hl))]

theorem keys_set_of_not_mem (h : k ∉ m.keys) (v : Value) : (m.set k v).keys = m.keys ++ [k] := by
  rw [set_of_not_mem h, keys, List.map_append]; rfl

theorem nodup_keys_set (h : m.keys.Nodup) (k : Text) (v : Value) : (m.set k v).keys.Nodup := by
  by_cases hk : k ∈ m.keys
  · rw [keys_set_of_mem hk]
    exact h
  · rw [keys_set_of_not_mem hk, List.nodup_append]
    refine ⟨h, by simp, ?_⟩
    rintro a ha b hb rfl
    rw [List.mem_singleton] at hb
    exact hk (hb ▸ ha)

/-- A key that is set twice has the second value. -/
theorem set_set (m : Members) (k : Text) (v w : Value) : (m.set k v).set k w = m.set k w := by
  induction m with
  | nil => simp [set]
  | cons e rest ih =>
    obtain ⟨l, u⟩ := e
    by_cases hl : l = k
    · simp [set, hl]
    · simp [set, hl, ih]

/-- Whoever is a member after setting was one before or is the one that was set. -/
theorem mem_set {e : Text × Value} (h : e ∈ m.set k v) : e ∈ m ∨ e = (k, v) := by
  induction m with
  | nil => exact .inr (List.mem_singleton.1 h)
  | cons f rest ih =>
    obtain ⟨l, w⟩ := f
    rw [set] at h
    split at h
    · rename_i hl
      rcases List.mem_cons.1 h with rfl | h
      · exact .inr (by rw [hl])
      · exact .inl (List.mem_cons_of_mem _ h)
    · rcases List.mem_cons.1 h with rfl | h
      · exact .inl (by simp)
      · rcases ih h with h | h
        · exact .inl (List.mem_cons_of_mem _ h)
        · exact .inr h

theorem get?_erase_self (m : Members) (key : Text) : (m.erase key).get? key = none := by
  induction m with
  | nil => rfl
  | cons e rest ih =>
    obtain ⟨k, w⟩ := e
    rw [erase] at ih ⊢
    by_cases hk : k = key
    · rw [List.filter_cons_of_neg (by simp [hk])]
      exact ih
    · rw [List.filter_cons_of_pos (by simp [hk]), get?_cons, if_neg hk]
      exact ih

theorem get?_erase_of_ne {m : Members} {key other : Text} (h : other ≠ key) :
    (m.erase key).get? other = m.get? other := by
  induction m with
  | nil => rfl
  | cons e rest ih =>
    obtain ⟨k, w⟩ := e
    rw [erase] at ih ⊢
    by_cases hk : k = key
    · rw [List.filter_cons_of_neg (by simp [hk]), get?_cons, if_neg (hk ▸ h.symm)]
      exact ih
    · rw [List.filter_cons_of_pos (by simp [hk]), get?_cons, get?_cons, ih]

theorem ofPairs_concat (m : List (Text × Value)) (k : Text) (v : Value) :
    ofPairs (m ++ [(k, v)]) = (ofPairs m).set k v := by
  simp [ofPairs]

theorem nodup_keys_ofPairs (m : List (Text × Value)) : (ofPairs m).keys.Nodup := by
  induction m using List.reverseRecOn with
  | nil => exact List.nodup_nil
  | append_singleton m e ih =>
    obtain ⟨k, v⟩ := e
    rw [ofPairs_concat]
    exact nodup_keys_set ih k v

theorem mem_ofPairs {m : List (Text × Value)} {e : Text × Value} (h : e ∈ ofPairs m) : e ∈ m := by
  induction m using List.reverseRecOn with
  | nil => cases h
  | append_singleton m f ih =>
    obtain ⟨k, v⟩ := f
    rw [ofPairs_concat] at h
    rcases mem_set h with h | rfl
    · exact List.mem_append_left _ (ih h)
    · simp

/-- Of the members of one key the last one is found. -/
theorem get?_ofPairs (m : List (Text × Value)) (key : Text) :
    (ofPairs m).get? key = (m.reverse.find? fun e => e.1 == key).map (·.2) := by
  induction m using List.reverseRecOn with
  | nil => rfl
  | append_singleton m e ih =>
    obtain ⟨k, v⟩ := e
    rw [ofPairs_concat, List.reverse_append, List.reverse_singleton, List.singleton_append,
      List.find?_cons]
    by_cases hk : k = key
    · subst hk
      simp
    · rw [get?_set_of_ne (Ne.symm hk), ih, beq_eq_false_iff_ne.2 hk]

/-- Members with distinct keys are set as they stand. -/
theorem ofPairs_eq_self (h : m.keys.Nodup) : ofPairs m = m := by
  induction m using List.reverseRecOn with
  | nil => rfl
  | append_singleton m e ih =>
    obtain ⟨k, v⟩ := e
    rw [keys, List.map_append, List.nodup_append] at h
    have hk : k ∉ keys m := fun hk => h.2.2 k hk k (by simp) rfl
    rw [ofPairs_concat, ih h.1, set_of_not_mem hk]

end Intake.Members

/-! ### Members of a value -/

namespace Intake

theorem Value.isNull_iff {v : Value} : v.isNull = true ↔ v = .null := by
  cases v <;> simp [isNull]

theorem Value.eq_str_of_text? {v : Value} {t : Text} (h : v.text? = some t) : v = .str t := by
  cases v with
  | str s => rw [Option.some.inj h]
  | _ => cases h

theorem Value.member_obj_of_get? {ms : Members} {key : Text} {v : Value} (h : ms.get? key = some v) :
    (Value.obj ms).member key = v := by
  rw [Value.member, Members.getD, h]; rfl

/-- A member that is not null is there. -/
theorem Members.get?_of_getD {ms : Members} {key : Text} {v : Value} (h : ms.getD key = v)
    (hv : v ≠ .null) : ms.get? key = some v := by
  unfold Members.getD at h
  cases hget : ms.get? key with
  | none => rw [hget] at h; exact absurd h.symm hv
  | some w => rw [hget] at h; exact congrArg some h

theorem Members.get?_of_text? {ms : Members} {key t : Text} (h : (ms.getD key).text? = some t) :
    ms.get? key = some (.str t) :=
  get?_of_getD (Value.eq_str_of_text? h) (by simp)

/-- Only an object has a member that is not null. -/
theorem Value.exists_members_of_member {v w : Value} {key : Text} (h : v.member key = w)
    (hw : w ≠ .null) : ∃ ms : Members, v = .obj ms := by
  cases v with
  | obj ms => exact ⟨ms, rfl⟩
  | _ => exact absurd h.symm hw

end Intake

namespace Intake.Value

/-- The object with a value under a key; what is no object stays as it is. -/
def withMember (v : Value) (key : Text) (w : Value) : Value :=
  match v with
  | .obj ms => .obj (Members.set ms key w)
  | _ => v

theorem member_withMember_self (ms : Members) (key : Text) (w : Value) :
    ((obj ms).withMember key w).member key = w := by
  change Members.getD (Members.set ms key w) key = w
  rw [Members.getD, Members.get?_set_self]
  rfl

theorem member_withMember_of_ne (v w : Value) {key other : Text} (h : other ≠ key) :
    (v.withMember key w).member other = v.member other := by
  cases v with
  | obj ms =>
    change Members.getD (Members.set ms key w) other = Members.getD ms other
    rw [Members.getD, Members.get?_set_of_ne h, Members.getD]
  | _ => rfl

theorem withMember_withMember (v : Value) (key : Text) (w u : Value) :
    (v.withMember key w).withMember key u = v.withMember key u := by
  cases v with
  | obj ms => exact congrArg obj (Members.set_set ms key w u)
  | _ => rfl

end Intake.Value
