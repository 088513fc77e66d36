import Intake.Proofs.Text.Digits
import Intake.Store.Cell

/-!
# What fills a cell

A cell takes a text, a number or a truth value, and holds a text that every encoding can carry. A text that
it takes is held as it is; of other values it holds what is written of them, in digits and marks.
-/

namespace Intake

namespace Binary64

/-- A decimal is written in digits and marks, however it is laid out. -/
theorem Decimal.encodable_render (l : Layout) (d : Decimal) : (d.render l).encodable = true := by
  have hdigits := Text.encodable_ofNat d.digits
  have htake (k : Nat) := Text.encodable_of_sublist (List.take_sublist k (Text.ofNat d.digits)) hdigits
  have hdrop (k : Nat) := Text.encodable_of_sublist (List.drop_sublist k (Text.ofNat d.digits)) hdigits
  have hmantissa : (l.mantissa (Text.ofNat d.digits)).encodable = true := by
    unfold Layout.mantissa
    split_ifs <;> simp only [Text.encodable_append, hdigits, htake, hdrop] <;> rfl
  have hsize (n : Nat) : Text.encodable (48 :: Text.ofNat n) = true := by
    rw [← List.singleton_append, Text.encodable_append, Text.encodable_ofNat]
    rfl
  unfold Decimal.render
  simp only
  split_ifs <;>
    simp only [Text.encodable_append, Text.encodable_replicate_zero, hdigits, htake, hdrop, hmantissa,
      hsize, Text.encodable_ofNat] <;> rfl

theorem encodable_columnText? {x : Binary64} {t : Text} (h : x.columnText? = some t) :
    t.encodable = true := by
  unfold columnText? at h
  split at h
  · cases h
  · cases h; split <;> rfl
  · cases h; rfl
  · cases h; rfl
  · cases h
    rw [Text.encodable_append, Decimal.encodable_render, Bool.and_true]
    split <;> rfl

end Binary64

namespace Store

/-- The text is what the value is in a cell. -/
def Fills (v : Value) (t : Text) : Prop := cellOf v = .ok (some t)

theorem cellOf_str (t : Text) :
    cellOf (.str t) = if t.encodable then .ok (some t) else .error .notEncodable := rfl

theorem fills_str {t : Text} (h : t.encodable = true) : Fills (.str t) t := by
  rw [Fills, cellOf_str, if_pos h]

/-- A text that fills a cell is stored as it is. -/
theorem Fills.of_str {t u : Text} (h : Fills (.str t) u) : u = t := by
  rw [Fills, cellOf_str] at h
  split at h <;> cases h
  rfl

/-- What fills a cell can be carried by every encoding. -/
theorem Fills.encodable {v : Value} {t : Text} (h : Fills v t) : t.encodable = true := by
  unfold Fills at h
  cases v with
  | null => cases h
  | str s =>
    rw [cellOf_str] at h
    split at h <;> cases h
    assumption
  | int n =>
    rw [cellOf] at h
    split at h <;> cases h
    exact Text.encodable_ofInt n
  | bool b => cases h; cases b <;> rfl
  | real x => exact Binary64.encodable_columnText? (Except.ok.inj h)
  | arr _ => cases h
  | obj _ => cases h

/-- Cells that are all filled hold the texts of their values. -/
theorem fills_of_filled {vs : List Value} {ts : List Text} (h : (cellsOf vs).bind filled = .ok ts) :
    List.Forall₂ Fills vs ts := by
  induction vs generalizing ts with
  | nil => cases h; exact .nil
  | cons v vs ih =>
    rw [cellsOf] at h
    cases hv : cellOf v with
    | error e => rw [hv] at h; cases h
    | ok c =>
      rw [hv] at h
      cases hvs : cellsOf vs with
      | error e => rw [hvs] at h; cases h
      | ok cs =>
        rw [hvs] at h
        cases c with
        | none => cases h
        | some t =>
          change filled (some t :: cs) = .ok ts at h
          rw [filled] at h
          cases hcs : filled cs with
          | error e => rw [hcs] at h; cases h
          | ok rest =>
            rw [hcs] at h
            cases h
            exact .cons hv (ih (by rw [hvs]; exact hcs))

/-- Values that all fill cells are found in them. -/
theorem cellsOf_of_fills {vs : List Value} {ts : List Text} (h : List.Forall₂ Fills vs ts) :
    cellsOf vs = .ok (ts.map some) := by
  induction h with
  | nil => rfl
  | cons hfills _ ih => simp only [cellsOf, show cellOf _ = _ from hfills, ih, List.map_cons]

/-- Texts fill cells exactly when every encoding can carry them. -/
theorem cellsOf_texts (ts : List Text) :
    cellsOf (ts.map .str) = if ts.all Text.encodable then .ok (ts.map some)
      else .error .notEncodable := by
  induction ts with
  | nil => rfl
  | cons t ts ih =>
    rw [List.map_cons, cellsOf, cellOf_str, ih]
    by_cases ht : t.encodable = true
    · by_cases hts : ts.all Text.encodable = true <;> simp [ht, hts]
    · simp [ht]

theorem filled_texts (ts : List Text) : filled (ts.map some) = .ok ts := by
  induction ts with
  | nil => rfl
  | cons t ts ih => simp only [List.map_cons, filled, ih]

end Store
end Intake
