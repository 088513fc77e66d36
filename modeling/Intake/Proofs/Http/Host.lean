import Intake.Http.Host
import Intake.Http.Reply
import Intake.Proofs.Http.Label
import Intake.Proofs.Http.Path

/-!
# Hosts that were read once

A host that was read is an address in brackets, or is written with code points that are safe in a URL. Such
a host reads as itself when it is read again, except that the digits of escapes lose their case, which
hosts do not distinguish.
-/

namespace Intake

namespace Text

/-- The runs of capitals begin with those of ASCII, and no other run is in ASCII. -/
theorem shifted_lowerRuns {c : CodePoint} (hc : c.val < 128) : shifted lowerRuns c = c.asciiLower := by
  have hruns : lowerRuns = ⟨0x41, 0x5A, 1, 32⟩ :: lowerRuns.tail := rfl
  have htail : (lowerRuns.tail.all fun r => decide (128 ≤ r.first)) = true := by decide +kernel
  rw [shifted, hruns]
  by_cases hcapital : 65 ≤ c.val ∧ c.val ≤ 90
  · have hcovers : CaseRun.covers ⟨0x41, 0x5A, 1, 32⟩ c.val = true := by
      simp only [CaseRun.covers, Nat.mod_one, beq_self_eq_true, Bool.and_true, Bool.and_eq_true,
        decide_eq_true_eq]
      exact hcapital
    rw [List.find?_cons_of_pos (p := (CaseRun.covers · c.val)) hcovers, CodePoint.asciiLower,
      if_pos hcapital]
    rfl
  · have hnone : (⟨0x41, 0x5A, 1, 32⟩ :: lowerRuns.tail).find? (CaseRun.covers · c.val) = none := by
      rw [List.find?_eq_none]
      intro r hr hcovers
      rw [CaseRun.covers, Bool.and_eq_true, Bool.and_eq_true, decide_eq_true_iff, decide_eq_true_iff]
        at hcovers
      rcases List.mem_cons.1 hr with rfl | hr
      · exact hcapital hcovers.1
      · have hfirst := of_decide_eq_true (List.all_eq_true.1 htail r hr)
        omega
    rw [hnone, CodePoint.asciiLower, if_neg hcapital]

/-- In ASCII lower case is found code point by code point. -/
theorem lower_ascii {t : Text} (h : ∀ c ∈ t, c.val < 128) : t.lower = t.map CodePoint.asciiLower := by
  have hfrom : ∀ before : Text, lowerFrom before t = t.map CodePoint.asciiLower := by
    induction t with
    | nil => exact fun _ => rfl
    | cons c rest ih =>
      intro before
      have hc := h c List.mem_cons_self
      have hsigma : c ≠ 0x3A3 := by
        rintro rfl
        exact absurd hc (by decide)
      have hdotted : c ≠ 0x130 := by
        rintro rfl
        exact absurd hc (by decide)
      rw [lowerFrom, lowerBetween, if_neg hsigma, if_neg hdotted, shifted_lowerRuns hc,
        ih fun d hd => h d (List.mem_cons_of_mem _ hd)]
      rfl
  exact hfrom []

end Text

namespace Http

theorem lowerName_lowerName (t : Text) : lowerName (lowerName t) = lowerName t := by
  rw [lowerName, lowerName, List.map_map]
  exact List.map_congr_left fun c _ => CodePoint.asciiLower_asciiLower c

namespace Host

/-! ### Safe code points -/

theorem isSafe_of_isWritten : ∀ c, Percent.isWritten c = true → isSafe c = true :=
  fun _ => Url.visibleBut_of_isWritten (by decide)

theorem isSafe_of_isName {c : CodePoint} (h : c.isName = true) : isSafe c = true := by
  have hlower := CodePoint.val_asciiLower c
  refine isSafe_of_isWritten c ?_
  simp only [CodePoint.isName, CodePoint.isDigit, Percent.isWritten, Bool.or_eq_true, Bool.and_eq_true,
    decide_eq_true_eq, beq_iff_eq] at h ⊢
  split at hlower <;> omega

theorem isSafe_asciiLower {c : CodePoint} (h : isSafe c = true) : isSafe c.asciiLower = true := by
  unfold CodePoint.asciiLower
  split
  · refine isSafe_of_isWritten _ ?_
    rw [Percent.isWritten, CodePoint.val_ofNat (by omega)]
    simp only [Bool.or_eq_true, Bool.and_eq_true, decide_eq_true_eq, beq_iff_eq]
    omega
  · exact h

theorem ascii_of_isSafe {c : CodePoint} (h : isSafe c = true) : c.val < 128 := by
  simp only [isSafe, Bool.and_eq_true, decide_eq_true_eq] at h
  omega

/-! ### What reading leaves -/

/-- An address in brackets, or safe code points. -/
def Settled (host : Text) : Prop :=
  (58 ∈ host ∧ 64 ∉ host ∧ isBracketed host = true) ∨ ∀ c ∈ host, isSafe c = true

/-- A host as it stands in a URL. -/
def written (host : Text) : Text := if host.contains 58 then 91 :: (host ++ [93]) else host

/-- No `@` stands in a settled host. -/
theorem not_mem_written {host : Text} (h : Settled host) : 64 ∉ written host := by
  rcases h with ⟨hcolon, hat, -⟩ | hsafe
  · simp [written, hcolon, hat]
  · have hat : 64 ∉ host := fun hmem => absurd (hsafe 64 hmem) (by decide)
    unfold written
    split
    · simp [hat]
    · exact hat

/-- An address in brackets has colons. -/
theorem colon_mem_of_isEight {t : Text} (h : isEight t = true) : 58 ∈ t := by
  by_cases hcolon : 58 ∈ t
  · exact hcolon
  · have hgroups : ∀ parts, groups? t = some parts → parts.length < 3 := by
      intro parts hparts
      rw [groups?, Text.pieces_of_not_mem hcolon] at hparts
      simp only [List.getLast?_singleton] at hparts
      split at hparts
      · split at hparts
        · cases hparts
          exact Nat.lt_succ_self 2
        · cases hparts
      · cases hparts
        exact Nat.lt_of_sub_eq_succ rfl
    rw [isEight] at h
    cases hparts : groups? t with
    | none => rw [hparts] at h; cases h
    | some parts =>
      rw [hparts] at h
      simp only at h
      rw [if_pos (by simp [hgroups parts hparts])] at h
      cases h

theorem colon_mem_of_isBracketed {t : Text} (h : isBracketed t = true) : 58 ∈ t := by
  rw [isBracketed] at h
  rcases Text.cut_cases 37 t with ⟨-, hcut⟩ | ⟨address, zone, ht, -, hcut⟩
  · rw [hcut] at h
    exact colon_mem_of_isEight h
  · rw [hcut] at h
    simp only [Bool.and_eq_true] at h
    rw [ht]
    exact List.mem_append_left _ (colon_mem_of_isEight h.1.1)

/-- An address of four numbers is written with digits and full stops. -/
theorem isSafe_of_looksLikeFour {t : Text} (h : looksLikeFour t = true) {c : CodePoint} (hc : c ∈ t) :
    isSafe c = true := by
  rcases Text.mem_pieces 46 hc with rfl | ⟨p, hp, hc⟩
  · rfl
  · simp only [looksLikeFour, Bool.and_eq_true, List.all_eq_true] at h
    exact isSafe_of_isName (by simp [CodePoint.isName, (h.2 p hp).2 c hc])

/-- What was read is settled. -/
theorem settled_of_read? {t host : Text} (h : read? t = some host) (hat : 64 ∉ t) : Settled host := by
  unfold read? at h
  split at h
  · cases h
    exact .inr fun c hc => absurd hc List.not_mem_nil
  · split at h
    · rename_i hfour
      split at h
      · cases h
        exact .inr fun c hc => isSafe_of_looksLikeFour hfour hc
      · cases h
    · split at h
      · split at h
        · rename_i hbracketed
          cases h
          refine .inl ⟨colon_mem_of_isBracketed hbracketed, fun hmem => hat ?_, hbracketed⟩
          exact List.mem_of_mem_tail (List.dropLast_subset _ hmem)
        · cases h
      · split at h
        · cases h
          exact .inr fun c hc => Percent.safe_of_mem_escape isSafe_of_isWritten hc
        · refine .inr fun c hc => ?_
          rcases Domain.mem_toAscii? h hc with hname | rfl
          · exact isSafe_of_isName hname
          · rfl

/-- An address in brackets reads as itself. -/
theorem read?_bracketed {host : Text} (h : isBracketed host = true) :
    read? (91 :: (host ++ [93])) = some host := by
  have hfour : looksLikeFour (91 :: (host ++ [93])) = false := by
    refine Bool.eq_false_iff.2 fun hfour => ?_
    have hsafe := isSafe_of_looksLikeFour hfour List.mem_cons_self
    exact absurd hsafe (by decide)
  have hends : (List.head? (91 :: (host ++ [93])) == some 91 &&
      List.getLast? (91 :: (host ++ [93])) == some 93) = true := by
    rw [← List.cons_append, List.getLast?_concat]
    rfl
  have hinner : (List.tail (91 :: (host ++ [93]))).dropLast = host := List.dropLast_concat
  rw [read?, if_neg (by simp), hfour, if_neg (by simp), if_pos hends, hinner, if_pos h]

/-- Safe code points read as themselves up to the case of ASCII letters. -/
theorem lowerName_of_read?_safe {host again : Text} (hsafe : ∀ c ∈ host, isSafe c = true)
    (h : read? host = some again) : lowerName again = lowerName host := by
  have hascii : ∀ c ∈ host, c.val < 128 := fun c hc => ascii_of_isSafe (hsafe c hc)
  have hlower : ∀ c ∈ host.map CodePoint.asciiLower, isSafe c = true := by
    intro c hc
    obtain ⟨d, hd, rfl⟩ := List.mem_map.1 hc
    exact isSafe_asciiLower (hsafe d hd)
  unfold read? at h
  split at h
  · rename_i hempty
    cases h
    rw [List.isEmpty_iff.1 hempty]
  · split at h
    · split at h
      · cases h
        rfl
      · cases h
    · split at h
      · rename_i hends
        rw [Bool.and_eq_true, beq_iff_eq, beq_iff_eq] at hends
        exact absurd (hsafe 91 (List.mem_of_head? hends.1)) (by decide)
      · split at h
        · cases h
          rw [Text.lower_ascii hascii, Percent.escape_of_all hlower]
          exact lowerName_lowerName host
        · rename_i hall
          exact absurd (List.all_eq_true.2 fun c hc => decide_eq_true (hascii c hc)) hall

/-- **Reading a host twice.** A settled host reads as itself up to the case of ASCII letters. -/
theorem lowerName_of_read? {host again : Text} (hsettled : Settled host)
    (h : read? (written host) = some again) : lowerName again = lowerName host := by
  rcases hsettled with ⟨hcolon, -, hbracketed⟩ | hsafe
  · rw [written, if_pos (List.contains_iff_mem.2 hcolon), read?_bracketed hbracketed] at h
    cases h
    rfl
  · have hcolon : ¬host.contains 58 = true := fun hmem =>
      absurd (hsafe 58 (List.contains_iff_mem.1 hmem)) (by decide)
    rw [written, if_neg hcolon] at h
    exact lowerName_of_read?_safe hsafe h

end Host
end Http
end Intake
