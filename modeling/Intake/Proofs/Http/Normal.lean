import Intake.Proofs.Http.Host
import Intake.Proofs.Number.Typed

/-!
# URLs that were normalised once

Giving a URL another path normalises it again: its authority is written down, cut into user, host and port
once more, and each of them is read. The cuts find the parts again, because no part holds what the cuts
look for. So the URL stays at the same server, whatever its new path is. Only the case of escapes in the
host can change, and a usual port can be left out that was written before.

        user @ host : port   ──▶   user │ host │ port   ──▶   user @ host
-/

namespace Intake.Http.Url

open Percent

/-- The port that a URL leads to. -/
def portInUse (u : Url) : Option Int := u.port.or (usualPort? u.scheme)

/-- Two URLs lead the same user to the same server. -/
structure SameServer (u v : Url) : Prop where
  scheme : v.scheme = u.scheme
  user : v.user = u.user
  host : lowerName v.host = lowerName u.host
  port : v.portInUse = u.portInUse

theorem SameServer.refl (u : Url) : SameServer u u := ⟨rfl, rfl, rfl, rfl⟩

theorem SameServer.trans {u v w : Url} (h : SameServer u v) (k : SameServer v w) : SameServer u w :=
  ⟨k.scheme.trans h.scheme, k.user.trans h.user, k.host.trans h.host, k.port.trans h.port⟩

/-- Every part of the URL is as normalising leaves it. -/
structure Settled (u : Url) : Prop where
  scheme : lowerName u.scheme = u.scheme
  user : ∀ c ∈ u.user, isUser c = true
  host : Host.Settled u.host
  path : ∀ c ∈ u.path, isPath c = true
  straight : Straight u.path
  fragment : ∀ f, u.fragment = some f → ∀ c ∈ f, isFragment c = true

/-! ### Cutting an authority -/

theorem cutUser_of_not_mem {t : Text} (h : 64 ∉ t) : cutUser t = ([], t) := by
  rw [cutUser, Text.cut_of_not_mem fun hmem => h (List.mem_reverse.1 hmem)]

theorem cutUser_append {t : Text} (h : 64 ∉ t) (user : Text) : cutUser (user ++ 64 :: t) = (user, t) := by
  have hreverse : (user ++ 64 :: t).reverse = t.reverse ++ 64 :: user.reverse := by simp
  rw [cutUser, hreverse, Text.cut_append fun hmem => h (List.mem_reverse.1 hmem)]
  simp only [List.reverse_reverse]

/-- Behind the user there is no further `@`. -/
theorem not_mem_cutUser (t : Text) : 64 ∉ (cutUser t).2 := by
  rw [cutUser]
  rcases Text.cut_cases 64 t.reverse with ⟨hnot, hcut⟩ | ⟨after, before, -, hnot, hcut⟩
  · rw [hcut]
    exact fun hmem => hnot (List.mem_reverse.2 hmem)
  · rw [hcut]
    exact fun hmem => hnot (List.mem_reverse.1 hmem)

theorem cutHost_of_head {t : Text} (h : t.head? ≠ some 91) :
    cutHost t = (t.takeWhile (· != 58), t.drop (t.takeWhile (· != 58)).length) := by
  unfold cutHost
  split
  · exact absurd rfl h
  · rfl

/-- A host holds no `@` if the text that it is cut from holds none. -/
theorem not_mem_cutHost {t : Text} (h : 64 ∉ t) : 64 ∉ (cutHost t).1 := by
  have hplain : 64 ∉ t.takeWhile (· != 58) := fun hmem => h (List.takeWhile_subset _ hmem)
  unfold cutHost
  split
  · rename_i rest
    rcases Text.cut_cases 93 rest.reverse with ⟨-, hcut⟩ | ⟨after, before, hrest, -, hcut⟩
    · rw [hcut]
      exact hplain
    · rw [hcut]
      have hbefore : 64 ∉ before := fun hmem => by
        have hrest : 64 ∈ rest.reverse := hrest ▸ List.mem_append_right _ (List.mem_cons_of_mem _ hmem)
        exact h (List.mem_cons_of_mem _ (List.mem_reverse.1 hrest))
      simp [hbefore]
  · exact hplain

/-- The host is found again in front of what may follow it. -/
theorem cutHost_written {host port : Text} (hhost : Host.Settled host)
    (hport : port = [] ∨ ∃ digits, port = 58 :: digits) (hbracket : 93 ∉ port) :
    cutHost (Host.written host ++ port) = (Host.written host, port) := by
  rcases hhost with ⟨hcolon, -, -⟩ | hsafe
  · have hreverse : (host ++ [93] ++ port).reverse = port.reverse ++ 93 :: host.reverse := by simp
    rw [Host.written, if_pos (List.contains_iff_mem.2 hcolon), List.cons_append, cutHost]
    simp only [hreverse, Text.cut_append fun hmem => hbracket (List.mem_reverse.1 hmem),
      List.reverse_reverse]
  · have hcolon : 58 ∉ host := fun hmem => absurd (hsafe 58 hmem) (by decide)
    have hrun : ∀ c ∈ host, (c != 58) = true := fun c hc => by
      rw [bne_iff_ne]
      rintro rfl
      exact hcolon hc
    have htake : (host ++ port).takeWhile (· != 58) = host := by
      rw [List.takeWhile_append_of_pos hrun]
      rcases hport with rfl | ⟨digits, rfl⟩
      · exact List.append_nil host
      · exact List.append_nil host
    have hhead : (host ++ port).head? ≠ some 91 := by
      intro hhead
      cases host with
      | nil =>
        rcases hport with rfl | ⟨digits, rfl⟩
        · cases hhead
        · exact absurd (Option.some.inj hhead) (by decide)
      | cons c rest =>
        have hc := hsafe c List.mem_cons_self
        rw [Option.some.inj hhead] at hc
        exact absurd hc (by decide)
    rw [Host.written, if_neg (by simpa using hcolon), cutHost_of_head hhead, htake, List.drop_left]

/-! ### What normalising gives -/

/-- What stands behind the colon of a port. -/
def portText : Text → Text
  | 58 :: p => p
  | p => p

/-- The parts of a URL that was made from a scheme, an authority, a path, a query and a fragment. -/
structure Made (s a p : Text) (q f : Option Text) (v : Url) : Prop where
  scheme : v.scheme = lowerName s
  user : v.user = escape isUser (cutUser a).1
  host : Host.read? (cutHost (cutUser a).2).1 = some v.host
  port : readPort s (portText (cutHost (cutUser a).2).2) = .ok v.port
  path : v.path = escape isPath (plainPath p)
  query : v.query = q.map (escape isQuery)
  fragment : v.fragment = f.map (escape isFragment)

theorem made_of_make {scheme authority path : Text} {query fragment : Option Text} {v : Url}
    (h : make scheme authority path query fragment = .ok v) :
    Made scheme authority path query fragment v := by
  unfold make at h
  simp only at h
  split at h
  · cases h
  · split at h
    · cases h
    · rename_i host hhost
      split at h
      · cases h
      · rename_i port hport
        split at h
        · cases h
        · split at h
          · cases h
          · cases h
            exact ⟨rfl, rfl, hhost, hport, rfl, rfl, rfl⟩

/-- Another path that begins in the same way makes the same URL with another path. -/
theorem make_of_make {s a p p' : Text} {f : Option Text} {v : Url} (h : make s a p none f = .ok v)
    (hencodable : p'.encodable = true) (hhead : p'.head? = p.head?) :
    make s a p' none f = .ok { v with path := escape isPath (plainPath p') } := by
  have hempty : p'.isEmpty = p.isEmpty := by
    cases p with
    | nil => rw [List.head?_eq_none_iff.1 hhead]
    | cons c rest =>
      obtain ⟨t, rfl⟩ := List.head?_eq_some_iff.1 hhead
      rfl
  unfold make at h ⊢
  simp only at h ⊢
  split at h
  · cases h
  · rename_i huser
    rw [if_neg huser]
    split at h
    · cases h
    · split at h
      · cases h
      · split at h
        · cases h
        · rename_i hparts
          rw [Bool.not_eq_true, Bool.not_eq_false', Bool.and_eq_true, Bool.and_eq_true] at hparts
          rw [hencodable, hparts.1.2, hparts.2, if_neg (by simp)]
          split at h
          · cases h
          · rename_i hplace
            rw [← hhead, ← hempty] at hplace
            rw [if_neg hplace]
            cases h
            rfl

theorem Made.settled {scheme authority path : Text} {query fragment : Option Text} {v : Url}
    (h : Made scheme authority path query fragment v) : Settled v where
  scheme := by rw [h.scheme, lowerName_lowerName]
  user c hc := safe_of_mem_escape isUser_of_isWritten (h.user ▸ hc)
  host := Host.settled_of_read? h.host (not_mem_cutHost (not_mem_cutUser authority))
  path c hc := safe_of_mem_escape isPath_of_isWritten (h.path ▸ hc)
  straight := h.path ▸ straight_escape (straight_plainPath path)
  fragment f hf c hc := by
    rw [h.fragment] at hf
    obtain ⟨raw, -, rfl⟩ := Option.map_eq_some_iff.1 hf
    exact safe_of_mem_escape isFragment_of_isWritten hc

/-- What is read is settled. -/
theorem settled_of_read {t : Text} {u : Url} (h : read t = .ok u) : Settled u := by
  unfold read at h
  split at h
  · cases h
  · simp only at h
    split at h
    · exact (made_of_make h).settled
    · exact (made_of_make h).settled

/-! ### Writing an authority and cutting it again -/

/-- The port as it stands in a URL. -/
def portPart (u : Url) : Text :=
  match u.port with
  | some n => 58 :: Text.ofInt n
  | none => []

/-- A written port is a colon and figures. -/
theorem portPart_cases (u : Url) : (u.portPart = [] ∨ ∃ digits, u.portPart = 58 :: digits) ∧
    64 ∉ u.portPart ∧ 93 ∉ u.portPart := by
  have hfigures : ∀ n : Int, ∀ c ∈ (58 :: Text.ofInt n : Text), c = 58 ∨ Typed.isFigure c = true :=
    fun n c hc => (List.mem_cons.1 hc).imp_right Typed.isFigure_of_mem_ofInt
  rw [portPart]
  cases u.port with
  | none => exact ⟨.inl rfl, List.not_mem_nil, List.not_mem_nil⟩
  | some n =>
    refine ⟨.inr ⟨_, rfl⟩, fun hmem => ?_, fun hmem => ?_⟩
    · rcases hfigures n 64 hmem with heq | hfigure
      · exact absurd heq (by decide)
      · exact absurd hfigure (by decide)
    · rcases hfigures n 93 hmem with heq | hfigure
      · exact absurd heq (by decide)
      · exact absurd hfigure (by decide)

/-- A written port is read as the port, unless it is the usual one of the scheme. -/
theorem portInUse_of_readPort {u v : Url} (hscheme : v.scheme = u.scheme)
    (h : readPort u.scheme (portText u.portPart) = .ok v.port) : v.portInUse = u.portInUse := by
  rw [portInUse, portInUse, hscheme]
  rw [portPart] at h
  cases hport : u.port with
  | none =>
    rw [hport] at h
    have hnone : none = v.port := Except.ok.inj h
    rw [← hnone]
  | some n =>
    rw [hport] at h
    simp only [portText, readPort, List.isEmpty_eq_false_iff.2 (Text.ofInt_ne_nil n), Typed.whole?_ofInt,
      Bool.false_eq_true, if_false] at h
    rw [← Except.ok.inj h]
    split
    · rename_i husual
      rw [husual]
      rfl
    · rfl

section Again

variable {u v : Url} (hu : u.Settled)

include hu

/-- An authority is cut where it was put together. -/
theorem Settled.cutUser_authority :
    cutUser u.authority = (u.user, Host.written u.host ++ u.portPart) := by
  have hat : 64 ∉ Host.written u.host ++ u.portPart := fun hmem =>
    (List.mem_append.1 hmem).elim (Host.not_mem_written hu.host) u.portPart_cases.2.1
  have hauthority : u.authority = (if u.user.isEmpty then [] else u.user ++ [64]) ++
      (Host.written u.host ++ u.portPart) := List.append_assoc _ _ _
  rw [hauthority]
  split
  · rename_i hempty
    rw [List.nil_append, cutUser_of_not_mem hat, List.isEmpty_iff.1 hempty]
  · rw [List.append_assoc]
    exact cutUser_append hat u.user

/-- The same server whatever is asked for. -/
theorem Settled.sameServer {p : Text} {q f : Option Text} (h : Made u.scheme u.authority p q f v) :
    SameServer u v := by
  obtain ⟨hport, -, hbracket⟩ := portPart_cases u
  have hhost := h.host
  have hread := h.port
  have huser := h.user
  have hscheme : v.scheme = u.scheme := h.scheme.trans hu.scheme
  rw [hu.cutUser_authority] at huser hhost hread
  rw [cutHost_written hu.host hport hbracket] at hhost hread
  exact ⟨hscheme, huser.trans (escape_of_all hu.user), Host.lowerName_of_read? hu.host hhost,
    portInUse_of_readPort hscheme hread⟩

/-- **Another target, the same server.** The new target is normalised, and everything else stays. -/
theorem Settled.of_withTarget {target : Text} (h : u.withTarget target = .ok v) :
    SameServer u v ∧ Settled v ∧ v.path = escape isPath (plainPath (Text.cut 63 target).1) ∧
      v.query = (Text.cut 63 target).2.map (escape isQuery) ∧ v.fragment = u.fragment := by
  unfold withTarget at h
  simp only at h
  split at h
  · cases h
  · have hmade := made_of_make h
    refine ⟨hu.sameServer hmade, hmade.settled, hmade.path, hmade.query, hmade.fragment.trans ?_⟩
    cases hfragment : u.fragment with
    | none => rfl
    | some f => exact congrArg some (escape_of_all (hu.fragment f hfragment))

end Again

theorem visible_of_isPath {c : CodePoint} (h : isPath c = true) : 0x21 ≤ c.val ∧ c.val ≤ 0x7E := by
  simp only [isPath, visibleBut, Bool.and_eq_true, decide_eq_true_eq] at h
  exact h.1

/-- A path is acceptable unless it is too long. -/
theorem acceptable_iff {t : Text} (h : ∀ c ∈ t, isPath c = true) :
    acceptable t = true ↔ t.length ≤ maxLength := by
  have hcontrol : t.any isControl = false := List.any_eq_false.2 fun c hc => by
    have hvisible := visible_of_isPath (h c hc)
    simp only [isControl, Bool.or_eq_true, decide_eq_true_eq, beq_iff_eq, not_or]
    exact ⟨by omega, by rintro rfl; exact absurd hvisible.2 (by decide)⟩
  rw [acceptable, hcontrol, Bool.not_false, Bool.and_true, decide_eq_true_iff]

/-- Two targets that begin in the same way, hold no query and are not too long make URLs that differ in
their paths only. -/
theorem withTarget_of_withTarget {u v : Url} {t t' : Text} (h : u.withTarget t = .ok v)
    (hquery : 63 ∉ t) (hpath : ∀ c ∈ t', isPath c = true) (hhead : t'.head? = t.head?)
    (hlength : t'.length ≤ maxLength) :
    u.withTarget t' = .ok { v with path := escape isPath (plainPath t') } := by
  have hquery' : 63 ∉ t' := fun hmem => absurd (hpath 63 hmem) (by decide)
  have hencodable : t'.encodable = true := List.all_eq_true.2 fun c hc => by
    have hvisible := visible_of_isPath (hpath c hc)
    simp only [CodePoint.isSurrogate, Bool.not_eq_true', Bool.and_eq_false_iff, decide_eq_false_iff_not]
    omega
  have hacceptable : acceptable t' = true := (acceptable_iff hpath).2 hlength
  unfold withTarget at h ⊢
  rw [Text.cut_of_not_mem hquery] at h
  rw [Text.cut_of_not_mem hquery']
  simp only at h ⊢
  split at h
  · cases h
  · rw [hacceptable, if_neg (by decide)]
    exact make_of_make h hencodable hhead

/-- So a URL at one host comes with one for every such target. -/
theorem exists_withTarget {u v : Url} {t t' : Text} (h : u.withTarget t = .ok v) (hquery : 63 ∉ t)
    (hpath : ∀ c ∈ t', isPath c = true) (hhead : t'.head? = t.head?) (hlength : t'.length ≤ maxLength) :
    ∃ w, u.withTarget t' = .ok w ∧ w.host = v.host :=
  ⟨_, withTarget_of_withTarget h hquery hpath hhead hlength, rfl⟩

/-- A target that makes a URL is not too long. -/
theorem length_of_withTarget {u v : Url} {t : Text} (h : u.withTarget t = .ok v) (hquery : 63 ∉ t) :
    t.length ≤ maxLength := by
  unfold withTarget at h
  rw [Text.cut_of_not_mem hquery] at h
  simp only at h
  split at h
  · cases h
  · rename_i hacceptable
    simp only [acceptable, Bool.not_eq_true, Bool.not_eq_false', Bool.and_eq_true, decide_eq_true_eq]
      at hacceptable
    exact hacceptable.1.1

/-- URLs that differ in their paths only are written differently. -/
theorem path_of_render {u : Url} {p : Text} (h : ({ u with path := p } : Url).render = u.render) :
    p = u.path := by
  unfold render at h
  exact List.append_cancel_left (List.append_cancel_right (List.append_cancel_right h))

/-! ### Bases -/

/-- The path with a slash at its end. -/
def folder (u : Url) : Text := if u.path.getLast? = some 47 then u.path else u.path ++ [47]

/-- What stands in front of the slash at the end of a folder is straight. -/
theorem Settled.folder_eq {u : Url} (hu : u.Settled) :
    ∃ front, u.folder = front ++ [47] ∧ Straight front ∧ ∀ c ∈ front, isPath c = true := by
  unfold folder
  split
  · rename_i hlast
    obtain ⟨front, hfront⟩ := List.getLast?_eq_some_iff.1 hlast
    refine ⟨front, hfront, fun p hp => hu.straight p ?_, fun c hc => hu.path c ?_⟩
    · rw [hfront, Text.pieces_append]
      exact List.mem_append_left _ hp
    · rw [hfront]
      exact List.mem_append_left _ hc
  · exact ⟨u.path, rfl, hu.straight, hu.path⟩

theorem Settled.isPath_of_mem_folder {u : Url} (hu : u.Settled) {c : CodePoint} (h : c ∈ u.folder) :
    isPath c = true := by
  obtain ⟨front, hfolder, -, hfront⟩ := hu.folder_eq
  rw [hfolder, List.mem_append, List.mem_singleton] at h
  exact h.elim (hfront c) fun hslash => hslash ▸ rfl

/-- What lies below a folder begins as the folder does. -/
theorem Settled.head?_folder {u : Url} (hu : u.Settled) (t : Text) :
    (u.folder ++ t).head? = u.folder.head? := by
  obtain ⟨front, hfolder, -, -⟩ := hu.folder_eq
  rw [hfolder]
  cases front <;> rfl

/-- A target with a query holds a question mark. -/
theorem target_of_query {u : Url} {q : Text} (h : u.query = some q) :
    u.target = (if u.path.isEmpty then [47] else u.path) ++ 63 :: q := by
  rw [target, h]

theorem target_of_no_query {u : Url} (h : u.query = none) :
    u.target = if u.path.isEmpty then [47] else u.path := by
  rw [target, h]
  exact List.append_nil _

/-- No question mark stands in a path. -/
theorem Settled.question_not_mem {u : Url} (hu : u.Settled) :
    63 ∉ (if u.path.isEmpty then [47] else u.path : Text) := by
  split
  · decide
  · exact fun hmem => absurd (hu.path 63 hmem) (by decide)

/-- No question mark stands in a folder. -/
theorem Settled.question_not_mem_folder {u : Url} (hu : u.Settled) : 63 ∉ u.folder := fun hmem =>
  absurd (hu.isPath_of_mem_folder hmem) (by decide)

/-- Normalising leaves a folder as it is. -/
theorem Settled.normal_folder {u : Url} (hu : u.Settled) :
    escape isPath (plainPath u.folder) = u.folder := by
  have hstraight : Straight u.folder := by
    obtain ⟨front, hfolder, hfront, -⟩ := hu.folder_eq
    intro p hp
    rw [hfolder, Text.pieces_append, List.mem_append] at hp
    rcases hp with hp | hp
    · exact hfront p hp
    · exact List.mem_singleton.1 hp ▸ not_isDots_nil
  rw [plainPath_of_straight hstraight]
  exact escape_of_all fun _ => hu.isPath_of_mem_folder

/-- A target without a query is the folder, if it ends with a slash. -/
theorem target_eq_folder {u : Url} (hquery : u.query = none) (hlast : u.target.getLast? = some 47) :
    u.target = u.folder := by
  rw [target_of_no_query hquery] at hlast ⊢
  rw [folder]
  split
  · rename_i hempty
    rw [List.isEmpty_iff.1 hempty]
    rfl
  · rename_i hempty
    rw [if_neg hempty] at hlast
    rw [if_pos hlast]

/-- If it does not, the slash is missing. -/
theorem target_append_eq_folder {u : Url} (hquery : u.query = none)
    (hlast : u.target.getLast? ≠ some 47) : u.target ++ [47] = u.folder := by
  rw [target_of_no_query hquery] at hlast ⊢
  have hempty : ¬u.path.isEmpty = true := fun hempty => hlast (by rw [if_pos hempty]; rfl)
  rw [if_neg hempty] at hlast ⊢
  rw [folder, if_neg hlast]

/-- The base of a URL is at the same server. Its target is the folder of the URL, or there is a query. -/
theorem Settled.of_asBase {u v : Url} (hu : u.Settled) (h : u.asBase = .ok v) :
    SameServer u v ∧ v.Settled ∧ v.fragment = u.fragment ∧ (u.query = none → v.target = u.folder) ∧
      (u.query ≠ none → v.query ≠ none) := by
  unfold asBase at h
  split at h
  · rename_i hlast
    cases h
    exact ⟨SameServer.refl u, hu, rfl, fun hnone => target_eq_folder hnone (beq_iff_eq.1 hlast), id⟩
  · rename_i hlast
    obtain ⟨hserver, hv, hpath, hquery, hfragment⟩ := hu.of_withTarget h
    refine ⟨hserver, hv, hfragment, fun hnone => ?_, fun hsome => ?_⟩
    · rw [target_append_eq_folder hnone (by simpa using hlast),
        Text.cut_of_not_mem hu.question_not_mem_folder] at hpath hquery
      have hvpath : v.path = u.folder := hpath.trans hu.normal_folder
      obtain ⟨front, hfolder, -, -⟩ := hu.folder_eq
      rw [target_of_no_query hquery, hvpath, hfolder]
      exact if_neg (by simp)
    · obtain ⟨q, hq⟩ := Option.ne_none_iff_exists'.1 hsome
      rw [target_of_query hq, List.append_assoc, List.cons_append,
        Text.cut_append hu.question_not_mem] at hquery
      rw [hquery]
      exact Option.some_ne_none _

end Intake.Http.Url
