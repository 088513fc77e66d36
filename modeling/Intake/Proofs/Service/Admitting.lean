import Intake.Proofs.Service.Failing
import Intake.Proofs.Settings.Precedence

/-!
# Which origins are admitted

A page may see a reply when the reply admits the origin of the page, by its name or by the wildcard. Two
paths lead to such a header: the answer to a preflight, and what is added to every other reply on its way
out. No endpoint writes one of its own.

        preflight ──▶ listed, or a preview? ──▶ admitted
        endpoint  ──▶ no such header ──▶ listed, or a preview? ──▶ admitted
        endpoint that breaks off ──▶ nothing is admitted

Both ask the list in force. That is the configured list as long as it names anything; in the place of an
empty list stands the wildcard, and then every origin is admitted.
-/

namespace Intake

namespace Http

/-- The origins that a reply admits. -/
def Reply.admitted (reply : Reply) : List Text := reply.valuesOf "access-control-allow-origin"

/-- A page of the origin may see the reply. -/
def Reply.Admits (reply : Reply) (origin : Text) : Prop :=
  origin ∈ reply.admitted ∨ Origin.wildcard ∈ reply.admitted

namespace Origin

/-- The origin is that of a preview deployment: between the fixed beginning and end stands anything that
fits on one line. -/
def Preview (origin : Text) : Prop :=
  ∃ middle : Text, 10 ∉ middle ∧ origin = previewStart ++ middle ++ previewEnd

theorem isPreview_iff {origin : Text} : isPreview origin = true ↔ Preview origin := by
  have hstart : (10 : CodePoint) ∉ previewStart := by decide
  have hend : (10 : CodePoint) ∉ previewEnd := by decide
  simp only [isPreview, Bool.and_eq_true, List.isPrefixOf_iff_prefix, List.isSuffixOf_iff_suffix,
    decide_eq_true_eq, Bool.not_eq_true', List.contains_eq_mem, decide_eq_false_iff_not]
  constructor
  · rintro ⟨⟨⟨⟨rest, rfl⟩, hsuffix⟩, hlength⟩, hline⟩
    have hrest : previewEnd <:+ rest := by
      refine List.suffix_of_suffix_length_le hsuffix (List.suffix_append _ _) ?_
      rw [List.length_append] at hlength
      omega
    obtain ⟨middle, rfl⟩ := hrest
    refine ⟨middle, fun hmem => hline ?_, (List.append_assoc _ _ _).symm⟩
    exact List.mem_append_right _ (List.mem_append_left _ hmem)
  · rintro ⟨middle, hmiddle, rfl⟩
    refine ⟨⟨⟨⟨middle ++ previewEnd, (List.append_assoc _ _ _).symm⟩, List.suffix_append _ _⟩, ?_⟩, ?_⟩
    · rw [List.length_append, List.length_append]
      omega
    · rw [List.mem_append, List.mem_append]
      rintro ((h | h) | h)
      · exact hstart h
      · exact hmiddle h
      · exact hend h

theorem wildcard_not_preview : ¬ Preview wildcard := fun h =>
  absurd (isPreview_iff.2 h) (by decide)

/-- Of a list that names something, and not the wildcard, the listed origins and the previews are
admitted. -/
theorem admits_iff {configured : List Text} (hwildcard : wildcard ∉ configured)
    (hne : configured ≠ []) {origin : Text} :
    admits configured origin = true ↔ origin ∈ configured ∨ Preview origin := by
  have hforce : inForce configured = configured := by
    rw [inForce, if_neg (by simpa using hne)]
  simp only [admits, hforce, Bool.or_eq_true, List.contains_eq_mem, decide_eq_true_eq, isPreview_iff,
    hwildcard, false_or, or_comm]

/-- An empty list admits every origin. -/
theorem admits_nil (origin : Text) : admits [] origin = true := rfl

end Origin

/-- The origin of a request, if it is admitted. -/
def Origin.admissible (configured : List Text) (r : Request) : List Text :=
  (r.header? "origin").toList.filter (admits configured)

/-- The header that admits an origin is there exactly when the origin is admitted. -/
theorem Origin.valuesOf_admission (configured : List Text) (origin : Text) :
    ((admission configured origin).filter fun h =>
      sameName h.name "access-control-allow-origin").map (·.value) =
        [origin].filter (admits configured) := by
  unfold admission
  split
  · rename_i h
    rw [List.filter_cons_of_pos h]
    rfl
  · rename_i h
    rw [List.filter_cons_of_neg h]
    rfl

/-! ### The two paths -/

/-- What a preflight is answered admits the origin of the request if it may. -/
theorem admitted_of_preflight {configured : List Text} {r : Request} {reply : Reply}
    (h : Origin.preflight? configured r = some reply) :
    reply.admitted = Origin.admissible configured r := by
  have hheaders : ∀ (status : Int) (t : Text) (origin : Text) (asked : List Header),
      (asked.filter fun h => sameName h.name "access-control-allow-origin") = [] →
      (Reply.plain status t (Origin.preflightHeaders ++ Origin.admission configured origin ++
        asked)).admitted = [origin].filter (Origin.admits configured) := by
    intro status t origin asked hasked
    rw [Reply.admitted, Reply.valuesOf, Reply.plain, List.filter_append, List.filter_append,
      List.filter_append, hasked, List.append_nil, List.map_append, List.map_append,
      Origin.valuesOf_admission]
    exact List.append_nil _
  unfold Origin.preflight? at h
  split at h
  · rename_i origin method horigin _
    split at h
    · cases h
      rw [Origin.admissible, horigin]
      cases r.header? "access-control-request-headers" <;> split <;>
        exact hheaders _ _ _ _ rfl
    · cases h
  · cases h

/-- What is added to any other reply admits the origin of the request if it may. -/
theorem admitted_stamp (configured : List Text) (r : Request) (reply : Reply) :
    ({ reply with headers := Origin.stamp configured r reply.headers } : Reply).admitted =
      reply.admitted ++ Origin.admissible configured r := by
  refine (valuesOf_stamp _ configured r reply).trans (congrArg (reply.admitted ++ ·) ?_)
  rw [Reply.valuesOf, Origin.stamp, Origin.admissible]
  cases r.header? "origin" with
  | none => rfl
  | some origin =>
    rw [List.nil_append, List.filter_append, List.filter_append, List.map_append, List.map_append,
      Origin.valuesOf_admission]
    exact List.append_nil _

end Http

namespace Service

open Http

/-- What the endpoints make admits nothing. -/
theorem common_admitted : Common fun reply => reply.admitted = [] :=
  ⟨fun _ _ _ => rfl, fun _ => rfl⟩

/-- Neither do the replies of the routes. -/
theorem admitted_dispatch (c : Config) (r : Request) :
    Action.Gives (fun reply => reply.admitted = []) (Action.dispatch c r) := by
  unfold Action.dispatch
  cases hfind : Route.find r.method r.path with
  | endpoint e args => exact common_admitted.serve c r (Route.length_of_find hfind)
  | elsewhere path => exact Action.gives_pure rfl
  | wrongMethod allowed => exact Action.gives_pure rfl
  | nowhere => exact Action.gives_pure rfl

/-- On its way out a reply comes to admit the origin of its request if it may. -/
theorem admitted_finish (c : Config) (r : Request) (id : Text) (reply : Reply) :
    (finish c r id (.ok reply)).admitted = reply.admitted ++ Origin.admissible c.origins r :=
  (admitted_stamp c.origins r _).trans (congrArg (· ++ _) (valuesOf_stampHeaders rfl id reply))

/-- A reply admits the origin of its request if that is admitted, and nothing else; only the reply for an
endpoint that broke off admits nothing at all. -/
theorem admitted_handle (c : Config) (r : Request) (s : State) :
    ((handle c r).run s).1 = Problem.unexpectedReply ∨
      ((handle c r).run s).1.admitted = Origin.admissible c.origins r := by
  cases hpreflight : Origin.preflight? c.origins r with
  | some reply =>
    rw [handle_of_preflight hpreflight]
    exact .inr (admitted_of_preflight hpreflight)
  | none =>
    rw [handle_of_no_preflight hpreflight]
    cases houtcome : (Action.exec (Action.dispatch c r) (s.requestNamed r)).1 with
    | error e => exact .inl rfl
    | ok reply =>
      have hnothing : reply.admitted = [] := admitted_dispatch c r _ reply houtcome
      refine .inr ?_
      change (finish c r _ (.ok reply)).admitted = _
      rw [admitted_finish, hnothing, List.nil_append]

/-- What the reply admits was asked for and may be admitted. -/
theorem of_admits {c : Config} {r : Request} {s : State} {origin : Text}
    (hwildcard : Origin.admits c.origins Origin.wildcard = false)
    (h : ((handle c r).run s).1.Admits origin) :
    r.header? "origin" = some origin ∧ Origin.admits c.origins origin = true := by
  have hasked : ∀ o ∈ ((handle c r).run s).1.admitted,
      r.header? "origin" = some o ∧ Origin.admits c.origins o = true := by
    intro o ho
    rcases admitted_handle c r s with hunexpected | hadmitted
    · rw [hunexpected] at ho
      cases ho
    · rw [hadmitted, Origin.admissible, List.mem_filter, Option.mem_toList] at ho
      exact ho
  rcases h with horigin | hall
  · exact hasked origin horigin
  · rw [(hasked _ hall).2] at hwildcard
    cases hwildcard

/-- A page of an origin that nobody listed asks whether the service is well. -/
def foreignVisit : Request :=
  ⟨"GET", "testserver", "/health", [], [⟨"Origin", "https://evil.example"⟩], []⟩

/-- Where no origin is listed, it is admitted. -/
theorem admits_foreignVisit (access : Access) :
    ((handle ⟨access, []⟩ foreignVisit).run State.initial).1.Admits "https://evil.example" :=
  .inl List.mem_cons_self

theorem foreign_not_preview : ¬ Origin.Preview "https://evil.example" := fun h =>
  absurd (Origin.isPreview_iff.2 h) (by decide)

/-- In every state and on every path a reply admits at most the origin that its request names, and that one
only if it is listed or a preview. -/
def OnlyListed (origins : List Text) : Prop :=
  ∀ (access : Access) (r : Request) (s : State) (origin : Text),
    ((handle ⟨access, origins⟩ r).run s).1.Admits origin →
      r.header? "origin" = some origin ∧ (origin ∈ origins ∨ Origin.Preview origin)

/-- A request from a listed origin or a preview gets a reply that admits just this origin, unless the
endpoint breaks off. -/
def AllListed (origins : List Text) : Prop :=
  ∀ (access : Access) (r : Request) (s : State) (origin : Text),
    r.header? "origin" = some origin → origin ∈ origins ∨ Origin.Preview origin →
      ((handle ⟨access, origins⟩ r).run s).1 = Problem.unexpectedReply ∨
        ((handle ⟨access, origins⟩ r).run s).1.admitted = [origin]

/-- **Only listed origins and previews are admitted, as long as any origin is listed.** For a list that
does not hold the wildcard, nothing but listed origins and previews is admitted exactly when the list names
anything; and what is listed is admitted. The list of a world is empty exactly when the text for the
origins holds nothing but commas and white space. -/
theorem only_listed_origins_admitted_iff {origins : List Text} (h : Origin.wildcard ∉ origins) :
    (OnlyListed origins ↔ origins ≠ []) ∧ AllListed origins ∧
    ∀ (w : Settings.World) (settings : Settings.Config), Settings.load w = .ok settings →
      (settings.origins = [] ↔
        ∀ c ∈ (Settings.Setting.text? w .origins).getD [], c = 44 ∨ c.isBlank = true) := by
  refine ⟨⟨fun hall hnil => ?_, fun hne access r s origin hadmits => ?_⟩,
    fun access r s origin hasked hmay => ?_, fun w settings hload => ?_⟩
  · subst hnil
    rcases (hall _ _ _ _ (admits_foreignVisit Config.plain.access)).2 with hlisted | hpreview
    · cases hlisted
    · exact foreign_not_preview hpreview
  · have hwildcard : Origin.admits origins Origin.wildcard = false := by
      rw [Bool.eq_false_iff, ne_eq, Origin.admits_iff h hne]
      exact not_or.2 ⟨h, Origin.wildcard_not_preview⟩
    obtain ⟨hasked, hmay⟩ := of_admits hwildcard hadmits
    exact ⟨hasked, (Origin.admits_iff h hne).1 hmay⟩
  · refine (admitted_handle ⟨access, origins⟩ r s).imp_right fun hadmitted => ?_
    have hmay' : Origin.admits origins origin = true := by
      by_cases hne : origins = []
      · rw [hne]
        exact Origin.admits_nil origin
      · exact (Origin.admits_iff h hne).2 hmay
    rw [hadmitted, Origin.admissible, hasked]
    exact List.filter_cons_of_pos hmay'
  · have hreads : settings.origins = Settings.originsOf _ := (Settings.reads_of_load hload).1 .origins
    rw [hreads, Settings.originsOf_eq_nil_iff]

/-- The list that stands for a world without settings is one to which all of this applies. -/
theorem only_listed_origins_admitted_iff_local :
    Origin.wildcard ∉ [Settings.defaultOrigin] ∧
    (OnlyListed [Settings.defaultOrigin] ↔ [Settings.defaultOrigin] ≠ []) ∧
    AllListed [Settings.defaultOrigin] ∧
    (∀ (w : Settings.World) (settings : Settings.Config), Settings.load w = .ok settings →
      (settings.origins = [] ↔
        ∀ c ∈ (Settings.Setting.text? w .origins).getD [], c = 44 ∨ c.isBlank = true)) ∧
    OnlyListed [Settings.defaultOrigin] := by
  have hwildcard : Origin.wildcard ∉ [Settings.defaultOrigin] := by decide
  obtain ⟨honly, hall, hempty⟩ := only_listed_origins_admitted_iff hwildcard
  exact ⟨hwildcard, honly, hall, hempty, honly.2 (by decide)⟩

/-- A world whose JSON file lists no origins. -/
def closedWorld : Settings.World :=
  ⟨[], [("formsync_config.json",
    .file (Utf8.encode "\x7b\"cors\": \x7b\"origins\": []\x7d\x7d"))]⟩

/-- Settings that list no origins open the service to every origin. -/
theorem unlisted_origin_admitted :
    ¬ ∀ (w : Settings.World) (settings : Settings.Config), Settings.load w = .ok settings →
      Origin.wildcard ∉ settings.origins →
      ∀ (r : Request) (s : State) (origin : Text), r.header? "origin" = some origin →
        ((handle ⟨settings.access, settings.origins⟩ r).run s).1.Admits origin →
          origin ∈ settings.origins ∨ Origin.Preview origin := by
  intro hclaim
  obtain ⟨settings, hload⟩ := Settings.exists_of_isOk (w := closedWorld) (by decide +kernel)
  have hnone : settings.origins = [] := by
    have hreads : settings.origins = Settings.originsOf _ := (Settings.reads_of_load hload).1 .origins
    rw [hreads]
    decide +kernel
  have hclosed := hclaim closedWorld settings hload
  rw [hnone] at hclosed
  rcases hclosed List.not_mem_nil foreignVisit State.initial "https://evil.example" rfl
    (admits_foreignVisit settings.access) with hlisted | hpreview
  · cases hlisted
  · exact foreign_not_preview hpreview

end Service

end Intake
