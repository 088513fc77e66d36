import Intake.Proofs.Service.Provenance

/-!
# Two mounts of one service

The interface stands at the root and below `/api/v1`. All its patterns begin with a fixed segment, and none
of these is `api`, the health check or the place of a document. So a path that fits a pattern of the
interface fits no other one of the root and none of the second mount, and the path below `/api/v1` fits what
the path itself fits, with the same named segments. What follows is decided by method, headers and body alone.

        /forms/form-1             ──▶ getForm  form-1
        /api/v1/forms/form-1      ──▶ getForm  form-1
-/

namespace Intake

namespace Http

namespace Segment

/-- Before further segments a fixed one takes just itself. -/
theorem fit?_fixed {t s : Text} {ps : List Segment} (hps : ps ≠ []) (ss : List Text) :
    fit? (.fixed t :: ps) (s :: ss) = if t = s then fit? ps ss else none := by
  cases ps with
  | nil => exact absurd rfl hps
  | cons p ps => rw [fit?]; simp

/-- What fits begins with the fixed segment that the pattern begins with, or with that and a line feed. -/
theorem head_of_fit? {t : Text} {ps : List Segment} {ss : List Text}
    (h : (fit? (.fixed t :: ps) ss).isSome = true) :
    ∃ s rest, ss = s :: rest ∧ (s = t ∨ s = t ++ [10]) := by
  unfold fit? at h
  split at h
  · contradiction
  · rename_i hpattern
    cases hpattern
    split at h
    · exact ⟨_, _, rfl, by assumption⟩
    · cases h
  · rename_i hpattern
    cases hpattern
    split at h
    · exact ⟨_, _, rfl, .inl (Eq.symm (by assumption))⟩
    · cases h
  · rename_i hpattern
    cases hpattern
  · cases h

/-- Both patterns begin with fixed segments, and no path can begin with both. -/
def apart : List Segment → List Segment → Bool
  | .fixed t :: _, .fixed u :: _ => t != u && t != u ++ [10] && u != t ++ [10]
  | _, _ => false

theorem fit?_of_apart {ps qs : List Segment} {ss : List Text} (hapart : apart ps qs = true)
    (h : (fit? ps ss).isSome = true) : fit? qs ss = none := by
  unfold apart at hapart
  split at hapart
  · simp only [Bool.and_eq_true, bne_iff_ne] at hapart
    obtain ⟨⟨hne, hfeed⟩, hfed⟩ := hapart
    obtain ⟨s, rest, rfl, hs⟩ := head_of_fit? h
    rw [← Option.not_isSome_iff_eq_none]
    intro hother
    obtain ⟨_, _, hsame, hs'⟩ := head_of_fit? hother
    cases hsame
    rcases hs with rfl | rfl <;> rcases hs' with hs' | hs'
    · exact hne hs'
    · exact hfeed hs'
    · exact hfed hs'.symm
    · exact hne (List.append_cancel_right hs')
  · cases hapart

end Segment

namespace Endpoint

theorem pattern_ne_nil (e : Endpoint) : e.pattern ≠ [] := by
  cases e with
  | document d => cases d <;> exact List.cons_ne_nil _ _
  | _ => exact List.cons_ne_nil _ _

/-- No pattern takes a path that begins as the paths of the second mount do. -/
theorem fit?_api (e : Endpoint) (ss : List Text) : Segment.fit? e.pattern ("api" :: ss) = none := by
  cases e with
  | document d => cases d <;> cases ss <;> rfl
  | _ => cases ss <;> rfl

theorem apart_health {e : Endpoint} (he : e ∈ interface) :
    Segment.apart e.pattern health.pattern = true := by
  revert e
  decide

theorem apart_document {e : Endpoint} (he : e ∈ interface) (d : Document) :
    Segment.apart e.pattern (document d).pattern = true := by
  revert e
  cases d <;> decide

end Endpoint

namespace Route

/-- The path of the second mount. -/
def mountPath : Text := "/api/v1"

/-- The path fits a pattern of the interface. -/
def Offered (path : Text) : Prop :=
  ∃ e ∈ Endpoint.interface, (fit? path ⟨e, e.pattern⟩).isSome = true

instance (path : Text) : Decidable (Offered path) := List.decidableBEx _ _

/-- The endpoints of the interface that fit the segments below a place, with what their named segments
take. -/
def offersBelow (place : List Segment) (ss : List Text) : List (Endpoint × List Text) :=
  Endpoint.interface.filterMap fun e => (Segment.fit? (place ++ e.pattern) ss).map fun args => (e, args)

/-- The endpoints of the interface that fit the segments at the root. -/
def offers (ss : List Text) : List (Endpoint × List Text) := offersBelow [] ss

/-- The documents that fit the segments. -/
def documents (ss : List Text) : List (Endpoint × List Text) :=
  Document.all.filterMap fun d =>
    (Segment.fit? (Endpoint.document d).pattern ss).map fun args => (.document d, args)

/-- What fits are the documents, what the interface offers at the root, what it offers at its second place,
and the health check. -/
theorem fitting_eq {path : Text} {ss : List Text} (h : segments? path = some ss) :
    fitting path = documents ss ++ offers ss ++ offersBelow mount ss ++
      ((Segment.fit? Endpoint.health.pattern ss).map fun args => (Endpoint.health, args)).toList := by
  have hfit : ∀ r : Route, r.fit? path = Segment.fit? r.pattern ss := fun r => by
    rw [fit?, h, Option.bind_some]
  simp only [fitting, hfit, all, List.filterMap_append, List.filterMap_map, List.filterMap_cons,
    List.filterMap_nil]
  cases Segment.fit? Endpoint.health.pattern ss <;> rfl

theorem fit?_mount (e : Endpoint) (ss : List Text) :
    Segment.fit? (mount ++ e.pattern) ("api" :: "v1" :: ss) = Segment.fit? e.pattern ss := by
  rw [mount, List.cons_append, List.cons_append, List.nil_append,
    Segment.fit?_fixed (List.cons_ne_nil _ _), if_pos rfl, Segment.fit?_fixed e.pattern_ne_nil,
    if_pos rfl]

/-- The second place offers below itself what the interface offers at the root. -/
theorem offersBelow_mount (ss : List Text) : offersBelow mount ("api" :: "v1" :: ss) = offers ss := by
  rw [offers, offersBelow, offersBelow]
  exact List.filterMap_congr fun e _ => by rw [fit?_mount, List.nil_append]

/-- It offers nothing else. -/
theorem offersBelow_mount_of_ne {ss : List Text} (h : ss.head? ≠ some "api") :
    offersBelow mount ss = [] := by
  refine List.filterMap_eq_nil_iff.2 fun e _ => ?_
  cases ss with
  | nil => rfl
  | cons s ss =>
    have hs : ("api" : Text) ≠ s := fun heq => h (congrArg some heq.symm)
    rw [mount, List.cons_append, List.cons_append, Segment.fit?_fixed (List.cons_ne_nil _ _),
      if_neg hs, Option.map_none]

/-- Nothing is offered at the root where the second place begins. -/
theorem offers_api (ss : List Text) : offers ("api" :: ss) = [] :=
  List.filterMap_eq_nil_iff.2 fun e _ => by rw [List.nil_append, Endpoint.fit?_api, Option.map_none]

theorem documents_api (ss : List Text) : documents ("api" :: ss) = [] :=
  List.filterMap_eq_nil_iff.2 fun d _ => by rw [Endpoint.fit?_api, Option.map_none]

/-- Documents do not compete with the interface. -/
theorem documents_of_offered {ss : List Text} {e : Endpoint} (he : e ∈ Endpoint.interface)
    (h : (Segment.fit? e.pattern ss).isSome = true) : documents ss = [] :=
  List.filterMap_eq_nil_iff.2 fun d _ => by
    rw [Segment.fit?_of_apart (Endpoint.apart_document he d) h, Option.map_none]

theorem segments?_mountPath (rest : Text) :
    segments? (mountPath ++ 47 :: rest) =
      some (("api" : Text) :: ("v1" : Text) :: Text.pieces 47 rest) :=
  rfl

/-- What fits below the root is what the interface offers: no document competes for it, and neither do the
second mount and the health check. -/
theorem fitting_of_offered {rest : Text} {e : Endpoint} (he : e ∈ Endpoint.interface)
    (h : (Segment.fit? e.pattern (Text.pieces 47 rest)).isSome = true) :
    fitting (47 :: rest) = offers (Text.pieces 47 rest) := by
  have hapi : (Text.pieces 47 rest).head? ≠ some "api" := by
    intro hhead
    obtain ⟨ss, hss⟩ := List.head?_eq_some_iff.1 hhead
    rw [hss, Endpoint.fit?_api] at h
    cases h
  rw [fitting_eq rfl, documents_of_offered he h, offersBelow_mount_of_ne hapi,
    Segment.fit?_of_apart (Endpoint.apart_health he) h, List.nil_append, List.append_nil]
  exact List.append_nil _

/-- Below the second mount fits what the interface offers for the rest of the path. -/
theorem fitting_mountPath (rest : Text) :
    fitting (mountPath ++ 47 :: rest) = offers (Text.pieces 47 rest) := by
  rw [fitting_eq (segments?_mountPath rest), documents_api, offers_api, offersBelow_mount, List.nil_append,
    List.nil_append]
  exact List.append_nil _

/-- A document is found at its place by its methods, and by no others. -/
theorem find_document (d : Document) (method : Text) :
    find method (Segment.path (Endpoint.document d).pattern) =
      if method ∈ (Endpoint.document d).methods then .endpoint (.document d) []
      else .wrongMethod "GET, HEAD" := by
  have hfitting : fitting (Segment.path (Endpoint.document d).pattern) = [(.document d, [])] := by
    cases d <;> decide
  rw [find, hfitting]
  by_cases hmethod : method ∈ (Endpoint.document d).methods
  case pos => simp [hmethod]
  case neg =>
    simp only [List.contains_eq_mem, List.find?_cons, hmethod, decide_false, List.find?_nil, if_false]
    rfl

example : find "GET" "/docs/" = .elsewhere "/docs" := by decide

/-- An offered path begins with a slash. -/
theorem Offered.exists_rest {path : Text} (h : Offered path) : ∃ rest, path = 47 :: rest ∧
    ∃ e ∈ Endpoint.interface, (Segment.fit? e.pattern (Text.pieces 47 rest)).isSome = true := by
  obtain ⟨e, he, hfit⟩ := h
  rw [fit?] at hfit
  unfold segments? at hfit
  split at hfit
  case h_1 rest => exact ⟨rest, rfl, e, he, hfit⟩
  case h_2 => cases hfit

/-- Something fits an offered path. -/
theorem offers_ne_nil {ss : List Text} {e : Endpoint} (he : e ∈ Endpoint.interface)
    (h : (Segment.fit? e.pattern ss).isSome = true) : offers ss ≠ [] := by
  obtain ⟨args, hargs⟩ := Option.isSome_iff_exists.mp h
  exact List.ne_nil_of_mem (List.mem_filterMap.mpr ⟨e, he, congrArg (Option.map (e, ·)) hargs⟩)

/-- A path below the second mount leads where it leads at the root: to the same endpoint, or to the reply
that names the same method. -/
theorem find_mountPath {path : Text} (h : Offered path) (method : Text) :
    find method (mountPath ++ path) = find method path := by
  obtain ⟨rest, rfl, e, he, hfit⟩ := h.exists_rest
  obtain ⟨f, fs, hoffers⟩ := List.exists_cons_of_ne_nil (offers_ne_nil he hfit)
  rw [find, find, fitting_mountPath, fitting_of_offered he hfit, hoffers]

/-- An offered path is not answered with another place to look at, which would name the path. -/
theorem find_ne_elsewhere {path : Text} (h : Offered path) (method place : Text) :
    find method path ≠ .elsewhere place := by
  obtain ⟨rest, rfl, e, he, hfit⟩ := h.exists_rest
  obtain ⟨f, fs, hoffers⟩ := List.exists_cons_of_ne_nil (offers_ne_nil he hfit)
  rw [find, fitting_of_offered he hfit, hoffers]
  dsimp only
  split <;> exact Target.noConfusion

end Route
end Http

namespace Service

open Http

/-- **Two mounts, one service.** A request for a path of the interface is answered below `/api/v1` as it is
at the root, and leaves the same state behind. -/
theorem mounts_serve_alike (c : Config) (r : Request) (h : Route.Offered r.path) (s : State) :
    (handle c { r with path := Route.mountPath ++ r.path }).run s = (handle c r).run s := by
  have hdispatch : Action.dispatch c { r with path := Route.mountPath ++ r.path } =
      Action.dispatch c r := by
    rw [Action.dispatch, Action.dispatch, Route.find_mountPath h]
    cases hfind : Route.find r.method r.path with
    | endpoint e args => rfl
    | wrongMethod allowed => rfl
    | elsewhere place => exact absurd hfind (Route.find_ne_elsewhere h _ _)
    | nowhere => rfl
  rw [handle, handle, hdispatch]
  rfl

/-- A submission below the second mount. -/
theorem mounts_serve_alike_submit :
    Route.Offered "/forms/form-1/submit" ∧
    (handle .plain (posting "/api/v1/forms/form-1/submit" (formBody []))).run State.initial =
      (handle .plain (posting "/forms/form-1/submit" (formBody []))).run State.initial := by
  have hoffered : Route.Offered "/forms/form-1/submit" := by decide
  exact ⟨hoffered, mounts_serve_alike .plain (posting "/forms/form-1/submit" (formBody [])) hoffered _⟩

end Service
end Intake
