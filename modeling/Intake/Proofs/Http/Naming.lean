import Intake.Http.RequestId
import Intake.Proofs.Http.Host
import Intake.Proofs.Text.Digits
import Mathlib.Data.List.Forall2
import Mathlib.Data.List.Nodup

/-!
# Requests and their ids

The messages of a request pass in their order, one for one. Only the start of a reply may come out with
more than it had, and then with one header more at its end, which carries the id of the request:

        start, without the header ──▶ start, with the id last
        start, with a header of the name ──▶ as it is
        anything else ──▶ as it is

The id is the one that the client sent, or else the next fresh one. No name is fresh twice, so no two
requests are given the same.
-/

namespace Intake.RequestId

open Http

/-! ### One message -/

/-- What becomes of a message of a request with an id. -/
inductive Named (name id : Text) : Message → Message → Prop where
  | other (fields : Members) : Named name id (.other fields) (.other fields)
  | kept {headers : List Header} (rest : Members) (h : ∃ x ∈ headers, sameName x.name name = true) :
      Named name id (.start headers rest) (.start headers rest)
  | added {headers : List Header} (rest : Members) (h : ∀ x ∈ headers, sameName x.name name = false) :
      Named name id (.start headers rest) (.start (headers ++ [⟨name, id⟩]) rest)

/-- A name of ASCII characters is compared without regard to their case. -/
theorem carries_eq {name : Text} (hname : ∀ c ∈ name, c.val < 128) (x : Header) :
    carries name x = sameName x.name name := by
  rw [carries, sameName, Text.lower_ascii hname]
  rfl

theorem named_stamp {name : Text} (hname : ∀ c ∈ name, c.val < 128) (id : Text) (m : Message) :
    Named name id m (stamp name id m) := by
  cases m with
  | other fields => exact .other fields
  | start headers rest =>
    have hany : headers.any (carries name) = headers.any fun x => sameName x.name name :=
      congrArg headers.any (funext (carries_eq hname))
    rw [stamp, stampHeaders, hany]
    cases h : headers.any fun x => sameName x.name name with
    | true => exact .kept rest (List.any_eq_true.1 h)
    | false => exact .added rest fun x hx => Bool.eq_false_iff.2 (List.any_eq_false.1 h x hx)

/-! ### One request -/

/-- What reaches the application and what it sends: whether the request is one of HTTP, its headers, and
the messages of the application. -/
structure Exchange where
  http : Bool
  headers : List Header
  messages : List Message

/-- The id that the client sent: what stands in its first header of the name, unless that is empty. -/
def Exchange.id? (name : Text) (e : Exchange) : Option Text :=
  (header? name e.headers).filter (!·.isEmpty)

theorem sent?_eq {name : Text} (hname : ∀ c ∈ name, c.val < 128) (e : Exchange) :
    sent? name e.headers = e.id? name := by
  have hfind : e.headers.find? (carries name) = e.headers.find? fun x => sameName x.name name :=
    congrArg (List.find? · e.headers) (funext (carries_eq hname))
  rw [sent?, Exchange.id?, header?, hfind]
  cases e.headers.find? fun x => sameName x.name name with
  | none => rfl
  | some x => rcases x with ⟨_, _ | ⟨c, cs⟩⟩ <;> rfl

/-- A name of ASCII characters can be the name of a header. -/
theorem isSome_toLatin1? {t : Text} (h : ∀ c ∈ t, c.val < 128) : (Text.toLatin1? t).isSome = true := by
  induction t with
  | nil => rfl
  | cons c rest ih =>
    have hc : c.val < 256 := (h c List.mem_cons_self).trans (by decide)
    rw [Text.toLatin1?, dif_pos hc, Option.isSome_map]
    exact ih fun d hd => h d (List.mem_cons_of_mem _ hd)

/-- The messages of a request of HTTP are all stamped with the id that was chosen for it. -/
theorem pass_http {name : Text} (hname : ∀ c ∈ name, c.val < 128) (fresh : Names) (next : Nat)
    (headers : List Header) (messages : List Message) :
    pass ⟨name, next⟩ true headers messages fresh =
      .ok (messages.map (stamp name (choose ⟨name, next⟩ headers fresh).1),
        (choose ⟨name, next⟩ headers fresh).2) := by
  have hlower : ∀ c ∈ name.lower, c.val < 128 := by
    rw [Text.lower_ascii hname]
    intro c hc
    obtain ⟨d, hd, rfl⟩ := List.mem_map.1 hc
    have hlow := hname d hd
    rw [CodePoint.val_asciiLower]
    split <;> omega
  have hsome : (Text.toLatin1? name.lower).isNone = false := by
    rw [← Option.not_isSome, isSome_toLatin1? hlower]
    rfl
  rw [pass, Bool.not_true, if_neg Bool.false_ne_true, hsome, if_neg Bool.false_ne_true]

/-- What is sent for one request after the other, and the ids that were generated on the way: outside
HTTP everything passes unchanged, and a request of HTTP has the id that its client sent, or else one that
was generated for it. -/
inductive Passed (name : Text) : List Text → List Exchange → List (List Message) → Prop where
  | nil : Passed name [] [] []
  | outside {e : Exchange} {ids : List Text} {es : List Exchange} {outs : List (List Message)}
      (h : e.http = false) (later : Passed name ids es outs) :
      Passed name ids (e :: es) (e.messages :: outs)
  | sent {e : Exchange} {ids : List Text} {es : List Exchange} {out : List Message}
      {outs : List (List Message)} (h : e.http = true) {id : Text} (hid : e.id? name = some id)
      (hout : List.Forall₂ (Named name id) e.messages out) (later : Passed name ids es outs) :
      Passed name ids (e :: es) (out :: outs)
  | generated {e : Exchange} {ids : List Text} {es : List Exchange} {out : List Message}
      {outs : List (List Message)} (h : e.http = true) {id : Text} (hid : e.id? name = none)
      (hout : List.Forall₂ (Named name id) e.messages out) (later : Passed name ids es outs) :
      Passed name (id :: ids) (e :: es) (out :: outs)

/-- The messages of several requests, one after the other. -/
def passAll (fresh : Names) (name : Text) : Nat → List Exchange → Except ReplyError (List (List Message))
  | _, [] => .ok []
  | next, e :: es =>
    match pass ⟨name, next⟩ e.http e.headers e.messages fresh with
    | .error err => .error err
    | .ok (out, next) => (passAll fresh name next es).map (out :: ·)

theorem forall₂_stamp {name : Text} (hname : ∀ c ∈ name, c.val < 128) (id : Text)
    (messages : List Message) :
    List.Forall₂ (Named name id) messages (messages.map (stamp name id)) := by
  rw [List.forall₂_map_right_iff, List.forall₂_same]
  exact fun m _ => named_stamp hname id m

/-- All requests are served, and the generated ids are the next fresh ones in turn. -/
theorem exists_passed {name : Text} (hname : ∀ c ∈ name, c.val < 128) (fresh : Names) (next : Nat)
    (exchanges : List Exchange) :
    ∃ outs count, passAll fresh name next exchanges = .ok outs ∧
      Passed name ((List.range' next count).map fresh.name) exchanges outs := by
  induction exchanges generalizing next with
  | nil => exact ⟨[], 0, rfl, .nil⟩
  | cons e es ih =>
    cases hhttp : e.http with
    | false =>
      obtain ⟨outs, count, hall, hpassed⟩ := ih next
      refine ⟨e.messages :: outs, count, ?_, .outside hhttp hpassed⟩
      rw [passAll, hhttp, pass, Bool.not_false, if_pos rfl]
      simp only [hall]
      rfl
    | true =>
      cases hid : e.id? name with
      | some id =>
        obtain ⟨outs, count, hall, hpassed⟩ := ih next
        refine ⟨_ :: outs, count, ?_, .sent hhttp hid (forall₂_stamp hname id _) hpassed⟩
        rw [passAll, hhttp, pass_http hname, choose, sent?_eq hname, hid]
        simp only [hall]
        rfl
      | none =>
        obtain ⟨outs, count, hall, hpassed⟩ := ih (next + 1)
        refine ⟨_ :: outs, count + 1, ?_,
          .generated hhttp hid (forall₂_stamp hname (fresh.name next) _) hpassed⟩
        rw [passAll, hhttp, pass_http hname, choose, sent?_eq hname, hid]
        simp only [hall]
        rfl

/-- **Every reply carries the id of its request.** Whatever requests come one after the other, all are
served. Outside HTTP the messages pass unchanged. The messages of a request of HTTP pass in their order,
each unchanged unless it starts a reply that has no header of the name; then that header is added at the
end. It carries the id that the client sent first, if that is not empty, or else an id that was generated
for this request. The generated ids are the fresh ones in their order, and different from each other. -/
theorem replies_carry_ids {name : Text} (hname : ∀ c ∈ name, c.val < 128) (fresh : Names) (next : Nat)
    (exchanges : List Exchange) :
    ∃ outs ids, passAll fresh name next exchanges = .ok outs ∧ Passed name ids exchanges outs ∧
      ids.Nodup ∧ ids = (List.range' next ids.length).map fresh.name := by
  obtain ⟨outs, count, hall, hpassed⟩ := exists_passed hname fresh next exchanges
  refine ⟨outs, (List.range' next count).map fresh.name, hall, hpassed, ?_, ?_⟩
  · exact List.Nodup.map (fun _ _ h => fresh.injective h) List.nodup_range'
  · rw [List.length_map, List.length_range']

/-- A name for the header, in both cases. -/
def headerName : Text := "X-Request-Id"

/-- A client that names its request, twice and in any case, and one that sends an empty name. -/
def namedVisits : List Exchange :=
  [⟨true, [⟨"x-request-id", "a"⟩, ⟨"X-Request-Id", "b"⟩], [.start [] [], .other [], .start [] []]⟩,
    ⟨true, [⟨"X-REQUEST-ID", []⟩, ⟨"X-Request-Id", "b"⟩],
      [.start [⟨"x-request-ID", "own"⟩] [], .start [] []]⟩,
    ⟨false, [], [.start [] []]⟩, ⟨true, [], [.start [⟨"vary", "Origin"⟩] []]⟩]

/-- Their replies carry ids as they should. -/
theorem replies_carry_ids_mixed :
    (∀ c ∈ headerName, c.val < 128) ∧
    ∃ outs ids, passAll numbered headerName 1 namedVisits = .ok outs ∧
      Passed headerName ids namedVisits outs ∧
      ids.Nodup ∧ ids = (List.range' 1 ids.length).map numbered.name := by
  have hall : (headerName.all fun c => decide (c.val < 128)) = true := by decide +kernel
  have hname : ∀ c ∈ headerName, c.val < 128 := fun c hc =>
    of_decide_eq_true (List.all_eq_true.1 hall c hc)
  exact ⟨hname, replies_carry_ids hname numbered 1 namedVisits⟩

end Intake.RequestId
