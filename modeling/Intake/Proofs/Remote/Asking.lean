import Intake.Proofs.Json.Telling
import Intake.Remote.Client

/-!
# Asking for a record

A record is asked for by one request. Every service must be able to read what is in it, its path must have
a URL, and the name of the host must be one that can be read; else nothing is sent. What is answered names
a record id or does not, or does not arrive at all.

        fields ──▶ request ──▶ answer ──▶ record id
           │                     │  └──▶ no record id
           ▼                     ▼
        not sent           does not arrive
-/

namespace Intake

namespace Remote

/-- The answer comes from the remote service, or there is none in time. -/
def Answer.arrives : Answer → Bool
  | .broken => false
  | _ => true

/-- The record id that an answer names. -/
def Answer.recordId? : Answer → Option Text
  | .reply status body =>
    if 400 ≤ status then none else ((Json.readBody? body).bind Client.recordId?).map Value.display
  | _ => none

namespace Client

/-- An answer that arrives is understood as the record id that it names, or else as a refusal. -/
theorem understand_of_arrives {a : Answer} (h : a.arrives = true) :
    match a.recordId? with
    | some id => (understand a).bind recordIdOf = .ok id
    | none => ∃ refusal, (understand a).bind recordIdOf = .error (.refused refusal) := by
  cases a with
  | broken => cases h
  | unreachable reason => exact ⟨_, rfl⟩
  | reply status body =>
    rw [Answer.recordId?, understand]
    by_cases hstatus : 400 ≤ status
    · rw [if_pos hstatus, if_pos hstatus]
      exact ⟨_, rfl⟩
    · rw [if_neg hstatus, if_neg hstatus]
      cases Json.readBody? body with
      | none => exact ⟨_, rfl⟩
      | some v =>
        rw [Option.bind_some]
        change match (recordId? v).map Value.display with
          | some id => recordIdOf v = .ok id
          | none => ∃ refusal, recordIdOf v = .error (.refused refusal)
        rw [recordIdOf]
        cases recordId? v with
        | none => exact ⟨_, rfl⟩
        | some id => rfl

/-- The URL of a path, at a host whose name can be read. -/
def urlOf? (client : Client) (path : Text) : Option Http.Url :=
  (client.base.below path).toOption.filter fun url => (Http.Host.fault? url.host).isNone

/-- The request that creates a record. -/
def creating (client : Client) (url : Http.Url) (fields : Value) : Request :=
  ⟨.post, url.render, client.authorization, some (recordBody fields)⟩

/-- What is answered to the request that creates a record. There is no answer when the request cannot be
sent: every service must be able to read its fields, and its path must have a URL. -/
def heard? (client : Client) (path : Text) (fields : Value) (p : Peer) : Option Answer :=
  if fields.Plain then
    (client.urlOf? path).map fun url => (p.exchange (client.creating url fields)).1
  else none

theorem plain_recordBody {fields : Value} : (recordBody fields).Plain ↔ fields.Plain := by
  have hkeys : (["records", "fields"] : List Text).all Text.encodable = true := by decide
  simp only [List.all_cons, List.all_nil, Bool.and_true, Bool.and_eq_true] at hkeys
  simp [recordBody, hkeys]

/-- What can be sent is plain, and what cannot be is no refusal of the remote service. -/
theorem sendable_recordBody (fields : Value) :
    if fields.Plain then sendable (some (recordBody fields)) = .ok (some (recordBody fields))
    else ∃ e, sendable (some (recordBody fields)) = .error e ∧ ∀ refusal, e ≠ .refused refusal := by
  split
  · rename_i hplain
    rw [sendable, Value.renderable_of_plain (plain_recordBody.2 hplain)]
  · rename_i hplain
    rw [sendable]
    split
    · rename_i hrenderable
      exact absurd (plain_recordBody.1 (Value.isOk_renderable.1 (by rw [hrenderable]; rfl))) hplain
    · exact ⟨_, rfl, by simp⟩
    · exact ⟨_, rfl, by simp⟩

/-- What is answered to a request that can be sent is heard. -/
theorem heard?_of_exchange {client : Client} {path : Text} {url : Http.Url} {fields : Value} {p q : Peer}
    {answer : Answer} (hurl : client.urlOf? path = some url) (hplain : fields.Plain)
    (hexchange : p.exchange (client.creating url fields) = (answer, q)) :
    client.heard? path fields p = some answer := by
  rw [heard?, if_pos hplain, hurl, Option.map_some, hexchange]

/-- Creating a record sends one request and gives what is understood of the answer; or it sends nothing,
hears nothing and breaks off, and not because the remote service refused it. -/
theorem createRecord_cases (client : Client) (base table : Text) (fields : Value) (p : Peer) :
    (∃ e, client.createRecord base table fields p = (.error e, p) ∧ (∀ refusal, e ≠ .refused refusal) ∧
      ∀ path, recordsPath? base table = some path → client.heard? path fields p = none) ∨
    ∃ path url answer q, recordsPath? base table = some path ∧ client.urlOf? path = some url ∧
      fields.Plain ∧ p.exchange (client.creating url fields) = (answer, q) ∧
      client.createRecord base table fields p = ((understand answer).bind recordIdOf, q) := by
  cases hpath : recordsPath? base table with
  | none => exact .inl ⟨.notEncodable, by rw [createRecord, hpath], by simp, by simp⟩
  | some path =>
    have hsendable := sendable_recordBody fields
    simp only [heard?, urlOf?, createRecord, hpath, call, Option.some.injEq, forall_eq']
    cases hurl : client.base.below path with
    | error e =>
      refine .inl ?_
      cases e <;> exact ⟨_, rfl, by simp [ofUrlError], by simp [Except.toOption]⟩
    | ok url =>
      by_cases hplain : fields.Plain
      · rw [if_pos hplain] at hsendable
        cases hfault : Http.Host.fault? url.host with
        | none =>
          refine .inr ⟨path, url, (p.exchange (client.creating url fields)).1,
            (p.exchange (client.creating url fields)).2, rfl, ?_, hplain, rfl, ?_⟩
          · simp [hurl, hfault, Except.toOption]
          · simp only [hsendable, hfault]
            rfl
        | some f =>
          refine .inl ⟨.unreadableHost f, ?_, by simp, ?_⟩
          · simp only [hsendable, hfault]
            rfl
          · simp [hfault, Except.toOption]
      · rw [if_neg hplain] at hsendable
        obtain ⟨e, hsendable, he⟩ := hsendable
        refine .inl ⟨e, ?_, he, ?_⟩
        · simp only [hsendable]
          rfl
        · simp only [hplain, if_false]

end Client

/-- What is answered to the request that creates a record, if there is a client to send it. -/
def heard? (access : Access) (path : Text) (fields : Value) (p : Peer) : Option Answer :=
  (Client.ofAccess access).toOption.bind fun client => client.heard? path fields p

end Remote
end Intake
