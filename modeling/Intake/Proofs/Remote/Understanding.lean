import Intake.Proofs.Json.Members
import Intake.Proofs.Remote.Addressing

/-!
# Replies of any form

Anything can be answered to a call: any status, any octets, JSON of any form, or nothing in time. What is
no JSON value under a status below 400 is refused, and the refusal passes the status on. Of a JSON value
the two calls take a part: creating a record takes the id of the first record, and a refusal says that there
is none; listing tables takes whatever stands under their name.

                                 creating                     listing
        a text                   the id                       its code points
        an array                 its display                  its items
        null                     its display                  no tables
        a number other than 0    its display                  breaks off

So a call gives what it promises, or a refusal, exactly when the id is a text, and when the tables are an
array of objects or count as absent.
-/

namespace Intake.Remote

namespace Answer

/-- The JSON value of a reply that is no rejection. -/
def value? : Answer → Option Value
  | .reply status body => if 400 ≤ status then none else Json.readBody? body
  | _ => none

/-- The status of a reply that is a rejection or no JSON. -/
def faultStatus? : Answer → Option Nat
  | .reply status body => if 400 ≤ status ∨ (Json.readBody? body).isNone = true then some status else none
  | _ => none

@[simp] theorem value?_reply (status : Nat) (body : Octets) :
    (reply status body).value? = if 400 ≤ status then none else Json.readBody? body := rfl

/-- A reply with a value has no status to pass on. -/
theorem faultStatus?_of_value? {a : Answer} {v : Value} (h : a.value? = some v) :
    a.faultStatus? = none := by
  cases a with
  | reply status body =>
    rw [value?_reply] at h
    split at h
    · cases h
    · rename_i hstatus
      rw [faultStatus?, h]
      exact if_neg (by simp [hstatus])
  | _ => rfl

end Answer

namespace Client

/-- A call ends as it should: with a result that is right, or with a refusal that passes on the status of a
reply that is a rejection or no JSON, and no other. -/
inductive Copes {α : Type} (answer : Answer) (Right : α → Prop) : Except CallError α → Prop where
  | result (x : α) (h : Right x) : Copes answer Right (.ok x)
  | refusal (r : Refusal) (h : r.status = answer.faultStatus?) : Copes answer Right (.error (.refused r))

section Answers

variable {answer : Answer}

theorem understand_of_value? {v : Value} (h : answer.value? = some v) : understand answer = .ok v := by
  cases answer with
  | reply status body =>
    rw [Answer.value?_reply] at h
    rw [understand]
    split at h
    · cases h
    · rename_i hstatus
      rw [if_neg hstatus, h]
  | _ => cases h

/-- An answer without a value that arrives is refused with its status. -/
theorem understand_of_no_value? (harrives : answer.arrives = true) (h : answer.value? = none) :
    ∃ r, understand answer = .error (.refused r) ∧ r.status = answer.faultStatus? := by
  cases answer with
  | broken => cases harrives
  | unreachable reason => exact ⟨_, rfl, rfl⟩
  | reply status body =>
    rw [Answer.value?_reply] at h
    rw [understand, Answer.faultStatus?]
    by_cases hstatus : 400 ≤ status
    · rw [if_pos hstatus, if_pos (.inl hstatus)]
      exact ⟨_, rfl, rfl⟩
    · rw [if_neg hstatus] at h ⊢
      rw [h, if_pos (.inr rfl)]
      exact ⟨_, rfl, rfl⟩

/-! ### Creating a record -/

/-- The first record of the answer is named by a text. -/
def NamesRecord (answer : Answer) (id : Text) : Prop :=
  ∃ v, answer.value? = some v ∧ recordId? v = some (.str id)

/-- How the creation of a record ends, told by what was answered. -/
structure Creates (answer : Answer) (outcome : Except CallError Text) : Prop where
  /-- The result is the display of the id, whatever the id is. -/
  result : ∀ t, outcome = .ok t ↔ ∃ v id, answer.value? = some v ∧ recordId? v = some id ∧ id.display = t
  /-- Without a result there is a refusal. -/
  refusal : ∀ e, outcome = .error e → ∃ r, e = .refused r ∧ r.status = answer.faultStatus?
  /-- The call ends as it should exactly when the id, if there is one, is a text. -/
  copes_iff : Copes answer (NamesRecord answer) outcome ↔
    ∀ v id, answer.value? = some v → recordId? v = some id → ∃ t, id = .str t

theorem creates (harrives : answer.arrives = true) :
    Creates answer ((understand answer).bind recordIdOf) := by
  cases hvalue : answer.value? with
  | none =>
    obtain ⟨r, hunderstand, hstatus⟩ := understand_of_no_value? harrives hvalue
    rw [hunderstand]
    refine ⟨?_, ?_, ?_⟩
    · intro t
      simp [Except.bind, hvalue]
    · rintro _ ⟨⟩
      exact ⟨r, rfl, hstatus⟩
    · exact iff_of_true (.refusal r hstatus) (by simp [hvalue])
  | some v =>
    rw [understand_of_value? hvalue]
    change Creates answer (recordIdOf v)
    rw [recordIdOf]
    cases hid : recordId? v with
    | none =>
      have hstatus : none = answer.faultStatus? := (Answer.faultStatus?_of_value? hvalue).symm
      refine ⟨?_, ?_, ?_⟩
      · intro t
        simp [hvalue, hid]
      · rintro _ ⟨⟩
        exact ⟨_, rfl, hstatus⟩
      · refine iff_of_true (.refusal _ hstatus) ?_
        intro w id hw hname
        obtain rfl : v = w := Option.some.inj (hvalue.symm.trans hw)
        rw [hid] at hname
        cases hname
    | some id =>
      refine ⟨?_, ?_, ?_⟩
      · intro t
        simp [hvalue, hid]
      · rintro _ ⟨⟩
      · constructor
        · rintro (⟨_, hnames⟩ | _)
          intro w name hw hname
          obtain ⟨w', hw', htext⟩ := hnames
          obtain rfl : w = w' := Option.some.inj (hw.symm.trans hw')
          exact ⟨_, Option.some.inj (hname.symm.trans htext)⟩
        · intro htext
          obtain ⟨t, rfl⟩ := htext v id hvalue hid
          exact .result t ⟨v, hvalue, hid⟩

/-! ### Listing tables -/

/-- The tables of a reply count as absent, or are an array of objects. -/
def ListsObjects (reply : Value) : Prop :=
  (reply.member "tables").isFalsy = true ∨
    ∃ tables, reply.member "tables" = .arr tables ∧ ∀ table ∈ tables, ∃ ms : Members, table = .obj ms

/-- What can be gone through are objects exactly in an array of objects, or where nothing is gone through. -/
theorem forall_listedOrNone_iff {v : Value} {items : List Value} (h : v.listedOrNone = .ok items) :
    (∀ item ∈ items, ∃ ms : Members, item = .obj ms) ↔ v.isFalsy = true ∨
      ∃ tables, v = .arr tables ∧ ∀ table ∈ tables, ∃ ms : Members, table = .obj ms := by
  cases v with
  | arr vs =>
    cases h
    cases items <;> simp [Value.isFalsy]
  | obj ms =>
    cases h
    cases ms <;> simp [Value.isFalsy]
  | str t =>
    cases h
    cases t <;> simp [Value.isFalsy]
  | _ =>
    rw [Value.listedOrNone] at h
    simp only [Value.listed?] at h
    split at h
    · rename_i hfalsy
      cases h
      simp [hfalsy]
    · cases h

/-- What cannot be gone through is a number or yes. -/
theorem not_listsObjects_of_error {reply : Value} {m : Misuse}
    (h : (reply.member "tables").listedOrNone = .error m) : ¬ ListsObjects reply := by
  rintro (hfalsy | ⟨tables, htables, -⟩)
  · unfold Value.listedOrNone at h
    split at h
    · cases h
    · rw [if_pos hfalsy] at h
      cases h
  · rw [htables] at h
    cases h

/-- How the listing of tables ends, told by what was answered. -/
structure Lists (answer : Answer) (outcome : Except CallError (List Value)) : Prop where
  /-- The result is whatever can be gone through. -/
  result : ∀ tables, outcome = .ok tables ↔
    ∃ v, answer.value? = some v ∧ (v.member "tables").listedOrNone = .ok tables
  /-- Only what is no JSON value is refused. -/
  refusal : ∀ r, outcome = .error (.refused r) → answer.value? = none ∧ r.status = answer.faultStatus?
  /-- The call breaks off where the tables cannot be gone through. -/
  breaks : ∀ e, outcome = .error e → (∀ r, e ≠ .refused r) →
    e = .wrongKind ∧ ∃ v m, answer.value? = some v ∧ (v.member "tables").listedOrNone = .error m
  /-- The call ends as it should exactly when the tables, if there are any, are an array of objects. -/
  copes_iff : Copes answer (fun tables => ∀ table ∈ tables, ∃ ms : Members, table = .obj ms) outcome ↔
    ∀ v, answer.value? = some v → ListsObjects v

theorem lists (harrives : answer.arrives = true) :
    Lists answer ((understand answer).bind tablesOf) := by
  cases hvalue : answer.value? with
  | none =>
    obtain ⟨r, hunderstand, hstatus⟩ := understand_of_no_value? harrives hvalue
    rw [hunderstand]
    refine ⟨?_, ?_, ?_, ?_⟩
    · intro tables
      simp [Except.bind, hvalue]
    · rintro _ ⟨⟩
      exact ⟨hvalue, hstatus⟩
    · rintro _ ⟨⟩ hnot
      exact absurd rfl (hnot r)
    · exact iff_of_true (.refusal r hstatus) (by simp [hvalue])
  | some v =>
    rw [understand_of_value? hvalue]
    change Lists answer (tablesOf v)
    rw [tablesOf]
    cases hlisted : (v.member "tables").listedOrNone with
    | error m =>
      refine ⟨?_, ?_, ?_, ?_⟩
      · intro tables
        simp [hvalue, hlisted]
      · rintro _ ⟨⟩
      · rintro _ ⟨⟩ -
        exact ⟨rfl, v, m, hvalue, hlisted⟩
      · refine iff_of_false ?_ ?_
        · rintro ⟨⟩
        · intro hall
          exact not_listsObjects_of_error hlisted (hall v hvalue)
    | ok tables =>
      refine ⟨?_, ?_, ?_, ?_⟩
      · intro items
        simp [hvalue, hlisted]
      · rintro _ ⟨⟩
      · rintro _ ⟨⟩
      · rw [hvalue]
        constructor
        · rintro (⟨_, hobjects⟩ | _)
          rintro _ ⟨⟩
          exact (forall_listedOrNone_iff hlisted).1 hobjects
        · intro hall
          exact .result tables ((forall_listedOrNone_iff hlisted).2 (hall v rfl))

end Answers

/-! ### Calls -/

section Calls

variable (client : Client)

/-- The request that lists tables. -/
def listing (url : Http.Url) : Request := ⟨.get, url.render, client.authorization, none⟩

/-- What is answered to the request that lists tables, if its path has a URL. -/
def heardTables? (path : Text) (p : Peer) : Option Answer :=
  (client.urlOf? path).map fun url => (p.exchange (client.listing url)).1

variable {client} {base table path : Text} {fields : Value} {p : Peer} {answer : Answer}

/-- What is created is understood of what is heard. -/
theorem createRecord_of_heard? (hpath : recordsPath? base table = some path)
    (hheard : client.heard? path fields p = some answer) :
    (client.createRecord base table fields p).1 = (understand answer).bind recordIdOf := by
  rcases client.createRecord_cases base table fields p with ⟨e, -, -, hunheard⟩ |
    ⟨path', url, answer', q, hpath', hurl, hplain, hexchange, hresult⟩
  · rw [hunheard path hpath] at hheard
    cases hheard
  · obtain rfl : path = path' := Option.some.inj (hpath.symm.trans hpath')
    have hanswer := heard?_of_exchange hurl hplain hexchange
    obtain rfl : answer = answer' := Option.some.inj (hheard.symm.trans hanswer)
    rw [hresult]

theorem listTables_of_heardTables? (hpath : tablesPath? base = some path)
    (hheard : client.heardTables? path p = some answer) :
    (client.listTables base p).1 = (understand answer).bind tablesOf := by
  obtain ⟨url, hurl, rfl⟩ := Option.map_eq_some_iff.1 hheard
  obtain ⟨hbelow, hhost⟩ := Option.filter_eq_some_iff.1 hurl
  simp only [listTables, hpath, call]
  cases hresult : client.base.below path with
  | error e =>
    rw [hresult] at hbelow
    cases hbelow
  | ok url' =>
    rw [hresult] at hbelow
    obtain rfl : url' = url := Option.some.inj hbelow
    rw [Option.isNone_iff_eq_none] at hhost
    simp only [sendable, hhost]
    rfl

/-- **Replies of any form.** Whatever is answered to a request that can be sent, short of a breakdown on this
side: creating a record gives the display of the id in the answer or a refusal, and copes with the answer
exactly when the id, if there is one, is a text. Listing tables gives what can be gone through in the answer,
a refusal, or breaks off, and copes with it exactly when the tables are absent or an array of objects. -/
theorem replies_coped_with_iff (hpath : recordsPath? base table = some path)
    (hheard : client.heard? path fields p = some answer) (harrives : answer.arrives = true)
    {base' path' : Text} {q : Peer} {listed : Answer} (hpath' : tablesPath? base' = some path')
    (hheard' : client.heardTables? path' q = some listed) (harrives' : listed.arrives = true) :
    Creates answer (client.createRecord base table fields p).1 ∧
      Lists listed (client.listTables base' q).1 := by
  rw [createRecord_of_heard? hpath hheard, listTables_of_heardTables? hpath' hheard']
  exact ⟨creates harrives, lists harrives'⟩

end Calls

/-- A remote service that replies once, with a value. -/
def replying (v : Value) : Peer := { Peer.fresh with script := [.reply 200 (Peer.octetsOf v)] }

/-- A first record whose id is null. -/
def nameless : Value := .obj [("records", .arr [.obj [("id", .null)]])]

/-- Tables that are a number. -/
def countedTables : Value := .obj [("tables", .int 5)]

theorem heard?_nameless : tried.heard? "/v0/app1/T" (.obj []) (replying nameless) =
    some (.reply 200 (Peer.octetsOf nameless)) := rfl

theorem heardTables?_countedTables :
    tried.heardTables? "/v0/meta/bases/app1/tables" (replying countedTables) =
      some (.reply 200 (Peer.octetsOf countedTables)) := rfl

/-- The id is read as null, which is no text. -/
theorem recordId?_nameless : ∃ v id, (Answer.reply 200 (Peer.octetsOf nameless)).value? = some v ∧
    recordId? v = some id ∧ id.isNull = true := by
  have h : (((Answer.reply 200 (Peer.octetsOf nameless)).value?.bind recordId?).map Value.isNull) =
      some true := by decide +kernel
  obtain ⟨id, hbind, hnull⟩ := Option.map_eq_some_iff.1 h
  obtain ⟨v, hvalue, hid⟩ := Option.bind_eq_some_iff.1 hbind
  exact ⟨v, id, hvalue, hid, hnull⟩

/-- The tables are read as a number, which cannot be gone through. -/
theorem listedOrNone_countedTables : ∃ v m,
    (Answer.reply 200 (Peer.octetsOf countedTables)).value? = some v ∧
      (v.member "tables").listedOrNone = .error m := by
  have h : ((Answer.reply 200 (Peer.octetsOf countedTables)).value?.map fun v =>
      (v.member "tables").listedOrNone.isOk) = some false := by decide +kernel
  obtain ⟨v, hvalue, hfails⟩ := Option.map_eq_some_iff.1 h
  cases hlisted : (v.member "tables").listedOrNone with
  | error m => exact ⟨v, m, hvalue, hlisted⟩
  | ok tables =>
    rw [hlisted] at hfails
    cases hfails

/-- An id that is null, and tables that are a number. -/
theorem replies_coped_with_iff_oddities :
    recordsPath? "app1" "T" = some "/v0/app1/T" ∧
    tried.heard? "/v0/app1/T" (.obj []) (replying nameless) =
      some (.reply 200 (Peer.octetsOf nameless)) ∧
    tablesPath? "app1" = some "/v0/meta/bases/app1/tables" ∧
    tried.heardTables? "/v0/meta/bases/app1/tables" (replying countedTables) =
      some (.reply 200 (Peer.octetsOf countedTables)) ∧
    Creates (.reply 200 (Peer.octetsOf nameless))
      (tried.createRecord "app1" "T" (.obj []) (replying nameless)).1 ∧
    Lists (.reply 200 (Peer.octetsOf countedTables))
      (tried.listTables "app1" (replying countedTables)).1 :=
  ⟨rfl, heard?_nameless, rfl, heardTables?_countedTables,
    replies_coped_with_iff rfl heard?_nameless rfl rfl heardTables?_countedTables rfl⟩

/-- Null for an id is given as a text, and with a number for the tables the call breaks off: neither call
copes with every reply. -/
theorem replies_not_coped_with :
    (¬ ∀ (client : Client) (base table path : Text) (fields : Value) (p : Peer) (answer : Answer),
      recordsPath? base table = some path → client.heard? path fields p = some answer →
      answer.arrives = true →
      Copes answer (NamesRecord answer) (client.createRecord base table fields p).1) ∧
    ¬ ∀ (client : Client) (base path : Text) (p : Peer) (answer : Answer),
      tablesPath? base = some path → client.heardTables? path p = some answer → answer.arrives = true →
      Copes answer (fun tables => ∀ table ∈ tables, ∃ ms : Members, table = .obj ms)
        (client.listTables base p).1 := by
  refine ⟨fun hclaim => ?_, fun hclaim => ?_⟩
  · have hcopes := hclaim tried "app1" "T" "/v0/app1/T" (.obj []) (replying nameless) _ rfl
      heard?_nameless rfl
    rw [createRecord_of_heard? rfl heard?_nameless] at hcopes
    obtain ⟨v, id, hvalue, hid, hnull⟩ := recordId?_nameless
    obtain ⟨t, rfl⟩ := (creates rfl).copes_iff.1 hcopes v id hvalue hid
    cases hnull
  · have hcopes := hclaim tried "app1" "/v0/meta/bases/app1/tables" (replying countedTables) _ rfl
      heardTables?_countedTables rfl
    rw [listTables_of_heardTables? rfl heardTables?_countedTables] at hcopes
    obtain ⟨v, m, hvalue, hlisted⟩ := listedOrNone_countedTables
    exact not_listsObjects_of_error hlisted ((lists rfl).copes_iff.1 hcopes v hvalue)

end Client
end Intake.Remote
