import Intake.Proofs.Http.Normal
import Intake.Proofs.Remote.Asking

/-!
# Addresses of tables

The records of a table lie below the start of the URLs, in a segment that stands for the base and one that
stands for the table. The segments are written in percent coding, so no name can end one early. But the
names `.` and `..` are written as they are, and are carried out as dot segments when the URL is normalised.
They lead to another place of the same server. All other names lead to a place of their own.

        a/b, 50 %   ──▶   …/v0/a%2Fb/50%20%25
        .., T       ──▶   …/T
-/

namespace Intake.Remote

open Http Http.Url

/-- A segment of a path stands for a text: it ends neither itself nor the path, and is read as the text. -/
structure Stands (segment text : Text) : Prop where
  slash : 47 ∉ segment
  question : 63 ∉ segment
  hash : 35 ∉ segment
  reads : Percent.decode? segment = some text

/-- What follows the start of the URLs in the path of the records of a table. -/
def recordsTail (b t : Text) : Text := ("v0/" : Text) ++ b ++ 47 :: t

/-- The URL is that of the records of a table: the start of the URLs, and behind it the segment `v0`, one
that stands for the base and one that stands for the table. -/
structure Addresses (api : Url) (base table : Text) (url : Url) : Prop where
  server : SameServer api url
  query : url.query = none
  fragment : url.fragment = api.fragment
  path : ∃ b t, Stands b base ∧ Stands t table ∧ url.path = api.folder ++ recordsTail b t

/-- The URL at which a client creates the records of a table. -/
def Client.recordUrl? (client : Client) (base table : Text) : Option Url :=
  (Client.recordsPath? base table).bind client.urlOf?

/-! ### Segments -/

/-- The segment that is written for a text. -/
def segmentOf (text : Text) : Text := Percent.encodeOctets (Utf8.encode text)

theorem isPath_of_mem_segmentOf {text : Text} {c : CodePoint} (h : c ∈ segmentOf text) :
    isPath c = true :=
  isPath_of_isWritten c (Percent.isWritten_of_mem h)

theorem slash_not_mem_segmentOf (text : Text) : 47 ∉ segmentOf text := fun h =>
  absurd (Percent.isWritten_of_mem h) (by decide)

/-- What is written for a text stands for it. -/
theorem stands_segmentOf {text : Text} (h : text.encodable = true) : Stands (segmentOf text) text where
  slash := slash_not_mem_segmentOf text
  question hmem := absurd (Percent.isWritten_of_mem hmem) (by decide)
  hash hmem := absurd (Percent.isWritten_of_mem hmem) (by decide)
  reads := Percent.decode?_encodeOctets h

theorem segmentOf_inj {text other : Text} (h : text.encodable = true) (hother : other.encodable = true)
    (heq : segmentOf text = segmentOf other) : text = other := by
  have hreads := (stands_segmentOf h).reads
  rw [heq, (stands_segmentOf hother).reads] at hreads
  exact (Option.some.inj hreads).symm

/-- The dot segments are written for themselves only. -/
theorem isDots_segmentOf {text : Text} (h : text.encodable = true) :
    IsDots (segmentOf text) ↔ IsDots text := by
  have hone : segmentOf "." = "." := by decide
  have htwo : segmentOf ".." = ".." := by decide
  constructor
  · rintro (hdots | hdots)
    · exact .inl (segmentOf_inj h (by decide) (hdots.trans hone.symm))
    · exact .inr (segmentOf_inj h (by decide) (hdots.trans htwo.symm))
  · rintro (rfl | rfl)
    · exact .inl hone
    · exact .inr htwo

theorem isPath_of_mem_recordsTail {base table : Text} {c : CodePoint}
    (h : c ∈ recordsTail (segmentOf base) (segmentOf table)) : isPath c = true := by
  have hv : ∀ d ∈ ("v0/" : Text), isPath d = true := List.all_eq_true.1 (by decide)
  rw [recordsTail, List.mem_append, List.mem_append, List.mem_cons] at h
  rcases h with (hc | hc) | rfl | hc
  · exact hv c hc
  · exact isPath_of_mem_segmentOf hc
  · rfl
  · exact isPath_of_mem_segmentOf hc

/-! ### Paths -/

/-- Behind a folder three more segments begin. -/
theorem pieces_recordsTail {b t : Text} (hb : 47 ∉ b) (ht : 47 ∉ t) (front : Text) :
    Text.pieces 47 (front ++ [47] ++ recordsTail b t) = Text.pieces 47 front ++ [("v0" : Text), b, t] := by
  have hv : 47 ∉ ("v0" : Text) := by decide
  have hwhole : front ++ [47] ++ recordsTail b t =
      front ++ 47 :: (("v0" : Text) ++ 47 :: (b ++ 47 :: t)) := by
    rw [recordsTail, List.append_assoc, List.append_assoc]
    rfl
  rw [hwhole, Text.pieces_append, Text.pieces_append, Text.pieces_append, Text.pieces_of_not_mem hv,
    Text.pieces_of_not_mem hb, Text.pieces_of_not_mem ht]
  rfl

section Target

variable {api : Url} (hapi : api.Settled) (base table : Text)

include hapi

/-- No code point of the path needs to be escaped. -/
theorem isPath_of_mem_target {c : CodePoint}
    (h : c ∈ api.folder ++ recordsTail (segmentOf base) (segmentOf table)) : isPath c = true := by
  exact (List.mem_append.1 h).elim hapi.isPath_of_mem_folder isPath_of_mem_recordsTail

theorem question_not_mem_target :
    63 ∉ api.folder ++ recordsTail (segmentOf base) (segmentOf table) := fun h =>
  absurd (isPath_of_mem_target hapi base table h) (by decide)

/-- Where neither name is a dot segment, the path is normalised as it is. -/
theorem path_of_not_isDots (hbase : ¬IsDots (segmentOf base)) (htable : ¬IsDots (segmentOf table)) :
    Percent.escape isPath (plainPath (api.folder ++ recordsTail (segmentOf base) (segmentOf table))) =
      api.folder ++ recordsTail (segmentOf base) (segmentOf table) := by
  have hstraight : Straight (api.folder ++ recordsTail (segmentOf base) (segmentOf table)) := by
    obtain ⟨front, hfolder, hfront, -⟩ := hapi.folder_eq
    have hv : ¬IsDots ("v0" : Text) := by
      rintro (h | h) <;> exact absurd h (by decide)
    intro p hp
    rw [hfolder, pieces_recordsTail (slash_not_mem_segmentOf base) (slash_not_mem_segmentOf table),
      List.mem_append] at hp
    simp only [List.mem_cons, List.not_mem_nil, or_false] at hp
    rcases hp with hp | rfl | rfl | rfl
    · exact hfront p hp
    · exact hv
    · exact hbase
    · exact htable
  rw [plainPath_of_straight hstraight]
  exact Percent.escape_of_all fun _ => isPath_of_mem_target hapi base table

/-- Where a name is a dot segment, a segment is missing. -/
theorem path_of_isDots (h : IsDots (segmentOf base) ∨ IsDots (segmentOf table)) {b t : Text}
    (hb : 47 ∉ b) (ht : 47 ∉ t) :
    Percent.escape isPath (plainPath (api.folder ++ recordsTail (segmentOf base) (segmentOf table))) ≠
      api.folder ++ recordsTail b t := by
  obtain ⟨front, hfolder, -, -⟩ := hapi.folder_eq
  have hpieces := pieces_recordsTail (slash_not_mem_segmentOf base) (slash_not_mem_segmentOf table) front
  have hdots : ¬Straight (front ++ [47] ++ recordsTail (segmentOf base) (segmentOf table)) := by
    intro hstraight
    rcases h with h | h
    · exact hstraight _ (by rw [hpieces]; simp) h
    · exact hstraight _ (by rw [hpieces]; simp) h
  have hslash : 47 ∈ front ++ [47] ++ recordsTail (segmentOf base) (segmentOf table) := by simp
  intro heq
  rw [hfolder] at heq
  have hfewer := count_plainPath hdots hslash
  have hcount := congrArg (List.count 47) heq
  have hsame := congrArg List.length (pieces_recordsTail hb ht front)
  have hlength := congrArg List.length hpieces
  rw [Text.length_pieces, List.length_append] at hsame hlength
  rw [count_escape] at hcount
  simp only [List.length_cons, List.length_nil] at hsame hlength
  omega

end Target

/-! ### What a client sends to -/

theorem recordsPath?_eq (base table : Text) : Client.recordsPath? base table =
    if base.encodable ∧ table.encodable then
      some (("/v0/" : Text) ++ segmentOf base ++ 47 :: segmentOf table) else none := by
  have hencode : ∀ t : Text, Percent.encode? t = if t.encodable then some (segmentOf t) else none := by
    intro t
    rw [Percent.encode?, Utf8.encode?]
    split <;> rfl
  rw [Client.recordsPath?, hencode, hencode]
  cases base.encodable <;> cases table.encodable <;> rfl

/-- A path has a URL when its target has one, at a host that can be read. -/
theorem urlOf?_eq_some_iff {client : Client} {path : Text} {url : Url} :
    client.urlOf? path = some url ↔ acceptable path = true ∧
      client.base.withTarget (client.base.target ++ path.dropWhile (· == 47)) = .ok url ∧
      (Host.fault? url.host).isNone = true := by
  have hok : (client.base.below path).toOption = some url ↔ acceptable path = true ∧
      client.base.withTarget (client.base.target ++ path.dropWhile (· == 47)) = .ok url := by
    rw [below]
    cases acceptable path with
    | false => simp [Except.toOption]
    | true =>
      cases client.base.withTarget (client.base.target ++ path.dropWhile (· == 47)) with
      | error e => simp [Except.toOption]
      | ok made => simp [Except.toOption]
  rw [Client.urlOf?, Option.filter_eq_some_iff, hok, and_assoc]

/-- Where the records of a table have a URL, it is the base of the client with another target. -/
theorem recordUrl?_eq_some_iff {client : Client} {base table : Text} {url : Url}
    (hbase : base.encodable = true) (htable : table.encodable = true) :
    client.recordUrl? base table = some url ↔
      acceptable (47 :: recordsTail (segmentOf base) (segmentOf table)) = true ∧
      client.base.withTarget (client.base.target ++ recordsTail (segmentOf base) (segmentOf table)) =
        .ok url ∧
      (Host.fault? url.host).isNone = true := by
  rw [Client.recordUrl?, recordsPath?_eq, if_pos ⟨hbase, htable⟩, Option.bind_some, urlOf?_eq_some_iff]
  rfl

section Client

variable {access : Access} {api : Url} {client : Client} (hread : Url.read access.url = .ok api)
variable (hclient : Client.ofAccess access = .ok client)

include hread hclient

/-- A client is based at the start of the URLs. -/
theorem asBase_of_ofAccess : api.asBase = .ok client.base := by
  unfold Client.ofAccess at hclient
  rw [hread] at hclient
  simp only at hclient
  split at hclient
  · cases hclient
  · rename_i base hbase
    split at hclient
    · cases hclient
    · cases hclient
      exact hbase

/-- The URL of the records of a table is at the server of the start of the URLs. Without a query there its
path is the folder and the three segments, normalised; a query there takes them in. -/
theorem of_recordUrl? {base table : Text} {url : Url} (hbase : base.encodable = true)
    (htable : table.encodable = true) (h : client.recordUrl? base table = some url) :
    SameServer api url ∧ url.fragment = api.fragment ∧ (api.query ≠ none → url.query ≠ none) ∧
      (api.query = none → url.query = none ∧ url.path = Percent.escape isPath (plainPath
        (api.folder ++ recordsTail (segmentOf base) (segmentOf table)))) := by
  have hapi := settled_of_read hread
  obtain ⟨hserver, hsettled, hfragment, htarget, hquery⟩ :=
    hapi.of_asBase (asBase_of_ofAccess hread hclient)
  obtain ⟨-, hurl, -⟩ := (recordUrl?_eq_some_iff hbase htable).1 h
  obtain ⟨hsame, -, hpath, hurlQuery, hurlFragment⟩ := hsettled.of_withTarget hurl
  refine ⟨hserver.trans hsame, hurlFragment.trans hfragment, fun hsome => ?_, fun hnone => ?_⟩
  · obtain ⟨q, hq⟩ := Option.ne_none_iff_exists'.1 (hquery hsome)
    rw [target_of_query hq, List.append_assoc, List.cons_append,
      Text.cut_append hsettled.question_not_mem] at hurlQuery
    rw [hurlQuery]
    exact Option.some_ne_none _
  · rw [htarget hnone, Text.cut_of_not_mem (question_not_mem_target hapi base table)] at hpath hurlQuery
    exact ⟨hurlQuery, hpath⟩

/-- The URL is that of the table, unless the start of the URLs has a query or a name is a dot segment. -/
theorem addresses_iff {base table : Text} {url : Url} (hbase : base.encodable = true)
    (htable : table.encodable = true) (h : client.recordUrl? base table = some url) :
    Addresses api base table url ↔ api.query = none ∧ ¬IsDots base ∧ ¬IsDots table := by
  have hapi := settled_of_read hread
  obtain ⟨hserver, hfragment, hquery, hplace⟩ := of_recordUrl? hread hclient hbase htable h
  rw [← isDots_segmentOf hbase, ← isDots_segmentOf htable, ← not_or]
  constructor
  · intro haddresses
    have hnone : api.query = none := by
      by_contra hsome
      exact hquery hsome haddresses.query
    refine ⟨hnone, fun hdots => ?_⟩
    obtain ⟨b, t, hb, ht, hpath⟩ := haddresses.path
    rw [(hplace hnone).2] at hpath
    exact path_of_isDots hapi base table hdots hb.slash ht.slash hpath
  · rintro ⟨hnone, hplain⟩
    obtain ⟨hurlQuery, hpath⟩ := hplace hnone
    rw [not_or] at hplain
    rw [path_of_not_isDots hapi base table hplain.1 hplain.2] at hpath
    exact ⟨hserver, hurlQuery, hfragment, _, _, stands_segmentOf hbase, stands_segmentOf htable, hpath⟩

/-- Without a query at the start of the URLs paths are put behind its folder. -/
theorem target_of_ofAccess (hnone : api.query = none) : client.base.target = api.folder := by
  obtain ⟨-, -, -, htarget, -⟩ :=
    (settled_of_read hread).of_asBase (asBase_of_ofAccess hread hclient)
  exact htarget hnone

/-- Without a query at the start of the URLs every table has a URL, unless the client has none at all or
the names are too long. -/
theorem isSome_recordUrl? {base table : Text} (hbase : base.encodable = true)
    (htable : table.encodable = true) (hnone : api.query = none) :
    (client.recordUrl? base table).isSome = true ↔ (client.urlOf? []).isSome = true ∧
      (api.folder ++ recordsTail (segmentOf base) (segmentOf table)).length ≤ maxLength := by
  have hapi := settled_of_read hread
  have htarget := target_of_ofAccess hread hclient hnone
  have hhead := hapi.head?_folder (recordsTail (segmentOf base) (segmentOf table))
  have hquestion := question_not_mem_target hapi base table
  simp only [Option.isSome_iff_exists, recordUrl?_eq_some_iff hbase htable, urlOf?_eq_some_iff, htarget]
  rw [List.dropWhile_nil, List.append_nil]
  constructor
  · rintro ⟨url, -, hmade, hfault⟩
    have hlength := length_of_withTarget hmade hquestion
    have hshorter : api.folder.length ≤ maxLength := by
      rw [List.length_append] at hlength
      omega
    obtain ⟨root, hroot, hhost⟩ := exists_withTarget hmade hquestion
      (fun _ => hapi.isPath_of_mem_folder) hhead.symm hshorter
    exact ⟨⟨root, rfl, hroot, hhost ▸ hfault⟩, hlength⟩
  · rintro ⟨⟨root, -, hmade, hfault⟩, hlength⟩
    obtain ⟨url, hurl, hhost⟩ := exists_withTarget hmade hapi.question_not_mem_folder
      (fun _ => isPath_of_mem_target hapi base table) hhead hlength
    have htail : (47 :: recordsTail (segmentOf base) (segmentOf table)).length ≤ maxLength := by
      obtain ⟨front, heq, -, -⟩ := hapi.folder_eq
      simp only [heq, List.length_append, List.length_cons, List.length_nil] at hlength ⊢
      omega
    have hpath : ∀ c ∈ (47 :: recordsTail (segmentOf base) (segmentOf table) : Text), isPath c = true :=
      List.forall_mem_cons.2 ⟨rfl, fun _ => isPath_of_mem_recordsTail⟩
    exact ⟨url, (acceptable_iff hpath).2 htail, hurl, hhost ▸ hfault⟩

/-- A table whose names are no dot segments shares its URL with no other table. -/
theorem eq_of_render {base table base' table' : Text} {url url' : Url} (hbase : base.encodable = true)
    (htable : table.encodable = true) (hbase' : base'.encodable = true)
    (htable' : table'.encodable = true) (hnone : api.query = none) (hplain : ¬IsDots base ∧ ¬IsDots table)
    (h : client.recordUrl? base table = some url) (h' : client.recordUrl? base' table' = some url')
    (hrender : url'.render = url.render) : base' = base ∧ table' = table := by
  have hapi := settled_of_read hread
  obtain ⟨-, hmade, -⟩ := (recordUrl?_eq_some_iff hbase htable).1 h
  obtain ⟨-, hmade', -⟩ := (recordUrl?_eq_some_iff hbase' htable').1 h'
  rw [target_of_ofAccess hread hclient hnone] at hmade hmade'
  have hlength := length_of_withTarget hmade' (question_not_mem_target hapi base' table')
  have hhead := (hapi.head?_folder (recordsTail (segmentOf base') (segmentOf table'))).trans
    (hapi.head?_folder (recordsTail (segmentOf base) (segmentOf table))).symm
  have hsame := withTarget_of_withTarget hmade (question_not_mem_target hapi base table)
    (fun _ => isPath_of_mem_target hapi base' table') hhead hlength
  rw [hmade'] at hsame
  rw [Except.ok.inj hsame] at hrender
  have hpath := path_of_render hrender
  obtain ⟨-, -, -, hplace⟩ := of_recordUrl? hread hclient hbase htable h
  rw [← isDots_segmentOf hbase, ← isDots_segmentOf htable] at hplain
  rw [(hplace hnone).2, path_of_not_isDots hapi base table hplain.1 hplain.2] at hpath
  by_cases hdots : IsDots (segmentOf base') ∨ IsDots (segmentOf table')
  · exact absurd hpath (path_of_isDots hapi base' table' hdots (slash_not_mem_segmentOf base)
      (slash_not_mem_segmentOf table))
  · rw [not_or] at hdots
    rw [path_of_not_isDots hapi base' table' hdots.1 hdots.2] at hpath
    have htail := List.append_cancel_left hpath
    rw [recordsTail, recordsTail, List.append_assoc, List.append_assoc] at htail
    have hcut := congrArg (Text.cut 47) (List.append_cancel_left htail)
    rw [Text.cut_append (slash_not_mem_segmentOf base'), Text.cut_append (slash_not_mem_segmentOf base)]
      at hcut
    obtain ⟨hb, ht⟩ := Prod.ext_iff.1 hcut
    exact ⟨segmentOf_inj hbase' hbase hb, segmentOf_inj htable' htable (Option.some.inj ht)⟩

end Client

/-- What is sent to create a record: one request to the URL of the table, or nothing. -/
theorem sent_createRecord (client : Client) (base table : Text) (fields : Value) (p : Peer) :
    (client.createRecord base table fields p).2.sent = p.sent ++
      if fields.Plain then
        ((client.recordUrl? base table).map fun url => client.creating url fields).toList
      else [] := by
  rcases client.createRecord_cases base table fields p with ⟨e, hresult, -, hunheard⟩ |
    ⟨path, url, answer, q, hpath, hurl, hplain, hexchange, hresult⟩
  · rw [hresult]
    by_cases hplain : fields.Plain
    · have hnone : client.recordUrl? base table = none := by
        rw [Client.recordUrl?]
        cases hpath : Client.recordsPath? base table with
        | none => rfl
        | some path =>
          have hheard := hunheard path hpath
          rw [Client.heard?, if_pos hplain, Option.map_eq_none_iff] at hheard
          exact hheard
      rw [hnone, if_pos hplain]
      exact (List.append_nil _).symm
    · rw [if_neg hplain, List.append_nil]
  · have hsent := Peer.sent_exchange (client.creating url fields) p
    rw [hexchange] at hsent
    rw [hresult, if_pos hplain, Client.recordUrl?, hpath, Option.bind_some, hurl]
    exact hsent

/-! ### Tables and their URLs -/

/-- How the URLs at which a client creates records identify a table of a base. -/
structure Identifies (api : Url) (client : Client) (base table : Text) : Prop where
  /-- One request goes to the URL of the table, or nothing is sent. -/
  sent : ∀ fields p, (client.createRecord base table fields p).2.sent = p.sent ++
    if fields.Plain then
      ((client.recordUrl? base table).map fun url => client.creating url fields).toList
    else []
  /-- The URL is that of the table exactly when no query takes it in and no name is a dot segment. -/
  addressed : ∀ url, client.recordUrl? base table = some url →
    (Addresses api base table url ↔ api.query = none ∧ ¬IsDots base ∧ ¬IsDots table)
  /-- There is a URL if the client has any and if the names are not too long. -/
  reached : api.query = none → ((client.recordUrl? base table).isSome = true ↔
    (client.urlOf? []).isSome = true ∧
      (api.folder ++ recordsTail (segmentOf base) (segmentOf table)).length ≤ maxLength)
  /-- No other table has the same URL, if the URL is that of the table. -/
  apart : ∀ url base' table' url', client.recordUrl? base table = some url →
    Addresses api base table url → base'.encodable = true → table'.encodable = true →
    client.recordUrl? base' table' = some url' → url'.render = url.render →
    base' = base ∧ table' = table

/-- **URLs and tables.** For every start of the URLs that can be read, and all names without lone surrogates:
the request that creates a record goes to the start of the URLs, the segment `v0` and the two segments that
stand for base and table, exactly when the start has no query and neither name is a dot segment. Then no
other table shares the URL. -/
theorem record_urls_identify_tables_iff {access : Access} {api : Url} {client : Client}
    (hread : Url.read access.url = .ok api) (hclient : Client.ofAccess access = .ok client)
    {base table : Text} (hbase : base.encodable = true) (htable : table.encodable = true) :
    Identifies api client base table where
  sent := sent_createRecord client base table
  addressed _ := addresses_iff hread hclient hbase htable
  reached := isSome_recordUrl? hread hclient hbase htable
  apart url base' table' url' h haddresses hbase' htable' h' hrender := by
    obtain ⟨hnone, hplain⟩ := (addresses_iff hread hclient hbase htable h).1 haddresses
    exact eq_of_render hread hclient hbase htable hbase' htable' hnone hplain h h' hrender

/-- An access with a token. -/
def Access.tried : Access := ⟨"https://airtable.test", some "pat_test", Binary64.ofInt 10⟩

/-- A URL at the server of that access. -/
def urlAt (path : Text) : Url := ⟨"https", [], "airtable.test", none, path, none, none⟩

/-- The client for that access. -/
def Client.tried : Client := ⟨urlAt [], some "Bearer pat_test", true⟩

theorem read_tried : Url.read Access.tried.url = .ok (urlAt []) := rfl

theorem ofAccess_tried : Client.ofAccess Access.tried = .ok Client.tried := rfl

/-- Slashes, question marks and percent signs stay inside their segments. -/
theorem record_urls_identify_tables_iff_marks :
    Url.read Access.tried.url = .ok (urlAt []) ∧ Client.ofAccess Access.tried = .ok Client.tried ∧
    Text.encodable "a/../b" = true ∧ Text.encodable "50%?" = true ∧
    Identifies (urlAt []) Client.tried "a/../b" "50%?" ∧
    Client.tried.recordUrl? "a/../b" "50%?" = some (urlAt "/v0/a%2F..%2Fb/50%25%3F") := by
  have hbase : Text.encodable "a/../b" = true := by decide
  have htable : Text.encodable "50%?" = true := by decide
  exact ⟨read_tried, ofAccess_tried, hbase, htable,
    record_urls_identify_tables_iff read_tried ofAccess_tried hbase htable, by decide +kernel⟩

/-- A base whose name is a dot segment is not addressed: the request leaves the path of all bases. -/
theorem record_urls_not_identify_tables :
    ¬ ∀ (access : Access) (api : Url) (client : Client) (base table : Text) (url : Url),
      Url.read access.url = .ok api → Client.ofAccess access = .ok client → base ≠ [] → table ≠ [] →
      base.encodable = true → table.encodable = true → client.recordUrl? base table = some url →
      Addresses api base table url := by
  intro hclaim
  have hurl : Client.tried.recordUrl? ".." "T" = some (urlAt "/T") := by decide +kernel
  have hbase : Text.encodable ".." = true := by decide
  have htable : Text.encodable "T" = true := by decide
  have haddresses := hclaim Access.tried (urlAt []) Client.tried ".." "T" (urlAt "/T") read_tried
    ofAccess_tried (by decide) (by decide) hbase htable hurl
  obtain ⟨-, hdots, -⟩ := (addresses_iff read_tried ofAccess_tried hbase htable hurl).1 haddresses
  exact hdots (.inr rfl)

end Intake.Remote
