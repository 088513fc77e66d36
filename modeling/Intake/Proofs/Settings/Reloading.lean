import Intake.Proofs.Json.Halves
import Intake.Proofs.Json.Line
import Intake.Proofs.Json.RoundTrip
import Intake.Proofs.Settings.Precedence
import Intake.Proofs.Text.Percent

/-!
# Loading what was loaded

The start of the URLs is checked first and loses its slashes afterwards. What is kept has to pass the same
check when it is given again, and it does when something other than slashes follows the scheme:

        given                      kept                     given again
        https://api.example//      https://api.example      kept as it is
        https://                   https:                   refused

So a configuration that was loaded can be written to the JSON file and loaded again in the first case, and
only then. Everything else in it is read back: the database is not blank, the token stands as it is, the
waiting time is displayed with the digits that read back, and the origins are trimmed, not empty and free of
commas. What is read back is settled, as all that is written in JSON.
-/

namespace Intake

/-! ### Slashes at the end -/

namespace Access

/-- Something other than slashes follows one of the web schemes. -/
def namesMore (url : Text) : Bool :=
  [("http://" : Text), "https://"].any fun scheme =>
    scheme.isPrefixOf url && (url.drop scheme.length).any (· != 47)

/-- What is kept does not end in a slash. -/
theorem getLast?_dropSlashes {url : Text} {c : CodePoint} (h : (dropSlashes url).getLast? = some c) :
    c ≠ 47 :=
  beq_eq_false_iff_ne.1 (Text.getLast?_dropEndWhile (p := (· == 47)) h)

/-- A scheme that ends in a slash is still there without the slashes at the end exactly when something else
follows it. -/
theorem isPrefixOf_dropSlashes {scheme : Text} (hscheme : scheme.getLast? = some 47) (url : Text) :
    scheme.isPrefixOf (dropSlashes url) =
      (scheme.isPrefixOf url && (url.drop scheme.length).any (· != 47)) := by
  have hprefix : dropSlashes url <+: url := Text.dropEndWhile_begins _ url
  rw [Bool.eq_iff_iff, Bool.and_eq_true, List.isPrefixOf_iff_prefix, List.isPrefixOf_iff_prefix,
    List.any_eq_true]
  constructor
  · rintro ⟨kept, hkept⟩
    obtain ⟨slashes, hslashes⟩ := hprefix
    have hurl : url = scheme ++ (kept ++ slashes) := by rw [← hslashes, ← hkept, List.append_assoc]
    refine ⟨⟨kept ++ slashes, hurl.symm⟩, ?_⟩
    rw [hurl, List.drop_left]
    -- the last code point that was kept is no slash, so it is not the last one of the scheme
    cases hlast : kept.getLast? with
    | none =>
      rw [List.getLast?_eq_none_iff.1 hlast, List.append_nil] at hkept
      rw [hkept] at hscheme
      exact absurd rfl (getLast?_dropSlashes hscheme)
    | some c =>
      have hc : (dropSlashes url).getLast? = some c := by
        rw [← hkept, List.getLast?_append, hlast]
        rfl
      exact ⟨c, List.mem_append_left _ (List.mem_of_getLast? hlast),
        bne_iff_ne.2 (getLast?_dropSlashes hc)⟩
  · rintro ⟨⟨rest, hrest⟩, c, hmem, hc⟩
    rw [← hrest, List.drop_left] at hmem
    have hstays : dropSlashes (scheme ++ rest) = scheme ++ dropSlashes rest :=
      Text.dropEndWhile_append scheme hmem (beq_false_of_ne (bne_iff_ne.1 hc))
    exact ⟨dropSlashes rest, by rw [← hrest, hstays]⟩

/-- What is kept passes the check exactly when something other than slashes follows the scheme. -/
theorem isWeb_dropSlashes (url : Text) : isWeb (dropSlashes url) = namesMore url := by
  rw [isWeb, isPrefixOf_dropSlashes (by decide), isPrefixOf_dropSlashes (by decide), namesMore,
    List.any_cons, List.any_cons, List.any_nil, Bool.or_false]

theorem dropSlashes_dropSlashes (url : Text) : dropSlashes (dropSlashes url) = dropSlashes url :=
  Text.dropEndWhile_eq_self_iff.2 fun _ hc => beq_false_of_ne (getLast?_dropSlashes hc)

/-! ### The access as a whole -/

/-- The issue of a start of URLs without a web scheme. -/
def notWeb : Issue := ⟨[.key "api_url"], .rejected "airtable.api_url must be an http(s) URL"⟩

theorem withDefault_checkUrl {ms : Members} {url : Text} (h : ms.get? "api_url" = some (.str url)) :
    (FieldName.same "api_url").withDefault publicUrl checkUrl ms =
      if isWeb url then .ok (dropSlashes url) else .failed [notWeb] := by
  have hgiven : (FieldName.same "api_url").given? ms = some (("api_url" : Text), Value.str url) := by
    unfold FieldName.given? FieldName.same
    rw [h]
  have htext : Schema.text (.str url) = .ok url := Schema.text_eq_ok.2 rfl
  rw [FieldName.withDefault, hgiven]
  simp only [checkUrl, htext]
  split <;> rfl

/-- When the other fields pass, the start of the URLs decides. -/
theorem check_of_fields {ms : Members} {url : Text} {token : Option Text} {timeout : Binary64}
    (hurl : ms.get? "api_url" = some (.str url))
    (htoken : (FieldName.same "token").withDefault none (Checked.optional Schema.text) ms = .ok token)
    (htimeout : (FieldName.same "timeout_seconds").withDefault (Binary64.ofInt 10)
      Schema.positiveReal ms = .ok timeout) :
    check (.obj ms) =
      if isWeb url then .ok ⟨dropSlashes url, token, timeout⟩ else .failed [notWeb] := by
  rw [check, Checked.record, withDefault_checkUrl hurl, htoken, htimeout]
  split <;> rfl

theorem withDefault_set_of_ne {α : Type} {name key : Text} (hne : name ≠ key) (d : α)
    (f : Value → Checked α) (ms : Members) (v : Value) :
    (FieldName.same name).withDefault d f (ms.set key v) = (FieldName.same name).withDefault d f ms := by
  unfold FieldName.withDefault FieldName.given? FieldName.same
  simp only [Members.get?_set_of_ne hne]

/-- **Giving the kept start again.** An access whose start of the URLs is given as it was kept is the same
access if something other than slashes follows the scheme, and is refused otherwise. -/
theorem check_kept {ms : Members} {url : Text} {a : Access} (h : check (.obj ms) = .ok a)
    (hurl : ms.get? "api_url" = some (.str url)) :
    check (.obj (ms.set "api_url" (.str a.url))) =
      if namesMore url then .ok a else .failed [notWeb] := by
  obtain ⟨hkept, htoken, htimeout⟩ := fields_of_check h hurl
  rw [check_of_fields (Members.get?_set_self _ _ _)
    ((withDefault_set_of_ne (by decide) _ _ _ _).trans htoken)
    ((withDefault_set_of_ne (by decide) _ _ _ _).trans htimeout), hkept, isWeb_dropSlashes,
    dropSlashes_dropSlashes, ← hkept]

end Access

namespace Settings

/-! ### What the texts make -/

theorem checkDatabase_of_not_blank {dsn : Text} (h : dsn.isBlank = false) :
    checkDatabase dsn = .ok dsn := by
  rw [checkDatabase, h, if_neg Bool.false_ne_true]

/-- A usable configuration that has what the texts of the settings say is loaded, if the text of the start
of the URLs has a web scheme. -/
theorem load_of_reads {w : World} {c : Config} (hreads : ∀ s, c.Reads (s.text? w) s) (hsound : c.Sound) :
    load w = if Access.isWeb ((Setting.apiUrl.text? w).getD []) then .ok c
      else .error (.access [Access.notWeb]) := by
  have hdatabase : c.database = (Setting.database.text? w).getD [] := hreads .database
  have hurl : c.access.url = Access.dropSlashes ((Setting.apiUrl.text? w).getD []) := hreads .apiUrl
  have htoken : c.access.token = Setting.token.text? w := hreads .token
  have htimeout : Typed.real? (Text.trim ((Setting.timeout.text? w).getD [])) = some c.access.timeout :=
    hreads .timeout
  have horigins : c.origins = originsOf ((Setting.origins.text? w).getD []) := hreads .origins
  have hpositive : Schema.positiveReal (.real c.access.timeout) = .ok c.access.timeout := by
    unfold Schema.positiveReal Schema.real
    simp only [hsound.timeout, if_true]
  have hoptional (t : Option Text) : Checked.optional Schema.text (Value.ofText? t) = .ok t := by
    cases t <;> rfl
  have hcheck (url : Text) : Access.check (.obj [("api_url", .str url),
        ("token", Value.ofText? (Setting.token.text? w)),
        ("timeout_seconds", .real c.access.timeout)]) =
      if Access.isWeb url then .ok ⟨Access.dropSlashes url, Setting.token.text? w, c.access.timeout⟩
      else .failed [Access.notWeb] :=
    Access.check_of_fields rfl (FieldName.withDefault_of_wire rfl (hoptional _))
      (FieldName.withDefault_of_wire rfl hpositive)
  rw [load, ← hdatabase, checkDatabase_of_not_blank hsound.database, htimeout]
  simp only [hcheck]
  rw [← hurl, ← htoken, ← horigins]
  cases Access.isWeb ((Setting.apiUrl.text? w).getD []) <;> rfl

/-- Origins with commas between them are the origins of the text. -/
theorem originsOf_join {os : List Text} (h : ∀ o ∈ os, o ≠ [] ∧ o.trim = o ∧ 44 ∉ o) :
    originsOf (Text.join [44] os) = os := by
  cases os with
  | nil => rfl
  | cons o rest =>
    have htrim : ((o :: rest).map Text.trim) = o :: rest :=
      (List.map_congr_left fun t ht => (h t ht).2.1).trans (List.map_id _)
    rw [originsOf, Text.pieces_join (List.cons_ne_nil _ _) fun t ht => (h t ht).2.2, htrim,
      List.filter_eq_self]
    intro t ht
    rw [Bool.not_eq_true', List.isEmpty_eq_false_iff]
    exact (h t ht).1

/-! ### A configuration as a file -/

namespace Config

/-- The configuration as it comes back from JSON, with the halves of code points put together. -/
def settled (c : Config) : Config :=
  ⟨c.database.joined, ⟨c.access.url.joined, c.access.token.map Text.joined, c.access.timeout⟩,
    c.origins.map Text.joined⟩

/-- The configuration in the shape of the JSON file. -/
def written (c : Config) : Value :=
  .obj [("database", .obj [("dsn", .str c.database)]),
    ("airtable", .obj [("api_url", .str c.access.url), ("token", Value.ofText? c.access.token),
      ("timeout_seconds", .real c.access.timeout)]),
    ("cors", .obj [("origins", .arr (c.origins.map .str))])]

/-- A world with nothing but the JSON file, to which the configuration was written. -/
def saved (c : Config) : World :=
  ⟨[], [(World.baseName, .file (Utf8.encode (Json.write .spaced c.written)))]⟩

/-- Without halves of code points a configuration comes back as it was. -/
theorem settled_eq_self {c : Config} (hdatabase : c.database.encodable = true)
    (hurl : c.access.url.encodable = true) (htoken : ∀ t ∈ c.access.token, t.encodable = true)
    (horigins : ∀ o ∈ c.origins, Text.encodable o = true) : c.settled = c := by
  have htokens : c.access.token.map Text.joined = c.access.token := by
    cases ht : c.access.token with
    | none => rfl
    | some t => rw [Option.map_some, Text.joined_eq_self (htoken t ht)]
  rw [settled, Text.joined_eq_self hdatabase, Text.joined_eq_self hurl, htokens,
    List.map_congr_left fun o ho => Text.joined_eq_self (horigins o ho), List.map_id']

/-- A start of URLs that can be used is kept as it is. -/
theorem Sound.dropSlashes_url {c : Config} (h : c.Sound) :
    Access.dropSlashes c.access.url = c.access.url :=
  Text.dropEndWhile_eq_self_iff.2 fun _ hlast => beq_false_of_ne fun hslash => h.url (hslash ▸ hlast)

/-- What can be used can be used settled. -/
theorem Sound.settled {c : Config} (h : c.Sound) : c.settled.Sound := by
  refine ⟨?_, h.timeout, fun hslash => ?_, fun o ho => ?_⟩
  · exact (Text.all_joined Text.basic_isBlank c.database).trans h.database
  · rcases Text.getLast?_joined hslash with hlast | hfar
    · exact h.url hlast
    · exact absurd hfar (by decide)
  · obtain ⟨o', ho', rfl⟩ := List.mem_map.1 ho
    obtain ⟨hne, htrim, hfree⟩ := h.origins o' ho'
    refine ⟨Text.joined_ne_nil hne, Text.stripWhile_joined Text.basic_isBlank htrim, fun hmem => ?_⟩
    rcases Text.mem_joined hmem with hold | hfar
    · exact hfree hold
    · exact absurd hfar (by decide)

theorem isWeb_settled (c : Config) : Access.isWeb c.settled.access.url = Access.isWeb c.access.url := by
  have hjoined {scheme : Text} (hscheme : scheme.isLine = true) :
      scheme.isPrefixOf c.access.url.joined = scheme.isPrefixOf c.access.url :=
    Text.isPrefixOf_joined fun x hx => by
      have hascii := (Text.isLine_iff.1 hscheme x hx).2
      omega
  rw [Access.isWeb, Access.isWeb, settled, hjoined (by decide), hjoined (by decide)]

theorem nodup_keys : (["database", "airtable", "cors"] : List Text).Nodup := by decide

theorem nodup_accessKeys : (["api_url", "token", "timeout_seconds"] : List Text).Nodup := by decide

theorem regular_written {c : Config} (h : c.access.timeout.Sound) : c.written.Regular := by
  have horigins : ∀ v ∈ c.origins.map Value.str, v.Regular := by
    intro v hv
    obtain ⟨o, -, rfl⟩ := List.mem_map.1 hv
    trivial
  have htoken : (Value.ofText? c.access.token).Regular := by
    cases c.access.token <;> trivial
  exact ⟨nodup_keys, ⟨List.nodup_singleton _, trivial, trivial⟩,
    ⟨nodup_accessKeys, trivial, htoken, h, trivial⟩,
    ⟨List.nodup_singleton _, Value.regularItems_iff.2 horigins, trivial⟩, trivial⟩

/-- What is read of a written configuration is what is written of the settled one. -/
theorem settled_written (c : Config) : c.written.settled = c.settled.written := by
  have htoken : (Value.ofText? c.access.token).settled =
      Value.ofText? (c.access.token.map Text.joined) := by
    cases c.access.token <;> rfl
  have hdatabase : (Value.obj [("dsn", .str c.database)]).settled =
      .obj [("dsn", .str c.database.joined)] := Value.settled_obj (List.nodup_singleton _) rfl
  have haccess : (Value.obj [("api_url", .str c.access.url), ("token", Value.ofText? c.access.token),
        ("timeout_seconds", .real c.access.timeout)]).settled =
      .obj [("api_url", .str c.access.url.joined), ("token", (Value.ofText? c.access.token).settled),
        ("timeout_seconds", .real c.access.timeout)] := Value.settled_obj nodup_accessKeys rfl
  have hcors : (Value.obj [("origins", .arr (c.origins.map .str))]).settled =
      .obj [("origins", .arr ((c.origins.map .str).map Value.settled))] := by
    rw [← Value.settledItems_eq_map]
    exact Value.settled_obj (List.nodup_singleton _) rfl
  have horigins : (c.origins.map Value.str).map Value.settled =
      (c.origins.map Text.joined).map Value.str := by
    rw [List.map_map, List.map_map]
    rfl
  rw [htoken] at haccess
  rw [horigins] at hcors
  rw [written, Value.settled_obj]
  · simp only [List.map_cons, List.map_nil, hdatabase, haccess, hcors]
    rfl
  · exact nodup_keys
  · rfl

end Config

/-- Line ends are all that is changed in a file. -/
theorem lines_eq_self {t : Text} (h : 13 ∉ t) : lines t = t := by
  induction t using lines.induct with
  | case1 rest ih => exact absurd List.mem_cons_self h
  | case2 rest hrest ih => exact absurd List.mem_cons_self h
  | case3 c rest hc hc' ih =>
    rw [lines, ih fun hmem => h (List.mem_cons_of_mem _ hmem)]
    all_goals assumption
  | case4 => rfl

namespace Config

/-- The file is read as the settled configuration was written. -/
theorem base_saved {c : Config} (h : c.access.timeout.Sound) : c.saved.base = c.settled.written := by
  have hregular := regular_written h
  have hline := Json.isLine_write Json.plain_spaced c.written hregular
  have hends : (13 : CodePoint) ∉ Json.write .spaced c.written := fun hmem =>
    absurd (Text.isLine_iff.1 hline 13 hmem).1 (by decide)
  have htext : c.saved.text? World.baseName = some (Json.write .spaced c.written) := by
    have hfind : c.saved.entries.find? (fun e => e.1 == World.baseName) =
        some (World.baseName, .file (Utf8.encode (Json.write .spaced c.written))) :=
      List.find?_cons_of_pos (beq_self_eq_true _)
    rw [World.text?, hfind, Option.bind_some, Entry.text?,
      Utf8.decode?_encode (Text.encodable_of_isLine hline), Option.map_some, lines_eq_self hends]
  rw [World.base, htext, Option.bind_some, Json.read?_write Json.readable_spaced hregular,
    Option.getD_some, settled_written]

theorem valueOf?_saved (c : Config) (name : Text) : c.saved.valueOf? name = none := rfl

theorem override?_saved (c : Config) (name : Text) : c.saved.override? name = none := by
  have hother : (World.baseName == ("config/" : Text) ++ name) = false := rfl
  have hfind : c.saved.entries.find? (fun e => e.1 == ("config/" : Text) ++ name) = none := by
    rw [saved, List.find?_cons_of_neg (by rw [hother]; exact Bool.false_ne_true), List.find?_nil]
  rw [World.override?, World.text?, hfind]
  rfl

theorem base?_saved {c : Config} (h : c.access.timeout.Sound) (path : List Text) :
    c.saved.base? path = (at? path c.settled.written).bind textOf := by
  rw [World.base?, base_saved h]

theorem text?_saved_apiUrl {c : Config} (h : c.access.timeout.Sound) :
    Setting.apiUrl.text? c.saved = some c.settled.access.url := by
  have hbase : c.saved.base? ["airtable", "api_url"] = some c.settled.access.url := base?_saved h _
  rw [Setting.text?_eq, Setting.ranked, valueOf?_saved, override?_saved, hbase]
  rfl

/-- Nothing but the file gives a text, and it gives what the settled configuration has. -/
theorem reads_saved {c : Config} (hsound : c.Sound) (h : c.access.timeout.Sound) (s : Setting) :
    c.settled.Reads (s.text? c.saved) s := by
  cases s with
  | apiUrl =>
    rw [text?_saved_apiUrl h]
    exact hsound.settled.dropSlashes_url.symm
  | database =>
    have hbase : c.saved.base? ["database", "dsn"] = some c.settled.database := base?_saved h _
    have hfilled : filled (some c.settled.database) = some c.settled.database := by
      refine filled_of_decisive ?_
      cases hd : c.settled.database with
      | nil =>
        have hblank := hsound.settled.database
        rw [hd] at hblank
        cases hblank
      | cons => rfl
    rw [Setting.text?_eq, Setting.ranked, valueOf?_saved, valueOf?_saved, override?_saved, hbase,
      hfilled]
    rfl
  | token =>
    have hat : at? ["airtable", "token"] c.settled.written =
        some (Value.ofText? c.settled.access.token) := rfl
    rw [Setting.text?_eq, Setting.ranked, valueOf?_saved, override?_saved, base?_saved h, hat,
      Option.bind_some]
    change c.settled.access.token = _
    cases c.settled.access.token <;> rfl
  | timeout =>
    have hbase : c.saved.base? ["airtable", "timeout_seconds"] = some c.access.timeout.render :=
      base?_saved h _
    rw [Setting.text?_eq, Setting.ranked, valueOf?_saved, override?_saved, hbase]
    exact Typed.real?_render h
  | origins =>
    have hat : at? ["cors", "origins"] c.settled.written =
        some (.arr (c.settled.origins.map .str)) := rfl
    have htexts : (c.settled.origins.map Value.str).map Value.display = c.settled.origins := by
      rw [List.map_map]
      exact List.map_id _
    rw [Setting.text?_eq, Setting.ranked, valueOf?_saved, override?_saved, base?_saved h, hat,
      Option.bind_some, textOf, htexts]
    exact (originsOf_join hsound.settled.origins).symm

end Config

/-- **Loading what was written.** A configuration that was loaded and written to the JSON file is loaded
again, settled, if something other than slashes follows the scheme in the text that gave the start of the
URLs, and is refused for its start otherwise. -/
theorem load_saved {w : World} {c : Config} (h : load w = .ok c) :
    load c.saved = if Access.namesMore ((Setting.apiUrl.text? w).getD []) then .ok c.settled
      else .error (.access [Access.notWeb]) := by
  obtain ⟨hreads, hsound⟩ := reads_of_load h
  have htimeout : c.access.timeout.Sound := Typed.sound_of_real? (hreads .timeout)
  have hurl : c.access.url = Access.dropSlashes ((Setting.apiUrl.text? w).getD []) := hreads .apiUrl
  rw [load_of_reads (Config.reads_saved hsound htimeout) hsound.settled,
    Config.text?_saved_apiUrl htimeout, Option.getD_some, Config.isWeb_settled, hurl,
    Access.isWeb_dropSlashes]

/-- **What is kept of the start of the URLs.** It is the start that was given without the slashes at its end.
It has a web scheme, and the same access passes when it is given in place of the start, exactly when
something other than slashes follows the scheme; otherwise it is refused. And whatever world gave the start
to a configuration that was loaded, the configuration can be written to the JSON file and loaded again in the
same case. -/
theorem kept_url_given_again {ms : Members} {url : Text} {a : Access}
    (hurl : ms.get? "api_url" = some (.str url)) (hcheck : Access.check (.obj ms) = .ok a) :
    (∃ n, url = a.url ++ List.replicate n 47) ∧ a.url.getLast? ≠ some 47 ∧
    Access.isWeb a.url = Access.namesMore url ∧
    Access.check (.obj (ms.set "api_url" (.str a.url))) =
      (if Access.namesMore url then .ok a else .failed [Access.notWeb]) ∧
    ∀ {w : World} {c : Config}, load w = .ok c → (Setting.apiUrl.text? w).getD [] = url →
      load c.saved = if Access.namesMore url then .ok c.settled
        else .error (.access [Access.notWeb]) := by
  obtain ⟨hkept, -, -⟩ := Access.fields_of_check hcheck hurl
  refine ⟨?_, fun hslash => ?_, ?_, Access.check_kept hcheck hurl, fun hload htext => ?_⟩
  · rw [hkept]
    exact Text.exists_dropEndWhile_append 47 url
  · rw [hkept] at hslash
    exact Access.getLast?_dropSlashes hslash rfl
  · rw [hkept, Access.isWeb_dropSlashes]
  · rw [load_saved hload, htext]

/-- A world whose start of the URLs ends in two slashes. -/
def slashedWorld : World :=
  ⟨[("AIRTABLE_API_URL", "https://proxy.example//"), ("AIRTABLE_TIMEOUT_SECONDS", "2.5")], []⟩

/-- Its start is kept without them, and the configuration is loaded again as it was. -/
theorem kept_url_given_again_slashed :
    ∃ a c, Access.check (.obj [("api_url", .str "https://proxy.example//")]) = .ok a ∧
      load slashedWorld = .ok c ∧ a.url = "https://proxy.example" ∧
      Access.check (.obj [("api_url", .str a.url)]) = .ok a ∧ load c.saved = .ok c := by
  have hok : (load slashedWorld).isOk = true := by decide +kernel
  have hmore : Access.namesMore "https://proxy.example//" = true := by decide
  obtain ⟨c, hc⟩ := exists_of_isOk hok
  obtain ⟨hreads, -⟩ := reads_of_load hc
  have hsettled : c.settled = c := by
    have hdatabase : c.database = (Setting.database.text? slashedWorld).getD [] := hreads .database
    have hurl : c.access.url = Access.dropSlashes ((Setting.apiUrl.text? slashedWorld).getD []) :=
      hreads .apiUrl
    have htoken : c.access.token = Setting.token.text? slashedWorld := hreads .token
    have horigins : c.origins = originsOf ((Setting.origins.text? slashedWorld).getD []) :=
      hreads .origins
    refine Config.settled_eq_self ?_ ?_ ?_ ?_
    · rw [hdatabase]; decide +kernel
    · rw [hurl]; decide +kernel
    · rw [htoken]; decide +kernel
    · rw [horigins]; decide +kernel
  have hcheck : Access.check (.obj [("api_url", .str "https://proxy.example//")]) =
      .ok ⟨"https://proxy.example", none, Binary64.ofInt 10⟩ := rfl
  have htext : (Setting.apiUrl.text? slashedWorld).getD [] = "https://proxy.example//" := by
    decide +kernel
  obtain ⟨-, -, -, hagain, hreload⟩ := kept_url_given_again rfl hcheck
  have hloaded := hreload hc htext
  rw [hmore] at hagain
  rw [hmore, hsettled] at hloaded
  exact ⟨_, c, hcheck, hc, rfl, hagain, hloaded⟩

/-- A world whose start of the URLs is a scheme with nothing but slashes behind it. -/
def bareWorld : World := ⟨[("AIRTABLE_API_URL", "https://")], []⟩

/-- A bare scheme is accepted and kept without its slashes; what is kept has no web scheme and is refused
when it is given again. A configuration that was loaded with it cannot be loaded again. -/
theorem kept_url_not_given_again :
    ∃ a c, Access.check (.obj [("api_url", .str "https://")]) = .ok a ∧ load bareWorld = .ok c ∧
      a.url = "https:" ∧ Access.isWeb a.url = false ∧
      Access.check (.obj [("api_url", .str a.url)]) = .failed [Access.notWeb] ∧
      load c.saved = .error (.access [Access.notWeb]) := by
  have hok : (load bareWorld).isOk = true := by decide +kernel
  obtain ⟨c, hc⟩ := exists_of_isOk hok
  have hcheck : Access.check (.obj [("api_url", .str "https://")]) =
      .ok ⟨"https:", none, Binary64.ofInt 10⟩ := rfl
  have hbare : Access.namesMore "https://" = false := by decide
  have htext : (Setting.apiUrl.text? bareWorld).getD [] = "https://" := by decide +kernel
  have hagain := Access.check_kept hcheck rfl
  have hreload := load_saved hc
  rw [hbare] at hagain
  rw [htext, hbare] at hreload
  exact ⟨_, c, hcheck, hc, rfl, by decide, hagain, hreload⟩

end Settings

end Intake
