import Intake.Proofs.Schema.Passing
import Intake.Proofs.Text.Ends
import Intake.Proofs.Text.Pieces
import Intake.Settings.Load

/-!
# Which source decides

The sources of a setting stand in a fixed order, and the first one that is not empty decides:

        variables ──▶ file ──▶ JSON file ──▶ default

What stands below the decisive source does not matter: two worlds that agree on the sources down to it
give the same value. To see this, the sources are written down without what the program makes of them on
the way. A variable or a file that is empty is then as good as none. An empty text in the JSON file is
not, except for the database: it decides nothing, but it keeps the default away, since the default takes
the place of a path that is missing. So it is part of what two worlds have to agree on.
-/

namespace Intake

/-- A field of one name that is given has passed its check. -/
theorem FieldName.of_withDefault_same {α : Type} {name : Text} {d a : α} {check : Value → Checked α}
    {ms : Members} {v : Value} (h : (same name).withDefault d check ms = .ok a)
    (hv : ms.get? name = some v) : check v = .ok a := by
  rw [withDefault_eq_ok, value?_same, hv] at h
  rcases h with ⟨w, hw, hcheck⟩ | ⟨hnone, -⟩
  · cases hw
    exact hcheck
  · cases hnone

namespace Access

theorem of_checkUrl {url a : Text} (h : checkUrl (.str url) = .ok a) : a = dropSlashes url := by
  unfold checkUrl at h
  rw [Schema.text_eq_ok.2 rfl] at h
  simp only at h
  split at h
  · cases h
    rfl
  · exact absurd h Checked.fault_ne_ok

theorem of_optional_text {token a : Option Text}
    (h : Checked.optional Schema.text (Value.ofText? token) = .ok a) : a = token := by
  cases token <;> cases h <;> rfl

theorem of_positiveReal {x a : Binary64} (h : Schema.positiveReal (.real x) = .ok a) :
    a = x ∧ x.isPositive = true := by
  unfold Schema.positiveReal Schema.real at h
  simp only at h
  split at h
  · cases h
    exact ⟨rfl, ‹_›⟩
  · exact absurd h Checked.fault_ne_ok

/-- The fields of an access that passed, where the start of the URLs was given. -/
theorem fields_of_check {ms : Members} {url : Text} {a : Access} (h : check (.obj ms) = .ok a)
    (hurl : ms.get? "api_url" = some (.str url)) :
    a.url = dropSlashes url ∧
    (FieldName.same "token").withDefault none (Checked.optional Schema.text) ms = .ok a.token ∧
    (FieldName.same "timeout_seconds").withDefault (Binary64.ofInt 10) Schema.positiveReal ms =
      .ok a.timeout := by
  obtain ⟨ms', hms, hrecord⟩ := Checked.record_eq_ok.1 h
  cases hms
  obtain ⟨ofTimeout, timeout, htwo, htimeout, rfl⟩ := Checked.also_eq_ok.1 hrecord
  obtain ⟨ofToken, token, hone, htoken, rfl⟩ := Checked.also_eq_ok.1 htwo
  obtain ⟨ofUrl, kept, hmk, hkept, rfl⟩ := Checked.also_eq_ok.1 hone
  cases hmk
  exact ⟨of_checkUrl (FieldName.of_withDefault_same hkept hurl), htoken, htimeout⟩

/-- An access that passes its checks has the token and the waiting time that it was given, and the start
of the URLs without slashes at its end. -/
theorem of_check {url : Text} {token : Option Text} {timeout : Binary64} {a : Access}
    (h : check (.obj [("api_url", .str url), ("token", Value.ofText? token),
      ("timeout_seconds", .real timeout)]) = .ok a) :
    a = ⟨dropSlashes url, token, timeout⟩ ∧ timeout.isPositive = true := by
  obtain ⟨hurl, htoken, htimeout⟩ := fields_of_check h rfl
  obtain ⟨heq, hpositive⟩ := of_positiveReal (FieldName.of_withDefault_same htimeout rfl)
  rw [← hurl, ← of_optional_text (FieldName.of_withDefault_same htoken rfl), ← heq]
  exact ⟨rfl, heq ▸ hpositive⟩

end Access

namespace Settings

/-! ### Sources -/

/-- What a source gives that is not empty. -/
def filled (source : Option Text) : Option Text := if decisive source then source else none

namespace Setting

/-- What takes the place of a setting that no source gives. -/
def standard : Setting → Option Text
  | database => some defaultDatabase
  | apiUrl => some Access.publicUrl
  | token => none
  | timeout => some "10"
  | origins => some defaultOrigin

/-- What the sources of a setting give, the strongest first and the default last. -/
def ranked (w : World) : Setting → List (Option Text)
  | database => [filled (w.valueOf? "TEST_DATABASE_URL"), filled (w.valueOf? "DATABASE_URL"),
      filled (w.override? "database.url"), filled (w.base? ["database", "dsn"]), standard database]
  | apiUrl => [filled (w.valueOf? "AIRTABLE_API_URL"), filled (w.override? "airtable.api_url"),
      w.base? ["airtable", "api_url"], standard apiUrl]
  | token => [filled (w.valueOf? "AIRTABLE_PERSONAL_ACCESS_TOKEN"),
      filled (w.override? "airtable.token"), w.base? ["airtable", "token"], standard token]
  | timeout => [filled (w.valueOf? "AIRTABLE_TIMEOUT_SECONDS"),
      filled (w.override? "airtable.timeout_seconds"), w.base? ["airtable", "timeout_seconds"],
      standard timeout]
  | origins => [filled (w.valueOf? "CORS_ORIGINS"), filled (w.override? "cors.origins"),
      w.base? ["cors", "origins"], standard origins]

end Setting

/-- The sources down to the decisive one. -/
def downToDecisive : List (Option Text) → List (Option Text)
  | [] => []
  | s :: rest => if decisive s then [s] else s :: downToDecisive rest

theorem filled_of_decisive {s : Option Text} (h : decisive s = true) : filled s = s := if_pos h

theorem filled_of_not_decisive {s : Option Text} (h : decisive s = false) : filled s = none := by
  rw [filled, h]
  rfl

theorem exists_of_decisive {s : Option Text} (h : decisive s = true) : ∃ t, s = some t := by
  cases s with
  | none => cases h
  | some t => exact ⟨t, rfl⟩

theorem findSome?_cons (f : Option Text → Option Text) (s : Option Text) (rest : List (Option Text)) :
    (s :: rest).findSome? f = (f s).or (rest.findSome? f) := by
  rw [List.findSome?_cons]
  cases f s <;> rfl

theorem firstGiven_singleton (s : Option Text) : firstGiven [s] = s := rfl

theorem firstGiven_cons (s t : Option Text) (rest : List (Option Text)) :
    firstGiven (s :: t :: rest) = (filled s).or (firstGiven (t :: rest)) := by
  cases h : decisive s with
  | true =>
    obtain ⟨given, rfl⟩ := exists_of_decisive h
    rw [firstGiven_cons_of_decisive _ h, filled_of_decisive h, Option.some_or]
  | false => rw [firstGiven_cons_of_not_decisive h, filled_of_not_decisive h, Option.none_or]

/-- The text of a setting is the first one that stands among its sources. -/
theorem Setting.text?_eq (w : World) (s : Setting) : s.text? w = (s.ranked w).findSome? id := by
  unfold Setting.text?
  cases s <;>
    simp only [sources, ranked, standard, firstGiven_cons, firstGiven_singleton, findSome?_cons,
      List.findSome?_nil, Option.or_none, id]

/-- Below the decisive source the first text is not looked for. -/
theorem findSome?_downToDecisive (l : List (Option Text)) :
    (downToDecisive l).findSome? id = l.findSome? id := by
  induction l with
  | nil => rfl
  | cons s rest ih =>
    rw [downToDecisive]
    cases h : decisive s with
    | true =>
      obtain ⟨t, rfl⟩ := exists_of_decisive h
      rfl
    | false =>
      rw [if_neg Bool.false_ne_true, findSome?_cons, findSome?_cons, ih]

/-- The first text is that of the decisive source, unless an empty one stands above it. -/
theorem findSome?_eq_filled {l : List (Option Text)} (h : some [] ∉ downToDecisive l) :
    l.findSome? id = l.findSome? filled := by
  induction l with
  | nil => rfl
  | cons s rest ih =>
    rw [downToDecisive] at h
    rw [findSome?_cons, findSome?_cons]
    cases hs : decisive s with
    | true =>
      obtain ⟨t, rfl⟩ := exists_of_decisive hs
      rw [filled_of_decisive hs]
      rfl
    | false =>
      rw [hs, if_neg Bool.false_ne_true, List.mem_cons, not_or] at h
      rw [filled_of_not_decisive hs, ih h.2]
      rcases s with _ | _ | ⟨c, cs⟩
      · rfl
      · exact absurd rfl h.1
      · cases hs

/-! ### What becomes of the texts -/

namespace Config

/-- The configuration has what the text of a setting says. -/
def Reads (c : Config) (t : Option Text) : Setting → Prop
  | .database => c.database = t.getD []
  | .apiUrl => c.access.url = Access.dropSlashes (t.getD [])
  | .token => c.access.token = t
  | .timeout => Typed.real? (Text.trim (t.getD [])) = some c.access.timeout
  | .origins => c.origins = originsOf (t.getD [])

/-- Two configurations agree on a setting. -/
def Same (c d : Config) : Setting → Prop
  | .database => c.database = d.database
  | .apiUrl => c.access.url = d.access.url
  | .token => c.access.token = d.access.token
  | .timeout => c.access.timeout = d.access.timeout
  | .origins => c.origins = d.origins

/-- A configuration that can be used. -/
structure Sound (c : Config) : Prop where
  database : c.database.isBlank = false
  timeout : c.access.timeout.isPositive = true
  url : c.access.url.getLast? ≠ some 47
  origins : ∀ o ∈ c.origins, o ≠ [] ∧ o.trim = o ∧ 44 ∉ o

/-- What is read off the same text is the same. -/
theorem Reads.same {c d : Config} {t : Option Text} {s : Setting} (hc : c.Reads t s)
    (hd : d.Reads t s) : c.Same d s := by
  cases s with
  | timeout => exact Option.some.inj (Eq.trans (Eq.symm hc) hd)
  | _ => exact Eq.trans hc (Eq.symm hd)

end Config

theorem of_checkDatabase {dsn database : Text} (h : checkDatabase dsn = .ok database) :
    database = dsn ∧ dsn.isBlank = false := by
  unfold checkDatabase at h
  split at h
  · rw [Checked.within_eq_ok] at h
    exact absurd h Checked.fault_ne_ok
  · rename_i hblank
    cases h
    exact ⟨rfl, Bool.eq_false_iff.2 hblank⟩

/-- An origin of a list is a trimmed piece of the text, and not empty. -/
theorem mem_originsOf {t o : Text} :
    o ∈ originsOf t ↔ o ≠ [] ∧ ∃ piece ∈ t.pieces 44, piece.trim = o := by
  rw [originsOf, List.mem_filter, List.mem_map, and_comm]
  cases o <;> simp

/-- The origins that a text gives are trimmed, not empty, and without commas. -/
theorem origin_of_mem {t o : Text} (h : o ∈ originsOf t) : o ≠ [] ∧ o.trim = o ∧ 44 ∉ o := by
  obtain ⟨hne, piece, hpiece, rfl⟩ := mem_originsOf.1 h
  exact ⟨hne, Text.trim_trim piece, fun hcomma =>
    Text.sep_not_mem_of_mem_pieces hpiece ((Text.stripWhile_sublist _ piece).subset hcomma)⟩

/-- A text gives no origins exactly when nothing stands in it but commas and white space. -/
theorem originsOf_eq_nil_iff {t : Text} : originsOf t = [] ↔ ∀ c ∈ t, c = 44 ∨ c.isBlank = true := by
  constructor
  · intro h c hc
    refine (Text.mem_pieces 44 hc).imp_right fun ⟨piece, hpiece, hmem⟩ => ?_
    have htrim : piece.trim = [] := by
      by_contra hne
      exact List.not_mem_nil (h ▸ mem_originsOf.2 ⟨hne, piece, hpiece, rfl⟩)
    exact List.all_eq_true.1 (Text.trim_eq_nil_iff.1 htrim) c hmem
  · intro h
    rw [List.eq_nil_iff_forall_not_mem]
    intro o ho
    obtain ⟨hne, piece, hpiece, rfl⟩ := mem_originsOf.1 ho
    refine hne (Text.trim_eq_nil_iff.2 (List.all_eq_true.2 fun c hc => ?_))
    exact (h c (Text.mem_of_mem_pieces hpiece hc)).resolve_left fun hcomma =>
      Text.sep_not_mem_of_mem_pieces hpiece (hcomma ▸ hc)

/-- What a world gives that can be loaded: the texts of its settings, and what is known of each. -/
theorem reads_of_load {w : World} {c : Config} (h : load w = .ok c) :
    (∀ s, c.Reads (s.text? w) s) ∧ c.Sound := by
  unfold load at h
  split at h
  · cases h
  · rename_i database hdatabase
    split at h
    · cases h
    · rename_i timeout htimeout
      split at h
      · cases h
      · rename_i access haccess
        cases h
        obtain ⟨rfl, hblank⟩ := of_checkDatabase hdatabase
        obtain ⟨rfl, hpositive⟩ := Access.of_check haccess
        refine ⟨fun s => ?_, hblank, hpositive, fun hslash => ?_, fun o ho => origin_of_mem ho⟩
        · cases s with
          | timeout => exact htimeout
          | _ => rfl
        · exact absurd (Text.getLast?_dropEndWhile hslash) (by decide)

theorem exists_of_isOk {w : World} (h : (load w).isOk = true) : ∃ c, load w = .ok c := by
  cases hload : load w with
  | error e => rw [hload] at h; cases h
  | ok c => exact ⟨c, rfl⟩

/-- **The strongest source that says something decides.** Two worlds that can be loaded and that agree on
the sources of a setting down to the decisive one agree on the setting. Unless an empty text in the JSON
file stands in the way, the setting is read off the text of the decisive source. And whatever is loaded
can be used: the database is named, the waiting time is above zero, the start of the URLs does not end
with a slash, and the origins are trimmed, not empty, and free of commas. -/
theorem precedence_respected {w v : World} {c d : Config} (hc : load w = .ok c) (hd : load v = .ok d) :
    (∀ s : Setting, downToDecisive (s.ranked w) = downToDecisive (s.ranked v) → c.Same d s) ∧
    (∀ s : Setting, some [] ∉ downToDecisive (s.ranked w) →
      c.Reads ((s.ranked w).findSome? filled) s) ∧
    c.Sound := by
  obtain ⟨hreads, hsound⟩ := reads_of_load hc
  refine ⟨fun s hagree => ?_, fun s hempty => ?_, hsound⟩
  · have htext : s.text? w = s.text? v := by
      rw [s.text?_eq, s.text?_eq, ← findSome?_downToDecisive, hagree, findSome?_downToDecisive]
    exact (hreads s).same (htext ▸ (reads_of_load hd).1 s)
  · rw [← findSome?_eq_filled hempty, ← s.text?_eq]
    exact hreads s

/-- A world with a list of origins in a variable, a variable that is empty, a file, and a JSON file. -/
def layeredWorld : World :=
  ⟨[("CORS_ORIGINS", " https://a.example , ,"), ("DATABASE_URL", [])],
    [("config/airtable.token", .file (Utf8.encode " pat ")),
      ("formsync_config.json",
        .file (Utf8.encode "\x7b\"airtable\": \x7b\"timeout_seconds\": 2.5\x7d\x7d"))]⟩

/-- A world with the same list, a file and a JSON file that are not read for it, and a directory in the
place of a file. -/
def brokenWorld : World :=
  ⟨[("CORS_ORIGINS", " https://a.example , ,")],
    [("config/airtable.token", .directory), ("config/cors.origins", .file (Utf8.encode "*")),
      ("formsync_config.json", .file (Utf8.encode ","))]⟩

/-- Both worlds can be loaded, and agree on the origins because the variable decides. -/
theorem precedence_respected_layered :
    ∃ c d, load layeredWorld = .ok c ∧ load brokenWorld = .ok d ∧
      ((∀ s : Setting, downToDecisive (s.ranked layeredWorld) = downToDecisive (s.ranked brokenWorld) →
          c.Same d s) ∧
        (∀ s : Setting, some [] ∉ downToDecisive (s.ranked layeredWorld) →
          c.Reads ((s.ranked layeredWorld).findSome? filled) s) ∧
        c.Sound) ∧
      Setting.origins.ranked layeredWorld ≠ Setting.origins.ranked brokenWorld ∧ c.Same d .origins := by
  have hlayered : (load layeredWorld).isOk = true := by decide +kernel
  have hbroken : (load brokenWorld).isOk = true := by decide +kernel
  obtain ⟨c, hc⟩ := exists_of_isOk hlayered
  obtain ⟨d, hd⟩ := exists_of_isOk hbroken
  have hboth := precedence_respected hc hd
  exact ⟨c, d, hc, hd, hboth, by decide +kernel, hboth.1 .origins (by decide +kernel)⟩

end Settings

end Intake
