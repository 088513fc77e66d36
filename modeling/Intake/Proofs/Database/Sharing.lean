import Intake.Database.Engine

/-!
# How the engine is shared

One engine is kept, and the calls ask for it one after the other. What a call gives depends only on the
engine that was given last:

        no address, or that of the last engine ──▶ the last engine
        another address ──▶ close its connections ──▶ usable? ──▶ a new engine │ an error

An error changes no answer. This rests on what the cache keeps through all calls: its engine is the one that
was given last, the address beside it is the one that this engine was made for, and its number of engines
is above the numbers of all that were given. The connections that were closed are never looked at, so they
can be put in front of a run afterwards. That is how an error is told from a call that was not made: the
engine is the same, but it opens new connections, and a database in memory is another one.
-/

namespace Intake.Database

/-- An engine serves a call as it is: no address is asked for, or the one that it was made for. -/
def Engine.Serves (fallback : Text) (url : Option Text) (e : Engine) : Prop :=
  url = none ∨ e.url = resolved fallback url

instance Engine.decidableServes (fallback : Text) (url : Option Text) (e : Engine) :
    Decidable (e.Serves fallback url) := inferInstanceAs (Decidable (_ ∨ _))

/-- The engine that was given last. -/
def lastGiven (answers : List (Except SetupError Engine)) : Option Engine :=
  (answers.filterMap Except.toOption).getLast?

theorem lastGiven_concat_ok (answers : List (Except SetupError Engine)) (e : Engine) :
    lastGiven (answers ++ [.ok e]) = some e := by
  rw [lastGiven, List.filterMap_append]
  exact List.getLast?_concat

theorem lastGiven_concat_error (answers : List (Except SetupError Engine)) (err : SetupError) :
    lastGiven (answers ++ [.error err]) = lastGiven answers := by
  rw [lastGiven, List.filterMap_append]
  exact congrArg List.getLast? (List.append_nil _)

theorem mem_of_lastGiven {answers : List (Except SetupError Engine)} {e : Engine}
    (h : lastGiven answers = some e) : .ok e ∈ answers := by
  obtain ⟨x, hx, hxe⟩ := List.mem_filterMap.1 (List.mem_of_getLast? h)
  cases x with
  | error err => cases hxe
  | ok x =>
    cases hxe
    exact hx

namespace Cache

/-! ### One call -/

/-- The address that is kept is that of the engine that is kept. -/
def InStep (c : Cache) : Prop := c.url = c.engine.map (·.url)

theorem InStep.url_eq {c : Cache} (h : c.InStep) {e : Engine} (hengine : c.engine = some e) :
    c.url = some e.url := by
  rw [h, hengine, Option.map_some]

/-- An engine that serves is given again, and nothing changes. -/
theorem acquire_of_serves {fallback : Text} {url : Option Text} {c : Cache} (hstep : c.InStep)
    {e : Engine} (hengine : c.engine = some e) (h : e.Serves fallback url) :
    c.acquire fallback url = (.ok e, c) := by
  have hreuse : (url.isNone || c.url == some (resolved fallback url)) = true := by
    rcases h with rfl | h
    · rfl
    · rw [hstep.url_eq hengine, h, beq_self_eq_true, Bool.or_true]
  rw [acquire, hengine]
  simp only [hreuse, if_true]

/-- Where the engine does not serve, it is replaced. -/
theorem acquire_of_not_serves {fallback : Text} {url : Option Text} {c : Cache} (hstep : c.InStep)
    (h : ∀ e, c.engine = some e → ¬ e.Serves fallback url) :
    c.acquire fallback url = c.replace (resolved fallback url) := by
  rw [acquire]
  cases hengine : c.engine with
  | none => rfl
  | some e =>
    have hreuse : (url.isNone || c.url == some (resolved fallback url)) = false := by
      rw [hstep.url_eq hengine, Bool.or_eq_false_iff, Option.isNone_eq_false_iff, beq_eq_false_iff_ne]
      exact ⟨Option.isSome_iff_ne_none.2 fun hnone => h e hengine (.inl hnone),
        fun hsame => h e hengine (.inr (Option.some.inj hsame))⟩
    simp only [hreuse, Bool.false_eq_true, if_false]

/-- What a call can do: give the engine that is kept; or close its connections and then make a new one, or
fail. -/
theorem acquire_cases {c : Cache} (hstep : c.InStep) (fallback : Text) (url : Option Text) :
    (∃ e, c.engine = some e ∧ e.Serves fallback url ∧ c.acquire fallback url = (.ok e, c)) ∨
    (∀ e, c.engine = some e → ¬ e.Serves fallback url) ∧
      ((∃ err, Address.usable (resolved fallback url) = .error err ∧
          c.acquire fallback url = (.error err, c.dispose)) ∨
        ∃ a, Address.usable (resolved fallback url) = .ok a ∧
          let e : Engine := ⟨c.made, resolved fallback url, poolFor (resolved fallback url) a,
            a.isInMemory⟩
          c.acquire fallback url =
            (.ok e, ⟨some e, some e.url, c.made + 1, c.closed ++ c.engine.toList⟩)) := by
  by_cases h : ∃ e, c.engine = some e ∧ e.Serves fallback url
  · obtain ⟨e, hengine, hserves⟩ := h
    exact .inl ⟨e, hengine, hserves, acquire_of_serves hstep hengine hserves⟩
  · have hnot : ∀ e, c.engine = some e → ¬ e.Serves fallback url := fun e hengine hserves =>
      h ⟨e, hengine, hserves⟩
    refine .inr ⟨hnot, ?_⟩
    rw [acquire_of_not_serves hstep hnot]
    cases husable : Address.usable (resolved fallback url) with
    | error err => exact .inl ⟨err, rfl, replace_of_error husable c⟩
    | ok a => exact .inr ⟨a, rfl, replace_of_ok husable c⟩

/-- A call that fails leaves everything but the connections as it was. -/
theorem acquire_of_error {fallback : Text} {url : Option Text} {c : Cache} (hstep : c.InStep)
    {err : SetupError} (h : (c.acquire fallback url).1 = .error err) :
    (c.acquire fallback url).2 = c.dispose := by
  rcases acquire_cases hstep fallback url with
    ⟨e, -, -, heq⟩ | ⟨-, ⟨err, -, heq⟩ | ⟨a, -, heq⟩⟩ <;> rw [heq] at h ⊢
  · cases h
  · cases h

/-- What was closed longer ago stands in front. -/
def after (older : List Engine) (c : Cache) : Cache := { c with closed := older ++ c.closed }

/-- What was closed before plays no part in a call. -/
theorem acquire_after (older : List Engine) (c : Cache) (fallback : Text) (url : Option Text) :
    (c.after older).acquire fallback url =
      ((c.acquire fallback url).1, (c.acquire fallback url).2.after older) := by
  have hreplace : (c.after older).replace (resolved fallback url) =
      ((c.replace (resolved fallback url)).1, (c.replace (resolved fallback url)).2.after older) := by
    cases husable : Address.usable (resolved fallback url) with
    | error err =>
      rw [replace_of_error husable, replace_of_error husable, dispose, after, List.append_assoc]
      rfl
    | ok a =>
      rw [replace_of_ok husable, replace_of_ok husable, after, List.append_assoc]
      rfl
  have hengine : (c.after older).engine = c.engine := rfl
  have hurl : (c.after older).url = c.url := rfl
  rw [acquire, acquire, hengine, hurl]
  cases c.engine with
  | none => exact hreplace
  | some e =>
    simp only
    split
    · rfl
    · exact hreplace

end Cache

/-! ### Calls after calls -/

/-- The cache fits the answers that were given: it keeps the last engine and the address of that engine,
and will give the next one a number of its own. -/
structure Cache.Fits (c : Cache) (past : List (Except SetupError Engine)) : Prop where
  engine : c.engine = lastGiven past
  inStep : c.InStep
  made : ∀ e : Engine, .ok e ∈ past → e.serial < c.made

/-- What a call answers after others: the engine that was given last exactly when that one serves, else a
new one, made for the address that is asked for; and an error exactly when it does not serve and the address
is not usable. -/
structure Answers (fallback : Text) (past : List (Except SetupError Engine)) (url : Option Text)
    (answer : Except SetupError Engine) : Prop where
  same : ∀ e, answer = .ok e →
    (lastGiven past = some e ↔ ∃ p, lastGiven past = some p ∧ p.Serves fallback url)
  new : ∀ e, answer = .ok e → lastGiven past ≠ some e →
    e.url = resolved fallback url ∧ ∀ p : Engine, .ok p ∈ past → p.serial ≠ e.serial
  refused : ∀ err, answer = .error err ↔
    (∀ p, lastGiven past = some p → ¬ p.Serves fallback url) ∧
      Address.usable (resolved fallback url) = .error err

/-- The numbers of the given engines stay below a bound if that of the next one does. -/
theorem serial_lt_concat {past : List (Except SetupError Engine)} {answer : Except SetupError Engine}
    {n : Nat} (hpast : ∀ e : Engine, .ok e ∈ past → e.serial < n)
    (hanswer : ∀ e : Engine, answer = .ok e → e.serial < n) :
    ∀ e : Engine, .ok e ∈ past ++ [answer] → e.serial < n := by
  intro e he
  rcases List.mem_append.1 he with he | he
  · exact hpast e he
  · exact hanswer e (List.mem_singleton.1 he).symm

namespace Cache

theorem fits_empty : Fits empty [] := ⟨rfl, rfl, fun _ h => absurd h List.not_mem_nil⟩

/-- One call keeps the cache fitting. -/
theorem Fits.acquire {c : Cache} {past : List (Except SetupError Engine)} (h : c.Fits past)
    (fallback : Text) (url : Option Text) :
    (c.acquire fallback url).2.Fits (past ++ [(c.acquire fallback url).1]) := by
  rcases acquire_cases h.inStep fallback url with
    ⟨e, hengine, -, heq⟩ | ⟨-, ⟨err, -, heq⟩ | ⟨a, -, heq⟩⟩ <;> rw [heq]
  · refine ⟨hengine.trans (lastGiven_concat_ok past e).symm, h.inStep,
      serial_lt_concat h.made fun p hp => ?_⟩
    cases hp
    exact h.made e (mem_of_lastGiven (h.engine.symm.trans hengine))
  · exact ⟨h.engine.trans (lastGiven_concat_error past err).symm, h.inStep,
      serial_lt_concat h.made fun p hp => nomatch hp⟩
  · refine ⟨(lastGiven_concat_ok past _).symm, rfl,
      serial_lt_concat (fun p hp => Nat.lt_succ_of_lt (h.made p hp)) fun p hp => ?_⟩
    cases hp
    exact Nat.lt_succ_self _

/-- Of a cache that fits, a call answers as it should. -/
theorem Fits.answers {c : Cache} {past : List (Except SetupError Engine)} (h : c.Fits past)
    (fallback : Text) (url : Option Text) :
    Answers fallback past url (c.acquire fallback url).1 := by
  rcases acquire_cases h.inStep fallback url with
    ⟨e, hengine, hserves, heq⟩ | ⟨hnot, ⟨err, husable, heq⟩ | ⟨a, husable, heq⟩⟩ <;> rw [heq]
  · rw [h.engine] at hengine
    refine ⟨fun p hp => ?_, fun p hp hne => ?_, fun err => ⟨fun herr => ?_, fun hnone => ?_⟩⟩
    · cases hp
      exact ⟨fun _ => ⟨e, hengine, hserves⟩, fun _ => hengine⟩
    · cases hp
      exact absurd hengine hne
    · cases herr
    · exact absurd hserves (hnone.1 e hengine)
  · rw [h.engine] at hnot
    refine ⟨fun p hp => ?_, fun p hp => ?_, fun err' => ⟨fun herr => ?_, fun hnone => ?_⟩⟩
    · cases hp
    · cases hp
    · cases herr
      exact ⟨hnot, husable⟩
    · exact congrArg Except.error (Except.error.inj (husable.symm.trans hnone.2))
  · rw [h.engine] at hnot
    refine ⟨fun p hp => ⟨fun hlast => ?_, fun ⟨p', hlast, hserves⟩ => ?_⟩,
      fun p hp _ => ?_, fun err => ⟨fun herr => ?_, fun hnone => ?_⟩⟩
    · cases hp
      exact absurd (Or.inr rfl) (hnot _ hlast)
    · exact absurd hserves (hnot p' hlast)
    · cases hp
      exact ⟨rfl, fun q hq => Nat.ne_of_lt (h.made q hq)⟩
    · cases herr
    · rw [husable] at hnone
      cases hnone.2

/-- A call closes the connections of the engine that was given last if that does not serve, whether or not
a new one can be made. -/
theorem Fits.closed_acquire {c : Cache} {past : List (Except SetupError Engine)} (h : c.Fits past)
    (fallback : Text) (url : Option Text) : (c.acquire fallback url).2.closed =
      c.closed ++ ((lastGiven past).filter fun e => !e.Serves fallback url).toList := by
  rw [← h.engine]
  rcases acquire_cases h.inStep fallback url with
    ⟨e, hengine, hserves, heq⟩ | ⟨hnot, ⟨err, -, heq⟩ | ⟨a, -, heq⟩⟩ <;> rw [heq]
  · simp [hengine, hserves]
  all_goals
    have hfilter : c.engine.filter (fun e => !e.Serves fallback url) = c.engine := by
      cases hengine : c.engine with
      | none => rfl
      | some e => rw [Option.filter_some, decide_eq_false (hnot e hengine), Bool.not_false, if_pos rfl]
    rw [hfilter]
  rfl

/-- What is left in the cache after several calls. -/
def acquired (fallback : Text) (urls : List (Option Text)) (c : Cache) : Cache :=
  urls.foldl (fun c url => (c.acquire fallback url).2) c

theorem acquired_append (fallback : Text) (us vs : List (Option Text)) (c : Cache) :
    acquired fallback (us ++ vs) c = acquired fallback vs (acquired fallback us c) := List.foldl_append

theorem acquireAll_append (fallback : Text) (us vs : List (Option Text)) (c : Cache) :
    acquireAll fallback (us ++ vs) c =
      acquireAll fallback us c ++ acquireAll fallback vs (acquired fallback us c) := by
  induction us generalizing c with
  | nil => rfl
  | cons u us ih => exact congrArg (_ :: ·) (ih (c.acquire fallback u).2)

/-- All calls keep the cache fitting. -/
theorem Fits.acquired {c : Cache} {past : List (Except SetupError Engine)} (h : c.Fits past)
    (fallback : Text) (urls : List (Option Text)) :
    (acquired fallback urls c).Fits (past ++ acquireAll fallback urls c) := by
  induction urls generalizing c past with
  | nil =>
    rw [acquireAll, List.append_nil]
    exact h
  | cons url rest ih =>
    have hrest := ih (h.acquire fallback url)
    rw [List.append_assoc] at hrest
    exact hrest

/-! ### Calls that fail -/

/-- What was closed before plays no part in several calls. -/
theorem acquireAll_after (older : List Engine) (fallback : Text) (urls : List (Option Text)) (c : Cache) :
    acquireAll fallback urls (c.after older) = acquireAll fallback urls c := by
  induction urls generalizing c with
  | nil => rfl
  | cons url rest ih => rw [acquireAll, acquireAll, acquire_after, ih]

theorem acquired_after (older : List Engine) (fallback : Text) (urls : List (Option Text)) (c : Cache) :
    acquired fallback urls (c.after older) = (acquired fallback urls c).after older := by
  induction urls generalizing c with
  | nil => rfl
  | cons url rest ih =>
    have hnext : acquired fallback (url :: rest) (c.after older) =
        acquired fallback rest ((c.after older).acquire fallback url).2 := rfl
    rw [hnext, acquire_after, ih]
    rfl

/-- The cache before anything was closed. -/
def unclosed (c : Cache) : Cache := { c with closed := [] }

theorem after_closed (c : Cache) : c.unclosed.after c.closed = c := by
  rw [after, unclosed, List.append_nil]

theorem dispose_eq_after (c : Cache) : c.dispose = c.unclosed.after (c.closed ++ c.engine.toList) := by
  rw [after, unclosed, List.append_nil]
  rfl

/-- Closing the connections of the kept engine once more changes no answer. -/
theorem acquireAll_dispose (fallback : Text) (urls : List (Option Text)) (c : Cache) :
    acquireAll fallback urls c.dispose = acquireAll fallback urls c := by
  have hunclosed := acquireAll_after c.closed fallback urls c.unclosed
  rw [after_closed] at hunclosed
  rw [dispose_eq_after, acquireAll_after, hunclosed]

/-- Whatever is called afterwards, the connections of the kept engine were closed once more, and those of
the others as often. -/
theorem count_closed_dispose (fallback : Text) (urls : List (Option Text)) (c : Cache) (e : Engine) :
    (acquired fallback urls c.dispose).closed.count e =
      (acquired fallback urls c).closed.count e + c.engine.toList.count e := by
  have hkept := acquired_after c.closed fallback urls c.unclosed
  rw [after_closed] at hkept
  rw [dispose_eq_after, acquired_after, hkept, after, after, List.count_append, List.count_append,
    List.count_append]
  omega

/-- So it stands before another database exactly if that is in memory. -/
theorem backing_dispose_iff (fallback : Text) (urls : List (Option Text)) (c : Cache) (e : Engine) :
    (acquired fallback urls c.dispose).backing e = (acquired fallback urls c).backing e ↔
      ¬ (c.engine = some e ∧ e.isInMemory = true) := by
  rw [backing, backing, count_closed_dispose]
  cases hmemory : e.isInMemory with
  | false => simp
  | true =>
    have hcount : c.engine.toList.count e = 0 ↔ c.engine ≠ some e := by
      cases c.engine <;> simp [List.count_eq_zero, eq_comm]
    simpa using hcount

end Cache

/-- **The last engine is shared as long as it serves.** However often and with whatever addresses the
engine is asked for in a world, every call gives the engine of the last successful call before it exactly
when there is one and no address is asked for or the one that it was made for; else it gives a new engine
for the address, or fails if that is not usable. The connections of an engine are closed when a call comes
that it does not serve, and only then.

A call that fails might as well not have been made as far as answers go: all later calls give the same
engines without it. But it has closed the connections of the engine that was given last, so that engine, and
no other, stands before another database from then on if its database is in memory. -/
theorem engine_shared_while_it_serves (w : Settings.World) (before after : List (Option Text))
    (url : Option Text) :
    let fallback := variableUrl w
    let past := Cache.acquireAll fallback before .empty
    ∃ answer later,
      Cache.acquireAll fallback (before ++ url :: after) .empty = past ++ answer :: later ∧
      Answers fallback past url answer ∧
      (Cache.acquired fallback (before ++ [url]) .empty).closed =
        (Cache.acquired fallback before .empty).closed ++
          ((lastGiven past).filter fun e => !e.Serves fallback url).toList ∧
      ∀ err, answer = .error err →
        Cache.acquireAll fallback (before ++ after) .empty = past ++ later ∧
        ∀ e, (Cache.acquired fallback (before ++ url :: after) .empty).backing e =
            (Cache.acquired fallback (before ++ after) .empty).backing e ↔
          ¬ (lastGiven past = some e ∧ e.isInMemory = true) := by
  intro fallback past
  have hfits : (Cache.acquired fallback before .empty).Fits past := by
    have hall := Cache.fits_empty.acquired fallback before
    rwa [List.nil_append] at hall
  refine ⟨_, _, Cache.acquireAll_append fallback before (url :: after) .empty,
    hfits.answers fallback url, ?_, fun err herr => ?_⟩
  · rw [Cache.acquired_append]
    exact hfits.closed_acquire fallback url
  · have hfailed : ((Cache.acquired fallback before .empty).acquire fallback url).2 =
        (Cache.acquired fallback before .empty).dispose := Cache.acquire_of_error hfits.inStep herr
    refine ⟨?_, fun e => ?_⟩
    · rw [Cache.acquireAll_append, hfailed, Cache.acquireAll_dispose]
    · rw [Cache.acquired_append, Cache.acquired_append, ← hfits.engine]
      change (Cache.acquired fallback after
        ((Cache.acquired fallback before .empty).acquire fallback url).2).backing e = _ ↔ _
      rw [hfailed]
      exact Cache.backing_dispose_iff fallback after _ e

/-- A failed call stands between two that give the same engine, whose database in memory ends with it. -/
example : (Cache.acquireAll (variableUrl ⟨[], []⟩)
      [none, some "bogus", none, some "sqlite:///a.db", some []] .empty).map Except.toOption =
    [some ⟨0, Settings.defaultDatabase, .shared, true⟩, none,
      some ⟨0, Settings.defaultDatabase, .shared, true⟩, some ⟨1, "sqlite:///a.db", .queue, false⟩,
      some ⟨2, Settings.defaultDatabase, .shared, true⟩] ∧
    (Cache.acquired (variableUrl ⟨[], []⟩) [none, some "bogus", none] .empty).backing
      ⟨0, Settings.defaultDatabase, .shared, true⟩ = .memory 0 1 := by
  decide +kernel

end Intake.Database
