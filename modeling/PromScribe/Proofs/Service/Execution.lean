import PromScribe.Proofs.Collaborator.Transcript
import PromScribe.Proofs.Json.Decoding
import PromScribe.Proofs.Translation.Fitting
import PromScribe.Service.Router

/-!
# What the backend is asked for a request

A request to execute a query is meaningful if its query is not blank and its times and its step can
be read as far as they are looked at. The backend is asked once for a meaningful request and never
for another one, which is refused as a fault of the client. The step of a range has a length, and a
step that the request does not name is neither short nor one of many.
-/

namespace PromScribe

open Text

/-- A field that is left out, or holds what its text is read as. -/
inductive Given {ε α : Type} (read : String → Except ε α) : Option String → Option α → Prop where
  | absent : Given read none none
  | read {text : String} {value : α} (reads : read text = .ok value) :
      Given read (some text) (some value)

/-- What fails is refused as a fault of the client. -/
def Refuses {α : Type} (checked : Except ApplicationFault α) : Prop :=
  ∀ fault, checked = .error fault → ∃ reason, fault = .input reason

namespace Refuses

variable {ε α β : Type}

theorem ok (value : α) : Refuses (.ok value) :=
  nofun

theorem input (reason : String) : Refuses (.error (.input reason) : Except ApplicationFault α) := by
  rintro fault ⟨⟩
  exact ⟨reason, rfl⟩

theorem mapError (outcome : Except ε α) (wording : ε → String) :
    Refuses (outcome.mapError fun cause => .input (wording cause)) := by
  cases outcome with
  | ok value => exact ok value
  | error cause => exact input (wording cause)

theorem bind {checked : Except ApplicationFault α} {next : α → Except ApplicationFault β}
    (first : Refuses checked) (rest : ∀ value, Refuses (next value)) :
    Refuses (checked >>= next) := by
  cases checked with
  | ok value => exact rest value
  | error cause =>
      rintro fault ⟨⟩
      exact first cause rfl

end Refuses

namespace Instant

variable {start stop : Instant}

/-- Between instants outside of leap seconds is the difference of their nanoseconds. -/
theorem nanosecondsBetween_eq (startPlain : start.nanosecond < 1000000000)
    (stopPlain : stop.nanosecond < 1000000000) :
    nanosecondsBetween start stop =
      (stop.second * 1000000000 + stop.nanosecond) -
        (start.second * 1000000000 + start.nanosecond) := by
  unfold nanosecondsBetween secondOfDay
  rw [decide_eq_false (Nat.not_le_of_lt startPlain), decide_eq_false (Nat.not_le_of_lt stopPlain),
    Bool.and_false, Bool.and_false, if_neg Bool.false_ne_true, if_neg Bool.false_ne_true]
  dsimp only
  omega

/-- An instant is before another one just if there is time between them. -/
theorem before_iff_nanosecondsBetween_pos (startPlain : start.nanosecond < 1000000000)
    (stopPlain : stop.nanosecond < 1000000000) :
    start.before stop = true ↔ 0 < nanosecondsBetween start stop := by
  rw [nanosecondsBetween_eq startPlain stopPlain]
  unfold before
  simp only [Bool.or_eq_true, Bool.and_eq_true, decide_eq_true_eq, beq_iff_eq]
  omega

end Instant

namespace Execution

variable {request : Execution} {plan : Plan}

/-- The plan of a request with these times and this step. -/
inductive Names (request : Execution) : Plan → Prop where
  | range {startText stopText : String} {start stop : Instant} {step : Option TimeSpan}
      (starts : request.start = some startText) (startReads : Instant.read startText = .ok start)
      (stops : request.stop = some stopText) (stopReads : Instant.read stopText = .ok stop)
      (before : start.before stop = true) (given : Given TimeSpan.read request.step step) :
      Names request (.range ⟨start, stop, step.getD (defaultStep start stop)⟩)
  | instant {time : Option Instant} (startless : request.start = none)
      (stopless : request.stop = none) (given : Given Instant.read request.timestamp time) :
      Names request (.instant time)

/-- The request is meaningful and has the plan. -/
structure Means (request : Execution) (plan : Plan) : Prop where
  full : isBlankText request.query = false
  names : request.Names plan

theorem stepOf_eq_ok_iff {start stop : Instant} {text : Option String} {step : TimeSpan} :
    stepOf start stop text = .ok step ↔
      ∃ given, Given TimeSpan.read text given ∧ given.getD (defaultStep start stop) = step := by
  cases text with
  | none =>
      constructor
      · rintro ⟨⟩
        exact ⟨none, .absent, rfl⟩
      · rintro ⟨_, ⟨⟩, rfl⟩
        rfl
  | some text =>
      refine mapError_eq_ok_iff.trans ⟨fun reads => ⟨some step, .read reads, rfl⟩, ?_⟩
      rintro ⟨_, given, rfl⟩
      cases given with
      | read reads => exact reads

theorem time?_eq_ok_iff {time : Option Instant} :
    request.time? = .ok time ↔ Given Instant.read request.timestamp time := by
  unfold time? instantOf
  cases request.timestamp with
  | none =>
      constructor
      · rintro ⟨⟩
        exact .absent
      · rintro ⟨⟩
        rfl
  | some text =>
      refine map_eq_ok_iff.trans ⟨?_, ?_⟩
      · rintro ⟨instant, reads, rfl⟩
        exact .read (mapError_eq_ok_iff.mp reads)
      · intro given
        cases given with
        | read reads => exact ⟨_, mapError_eq_ok_iff.mpr reads, rfl⟩

/-- A range is found just for a meaningful start and end, nothing just without both of them. -/
theorem range?_eq_ok_iff {found : Option RangeQuery} :
    request.range? = .ok found ↔
      (found = none ∧ request.start = none ∧ request.stop = none) ∨
        ∃ range, found = some range ∧ request.Names (.range range) := by
  constructor
  · intro ranged
    unfold range? at ranged
    split at ranged
    · next startText stopText starts stops =>
        obtain ⟨start, startReads, ranged⟩ := bind_eq_ok_iff.mp ranged
        obtain ⟨stop, stopReads, ranged⟩ := bind_eq_ok_iff.mp ranged
        split at ranged
        · cases ranged
        · next before =>
            obtain ⟨step, stepped, ranged⟩ := bind_eq_ok_iff.mp ranged
            obtain ⟨given, givenStep, rfl⟩ := stepOf_eq_ok_iff.mp stepped
            cases ranged
            refine .inr ⟨_, rfl, .range starts (mapError_eq_ok_iff.mp startReads) stops
              (mapError_eq_ok_iff.mp stopReads) ?_ givenStep⟩
            simpa using before
    · next starts stops =>
        cases ranged
        exact .inl ⟨rfl, starts, stops⟩
    · cases ranged
  · rintro (⟨rfl, starts, stops⟩ | ⟨range, rfl, names⟩)
    · unfold range?
      rw [starts, stops]
    · cases names with
      | range starts startReads stops stopReads before given =>
          unfold range? instantOf
          rw [starts, stops]
          dsimp only
          rw [startReads, stopReads]
          refine bind_eq_ok_iff.mpr ⟨_, rfl, bind_eq_ok_iff.mpr ⟨_, rfl, ?_⟩⟩
          rw [before]
          exact bind_eq_ok_iff.mpr ⟨_, stepOf_eq_ok_iff.mpr ⟨_, given, rfl⟩, rfl⟩

/-- The plan for what was found of a range. -/
def planOf (request : Execution) : Option RangeQuery → Except ApplicationFault Plan
  | some range => .ok (.range range)
  | none => request.time? >>= fun time => .ok (.instant time)

theorem plan_eq (request : Execution) : request.plan =
    if isBlankText request.query then .error (.input "query cannot be empty")
    else request.range? >>= request.planOf := by
  unfold plan
  cases isBlankText request.query with
  | true => rfl
  | false =>
      cases request.range? with
      | error fault => rfl
      | ok found =>
          cases found with
          | some range => rfl
          | none => rfl

theorem plan_eq_ok_iff : request.plan = .ok plan ↔ request.Means plan := by
  rw [plan_eq]
  cases blank : isBlankText request.query with
  | true =>
      refine iff_of_false nofun fun means => ?_
      rw [means.full] at blank
      cases blank
  | false =>
      rw [if_neg Bool.false_ne_true, bind_eq_ok_iff]
      constructor
      · rintro ⟨found, ranged, planned⟩
        refine ⟨blank, ?_⟩
        rcases range?_eq_ok_iff.mp ranged with ⟨rfl, starts, stops⟩ | ⟨range, rfl, names⟩
        · obtain ⟨time, timed, ⟨⟩⟩ := bind_eq_ok_iff.mp planned
          exact .instant starts stops (time?_eq_ok_iff.mp timed)
        · cases planned
          exact names
      · rintro ⟨-, names⟩
        cases plan with
        | range range => exact ⟨some range, range?_eq_ok_iff.mpr (.inr ⟨range, rfl, names⟩), rfl⟩
        | instant time =>
            cases names with
            | instant startless stopless given =>
                refine ⟨none, range?_eq_ok_iff.mpr (.inl ⟨rfl, startless, stopless⟩), ?_⟩
                exact bind_eq_ok_iff.mpr ⟨time, time?_eq_ok_iff.mpr given, rfl⟩

/-- A request has one plan at most. -/
theorem Means.unique {other : Plan} (means : request.Means plan) (also : request.Means other) :
    plan = other :=
  Except.ok.inj ((plan_eq_ok_iff.mpr means).symm.trans (plan_eq_ok_iff.mpr also))

theorem refuses_range? (request : Execution) : Refuses request.range? := by
  unfold range?
  split
  · refine .bind (.mapError _ _) fun start => .bind (.mapError _ _) fun stop => ?_
    split
    · exact .input _
    · refine .bind ?_ fun step => .ok _
      unfold stepOf
      split
      · exact .ok _
      · exact .mapError _ _
  · exact .ok _
  · exact .input _

theorem refuses_time? (request : Execution) : Refuses request.time? := by
  unfold time?
  split
  · exact .ok _
  · exact .bind (.mapError _ _) fun instant => .ok _

theorem refuses_plan (request : Execution) : Refuses request.plan := by
  rw [plan_eq]
  split
  · exact .input _
  · refine .bind request.refuses_range? fun found => ?_
    cases found with
    | some range => exact .ok _
    | none => exact .bind request.refuses_time? fun time => .ok _

/-- The step for a span of nanoseconds is neither short nor one of many. -/
structure Spaced (span : Int) (step : TimeSpan) : Prop where
  second_le : 1000000000 ≤ step.nanoseconds
  /-- No more than so many whole steps are in the span. -/
  steps_le : span / step.nanoseconds ≤ 250
  /-- As many steps are within a span that is long enough for them. -/
  within : 250 * 1000000000 ≤ span → 250 * step.nanoseconds ≤ span

theorem Spaced.of_eq_max {span : Int} {step : TimeSpan}
    (chosen : step.nanoseconds = max (span.toNat / 250) 1000000000) : Spaced span step := by
  have second : 1000000000 ≤ step.nanoseconds := by omega
  refine ⟨second, ?_, by omega⟩
  -- What the division by the count leaves over is less than a step of a second or more.
  have below : span < (250 + 1) * step.nanoseconds := by omega
  exact Int.lt_add_one_iff.mp (Int.ediv_lt_of_lt_mul (by omega) below)

/-- The step of a range has a length, and is well spaced if the request does not name it. -/
theorem Means.step_sound {range : RangeQuery} (means : request.Means (.range range)) :
    0 < range.step.nanoseconds ∧ (request.step = none →
      Spaced (Instant.nanosecondsBetween range.start range.stop) range.step) := by
  cases means.names with
  | @range _ _ start stop step _ _ _ _ _ given =>
      cases named : request.step with
      | none =>
          rw [named] at given
          cases given
          have spaced : Spaced (Instant.nanosecondsBetween start stop) (defaultStep start stop) :=
            .of_eq_max rfl
          exact ⟨Nat.lt_of_lt_of_le (by decide) spaced.second_le, fun _ => spaced⟩
      | some text =>
          rw [named] at given
          cases given with
          | @read _ span reads =>
              have lasting : span.nanoseconds ≠ 0 :=
                beq_eq_false_iff_ne.mp (TimeSpan.isZero_of_read reads)
              exact ⟨Nat.pos_of_ne_zero lasting, nofun⟩

/-- The one wait for a planned query. -/
def Plan.exchange (query : String) : Plan → Except CollaboratorFault QueryData → Exchange
  | .range between, outcome => .answered (.queryRange query between) outcome
  | .instant time, outcome => .answered (.query query time) outcome

theorem plays_perform_iff {query : String} {transcript : Transcript}
    {outcome : Except CollaboratorFault QueryData} :
    (perform query plan).Plays transcript outcome ↔ transcript = [plan.exchange query outcome] :=
  match plan with
  | .range range => Work.plays_outcomeOf_iff (.queryRange query range) outcome
  | .instant time => Work.plays_outcomeOf_iff (.query query time) outcome

/-- The result for what the backend answered. -/
def result (request : Execution) (outcome : Except CollaboratorFault QueryData) :
    Except ApplicationFault Executed :=
  (outcome.mapError CollaboratorFault.toApplication).map fun data =>
    ⟨data, Chart.suggest request.query data⟩

/-- A request with a plan has the result of the planned query. -/
theorem run_execute (planned : request.plan = .ok plan) :
    request.execute.run =
      Work.bind (perform request.query plan) fun outcome => .done (request.result outcome) := by
  have ends (outcome : Except CollaboratorFault QueryData) :
      (Attempt.ofWork CollaboratorFault.toApplication (.done outcome) >>= fun data =>
        pure ⟨data, Chart.suggest request.query data⟩ : Attempt ApplicationFault Executed).run =
        .done (request.result outcome) := by
    cases outcome with
    | ok data => rfl
    | error fault => rfl
  unfold execute
  rw [planned]
  cases plan with
  | range between => exact congrArg (Work.call _) (funext ends)
  | instant time => exact congrArg (Work.call _) (funext ends)

/-- The response to what the backend answered. -/
def response (request : Execution) (outcome : Except CollaboratorFault QueryData) :
    Http.Response :=
  responseOf Executed.toJson (request.result outcome)

theorem status_response (request : Execution) (outcome : Except CollaboratorFault QueryData) :
    (request.response outcome).status ∈ [200, 500, 504] := by
  cases outcome with
  | ok data => exact List.mem_cons_self
  | error fault =>
      have failed : fault.toApplication.status ∈ [500, 504] := by
        cases fault <;> simp [CollaboratorFault.toApplication, ApplicationFault.status]
      exact List.mem_cons_of_mem 200 failed

end Execution

namespace Router

variable {translator : Translator} {request : Http.Request} {execution : Execution}
variable {plan : Execution.Plan}

/-- The response to a posted request is that of its endpoint. -/
theorem respond_eq_of_posted {endpoint : Endpoint} (posted : request.method = "POST")
    (asked : Endpoint.ofTarget? request.target = some endpoint)
    (answers : endpoint.methods.contains "POST" = true) :
    respond translator request =
      Work.bind (serve translator request endpoint) fun response => .done (shared response) := by
  have routed : route translator request = serve translator request endpoint := by
    unfold route
    rw [asked, posted]
    exact if_pos answers
  have whole (response : Http.Response) : headOnly request response = response := by
    unfold headOnly
    rw [posted]
    rfl
  unfold respond
  simp only [routed, whole]

/-- The request is answered with what the backend answers for its plan. -/
theorem respond_eq_of_means (posted : request.method = "POST")
    (asked : Endpoint.ofTarget? request.target = some .execute)
    (decoded : bodyOf Execution.decode request = .ok execution) (means : execution.Means plan) :
    respond translator request = Work.bind (Execution.perform execution.query plan)
      fun outcome => .done (shared (execution.response outcome)) := by
  have executed : (execute request).run = execution.execute.run := by
    unfold execute
    rw [decoded]
    rfl
  rw [respond_eq_of_posted posted asked (by decide)]
  unfold serve answered
  dsimp only
  rw [executed, Execution.run_execute (Execution.plan_eq_ok_iff.mpr means)]
  cases plan with
  | range between => rfl
  | instant time => rfl

/-- A request that is refused is answered with why. -/
theorem respond_eq_of_error {fault : ApplicationFault} (posted : request.method = "POST")
    (asked : Endpoint.ofTarget? request.target = some .execute)
    (refused : bodyOf Execution.decode request >>= Execution.plan = .error fault) :
    respond translator request = .done (shared (failureResponse fault)) := by
  have executed : (execute request).run = .done (.error fault) := by
    unfold execute Execution.execute
    cases decoded : bodyOf Execution.decode request with
    | error cause =>
        rw [decoded] at refused
        cases refused
        rfl
    | ok execution =>
        rw [decoded] at refused
        have planned : execution.plan = .error fault := refused
        change (Attempt.ofExcept id execution.plan >>= _ : Attempt _ _).run = _
        rw [planned]
        rfl
  rw [respond_eq_of_posted posted asked (by decide)]
  unfold serve answered
  dsimp only
  rw [executed]
  rfl

theorem bodyOf_refuses {α : Type} (decoder : Decoder α) (request : Http.Request) :
    Refuses (bodyOf decoder request) :=
  .mapError _ _

/-- The backend is asked once for a meaningful request, and its answer decides on the response;
for any other request it is not asked, and the response is that of a fault of the client. The step
of a range that is asked for is sound. -/
theorem execute_asks_once (posted : request.method = "POST")
    (asked : Endpoint.ofTarget? request.target = some .execute) :
    (∀ execution plan, bodyOf Execution.decode request = .ok execution → execution.Means plan →
      ∀ transcript response, (respond translator request).Plays transcript response ↔
        ∃ outcome, transcript = [plan.exchange execution.query outcome] ∧
          response = shared (execution.response outcome) ∧ response.status ≠ 400) ∧
    ((∀ execution plan, bodyOf Execution.decode request = .ok execution →
        ¬ execution.Means plan) →
      ∃ reason, ∀ transcript response, (respond translator request).Plays transcript response ↔
        transcript = [] ∧ response = shared (failureResponse (.input reason)) ∧
          response.status = 400) ∧
    ∀ (execution : Execution) range, execution.Means (.range range) →
      0 < range.step.nanoseconds ∧ (execution.step = none → Execution.Spaced
        (Instant.nanosecondsBetween range.start range.stop) range.step) := by
  refine ⟨?meaningful, ?refused, fun execution range => Execution.Means.step_sound⟩
  case meaningful =>
    intro execution plan decoded means transcript response
    rw [respond_eq_of_means posted asked decoded means, Work.plays_bind_iff]
    constructor
    · rintro ⟨_, _, outcome, rfl, plays, ended⟩
      obtain ⟨rfl, rfl⟩ := Work.plays_done_iff.mp ended
      obtain rfl := Execution.plays_perform_iff.mp plays
      refine ⟨outcome, rfl, rfl, fun refused => ?_⟩
      have status := execution.status_response outcome
      change (execution.response outcome).status = 400 at refused
      rw [refused] at status
      revert status
      decide
    · rintro ⟨outcome, rfl, rfl, -⟩
      exact ⟨_, [], outcome, rfl, Execution.plays_perform_iff.mpr rfl, .done⟩
  case refused =>
    intro meaningless
    cases checked : bodyOf Execution.decode request >>= Execution.plan with
    | ok plan =>
        obtain ⟨execution, decoded, planned⟩ := bind_eq_ok_iff.mp checked
        exact absurd (Execution.plan_eq_ok_iff.mp planned) (meaningless execution plan decoded)
    | error fault =>
        have refuses : Refuses (bodyOf Execution.decode request >>= Execution.plan) :=
          .bind (bodyOf_refuses _ _) Execution.refuses_plan
        obtain ⟨reason, rfl⟩ := refuses fault checked
        refine ⟨reason, fun transcript response => ?_⟩
        rw [respond_eq_of_error posted asked checked, Work.plays_done_iff]
        constructor
        · rintro ⟨rfl, rfl⟩
          exact ⟨rfl, rfl, rfl⟩
        · rintro ⟨rfl, rfl, -⟩
          exact ⟨rfl, rfl⟩

/-- A posted request to execute a query. -/
def executionRequest (execution : Execution) : Http.Request :=
  ⟨"POST", Endpoint.execute.path, [(Http.contentType, Http.jsonType)], execution.toJson.text⟩

/-- One hour without a step. -/
def hourExecution : Execution :=
  ⟨"up", some "2024-01-01T00:00:00Z", some "2024-01-01T01:00:00Z", none, none⟩

/-- The hour in steps of a little more than fourteen seconds. -/
def hourRange : RangeQuery :=
  ⟨⟨1704067200, 0⟩, ⟨1704070800, 0⟩, ⟨14400000000⟩⟩

theorem means_hourExecution : hourExecution.Means (.range hourRange) :=
  Execution.plan_eq_ok_iff.mp (by decide +kernel)

/-- An hour is asked for once; an hour without its end is not asked for. -/
theorem execute_asks_once_hour :
    (∃ response, (respond Extraction.plainTranslator (executionRequest hourExecution)).Plays
      [.answered (.queryRange "up" hourRange) (.ok .empty)] response ∧ response.status ≠ 400) ∧
    ∃ response, (respond Extraction.plainTranslator
      (executionRequest { hourExecution with stop := none })).Plays [] response ∧
        response.status = 400 := by
  constructor
  · obtain ⟨meaningful, -, -⟩ :=
      @execute_asks_once Extraction.plainTranslator (executionRequest hourExecution) rfl (by decide)
    have plays := (meaningful hourExecution _ (by decide +kernel) means_hourExecution _ _).mpr
      ⟨.ok .empty, rfl, rfl, by decide +kernel⟩
    exact ⟨_, plays, by decide +kernel⟩
  · obtain ⟨-, refused, -⟩ := @execute_asks_once Extraction.plainTranslator
      (executionRequest { hourExecution with stop := none }) rfl (by decide)
    have decoded : bodyOf Execution.decode (executionRequest { hourExecution with stop := none }) =
        .ok { hourExecution with stop := none } := by decide +kernel
    obtain ⟨reason, plays⟩ := refused fun execution plan other means => by
      cases decoded.symm.trans other
      have planned := Execution.plan_eq_ok_iff.mpr means
      cases planned
    exact ⟨_, (plays [] _).mpr ⟨rfl, rfl, rfl⟩, rfl⟩

end Router

end PromScribe
