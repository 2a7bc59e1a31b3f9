import PromScribe.Client.Backend
import PromScribe.Proofs.Service.Execution
import PromScribe.Proofs.Time.InstantText

/-!
# The times that the backend is sent

The times of a request are sent in the order that they are looked at, each in universal time to the
millisecond. What is sent is in the form that requests are read in, as long as the year in universal
time has four digits: an offset may carry the first and the last of these years out of them.
-/

namespace PromScribe

namespace Execution

variable {request : Execution} {plan : Plan}

/-- The form of a planned query. -/
def Plan.form (query : String) : Plan → List (String × String)
  | .range between => Backend.rangeForm query between
  | .instant time => Backend.instantForm query time

/-- What the client of the backend does for a planned query. -/
def Plan.enquiry (settings : BackendSettings) (query : String) :
    Plan → Http.Enquiry CollaboratorFault QueryData
  | .range between => Backend.queryRange settings query between
  | .instant time => Backend.query settings query time

/-- The texts of the times that a plan is made of, under the names that they are sent under. -/
def times (request : Execution) : Plan → List (String × String)
  | .range _ => (request.start.toList.map fun text => ("start", text)) ++
      request.stop.toList.map fun text => ("end", text)
  | .instant _ => request.timestamp.toList.map fun text => ("time", text)

/-- What is sent for a time has its name. Its text is read as the time to the millisecond if the
year in universal time has four digits, else it is not read. -/
structure SentAs (named sent : String × String) : Prop where
  name : sent.1 = named.1
  time : ∃ instant, Instant.read named.2 = .ok instant ∧
    ∀ other, Instant.read sent.2 = .ok other ↔
      (0 ≤ instant.year ∧ instant.year ≤ 9999) ∧ other = instant.truncated

theorem sentAs_of_read {name text : String} {instant : Instant}
    (reads : Instant.read text = .ok instant) :
    SentAs (name, text) (name, instant.millisecondText) := by
  refine ⟨rfl, instant, reads, fun other => ?_⟩
  unfold Instant.read Instant.millisecondText
  rw [String.toList_ofList]
  exact InstantReader.strict_millisecondChars_iff (InstantReader.strict_regular reads)

theorem enquiry_eq (settings : BackendSettings) (query : String) (plan : Plan) :
    ∃ path, plan.enquiry settings query = Backend.enquiry settings path (plan.form query) := by
  cases plan with
  | range between =>
      refine ⟨"/api/v1/query_range", ?_⟩
      simp only [Plan.enquiry, Plan.form, Backend.queryRange]
  | instant time =>
      refine ⟨"/api/v1/query", ?_⟩
      simp only [Plan.enquiry, Plan.form, Backend.query]

/-- The address of a planned query holds its form. -/
theorem url_of_dispatch {settings : BackendSettings} {query : String} {dispatch : Http.Dispatch}
    (dispatched : (plan.enquiry settings query).dispatch = .ok dispatch) :
    ∃ url : Http.Url, dispatch.url = url.withForm (plan.form query) := by
  obtain ⟨path, same⟩ := enquiry_eq settings query plan
  rw [same] at dispatched
  unfold Backend.enquiry at dispatched
  dsimp only at dispatched
  split at dispatched
  · cases dispatched
  · next url read =>
      cases dispatched
      exact ⟨url, rfl⟩

/-- Each time that a planned query is made of is sent, and nothing else but the query and the step
is. What is sent for a time is read as the time to the millisecond, just if the year of the time has
four digits in universal time. -/
theorem times_sent (planned : request.plan = .ok plan) :
    ∃ sent steps, plan.form request.query = ("query", request.query) :: (sent ++ steps) ∧
      List.Forall₂ SentAs (request.times plan) sent ∧ (∀ step ∈ steps, step.1 = "step") ∧
      ∀ settings dispatch, (plan.enquiry settings request.query).dispatch = .ok dispatch →
        ∃ url : Http.Url, dispatch.url = url.withForm (plan.form request.query) := by
  have addressed (settings : BackendSettings) (dispatch : Http.Dispatch)
      (dispatched : (plan.enquiry settings request.query).dispatch = .ok dispatch) :=
    url_of_dispatch dispatched
  cases (plan_eq_ok_iff.mp planned).names with
  | range starts startReads stops stopReads before given =>
      refine ⟨[_, _], [_], rfl, ?_, List.forall_mem_singleton.mpr rfl, addressed⟩
      unfold times
      rw [starts, stops]
      exact .cons (sentAs_of_read startReads) (.cons (sentAs_of_read stopReads) .nil)
  | instant startless stopless given =>
      cases named : request.timestamp with
      | none =>
          rw [named] at given
          cases given
          refine ⟨[], [], rfl, ?_, nofun, addressed⟩
          unfold times
          rw [named]
          exact .nil
      | some text =>
          rw [named] at given
          cases given with
          | read reads =>
              refine ⟨[_], [], rfl, ?_, nofun, addressed⟩
              unfold times
              rw [named]
              exact .cons (sentAs_of_read reads) .nil

/-- A leap second of the year 2016 in the time of another place, with more digits than are sent. -/
def leapExecution : Execution :=
  ⟨"up", none, none, none, some "2016-12-31t15:59:60.9996-08:00"⟩

/-- The leap second in universal time. -/
def leapInstant : Instant := ⟨1483228799, 1999600000⟩

theorem times_sent_leap :
    leapExecution.plan = .ok (.instant (some leapInstant)) ∧
      (Plan.instant (some leapInstant)).form "up" =
        [("query", "up"), ("time", "2016-12-31T23:59:60.999Z")] ∧
      Instant.read "2016-12-31T23:59:60.999Z" = .ok leapInstant.truncated := by
  have planned : leapExecution.plan = .ok (.instant (some leapInstant)) := by decide +kernel
  have written : (Plan.instant (some leapInstant)).form "up" =
      [("query", "up"), ("time", "2016-12-31T23:59:60.999Z")] := by decide +kernel
  have known : Instant.read "2016-12-31t15:59:60.9996-08:00" = .ok leapInstant := by
    decide +kernel
  refine ⟨planned, written, ?_⟩
  obtain ⟨sent, steps, form, each, -, -⟩ := times_sent planned
  cases each with
  | cons sentAs none =>
      cases none
      obtain ⟨-, instant, reads, sound⟩ := sentAs
      obtain rfl : leapInstant = instant := Except.ok.inj (known.symm.trans reads)
      cases written.symm.trans form
      exact (sound _).mpr ⟨by decide +kernel, rfl⟩

/-- The last hour of the year 9999, an hour behind universal time. -/
def lastExecution : Execution :=
  ⟨"up", none, none, none, some "9999-12-31T23:59:59-01:00"⟩

/-- The last hour of the last year of four digits is sent as one of a year of five digits, which is
not read. -/
theorem exists_unread_time :
    ∃ time, lastExecution.plan = .ok (.instant (some time)) ∧
      (Plan.instant (some time)).form "up" =
        [("query", "up"), ("time", "+10000-01-01T00:59:59.000Z")] ∧
      ∀ other, Instant.read "+10000-01-01T00:59:59.000Z" ≠ .ok other := by
  refine ⟨⟨253402304399, 0⟩, by decide +kernel, by decide +kernel, fun other read => ?_⟩
  have refused : Instant.read "+10000-01-01T00:59:59.000Z" = .error .invalid := by decide +kernel
  rw [refused] at read
  cases read

end Execution

end PromScribe
