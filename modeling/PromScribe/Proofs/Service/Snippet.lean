import PromScribe.Proofs.Json.Quoted
import PromScribe.Proofs.Time.Refused
import PromScribe.Proofs.Translation.Breakdown
import PromScribe.Proofs.Translation.Fitting
import PromScribe.Service.Router

/-!
# What responses tell of replies

A reply that is of no use is kept for diagnosis beside the wording of the failure. Where it holds no
proposal the wording does not depend on it; where the window that it proposes is of no use, the
wording quotes it.
-/

namespace PromScribe

open Extraction

variable {translator : Translator} {question : String} {waits : Transcript}
variable {fault otherFault : ReplyFault} {raw otherRaw : String}

/-- The replies are of no use at the same step; windows for reasons of one kind. -/
inductive ReplyFault.SameStep : ReplyFault → ReplyFault → Prop where
  | noObject : SameStep .noObject .noObject
  | undecodable : SameStep .undecodable .undecodable
  | window {cause other : SpanFault} (kind : cause.reason.SameKind other.reason) :
      SameStep (.unusableTimeRange cause) (.unusableTimeRange other)

namespace Extraction

/-- Only a reply of no use makes an extraction fail with one. -/
theorem exists_useless
    (fails : (translator.extract question).run.Plays waits (.error (.format fault raw))) :
    ∃ findings reply, Useless findings reply fault raw := by
  have breakdown := Breakdown.of_extract fails
  generalize failure : (TranslationFault.format fault raw).toApplication = applied at breakdown
  generalize applied.status = status at breakdown
  cases breakdown with
  | useless asks useless =>
      cases failure
      exact ⟨_, _, useless⟩
  | _ => cases failure

/-- A window of no use is kept as it was refused. -/
theorem Useless.read_raw {findings : Findings} {reply : String} {cause : SpanFault}
    (useless : Useless findings reply (.unusableTimeRange cause) raw) :
    TimeSpan.read raw = .error cause := by
  cases useless with
  | window _ _ _ _ unusable => exact unusable

end Extraction

/-- Failures with the same body have the same wording. -/
theorem body_failureResponse_eq_iff {failure other : ApplicationFault} :
    (failureResponse failure).body = (failureResponse other).body ↔
      failure.message = other.message := by
  constructor
  · intro same
    have written (failure : ApplicationFault) : (failureResponse failure).body.toList =
        "\x7b\"message\":".toList ++ (Json.quoted failure.message.toList ++ ['\x7d']) := by
      have shape : (failureResponse failure).body = String.ofList
          ("\x7b\"message\":".toList ++ (Json.quoted failure.message.toList ++ ['\x7d'])) := rfl
      rw [shape, String.toList_ofList]
    have chars := congrArg String.toList same
    rw [written, written] at chars
    have quotes := List.append_cancel_right (List.append_cancel_left chars)
    exact String.toList_injective (Json.quoted_inj quotes)
  · intro same
    unfold failureResponse jsonResponse
    rw [same]

/-- Faults of one step have one wording, unless they are those of different windows. -/
theorem message_eq_iff {findings otherFindings : Findings} {reply other : String}
    (useless : Useless findings reply fault raw)
    (also : Useless otherFindings other otherFault otherRaw) (step : fault.SameStep otherFault) :
    fault.message = otherFault.message ↔
      raw = otherRaw ∨ fault = .noObject ∨ fault = .undecodable := by
  cases step with
  | noObject => simp
  | undecodable => simp
  | @window cause other kind =>
      have read := useless.read_raw
      have readAlso := also.read_raw
      constructor
      · intro same
        refine .inl (TimeSpan.eq_of_message read readAlso kind ?_)
        have worded (cause : SpanFault) : (ReplyFault.unusableTimeRange cause).message =
            "invalid time range format: " ++ cause.message := rfl
        rw [worded, worded] at same
        exact String.append_right_inj _ |>.mp same
      · rintro (rfl | impossible | impossible)
        · rw [Except.error.inj (read.symm.trans readAlso)]
        · cases impossible
        · cases impossible

namespace Router

variable {request : Http.Request}

/-- The request asks for the conversion of the question. -/
structure Converts (request : Http.Request) (question : String) : Prop where
  posted : request.method = "POST"
  endpoint : Endpoint.ofTarget? request.target = some .convert
  asked : bodyOf (fieldDecoder "query") request = .ok question

/-- The request is answered with what becomes of the conversion. -/
theorem Converts.plays {outcome : Except TranslationFault Conversion}
    (converts : Converts request question)
    (plays : (translator.convert question).run.Plays waits outcome) :
    (respond translator request).Plays waits
      (shared (responseOf Conversion.toJson
        (outcome.mapError TranslationFault.toApplication))) := by
  have routed : route translator request =
      answered Conversion.toJson (convert translator request) := by
    unfold route
    rw [converts.endpoint, converts.posted]
    rfl
  have whole (response : Http.Response) : headOnly request response = response := by
    unfold headOnly
    rw [converts.posted]
    rfl
  have converted : (convert translator request).run =
      (Attempt.ofWork TranslationFault.toApplication (translator.convert question)).run := by
    unfold convert
    rw [converts.asked]
    rfl
  unfold respond
  simp only [routed, whole]
  refine Work.plays_bind_iff.mpr ⟨waits, [], _, (List.append_nil waits).symm, ?_, .done⟩
  refine Work.plays_bind_iff.mpr ⟨waits, [], _, (List.append_nil waits).symm, ?_, .done⟩
  rw [converted]
  exact Work.plays_bind_iff.mpr ⟨waits, [], outcome, (List.append_nil waits).symm, plays, .done⟩

/-- The response to a request whose reply is of no use. -/
def snippetResponse (fault : ReplyFault) (raw : String) : Http.Response :=
  shared (failureResponse (.format fault raw))

/-- A request whose reply is of no use gets one response, and nobody is called any more. -/
theorem Converts.plays_iff (converts : Converts request question)
    (fails : (translator.extract question).run.Plays waits (.error (.format fault raw)))
    (rest : Transcript) (answer : Http.Response) :
    (respond translator request).Plays (waits ++ rest) answer ↔
      rest = [] ∧ answer = snippetResponse fault raw := by
  have converted : (translator.convert question).run.Plays waits (.error (.format fault raw)) :=
    Attempt.plays_bind_error_iff.mpr (.inl fails)
  have answered := converts.plays converted
  constructor
  · exact fun longer => answered.eq_of_append longer
  · rintro ⟨rfl, rfl⟩
    rw [List.append_nil]
    exact answered

variable {otherTranslator : Translator} {otherQuestion : String} {otherWaits : Transcript}
variable {otherRequest : Http.Request}

/-- A request whose reply is of no use is answered with status 500. Replies of no use at the same
step get the same body where they hold no proposal; where the windows that they propose are of no
use for reasons of one kind, the bodies are the same only if the kept texts are. -/
theorem snippet_shown_iff (converts : Converts request question)
    (also : Converts otherRequest otherQuestion)
    (fails : (translator.extract question).run.Plays waits (.error (.format fault raw)))
    (failsAlso : (otherTranslator.extract otherQuestion).run.Plays otherWaits
      (.error (.format otherFault otherRaw)))
    (step : fault.SameStep otherFault) :
    ∃ response other,
      (∀ rest answer, (respond translator request).Plays (waits ++ rest) answer ↔
        rest = [] ∧ answer = response) ∧
      (∀ rest answer, (respond otherTranslator otherRequest).Plays (otherWaits ++ rest) answer ↔
        rest = [] ∧ answer = other) ∧
      response.status = 500 ∧ other.status = 500 ∧
      (response.body = other.body ↔
        raw = otherRaw ∨ fault = .noObject ∨ fault = .undecodable) := by
  obtain ⟨findings, reply, useless⟩ := exists_useless fails
  obtain ⟨otherFindings, otherReply, uselessAlso⟩ := exists_useless failsAlso
  refine ⟨snippetResponse fault raw, snippetResponse otherFault otherRaw, converts.plays_iff fails,
    also.plays_iff failsAlso, rfl, rfl, ?_⟩
  rw [← message_eq_iff useless uselessAlso step]
  refine body_failureResponse_eq_iff.trans ?_
  have worded (fault : ReplyFault) (raw : String) : (ApplicationFault.format fault raw).message =
      "invalid response format: " ++ fault.message := rfl
  rw [worded, worded]
  exact String.append_right_inj _

/-- A request for the conversion of a question that names nothing known. -/
def vagueRequest : Http.Request :=
  ⟨"POST", Endpoint.convert.path, [(Http.contentType, Http.jsonType)],
    "\x7b\"query\": \"errors\"\x7d"⟩

theorem converts_vagueRequest : Converts vagueRequest "errors" :=
  ⟨rfl, by decide, by rfl⟩

/-- The waits of the request up to a reply. -/
def vagueWaits (reply : String) : Transcript :=
  [.refreshed (.kept .initial), .answered (.complete vagueFindings.prompt) (.ok reply)]

theorem vague_fails {reply : String} (useless : Useless vagueFindings reply fault raw) :
    (plainTranslator.extract "errors").run.Plays (vagueWaits reply)
      (.error (.format fault raw)) := by
  have asks : Asks plainTranslator "errors" (.kept .initial) vagueFindings :=
    ⟨⟨rfl, rfl, rfl, rfl, rfl⟩, rfl, by decide⟩
  exact Breakdown.extract_of_asks asks (.inr ⟨reply, fault, raw, rfl, useless, rfl⟩)

/-- Two replies without an object get the same response. -/
theorem snippet_shown_iff_objectless :
    ∃ response other,
      (respond plainTranslator vagueRequest).Plays (vagueWaits "up") response ∧
        (respond plainTranslator vagueRequest).Plays (vagueWaits "down") other ∧
          response.status = 500 ∧ response.body = other.body := by
  have up : Useless vagueFindings "up" .noObject "up" := .objectless (by decide)
  have down : Useless vagueFindings "down" .noObject "down" := .objectless (by decide)
  obtain ⟨response, other, plays, playsAlso, status, -, same⟩ :=
    snippet_shown_iff converts_vagueRequest converts_vagueRequest (vague_fails up)
      (vague_fails down) .noObject
  refine ⟨response, other, ?_, ?_, status, same.mpr (.inr (.inl rfl))⟩
  · exact List.append_nil (vagueWaits "up") ▸ (plays [] response).mpr ⟨rfl, rfl⟩
  · exact List.append_nil (vagueWaits "down") ▸ (playsAlso [] other).mpr ⟨rfl, rfl⟩

/-- A reply that proposes a window of no use. -/
theorem useless_of_proposes {reply text : String} {cause : SpanFault}
    (proposes : (Proposal.ofReply reply).toOption.map Proposal.timeRange = some (some text))
    (trimmed : Text.trimString text = text) (full : text ≠ "")
    (unusable : TimeSpan.read text = .error cause) :
    Useless vagueFindings reply (.unusableTimeRange cause) text := by
  cases outcome : Proposal.ofReply reply with
  | error fault =>
      rw [outcome] at proposes
      cases proposes
  | ok proposal =>
      rw [outcome] at proposes
      have named : proposal.timeRange = some text := Option.some.inj proposes
      refine .window outcome rfl ?_ full unusable
      rw [named, Option.map_some, trimmed]

/-- A reply that proposes to look soon. -/
def soonReply : String := "\x7b\"metric\": \"up\", \"timeRange\": \"soon\"\x7d"

/-- A reply that proposes to look later. -/
def laterReply : String := "\x7b\"metric\": \"up\", \"timeRange\": \"later\"\x7d"

/-- Both windows are refused for the same reason, and the responses tell them apart. -/
theorem exists_shown_snippet :
    ∃ response other,
      TimeSpan.read "soon" = .error ⟨"soon", .numberExpected 0⟩ ∧
      TimeSpan.read "later" = .error ⟨"later", .numberExpected 0⟩ ∧
      (respond plainTranslator vagueRequest).Plays (vagueWaits soonReply) response ∧
      (respond plainTranslator vagueRequest).Plays (vagueWaits laterReply) other ∧
      response.status = 500 ∧ other.status = 500 ∧ response.body ≠ other.body := by
  have soon : Useless vagueFindings soonReply
      (.unusableTimeRange ⟨"soon", .numberExpected 0⟩) "soon" :=
    useless_of_proposes (by decide +kernel) (by decide) (by decide) rfl
  have later : Useless vagueFindings laterReply
      (.unusableTimeRange ⟨"later", .numberExpected 0⟩) "later" :=
    useless_of_proposes (by decide +kernel) (by decide) (by decide) rfl
  have plays := (converts_vagueRequest.plays_iff (vague_fails soon) [] _).mpr ⟨rfl, rfl⟩
  have playsAlso := (converts_vagueRequest.plays_iff (vague_fails later) [] _).mpr ⟨rfl, rfl⟩
  refine ⟨_, _, rfl, rfl, plays, playsAlso, rfl, rfl, fun same => ?_⟩
  have wording := body_failureResponse_eq_iff.mp same
  revert wording
  decide

end Router

end PromScribe
