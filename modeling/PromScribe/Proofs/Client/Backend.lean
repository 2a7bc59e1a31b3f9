import PromScribe.Client.Backend
import PromScribe.Proofs.Service.Wire

/-!
# What answers of the backend mean

An answer is taken as data just if it has a status of success and an envelope of success with data;
every other answer has its own failure. Data in an envelope of success is taken again, each time as
its digits are read.
-/

namespace PromScribe.Backend

open Document Http

variable {status : Nat} {body : String} {outcome : Except CollaboratorFault QueryData}

/-- The wording of an answer without success: that of its envelope, or all of it. -/
inductive Wording (body : String) : String → Prop where
  | told {envelope : Envelope} {error : String}
      (decoded : Json.decode Envelope.decode body = .ok envelope)
      (worded : envelope.error = some error) : Wording body error
  | whole (silent : ∀ envelope, Json.decode Envelope.decode body = .ok envelope →
      envelope.error = none) : Wording body body

/-- What an answer means. -/
inductive Means (status : Nat) (body : String) : Except CollaboratorFault QueryData → Prop where
  | failed {detail : String} (failure : isSuccess status = false) (wording : Wording body detail) :
      Means status body (.error (.request
        ("Request failed with status " ++ statusText status ++ ": " ++ detail)))
  | unreadable {fault : Json.Fault} (success : isSuccess status = true)
      (unreadable : Json.decode Envelope.decode body = .error fault) :
      Means status body (.error (.serialization ("unexpected response body: " ++ body)))
  | refused {envelope : Envelope} (success : isSuccess status = true)
      (decoded : Json.decode Envelope.decode body = .ok envelope)
      (refused : envelope.status ≠ "success") :
      Means status body (.error (.response
        (envelope.errorType.getD "error" ++ ": " ++ envelope.error.getD "")))
  | empty {envelope : Envelope} (success : isSuccess status = true)
      (decoded : Json.decode Envelope.decode body = .ok envelope)
      (accepted : envelope.status = "success") (dataless : envelope.data = none) :
      Means status body (.error (.response "response has no data"))
  | data {envelope : Envelope} {data : QueryData} (success : isSuccess status = true)
      (decoded : Json.decode Envelope.decode body = .ok envelope)
      (accepted : envelope.status = "success") (held : envelope.data = some data) :
      Means status body (.ok data)

theorem Wording.getD_eq {detail : String} (wording : Wording body detail) :
    ((Json.decode Envelope.decode body).toOption.bind Envelope.error).getD body = detail := by
  cases wording with
  | told decoded worded =>
      rw [decoded]
      exact congrArg (Option.getD · body) worded
  | whole silent =>
      cases decoded : Json.decode Envelope.decode body with
      | error fault => rfl
      | ok envelope => exact congrArg (Option.getD · body) (silent envelope decoded)

namespace Envelope

theorem readsAs_toJson (data : QueryData) :
    (ofData data).toJson.ReadsAs (ofData data.reread).toJson :=
  Json.readsAs_object
    (.cons ⟨rfl, Json.readsAs_string _⟩ (.cons ⟨rfl, data.readsAs_toJson⟩ .nil))

theorem dataDecoder_toJson (data : QueryData) : dataDecoder (ofJson data.toJson) = .ok data := by
  have taken : QueryData.decodeWithin (depthLimit - 1) (ofJson data.toJson) = .ok data :=
    data.decodeWithin_toJson
  unfold dataDecoder Decoder.optional
  rw [QueryData.toJson, ofJson] at taken ⊢
  dsimp only
  rw [taken]
  rfl

theorem decode_toJson (data : QueryData) :
    decode (ofJson (ofData data).toJson) = .ok (ofData data) := by
  have status : Decoder.string (ofJson (.string successStatus)) = .ok successStatus := rfl
  have held := dataDecoder_toJson data
  have absent : Shows (Decoder.optional Decoder.string) none none none := rfl
  obtain ⟨record, taken, found⟩ := Record.exists_record
    [.of "status" .required Decoder.string, .of "data" .defaulted dataDecoder,
      .of "errorType" .defaulted (Decoder.optional Decoder.string),
      .of "error" .defaulted (Decoder.optional Decoder.string)]
    [("status", .string successStatus), ("data", data.toJson)] (by decide)
    (show ["status", "data"].Sublist ["status", "data", "errorType", "error"] by decide) (by
      refine List.forall_mem_cons.mpr ⟨Field.fits_of status, ?_⟩
      refine List.forall_mem_cons.mpr ⟨Field.fits_of held, ?_⟩
      refine List.forall_mem_cons.mpr ⟨Field.fits_of_shows nofun absent, ?_⟩
      exact List.forall_mem_singleton.mpr (Field.fits_of_shows nofun absent))
  have first : record.get "status" Decoder.string = .ok _ := Record.get_eq found rfl status
  have second : record.getD "data" dataDecoder none = .ok (some data) :=
    Record.getD_eq found held
  have third : record.getD "errorType" (Decoder.optional Decoder.string) none = .ok none :=
    Record.getD_eq found absent
  have fourth : record.getD "error" (Decoder.optional Decoder.string) none = .ok none :=
    Record.getD_eq found absent
  have shape : (ofData data).toJson =
      .object [("status", .string successStatus), ("data", data.toJson)] := rfl
  unfold decode
  dsimp only
  rw [shape, taken]
  simp only [bind, Except.bind, first, second, third, fourth]
  rfl

end Envelope

end PromScribe.Backend
