import PromScribe.Http.Exchange

/-!
# Peers

A peer answers the connections made to it one after another from a list of replies; the last reply
answers every further connection, and a peer without replies refuses each. It records the requests
that it receives.
-/

namespace PromScribe.Rehearsal

open Http Text

/-- How a connection is answered. -/
structure Reply where
  arrival : Arrival
  /-- The connection is closed without an answer. -/
  drops : Bool
  /-- The answer comes later than anyone with a limit waits. -/
  late : Bool
deriving DecidableEq, Repr

/-- A peer; the latest request comes first. -/
structure Peer where
  replies : List Reply
  received : List Request
deriving DecidableEq, Repr

namespace Peer

/-- A peer that has not received anything. -/
def ofReplies (replies : List Reply) : Peer :=
  ⟨replies, []⟩

/-- A peer with a transcript of its only reply: the status on the first line and the body behind it.
A peer whose transcript has no status does not answer. -/
def ofTranscript (text : String) : Peer :=
  let (first, body) := (splitAtFirst? '\n' text.toList).getD (text.toList, [])
  match NumberReader.digits? (trim first) with
  | some status => ofReplies [⟨⟨status, String.ofList body, true⟩, false, false⟩]
  | none => ofReplies []

/-- A request as the peer sees it: values of headers have no blanks at their ends. -/
def seen (request : Request) : Request :=
  { request with headers := request.headers.map fun header => (header.1, trimString header.2) }

/-- The delivery that a reply makes of a dispatch. -/
def deliver (reply : Reply) (dispatch : Dispatch) : Delivery :=
  if dispatch.limit.any fun limit => reply.late || limit.isZero then
    .error (.overdue dispatch.url)
  else if reply.drops then .error (.closed dispatch.url)
  else if hasBody reply.arrival.status then .ok reply.arrival
  else .ok { reply.arrival with body := "", complete := true }

/-- Answers a dispatch. -/
def take (peer : Peer) (dispatch : Dispatch) : Peer × Delivery :=
  let received := seen dispatch.request :: peer.received
  match peer.replies with
  | [] => (peer, .error (.unreachable dispatch.url))
  | [last] => (⟨[last], received⟩, deliver last dispatch)
  | reply :: rest => (⟨rest, received⟩, deliver reply dispatch)

/-- Answers an enquiry; nothing is received if nothing can be sent. -/
def ask {ε α : Type} (peer : Peer) (enquiry : Enquiry ε α) : Peer × Except ε α :=
  match enquiry.dispatch with
  | .error fault => (peer, .error fault)
  | .ok dispatch =>
      let (after, delivery) := peer.take dispatch
      (after, enquiry.meaning delivery)

/-- The peer after it has answered an enquiry a number of times. -/
def askedTimes {ε α : Type} (peer : Peer) (enquiry : Enquiry ε α) : Nat → Peer
  | 0 => peer
  | count + 1 => ((peer.askedTimes enquiry count).ask enquiry).1

end Peer

end PromScribe.Rehearsal
