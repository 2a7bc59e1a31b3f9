import PromScribe.Catalog.Metric
import PromScribe.Client.Completion
import PromScribe.Client.Graph
import PromScribe.Collaborator.Work
import PromScribe.Rehearsal.Peer

/-!
# The network

Work is performed by clients whose collaborators are peers. No time passes, so a snapshot of the
catalog stays good unless none ever is.
-/

namespace PromScribe.Rehearsal

open Http

/-- The peers that stand for the collaborators. -/
structure Network where
  backend : Peer
  completion : Peer
  graph : Peer
deriving DecidableEq, Repr

namespace Network

/-- Connects to the graph: the network afterwards, and the client if the graph is to be used. -/
def connect (network : Network) (settings : GraphSettings) : Network × Option GraphClient :=
  if !settings.enabled then (network, none)
  else
    match GraphClient.ofSettings settings with
    | .error _ => (network, none)
    | .ok client =>
        let trials (number : Nat) : Trial (List GraphClient.Row) :=
          ⟨some .zero, ((network.graph.askedTimes client.ping number).ask client.ping).2⟩
        match (GraphClient.policyOf settings).execute trials with
        | none => (network, none)
        | some retried =>
            ({ network with graph := network.graph.askedTimes client.ping retried.attempts },
              if retried.result.isOk then some client else none)

end Network

/-- The clients of the collaborators. -/
structure Clients where
  backend : BackendSettings
  completion : CompletionClient
  graph : Option GraphClient
deriving DecidableEq

/-- A running program: its clients, their peers, and its catalog. -/
structure Site where
  clients : Clients
  network : Network
  wall : Instant
  catalog : Catalog

namespace Site

/-- The site after an exchange with the backend. -/
def withBackend {α : Type} (site : Site) (exchanged : Peer × α) : Site × α :=
  ({ site with network := { site.network with backend := exchanged.1 } }, exchanged.2)

/-- The site after an exchange with the completion provider. -/
def withCompletion {α : Type} (site : Site) (exchanged : Peer × α) : Site × α :=
  ({ site with network := { site.network with completion := exchanged.1 } }, exchanged.2)

/-- The site after an exchange with the graph. -/
def withGraph {α : Type} (site : Site) (exchanged : Peer × α) : Site × α :=
  ({ site with network := { site.network with graph := exchanged.1 } }, exchanged.2)

/-- Performs a call. -/
def perform (site : Site) : (call : Call) → Site × call.Outcome
  | .query promql time =>
      site.withBackend (site.network.backend.ask (Backend.query site.clients.backend promql time))
  | .queryRange promql range =>
      site.withBackend
        (site.network.backend.ask (Backend.queryRange site.clients.backend promql range))
  | .complete prompt =>
      site.withCompletion (site.network.completion.ask (site.clients.completion.complete prompt))
  | .related name =>
      match site.clients.graph with
      | none => (site, .ok [])
      | some client => site.withGraph (site.network.graph.ask (client.related name))

/-- Refreshes the catalog if need be. -/
def refresh (site : Site) : Site × Except CollaboratorFault Snapshot :=
  match site.catalog.fresh? 0 with
  | some snapshot => (site, .ok snapshot)
  | none =>
      match site.perform Call.discovery with
      | (after, .error fault) => (after, .error fault)
      | (after, .ok data) =>
          let catalog := after.catalog.learn ⟨0, after.wall⟩ data
          ({ after with catalog := catalog }, .ok catalog.snapshot)

/-- Performs work. -/
def run {α : Type} (site : Site) : Work α → Site × α
  | .done value => (site, value)
  | .refresh resume =>
      let refreshed := site.refresh
      refreshed.1.run (resume refreshed.2)
  | .call needed resume =>
      let performed := site.perform needed
      performed.1.run (resume performed.2)

end Site

end PromScribe.Rehearsal
