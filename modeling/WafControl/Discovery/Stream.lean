import WafControl.Discovery.Subscriptions
import WafControl.Gateway.Cache
import WafControl.Rpc.Status

/-!
# Discovery streams

A stream serves one proxy. Its first request has to say which node the proxy is; from then on the
stream watches that node's snapshots, whatever later requests say. Each request is answered from
the newest snapshot, and each snapshot that is set is pushed.

A typed service fixes the type of its streams; on the aggregated service each request names its
own. A fetch is answered like the first request of a stream, except that a node without a snapshot
is refused.
-/

namespace WafControl.Discovery

structure Stream where
  fixed : Option ResourceType
  watcher : Option Watcher := none
  subscriptions : Subscriptions := {}
  deriving DecidableEq, Repr

/-- The refusal of a request that does not say its node. -/
def missingNode : Status := ⟨.invalidArgument, "request must identify the proxy node"⟩

/-- The node that a request says it comes from. -/
def Request.nodeId (r : Request) : Except Status String :=
  match r.node with
  | some id => if id = "" then .error missingNode else .ok id
  | none => .error missingNode

namespace Stream

/-- The stream's watcher. A stream without one watches the node that the request names. -/
def identify (st : Stream) (c : Cache) (r : Request) : Except Status (Watcher × Cache) :=
  match st.watcher with
  | some w => .ok (w, c)
  | none => r.nodeId.map c.watch

/-- Handles a request. It fails if the stream does not know its node yet and the request does not
say it. -/
def request (st : Stream) (m : Counts) (c : Cache) (r : Request) :
    Except Status (Option Response × Stream × Counts × Cache) :=
  (st.identify c r).map fun (w, c) =>
    let (response, subscriptions, m) :=
      st.subscriptions.handleRequest m st.fixed r (w.peek c)
    (response, { st with watcher := some w, subscriptions }, m, c)

/-- Pushes the node's snapshot if one was set that the stream has not seen. -/
def push (st : Stream) (m : Counts) (c : Cache) : List Response × Stream × Counts :=
  match st.watcher with
  | none => ([], st, m)
  | some w =>
    if w.changed c then
      let st := { st with watcher := some (w.see c) }
      match w.peek c with
      | none => ([], st, m)
      | some snapshot =>
        let (responses, subscriptions, m) := st.subscriptions.handleSnapshot m snapshot
        (responses, { st with subscriptions }, m)
    else ([], st, m)

end Stream

/-- The refusal of a fetch for a node that has no snapshot. -/
def noConfiguration : Status := ⟨.unavailable, "no configuration for node"⟩

def noIncremental : Status := ⟨.unimplemented, "incremental xDS is not supported"⟩

/-- Answers a single request for a type. -/
def fetch (m : Counts) (c : Cache) (t : ResourceType) (r : Request) :
    Except Status (Response × Counts) :=
  match r.nodeId with
  | .error e => .error e
  | .ok node =>
    match c.get node with
    | none => .error noConfiguration
    | some snapshot =>
      let (response, _, m) := ({} : Subscriptions).respond m t r.names snapshot
      .ok (response, m)

end WafControl.Discovery
