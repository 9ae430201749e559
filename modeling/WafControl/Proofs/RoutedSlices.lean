import WafControl.Proofs.InOrder
import WafControl.Proofs.Kept
import WafControl.Proofs.RoutedCalls

/-!
# What routing a slice does

What a slice and the listing of its service ask for is said here field by field: which service owns
the slice (`EndpointSlice.OwnedBy`), which pods its endpoints stand for on a node
(`Endpoint.Hosts`), which port they serve (`EndpointSlice.FirstTcpPort`) and what the first
protection wants of their relays (`Router.Wants`). `route_exact` says that routing a slice asks the
store and drives the relays accordingly, whatever becomes of the calls.
-/

namespace WafControl

/-! ### What a slice says -/

/-- The endpoint runs on the node and stands for the pod, which is in the slice's namespace unless
the endpoint says another. -/
def Endpoint.Hosts (e : Endpoint) (node : String) (sliceNamespace : Option String) (pod : PodRef) :
    Prop :=
  e.nodeName = some node ∧ ∃ target, e.target = some target ∧ target.kind = some "Pod" ∧
    target.name = some pod.name ∧ (target.namespaceName = some pod.namespaceName ∨
      target.namespaceName = none ∧ sliceNamespace = some pod.namespaceName)

theorem Endpoint.hosts_iff (e : Endpoint) (node : String) (sliceNamespace : Option String)
    (pod : PodRef) : e.Hosts node sliceNamespace pod ↔
      e.nodeName = some node ∧ e.pod? sliceNamespace = some pod := by
  obtain ⟨namespaceName, name⟩ := pod
  refine and_congr_right fun _ => ?_
  cases ht : e.target with
  | none => simp [pod?, ht]
  | some target =>
      by_cases hk : target.kind = some "Pod"
      · cases hn : target.name with
        | none => cases hns : target.namespaceName <;> simp [pod?, ht, hk, hn, hns]
        | some n =>
            cases hns : target.namespaceName with
            | none => cases sliceNamespace <;> simp [pod?, ht, hk, hn, hns, and_comm]
            | some ns => simp [pod?, ht, hk, hn, hns, and_comm]
      · simp [pod?, ht, hk]

/-- The port is a TCP port, by name or for want of one, with a number that fits 16 bits. -/
def EndpointPort.Serves (p : EndpointPort) (n : UInt16) : Prop :=
  (p.protocol = none ∨ p.protocol = some "TCP") ∧ p.port = some (n.toNat : Int)

theorem portOfInt?_eq_some_iff (z : Int) (n : UInt16) :
    portOfInt? z = some n ↔ z = (n.toNat : Int) := by
  have hn := n.toNat_lt
  rw [portOfInt?]
  constructor
  · intro h
    split at h
    · cases h
      simp only [Nat.toUInt16_eq, UInt16.toNat_ofNat']
      omega
    · cases h
  · rintro rfl
    rw [if_pos (by omega)]
    simp

theorem EndpointPort.serves_iff (p : EndpointPort) (n : UInt16) :
    p.Serves n ↔ (if p.isTcp then p.number? else none) = some n := by
  have htcp : p.isTcp = true ↔ p.protocol = none ∨ p.protocol = some "TCP" := by
    cases hp : p.protocol <;> simp [isTcp, hp]
  rw [Serves, ← htcp]
  cases hp : p.port <;> simp [number?, hp, portOfInt?_eq_some_iff]

namespace EndpointSlice

/-- The first owner of the slice is the service of that name in the slice's namespace. -/
def OwnedBy (s : EndpointSlice) (fqdn : String) : Prop :=
  ∃ owner namespaceName, s.owners.head? = some owner ∧ owner.kind = "Service" ∧
    s.namespaceName = some namespaceName ∧ fqdn = owner.name ++ "." ++ namespaceName ++ ".svc"

theorem ownedBy_iff (s : EndpointSlice) (fqdn : String) :
    s.OwnedBy fqdn ↔ s.serviceFqdn? = some fqdn := by
  cases ho : s.owners.head? with
  | none => simp [OwnedBy, serviceFqdn?, ho]
  | some owner =>
      by_cases hk : owner.kind = "Service"
      · cases hn : s.namespaceName <;> simp [OwnedBy, serviceFqdn?, ho, hk, hn, eq_comm]
      · simp [OwnedBy, serviceFqdn?, ho, hk]

/-- The pods of the endpoints on a node, at the places of these. -/
def HostedAt (s : EndpointSlice) (node : String) (i : Nat) (pod : PodRef) : Prop :=
  ∃ e, s.endpoints[i]? = some e ∧ e.Hosts node s.namespaceName pod

theorem inOrder_localPods (s : EndpointSlice) (node : String) :
    InOrder (s.HostedAt node) (s.localPods node) := by
  have hfound : s.HostedAt node = fun i pod => ∃ e, s.endpoints[i]? = some e ∧
      (if e.nodeName == some node then e.pod? s.namespaceName else none) = some pod := by
    funext i pod
    refine propext (exists_congr fun e => and_congr_right fun _ => ?_)
    rw [Endpoint.hosts_iff]
    by_cases hn : e.nodeName = some node <;> simp [hn]
  rw [localPods, List.filterMap_filter, hfound]
  exact InOrder.filterMap _ _

/-- The first of the ports that are TCP ports with a number that fits 16 bits. -/
def FirstTcpPort (s : EndpointSlice) (n : UInt16) : Prop :=
  ∃ before p after, s.ports = before ++ p :: after ∧ p.Serves n ∧ ∀ q ∈ before, ∀ k, ¬ q.Serves k

theorem firstTcpPort_iff (s : EndpointSlice) (n : UInt16) :
    s.FirstTcpPort n ↔ s.tcpPort? = some n := by
  rw [tcpPort?, ← List.head?_filterMap, List.filterMap_filter, List.head?_filterMap,
    List.findSome?_eq_some_iff]
  simp only [FirstTcpPort, EndpointPort.serves_iff, Option.eq_none_iff_forall_ne_some]

end EndpointSlice

namespace Router

variable {σ : Type}

/-- What the first of the protections wants of the relays behind a slice. -/
inductive Wants (r : Router) (slice : EndpointSlice) : List Protection → Intent → Prop
  | off {p : Protection} {ps : List Protection} (mode : p.mode = .off) :
      Wants r slice (p :: ps) .absent
  | on {p : Protection} {ps : List Protection} {app : Application} {ingress : Ingress}
      {appPort : UInt16} (mode : p.mode = .on) (eligible : p.Eligible (app, ingress))
      (port : slice.FirstTcpPort appPort) :
      Wants r slice (p :: ps) (.present
        { gatewayFqdn := r.gatewayFqdn, gatewayPort := ingress.proxyListenerPort
          appPort := appPort, relayPort := r.relayPort })

theorem wants_iff (r : Router) (slice : EndpointSlice) (ps : List Protection) (intent : Intent) :
    r.Wants slice ps intent ↔ r.intent slice ps = some intent := by
  constructor
  · rintro (mode | ⟨mode, eligible, port⟩)
    · exact (intent_eq_absent_iff r slice _).2 ⟨_, rfl, mode⟩
    · obtain ⟨hingress, hport⟩ := (Protection.eligible_iff_ingress? _ _).1 eligible
      exact (intent_eq_present_iff r slice _ _).2
        ⟨_, rfl, mode, _, hingress, hport, _, (slice.firstTcpPort_iff _).1 port, rfl⟩
  · cases intent with
    | absent =>
        intro h
        obtain ⟨p, hp, hm⟩ := (intent_eq_absent_iff r slice ps).1 h
        obtain ⟨rest, rfl⟩ := List.head?_eq_some_iff.1 hp
        exact .off hm
    | present options =>
        intro h
        obtain ⟨p, hp, hm, found, hf, h0, appPort, ht, rfl⟩ :=
          (intent_eq_present_iff r slice ps options).1 h
        obtain ⟨rest, rfl⟩ := List.head?_eq_some_iff.1 hp
        exact .on hm ((p.eligible_iff_ingress? found).2 ⟨hf, h0⟩)
          ((slice.firstTcpPort_iff appPort).2 ht)

/-! ### What routing does -/

/-- What routing a slice comes to: the outcome, the store afterwards and the calls that are made. -/
inductive Routes (r : Router) (slice : EndpointSlice) (store : Store) :
    Except String Unit → Store → List RelayCall → Prop
  /-- The slice belongs to no service, and nothing is asked. -/
  | unowned (unowned : ∀ fqdn, ¬ slice.OwnedBy fqdn) : Routes r slice store (.ok ()) store []
  | failed {fqdn e : String} (owned : slice.OwnedBy fqdn)
      (failed : store.answerList (.upstream fqdn) = .error e) :
      Routes r slice store (.error e) (store.recordList (.upstream fqdn)) []
  | unwanted {fqdn : String} {ps : List Protection} (owned : slice.OwnedBy fqdn)
      (listed : store.answerList (.upstream fqdn) = .ok ps)
      (unwanted : ∀ intent, ¬ r.Wants slice ps intent) :
      Routes r slice store (.ok ()) (store.recordList (.upstream fqdn)) []
  | wanted {fqdn : String} {ps : List Protection} {intent : Intent} {pods : List PodRef}
      (owned : slice.OwnedBy fqdn) (listed : store.answerList (.upstream fqdn) = .ok ps)
      (wanted : r.Wants slice ps intent) (hosted : InOrder (slice.HostedAt r.nodeName) pods) :
      Routes r slice store (.ok ()) (store.recordList (.upstream fqdn))
        (pods.map fun pod => ⟨pod, intent⟩)

/-- A call is for a pod of an endpoint on the router's node. -/
theorem Routes.hosted {r : Router} {slice : EndpointSlice} {store after : Store}
    {outcome : Except String Unit} {calls : List RelayCall}
    (h : r.Routes slice store outcome after calls) {c : RelayCall} (hc : c ∈ calls) :
    ∃ i, slice.HostedAt r.nodeName i c.pod := by
  cases h with
  | unowned => exact absurd hc List.not_mem_nil
  | failed => exact absurd hc List.not_mem_nil
  | unwanted => exact absurd hc List.not_mem_nil
  | wanted _ _ _ hosted =>
      obtain ⟨pod, hpod, rfl⟩ := List.mem_map.1 hc
      exact (hosted.mem_iff pod).1 hpod

/-- The calls that are decided on for a slice, none if the store fails. -/
def decided (r : Router) (slice : EndpointSlice) (store : Store) : List RelayCall :=
  (r.decide? slice store).1.toOption.getD []

theorem routes_decided (r : Router) (slice : EndpointSlice) (store : Store) :
    r.Routes slice store ((r.decide? slice store).1.map fun _ => ()) (r.decide? slice store).2
      (r.decided slice store) := by
  rw [decided, decide?]
  cases hf : slice.serviceFqdn? with
  | none =>
      refine .unowned fun fqdn howned => ?_
      rw [slice.ownedBy_iff, hf] at howned
      cases howned
  | some fqdn =>
      have howned := (slice.ownedBy_iff fqdn).2 hf
      simp only [Store.list]
      cases hl : store.answerList (.upstream fqdn) with
      | error e => exact .failed howned hl
      | ok ps =>
          cases hi : r.intent slice ps with
          | none =>
              have hcalls : r.calls slice ps = [] := by rw [calls, hi]
              simp only [Except.toOption, Option.getD_some, hcalls]
              refine .unwanted howned hl fun intent hw => ?_
              rw [wants_iff, hi] at hw
              cases hw
          | some intent =>
              have hcalls : r.calls slice ps =
                  (slice.localPods r.nodeName).map fun pod => ⟨pod, intent⟩ := by rw [calls, hi]
              simp only [Except.toOption, Option.getD_some, hcalls]
              exact .wanted howned hl ((r.wants_iff slice ps intent).2 hi)
                (slice.inOrder_localPods r.nodeName)

theorem route_eq_decided (r : Router) (reconcile : Reconciler σ) (slice : EndpointSlice)
    (store : Store) (s : σ) : r.route reconcile slice store s =
      ((r.decide? slice store).1.map fun _ => (), (r.decide? slice store).2,
        dispatch reconcile (r.decided slice store) s) := by
  rw [route, decided]
  rcases r.decide? slice store with ⟨_ | cs, store'⟩ <;> rfl

/-- Carries out calls, and notes them. -/
def noting (reconcile : Reconciler σ) : Reconciler (σ × List RelayCall) :=
  fun c s => ((reconcile c s.1).1, (reconcile c s.1).2, s.2 ++ [c])

theorem dispatch_noting (reconcile : Reconciler σ) (cs made : List RelayCall) (s : σ) :
    dispatch (noting reconcile) cs (s, made) = (dispatch reconcile cs s, made ++ cs) := by
  induction cs generalizing s made with
  | nil => exact congrArg (s, ·) (List.append_nil made).symm
  | cons c cs ih =>
      have hstep : dispatch (noting reconcile) (c :: cs) (s, made) =
          dispatch (noting reconcile) cs ((reconcile c s).2, made ++ [c]) := rfl
      rw [hstep, ih, List.append_assoc]
      rfl

end Router

/-! ### Routing one slice after the other -/

/-- What a router does: it takes up a slice, lists protections and calls for relays. -/
inductive RouterAct where
  | took (slice : EndpointSlice)
  | listed (filter : Filter)
  | called (call : RelayCall)
  deriving DecidableEq, Repr

/-- A slice is to be routed, or the store changes before the next one is. -/
inductive RouterJob where
  | change (ch : StoreChange)
  | route (slice : EndpointSlice)
  deriving DecidableEq, Repr

/-- The filters of the listings since the store was as before, in the order in which they came. -/
def Store.listedSince (s before : Store) : List Filter :=
  (s.recorded.take (s.listCalls - before.listCalls)).reverse

/-- A store, a node, and what a router has done. -/
structure RouterWork (σ : Type) where
  store : Store
  node : σ
  made : List RouterAct := []

namespace RouterWork

variable {σ : Type}

def perform (r : Router) (reconcile : Reconciler σ) (w : RouterWork σ) : RouterJob → RouterWork σ
  | .change ch => { w with store := w.store.change ch }
  | .route slice =>
    let (_, store, node, calls) := r.route (Router.noting reconcile) slice w.store (w.node, [])
    { store, node
      made := w.made ++ RouterAct.took slice ::
        ((store.listedSince w.store).map .listed ++ calls.map .called) }

def performAll (r : Router) (reconcile : Reconciler σ) (w : RouterWork σ) (jobs : List RouterJob) :
    RouterWork σ :=
  jobs.foldl (perform r reconcile) w

theorem performAll_cons (r : Router) (reconcile : Reconciler σ) (w : RouterWork σ) (job : RouterJob)
    (jobs : List RouterJob) : w.performAll r reconcile (job :: jobs) =
      (w.perform r reconcile job).performAll r reconcile jobs := rfl

theorem performAll_append (r : Router) (reconcile : Reconciler σ) (w : RouterWork σ)
    (jobs jobs' : List RouterJob) : w.performAll r reconcile (jobs ++ jobs') =
      (w.performAll r reconcile jobs).performAll r reconcile jobs' :=
  List.foldl_append

/-- The slice is taken up. -/
def take (slice : EndpointSlice) (w : RouterWork σ) : RouterWork σ :=
  { w with made := w.made ++ [.took slice] }

/-- The store is asked about the slice. -/
def ask (r : Router) (slice : EndpointSlice) (w : RouterWork σ) : RouterWork σ :=
  { w with
    store := (r.decide? slice w.store).2
    made := w.made ++ ((r.decide? slice w.store).2.listedSince w.store).map .listed }

def call (reconcile : Reconciler σ) (w : RouterWork σ) (c : RelayCall) : RouterWork σ :=
  { w with node := (reconcile c w.node).2, made := w.made ++ [.called c] }

theorem foldl_call (reconcile : Reconciler σ) (w : RouterWork σ) (cs : List RelayCall) :
    cs.foldl (call reconcile) w =
      { w with node := Router.dispatch reconcile cs w.node, made := w.made ++ cs.map .called } := by
  induction cs generalizing w with
  | nil => simp [Router.dispatch]
  | cons c cs ih =>
      rw [List.foldl_cons, ih]
      simp [call, Router.dispatch]

/-- To route a slice is to take it up, to ask the store and to make the calls. -/
theorem perform_route (r : Router) (reconcile : Reconciler σ) (w : RouterWork σ)
    (slice : EndpointSlice) : w.perform r reconcile (.route slice) =
      (r.decided slice w.store).foldl (call reconcile) ((w.take slice).ask r slice) := by
  simp only [perform, r.route_eq_decided, Router.dispatch_noting, foldl_call, ask, take,
    List.nil_append, List.append_assoc, List.cons_append]

theorem called_mem_perform {r : Router} {reconcile : Reconciler σ} {w : RouterWork σ}
    {job : RouterJob} {c : RelayCall} (h : .called c ∈ (w.perform r reconcile job).made) :
    .called c ∈ w.made ∨
      ∃ slice, job = .route slice ∧ ∃ i, slice.HostedAt r.nodeName i c.pod := by
  cases job with
  | change ch => exact .inl h
  | route slice =>
      rw [perform_route, foldl_call] at h
      simp only [ask, take, List.mem_append, List.mem_singleton, List.mem_map] at h
      rcases h with ((h | h) | ⟨f, -, h⟩) | ⟨c', hc', h⟩
      · exact .inl h
      · cases h
      · cases h
      · cases h
        exact .inr ⟨slice, rfl, (r.routes_decided slice w.store).hosted hc'⟩

theorem called_mem_performAll {r : Router} {reconcile : Reconciler σ} {w : RouterWork σ}
    {jobs : List RouterJob} {c : RelayCall} (h : .called c ∈ (w.performAll r reconcile jobs).made) :
    .called c ∈ w.made ∨
      ∃ slice, .route slice ∈ jobs ∧ ∃ i, slice.HostedAt r.nodeName i c.pod := by
  induction jobs generalizing w with
  | nil => exact .inl h
  | cons job jobs ih =>
      rcases ih h with h | ⟨slice, hslice, hosted⟩
      · rcases called_mem_perform h with h | ⟨slice, rfl, hosted⟩
        · exact .inl h
        · exact .inr ⟨slice, List.mem_cons_self, hosted⟩
      · exact .inr ⟨slice, List.mem_cons_of_mem job hslice, hosted⟩

end RouterWork

namespace Router

/-- Routing a slice asks the store and calls for relays as the slice and the protections want,
whatever becomes of the calls. However many slices are routed while the store changes, every call is
for a pod that one of them has on the router's node. -/
theorem route_exact (r : Router) :
    (∀ slice store, ∃ outcome after calls, r.Routes slice store outcome after calls ∧
      ∀ (σ : Type) (reconcile : Reconciler σ) (s : σ),
        r.route reconcile slice store s = (outcome, after, dispatch reconcile calls s) ∧
          r.route (noting reconcile) slice store (s, []) =
            (outcome, after, dispatch reconcile calls s, calls)) ∧
      ∀ (σ : Type) (reconcile : Reconciler σ) (store : Store) (s : σ) (jobs : List RouterJob)
        (c : RelayCall),
        .called c ∈ (RouterWork.performAll r reconcile ⟨store, s, []⟩ jobs).made →
          ∃ slice, .route slice ∈ jobs ∧ ∃ i, slice.HostedAt r.nodeName i c.pod := by
  refine ⟨fun slice store => ?_, fun σ reconcile store s jobs c hc => ?_⟩
  · refine ⟨_, _, _, r.routes_decided slice store, fun σ reconcile s => ⟨?_, ?_⟩⟩
    · exact r.route_eq_decided reconcile slice store s
    · rw [r.route_eq_decided, dispatch_noting, List.nil_append]
  · exact (RouterWork.called_mem_performAll hc).resolve_left List.not_mem_nil

/-- A slice of the service `shop.blue.svc` with two pods on node-1, in two namespaces. -/
def mixedSlice : EndpointSlice :=
  { namespaceName := some "blue"
    owners := [{ kind := "Service", name := "shop" }]
    endpoints :=
      [ ⟨[], some "node-2", some ⟨some "Pod", some "shop-0", none⟩⟩,
        ⟨[], some "node-1", some ⟨some "Pod", some "shop-1", some "red"⟩⟩,
        ⟨[], some "node-1", some ⟨some "Node", some "node-1", none⟩⟩,
        ⟨[], some "node-1", some ⟨some "Pod", some "shop-2", none⟩⟩ ]
    ports :=
      [ { port := some 53, protocol := some "UDP" }, { port := some 70000 },
        { port := some 8080, protocol := some "TCP" } ] }

/-- The calls for both pods are made though every call fails. -/
theorem mixedSlice_routed :
    let store : Store := { protections := [Protection.guarding "shop" "shop.blue.svc" 31000] }
    let failing : Reconciler Nat := fun _ n => (.error ⟨"down", []⟩, n + 1)
    let options : RelayOptions := ⟨"gateway.waf.svc", 31000, 8080, 50010⟩
    let calls : List RelayCall :=
      [⟨⟨"red", "shop-1"⟩, .present options⟩, ⟨⟨"blue", "shop-2"⟩, .present options⟩]
    sampleRouter.Routes mixedSlice store (.ok ()) (store.recordList (.upstream "shop.blue.svc"))
        calls ∧
      sampleRouter.route (noting failing) mixedSlice store (0, []) =
        (.ok (), store.recordList (.upstream "shop.blue.svc"), 2, calls) := by
  intro store failing options calls
  have hroute : sampleRouter.route (noting failing) mixedSlice store (0, []) =
      (.ok (), store.recordList (.upstream "shop.blue.svc"), 2, calls) := by decide
  obtain ⟨outcome, after, made, hroutes, hall⟩ := sampleRouter.route_exact.1 mixedSlice store
  have hnoted := (hall Nat failing 0).2
  rw [hroute] at hnoted
  simp only [Prod.mk.injEq] at hnoted
  obtain ⟨rfl, rfl, -, rfl⟩ := hnoted
  exact ⟨hroutes, hroute⟩

end Router

end WafControl
