import WafControl.Discovery.Protocol
import WafControl.Envoy.Reading

/-!
# What is read from proxy messages

A reader that looks for a field passes over all others. So a listener is read back from its message
as it was (`readListener_listener`), and a proxy finds in a message the name of the resource, and in
a route configuration the clusters that its routes lead to.
-/

namespace WafControl

namespace Protobuf

variable {k j : Nat}

@[simp] theorem text_text_self (s : String) (m : Message) : text k (.text k s :: m) = s :=
  if_pos rfl

@[simp] theorem text_optText_append (s : String) {m : Message} (h : text k m = "") :
    text k (optText k s ++ m) = s := by
  rw [optText]
  split
  · rename_i hs
    rw [List.nil_append, h, hs]
  · exact text_text_self s m

@[simp] theorem text_optText_append_of_ne (hj : j ≠ k) (s : String) (m : Message) :
    text k (optText j s ++ m) = text k m := by
  rw [optText]
  split
  · rfl
  · simp [text, hj]

@[simp] theorem text_optText (s : String) : text k (optText k s) = s := by
  simpa using text_optText_append s (m := []) rfl

@[simp] theorem text_optText_of_ne (hj : j ≠ k) (s : String) : text k (optText j s) = "" := by
  simpa [text] using text_optText_append_of_ne hj s []

@[simp] theorem message?_optText_append (s : String) (m : Message) :
    message? k (optText j s ++ m) = message? k m := by
  rw [optText]
  split <;> rfl

@[simp] theorem message_optText_append (s : String) (m : Message) :
    message k (optText j s ++ m) = message k m :=
  congrArg (Option.getD · []) (message?_optText_append s m)

@[simp] theorem messages_optText_append (s : String) (m : Message) :
    messages k (optText j s ++ m) = messages k m := by
  rw [optText]
  split <;> rfl

@[simp] theorem varint_optText_append (s : String) (m : Message) :
    varint k (optText j s ++ m) = varint k m := by
  rw [optText]
  split <;> rfl

@[simp] theorem texts_optText_append_of_ne (hj : j ≠ k) (s : String) (m : Message) :
    texts k (optText j s ++ m) = texts k m := by
  rw [optText]
  split
  · rfl
  · simp [texts, hj]

@[simp] theorem varint_optVarint_append (n : Int) {m : Message} (h : varint k m = 0) :
    varint k (optVarint k n ++ m) = n := by
  rw [optVarint]
  split
  · rename_i hn
    rw [List.nil_append, h, hn]
  · exact if_pos rfl

@[simp] theorem varint_optVarint_append_of_ne (hj : j ≠ k) (n : Int) (m : Message) :
    varint k (optVarint j n ++ m) = varint k m := by
  rw [optVarint]
  split
  · rfl
  · exact if_neg hj

@[simp] theorem message_optMessage (m : Message) : message k (optMessage k m) = m := by
  cases m with
  | nil => rfl
  | cons f fs => simp [optMessage, message, message?]

/-- The message in an `Any` is the one that was put there. -/
@[simp] theorem message_anyOf (typeUrl : String) (m : Message) :
    message 2 (anyOf typeUrl m) = m := by
  rw [anyOf, message_optText_append, message_optMessage]

theorem messages_map_message_append (ms : List Message) (m : Message) :
    messages k (ms.map (.message k) ++ m) = ms ++ messages k m := by
  induction ms with
  | nil => rfl
  | cons first ms ih => simp [messages, ih]

@[simp] theorem messages_map_message (k : Nat) (ms : List Message) :
    messages k (ms.map (.message k)) = ms := by
  simpa [messages] using messages_map_message_append ms (k := k) []

@[simp] theorem messages_map_text_append (ss : List String) (m : Message) :
    messages k (ss.map (.text j) ++ m) = messages k m := by
  induction ss with
  | nil => rfl
  | cons s ss ih => simpa [messages] using ih

theorem texts_map_text_append (ss : List String) (m : Message) :
    texts k (ss.map (.text k) ++ m) = ss ++ texts k m := by
  induction ss with
  | nil => rfl
  | cons s ss ih => simp [texts, ih]

@[simp] theorem texts_map_message (ms : List Message) : texts k (ms.map (.message j)) = [] := by
  induction ms with
  | nil => rfl
  | cons m ms ih => exact ih

theorem text_map_text_append_of_ne (hj : j ≠ k) (ss : List String) (m : Message) :
    text k (ss.map (.text j) ++ m) = text k m := by
  induction ss with
  | nil => rfl
  | cons s ss ih => rwa [List.map_cons, List.cons_append, text, if_neg hj]

@[simp] theorem text_map_message (ms : List Message) : text k (ms.map (.message j)) = "" := by
  induction ms with
  | nil => rfl
  | cons m ms ih => exact ih

@[simp] theorem varint_map_message (ms : List Message) : varint k (ms.map (.message j)) = 0 := by
  induction ms with
  | nil => rfl
  | cons m ms ih => exact ih

theorem message?_map_message_of_ne (hj : j ≠ k) (ms : List Message) :
    message? k (ms.map (.message j)) = none := by
  induction ms with
  | nil => rfl
  | cons m ms ih => rwa [List.map_cons, message?, if_neg hj]

end Protobuf

namespace Envoy

open Protobuf

/-! ### Listeners -/

theorem readAddress_tcpAddress (host : String) (port : UInt16) :
    readAddress (tcpAddress host port) = (host, port) := by
  have hsocket : message 1 (tcpAddress host port) = optText 2 host ++ [.varint 3 port.toNat] := rfl
  rw [readAddress, hsocket, text_optText_append host rfl, varint_optText_append]
  simp [varint]

theorem text_typedConfig (name typeUrl : String) (settings : Message) :
    text 1 (typedConfig name typeUrl settings) = name :=
  text_optText_append name rfl

theorem settings_typedConfig (name typeUrl : String) (settings : Message) :
    message 2 (message 4 (typedConfig name typeUrl settings)) = settings := by
  rw [typedConfig, message_optText_append]
  exact message_anyOf typeUrl settings

theorem readWaf_wafConfig (waf : WafSettings) : readWaf (wafConfig waf) = waf := by
  simp [readWaf, wafConfig]

theorem readTyped?_typedConfig_self (name typeUrl : String) (settings : Message) :
    readTyped? name (typedConfig name typeUrl settings) = some settings := by
  rw [readTyped?, if_pos (text_typedConfig name typeUrl settings), settings_typedConfig]

theorem readTyped?_typedConfig_of_ne {name other : String} (h : other ≠ name) (typeUrl : String)
    (settings : Message) : readTyped? name (typedConfig other typeUrl settings) = none := by
  rw [readTyped?, text_typedConfig, if_neg h]

/-- The router among the HTTP filters is not taken for the WAF filter. -/
theorem findSome?_httpFilters (waf : Option WafSettings) :
    (httpFilters waf).findSome? (readTyped? wafFilterName) = waf.map wafConfig := by
  have hrouter : readTyped? wafFilterName routerFilter = none :=
    readTyped?_typedConfig_of_ne (by decide) _ _
  cases waf with
  | none => simp [httpFilters, hrouter]
  | some waf => simp [httpFilters, wafFilter, readTyped?_typedConfig_self]

/-- The settings of the connection manager in a listener's message. -/
def manager (m : Message) : Message := message 2 (message 4 (message 3 (message 3 m)))

theorem manager_listener (l : Listener) :
    manager (listener l) = connectionManager l.routeConfig l.waf := by
  rw [manager, listener, message_optText_append]
  exact settings_typedConfig _ _ _

theorem messages_connectionManager (routeConfig : String) (waf : Option WafSettings) :
    messages 5 (connectionManager routeConfig waf) = httpFilters waf := by
  rw [connectionManager, List.append_assoc]
  exact (messages_map_message_append _ _).trans (List.append_nil _)

/-- A listener's message loses nothing of it. -/
theorem readListener_listener (l : Listener) : readListener (listener l) = l := by
  have haddress : message 2 (listener l) = tcpAddress "0.0.0.0" l.port := by
    rw [listener, message_optText_append]
    rfl
  have hmanager : message 2 (message 4 (message 3 (message 3 (listener l)))) =
      connectionManager l.routeConfig l.waf := manager_listener l
  have hname : text 1 (listener l) = l.name := text_optText_append l.name rfl
  have hroutes : text 2 (message 3 (connectionManager l.routeConfig l.waf)) = l.routeConfig :=
    text_optText l.routeConfig
  have hwaf : (l.waf.map wafConfig).map readWaf = l.waf := by
    simp [Function.comp_def, readWaf_wafConfig]
  rw [readListener]
  simp only [hmanager, haddress, messages_connectionManager, readAddress_tcpAddress, hname,
    hroutes, findSome?_httpFilters, hwaf]

/-! ### Names and references -/

/-- The name of the resource that a message is for, which all of them have in their first field. -/
def resourceName (m : Message) : String := text 1 m

theorem resourceName_listener (l : Listener) : resourceName (listener l) = l.name :=
  text_optText_append l.name rfl

theorem resourceName_cluster (c : Cluster) : resourceName (cluster c) = c.name :=
  text_optText_append c.name rfl

theorem resourceName_routeConfig (rc : RouteConfig) : resourceName (routeConfig rc) = rc.name :=
  text_optText_append rc.name (text_map_message _)

theorem messages_virtualHost (vh : VirtualHost) :
    messages 3 (virtualHost vh) = vh.routes.map route := by
  rw [virtualHost, List.append_assoc, messages_optText_append, messages_map_text_append,
    messages_map_message]

theorem messages_routeConfig (rc : RouteConfig) :
    messages 2 (routeConfig rc) = rc.virtualHosts.map virtualHost := by
  rw [routeConfig, messages_optText_append, messages_map_message]

/-- The clusters that the routes of a route configuration lead to, in order. -/
def routedClusters (m : Message) : List String :=
  (messages 2 m).flatMap fun host => (messages 3 host).map fun r => text 1 (message 2 r)

theorem routedClusters_routeConfig (rc : RouteConfig) :
    routedClusters (routeConfig rc) = rc.routes.map Route.cluster := by
  have hcluster (r : Route) : text 1 (message 2 (route r)) = r.cluster := rfl
  rw [routedClusters, messages_routeConfig]
  simp [List.flatMap_map, messages_virtualHost, hcluster, RouteConfig.routes, List.map_flatMap,
    Function.comp_def]

end Envoy

theorem Discovery.resourceName_message (x : Discovery.Resource) :
    Envoy.resourceName x.message = x.name := by
  cases x with
  | listener l => exact Envoy.resourceName_listener l
  | cluster c => exact Envoy.resourceName_cluster c
  | route rc => exact Envoy.resourceName_routeConfig rc

end WafControl
