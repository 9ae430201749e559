import WafControl.Workload.VolumeShape

/-!
# The shape of a pod

What a pod's document says: about the object itself, about what is wanted of the pod and its
containers, and about what a node reports of them. Names of kinds and amounts of resources are
texts; nobody reads more into them here.
-/

namespace WafControl.Shape

/-- A command that is run in a container. -/
def execAction : Shape := record [("command", list text)]

/-- A request that is made to a container. -/
def httpAction : Shape :=
  record (texts ["host", "path", "scheme"] ++
    [("httpHeaders", list (record (texts ["name", "value"]))), ("port", wholeOrName)])

/-- A connection that is made to a container. -/
def socketAction : Shape := record [("host", text), ("port", wholeOrName)]

/-- How a container is probed. -/
def probe : Shape :=
  record (wholes 32 ["failureThreshold", "initialDelaySeconds", "periodSeconds",
      "successThreshold", "timeoutSeconds"] ++
    [("terminationGracePeriodSeconds", whole 64), ("exec", execAction), ("httpGet", httpAction),
      ("tcpSocket", socketAction), ("grpc", record [("port", whole 32), ("service", text)])])

/-- What is done when a container has started, or before it stops. -/
def lifecycleHandler : Shape :=
  record [("exec", execAction), ("httpGet", httpAction),
    ("sleep", record [("seconds", whole 64)]), ("tcpSocket", socketAction)]

/-- Where the value of a variable is taken from. -/
def variableSource : Shape :=
  let keyRef := record [("key", text), ("name", text), ("optional", flag)]
  record [("configMapKeyRef", keyRef), ("fieldRef", fieldRef),
    ("resourceFieldRef", resourceFieldRef), ("secretKeyRef", keyRef)]

/-- Where whole sets of variables are taken from. -/
def variablesSource : Shape :=
  let source := record [("name", text), ("optional", flag)]
  record [("configMapRef", source), ("prefix", text), ("secretRef", source)]

/-- The resources that a container or a pod asks for. -/
def resources : Shape :=
  record [("claims", list (record (texts ["name", "request"]))),
    ("limits", dictionary text), ("requests", dictionary text)]

/-- A profile that confines processes. -/
def confinement : Shape := record (texts ["localhostProfile", "type"])

/-- The label that an access policy gives to processes. -/
def accessLabel : Shape := record (texts ["level", "role", "type", "user"])

/-- How processes run on nodes with Windows. -/
def windowsOptions : Shape :=
  record (texts ["gmsaCredentialSpec", "gmsaCredentialSpecName", "runAsUserName"] ++
    flags ["hostProcess"])

/-- Members that say how processes are confined, of a container or of a whole pod. -/
def confinementMembers : List (String × Shape) :=
  [("appArmorProfile", confinement), ("runAsGroup", whole 64), ("runAsNonRoot", flag),
    ("runAsUser", whole 64), ("seLinuxOptions", accessLabel), ("seccompProfile", confinement),
    ("windowsOptions", windowsOptions)]

/-- How the processes of a container are confined. -/
def containerSecurity : Shape :=
  record (confinementMembers ++
    flags ["allowPrivilegeEscalation", "privileged", "readOnlyRootFilesystem"] ++
    [("capabilities", record [("add", list text), ("drop", list text)]), ("procMount", text)])

/-- How all processes of a pod are confined. -/
def podSecurity : Shape :=
  record (confinementMembers ++
    texts ["fsGroupChangePolicy", "seLinuxChangePolicy", "supplementalGroupsPolicy"] ++
    [("fsGroup", whole 64), ("supplementalGroups", list (whole 64)),
      ("sysctls", list (record (texts ["name", "value"])))])

/-- The members that describe a container of a pod. -/
def containerMembers : List (String × Shape) :=
  texts ["image", "imagePullPolicy", "name", "restartPolicy", "terminationMessagePath",
      "terminationMessagePolicy", "workingDir"] ++
    flags ["stdin", "stdinOnce", "tty"] ++
    [("args", list text), ("command", list text),
      ("env", list (record [("name", text), ("value", text), ("valueFrom", variableSource)])),
      ("envFrom", list variablesSource),
      ("lifecycle", record [("postStart", lifecycleHandler), ("preStop", lifecycleHandler),
        ("stopSignal", text)]),
      ("livenessProbe", probe), ("readinessProbe", probe), ("startupProbe", probe),
      ("ports", list (record (texts ["hostIP", "name", "protocol"] ++
        wholes 32 ["containerPort", "hostPort"]))),
      ("resizePolicy", list (record (texts ["resourceName", "restartPolicy"]))),
      ("resources", resources), ("securityContext", containerSecurity),
      ("volumeDevices", list (record (texts ["devicePath", "name"]))),
      ("volumeMounts", list (record (texts ["mountPath", "mountPropagation", "name",
        "recursiveReadOnly", "subPath", "subPathExpr"] ++ flags ["readOnly"])))]

def containerSpec : Shape := record containerMembers

/-- A container that was added to a running pod may name the one it looks into. -/
def addedContainerSpec : Shape := record (("targetContainerName", text) :: containerMembers)

/-- Nodes, by their labels and fields. -/
def nodeSelectorTerm : Shape :=
  let requirement := record [("key", text), ("operator", text), ("values", list text)]
  record [("matchExpressions", list requirement), ("matchFields", list requirement)]

/-- Pods that are to be near, or far. -/
def podAffinityTerm : Shape :=
  record [("labelSelector", labelSelector), ("matchLabelKeys", list text),
    ("mismatchLabelKeys", list text), ("namespaceSelector", labelSelector),
    ("namespaces", list text), ("topologyKey", text)]

/-- Which nodes and pods a pod is to be near to. -/
def affinity : Shape :=
  let wished := "preferredDuringSchedulingIgnoredDuringExecution"
  let required := "requiredDuringSchedulingIgnoredDuringExecution"
  let pods := record [
    (wished, list (record [("podAffinityTerm", podAffinityTerm), ("weight", whole 32)])),
    (required, list podAffinityTerm)]
  record [
    ("nodeAffinity", record [
      (wished, list (record [("preference", nodeSelectorTerm), ("weight", whole 32)])),
      (required, record [("nodeSelectorTerms", list nodeSelectorTerm)])]),
    ("podAffinity", pods), ("podAntiAffinity", pods)]

/-- Where a pod looks names up. -/
def nameLookup : Shape :=
  record [("nameservers", list text), ("options", list (record (texts ["name", "value"]))),
    ("searches", list text)]

/-- How pods are spread over nodes. -/
def spreadConstraint : Shape :=
  record (texts ["nodeAffinityPolicy", "nodeTaintsPolicy", "topologyKey", "whenUnsatisfiable"] ++
    wholes 32 ["maxSkew", "minDomains"] ++
    [("labelSelector", labelSelector), ("matchLabelKeys", list text)])

/-- What is wanted of a pod. -/
def podSpec : Shape :=
  record (texts ["dnsPolicy", "hostname", "nodeName", "preemptionPolicy", "priorityClassName",
      "restartPolicy", "runtimeClassName", "schedulerName", "serviceAccount",
      "serviceAccountName", "subdomain"] ++
    flags ["automountServiceAccountToken", "enableServiceLinks", "hostIPC", "hostNetwork",
      "hostPID", "hostUsers", "setHostnameAsFQDN", "shareProcessNamespace"] ++
    wholes 64 ["activeDeadlineSeconds", "terminationGracePeriodSeconds"] ++
    [("affinity", affinity), ("containers", list containerSpec), ("dnsConfig", nameLookup),
      ("ephemeralContainers", list addedContainerSpec),
      ("hostAliases", list (record [("hostnames", list text), ("ip", text)])),
      ("imagePullSecrets", list (record [("name", text)])),
      ("initContainers", list containerSpec), ("nodeSelector", dictionary text),
      ("os", record [("name", text)]), ("overhead", dictionary text), ("priority", whole 32),
      ("readinessGates", list (record [("conditionType", text)])),
      ("resourceClaims", list (record (texts ["name", "resourceClaimName",
        "resourceClaimTemplateName"]))),
      ("resources", resources), ("schedulingGates", list (record [("name", text)])),
      ("securityContext", podSecurity),
      ("tolerations", list (record (texts ["effect", "key", "operator", "value"] ++
        wholes 64 ["tolerationSeconds"]))),
      ("topologySpreadConstraints", list spreadConstraint), ("volumes", list volume)])

/-- What is reported about the state of a container. -/
def containerState : Shape :=
  record [("running", record [("startedAt", time)]),
    ("terminated", record (texts ["containerID", "message", "reason"] ++
      wholes 32 ["exitCode", "signal"] ++ [("finishedAt", time), ("startedAt", time)])),
    ("waiting", record (texts ["message", "reason"]))]

/-- The user that the processes of a container run as. -/
def containerUser : Shape :=
  record [("linux", record [("gid", whole 64), ("supplementalGroups", list (whole 64)),
    ("uid", whole 64)])]

/-- What is reported about a container. -/
def containerStatus : Shape :=
  record (texts ["containerID", "image", "imageID", "name", "stopSignal"] ++
    flags ["ready", "started"] ++
    [("allocatedResources", dictionary text),
      ("allocatedResourcesStatus", list (record [("name", text),
        ("resources", list (record (texts ["health", "resourceID"])))])),
      ("lastState", containerState), ("resources", resources), ("restartCount", whole 32),
      ("state", containerState), ("user", containerUser),
      ("volumeMounts", list (record (texts ["mountPath", "name", "recursiveReadOnly"] ++
        flags ["readOnly"])))])

/-- What is reported about a pod. -/
def podStatus : Shape :=
  record (texts ["hostIP", "message", "nominatedNodeName", "phase", "podIP", "qosClass", "reason",
      "resize"] ++
    [("conditions", list (record (texts ["message", "reason", "status", "type"] ++
        [("lastProbeTime", time), ("lastTransitionTime", time),
          ("observedGeneration", whole 64)]))),
      ("containerStatuses", list containerStatus),
      ("ephemeralContainerStatuses", list containerStatus),
      ("hostIPs", list (record [("ip", text)])), ("initContainerStatuses", list containerStatus),
      ("observedGeneration", whole 64), ("podIPs", list (record [("ip", text)])),
      ("resourceClaimStatuses", list (record (texts ["name", "resourceClaimName"]))),
      ("startTime", time)])

def pod : Shape :=
  record [("metadata", objectMetadata), ("spec", podSpec), ("status", podStatus)]

end WafControl.Shape
