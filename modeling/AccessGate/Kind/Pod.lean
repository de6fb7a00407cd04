/-
The shape of pods.
-/
import AccessGate.Cluster.Object

namespace AccessGate.Kind.Pod

open AccessGate.Shape (opt req object)
open AccessGate.Cluster

/-- A string field that may be absent, for each name. -/
def optTexts (names : List String) : List (String × Presence × Shape) :=
  names.map fun n => opt n .text

def optFlags (names : List String) : List (String × Presence × Shape) :=
  names.map fun n => opt n .flag

def reqTexts (names : List String) : List (String × Presence × Shape) :=
  names.map fun n => req n .text

def int32 : Shape := .integer 32

def int64 : Shape := .integer 64

def named : Shape := object [req "name" .text]

/-! ## Selectors and affinity -/

def labelSelector : Shape :=
  object
    [opt "matchExpressions" (.list (object (reqTexts ["key", "operator"] ++ [opt "values" (.list .text)]))),
      opt "matchLabels" (.dict .text)]

def nodeSelectorTerm : Shape :=
  let requirement := object (reqTexts ["key", "operator"] ++ [opt "values" (.list .text)])
  object [opt "matchExpressions" (.list requirement), opt "matchFields" (.list requirement)]

def podAffinityTerm : Shape :=
  object
    [opt "labelSelector" labelSelector, opt "matchLabelKeys" (.list .text),
      opt "mismatchLabelKeys" (.list .text), opt "namespaceSelector" labelSelector,
      opt "namespaces" (.list .text), req "topologyKey" .text]

def podAffinity : Shape :=
  object
    [opt "preferredDuringSchedulingIgnoredDuringExecution"
        (.list (object [req "podAffinityTerm" podAffinityTerm, req "weight" int32])),
      opt "requiredDuringSchedulingIgnoredDuringExecution" (.list podAffinityTerm)]

def affinity : Shape :=
  object
    [opt "nodeAffinity"
        (object
          [opt "preferredDuringSchedulingIgnoredDuringExecution"
              (.list (object [req "preference" nodeSelectorTerm, req "weight" int32])),
            opt "requiredDuringSchedulingIgnoredDuringExecution"
              (object [req "nodeSelectorTerms" (.list nodeSelectorTerm)])]),
      opt "podAffinity" podAffinity, opt "podAntiAffinity" podAffinity]

/-! ## Containers -/

def optionalKey : Shape :=
  object (reqTexts ["key", "name"] ++ optFlags ["optional"])

def fieldRef : Shape :=
  object [opt "apiVersion" .text, req "fieldPath" .text]

def resourceFieldRef : Shape :=
  object [opt "containerName" .text, opt "divisor" .text, req "resource" .text]

def envVar : Shape :=
  object
    [req "name" .text, opt "value" .text,
      opt "valueFrom"
        (object [opt "configMapKeyRef" optionalKey, opt "fieldRef" fieldRef,
          opt "resourceFieldRef" resourceFieldRef, opt "secretKeyRef" optionalKey])]

def envFrom : Shape :=
  let source := object [req "name" .text, opt "optional" .flag]
  object [opt "configMapRef" source, opt "prefix" .text, opt "secretRef" source]

def httpGet : Shape :=
  object
    [opt "host" .text, opt "httpHeaders" (.list (object (reqTexts ["name", "value"]))), opt "path" .text,
      req "port" .integerOrText, opt "scheme" .text]

def exec : Shape :=
  object [opt "command" (.list .text)]

def tcpSocket : Shape :=
  object [opt "host" .text, req "port" .integerOrText]

def lifecycleHandler : Shape :=
  object [opt "exec" exec, opt "httpGet" httpGet, opt "sleep" (object [req "seconds" int64]),
    opt "tcpSocket" tcpSocket]

def probe : Shape :=
  object
    [opt "exec" exec, opt "failureThreshold" int32,
      opt "grpc" (object [req "port" int32, opt "service" .text]), opt "httpGet" httpGet,
      opt "initialDelaySeconds" int32, opt "periodSeconds" int32, opt "successThreshold" int32,
      opt "tcpSocket" tcpSocket, opt "terminationGracePeriodSeconds" int64, opt "timeoutSeconds" int32]

def resources : Shape :=
  object
    [opt "claims" (.list (object [req "name" .text, opt "request" .text])), opt "limits" (.dict .text),
      opt "requests" (.dict .text)]

def seLinuxOptions : Shape :=
  object (optTexts ["level", "role", "type", "user"])

def windowsOptions : Shape :=
  object (optTexts ["gmsaCredentialSpec", "gmsaCredentialSpecName", "runAsUserName"] ++ optFlags ["hostProcess"])

def profile : Shape :=
  object [opt "localhostProfile" .text, req "type" .text]

def securityContext : Shape :=
  object
    ([opt "appArmorProfile" profile,
        opt "capabilities" (object [opt "add" (.list .text), opt "drop" (.list .text)]),
        opt "procMount" .text, opt "runAsGroup" int64, opt "runAsUser" int64,
        opt "seLinuxOptions" seLinuxOptions, opt "seccompProfile" profile,
        opt "windowsOptions" windowsOptions]
      ++ optFlags ["allowPrivilegeEscalation", "privileged", "readOnlyRootFilesystem", "runAsNonRoot"])

def containerFields : List (String × Presence × Shape) :=
  [opt "args" (.list .text), opt "command" (.list .text), opt "env" (.list envVar),
    opt "envFrom" (.list envFrom), opt "image" .text, opt "imagePullPolicy" .text,
    opt "lifecycle" (object [opt "postStart" lifecycleHandler, opt "preStop" lifecycleHandler]),
    opt "livenessProbe" probe, req "name" .text,
    opt "ports"
      (.list (object [req "containerPort" int32, opt "hostIP" .text, opt "hostPort" int32,
        opt "name" .text, opt "protocol" .text])),
    opt "readinessProbe" probe,
    opt "resizePolicy" (.list (object (reqTexts ["resourceName", "restartPolicy"]))),
    opt "resources" resources, opt "restartPolicy" .text, opt "securityContext" securityContext,
    opt "startupProbe" probe, opt "stdin" .flag, opt "stdinOnce" .flag,
    opt "terminationMessagePath" .text, opt "terminationMessagePolicy" .text, opt "tty" .flag,
    opt "volumeDevices" (.list (object (reqTexts ["devicePath", "name"]))),
    opt "volumeMounts"
      (.list (object (reqTexts ["mountPath", "name"] ++ optFlags ["readOnly"]
        ++ optTexts ["mountPropagation", "recursiveReadOnly", "subPath", "subPathExpr"]))),
    opt "workingDir" .text]

def container : Shape := object containerFields

def ephemeralContainer : Shape :=
  object (containerFields ++ [opt "targetContainerName" .text])

/-! ## Volumes -/

def keyToPath : Shape :=
  object [req "key" .text, opt "mode" int32, req "path" .text]

def downwardItems : Shape :=
  .list (object [opt "fieldRef" fieldRef, opt "mode" int32, req "path" .text,
    opt "resourceFieldRef" resourceFieldRef])

def claimSpec : Shape :=
  object
    [opt "accessModes" (.list .text),
      opt "dataSource" (object [opt "apiGroup" .text, req "kind" .text, req "name" .text]),
      opt "dataSourceRef" (object [opt "apiGroup" .text, req "kind" .text, req "name" .text, opt "namespace" .text]),
      opt "resources" (object [opt "limits" (.dict .text), opt "requests" (.dict .text)]),
      opt "selector" labelSelector, opt "storageClassName" .text, opt "volumeAttributesClassName" .text,
      opt "volumeMode" .text, opt "volumeName" .text]

def projection : Shape :=
  let items := object [opt "items" (.list keyToPath), req "name" .text, opt "optional" .flag]
  object
    [opt "clusterTrustBundle"
        (object [opt "labelSelector" labelSelector, opt "name" .text, opt "optional" .flag, req "path" .text,
          opt "signerName" .text]),
      opt "configMap" items, opt "downwardAPI" (object [opt "items" downwardItems]), opt "secret" items,
      opt "serviceAccountToken"
        (object [opt "audience" .text, opt "expirationSeconds" int64, req "path" .text])]

def volume : Shape :=
  object
    [opt "awsElasticBlockStore"
        (object [opt "fsType" .text, opt "partition" int32, opt "readOnly" .flag, req "volumeID" .text]),
      opt "azureDisk"
        (object (optTexts ["cachingMode", "fsType", "kind"] ++ reqTexts ["diskName", "diskURI"] ++ optFlags ["readOnly"])),
      opt "azureFile" (object (reqTexts ["secretName", "shareName"] ++ optFlags ["readOnly"])),
      opt "cephfs"
        (object (optTexts ["path", "secretFile", "user"] ++ optFlags ["readOnly"]
          ++ [req "monitors" (.list .text), opt "secretRef" named])),
      opt "cinder"
        (object [opt "fsType" .text, opt "readOnly" .flag, opt "secretRef" named, req "volumeID" .text]),
      opt "configMap"
        (object [opt "defaultMode" int32, opt "items" (.list keyToPath), req "name" .text, opt "optional" .flag]),
      opt "csi"
        (object [req "driver" .text, opt "fsType" .text, opt "nodePublishSecretRef" named, opt "readOnly" .flag,
          opt "volumeAttributes" (.dict .text)]),
      opt "downwardAPI" (object [opt "defaultMode" int32, opt "items" downwardItems]),
      opt "emptyDir" (object (optTexts ["medium", "sizeLimit"])),
      opt "ephemeral"
        (object [opt "volumeClaimTemplate" (object [opt "metadata" Metadata.shape, req "spec" claimSpec])]),
      opt "fc"
        (object [opt "fsType" .text, opt "lun" int32, opt "readOnly" .flag, opt "targetWWNs" (.list .text),
          opt "wwids" (.list .text)]),
      opt "flexVolume"
        (object [req "driver" .text, opt "fsType" .text, opt "options" (.dict .text), opt "readOnly" .flag,
          opt "secretRef" named]),
      opt "flocker" (object (optTexts ["datasetName", "datasetUUID"])),
      opt "gcePersistentDisk"
        (object [opt "fsType" .text, opt "partition" int32, req "pdName" .text, opt "readOnly" .flag]),
      opt "gitRepo" (object (optTexts ["directory", "revision"] ++ reqTexts ["repository"])),
      opt "glusterfs" (object (reqTexts ["endpoints", "path"] ++ optFlags ["readOnly"])),
      opt "hostPath" (object (reqTexts ["path"] ++ optTexts ["type"])),
      opt "image" (object (optTexts ["pullPolicy", "reference"])),
      opt "iscsi"
        (object ([req "lun" int32, opt "portals" (.list .text), opt "secretRef" named]
          ++ optFlags ["chapAuthDiscovery", "chapAuthSession", "readOnly"]
          ++ optTexts ["fsType", "initiatorName", "iscsiInterface"] ++ reqTexts ["iqn", "targetPortal"])),
      req "name" .text,
      opt "nfs" (object (reqTexts ["path", "server"] ++ optFlags ["readOnly"])),
      opt "persistentVolumeClaim" (object (reqTexts ["claimName"] ++ optFlags ["readOnly"])),
      opt "photonPersistentDisk" (object (optTexts ["fsType"] ++ reqTexts ["pdID"])),
      opt "portworxVolume" (object (optTexts ["fsType"] ++ optFlags ["readOnly"] ++ reqTexts ["volumeID"])),
      opt "projected" (object [opt "defaultMode" int32, opt "sources" (.list projection)]),
      opt "quobyte"
        (object (optTexts ["group", "tenant", "user"] ++ optFlags ["readOnly"] ++ reqTexts ["registry", "volume"])),
      opt "rbd"
        (object (optTexts ["fsType", "keyring", "pool", "user"] ++ optFlags ["readOnly"] ++ reqTexts ["image"]
          ++ [req "monitors" (.list .text), opt "secretRef" named])),
      opt "scaleIO"
        (object (optTexts ["fsType", "protectionDomain", "storageMode", "storagePool", "volumeName"]
          ++ optFlags ["readOnly", "sslEnabled"] ++ reqTexts ["gateway", "system"] ++ [req "secretRef" named])),
      opt "secret"
        (object [opt "defaultMode" int32, opt "items" (.list keyToPath), opt "optional" .flag,
          opt "secretName" .text]),
      opt "storageos"
        (object (optTexts ["fsType", "volumeName", "volumeNamespace"] ++ optFlags ["readOnly"]
          ++ [opt "secretRef" named])),
      opt "vsphereVolume" (object (optTexts ["fsType", "storagePolicyID", "storagePolicyName"] ++ reqTexts ["volumePath"]))]

/-! ## The whole -/

def podSecurityContext : Shape :=
  object
    [opt "appArmorProfile" profile, opt "fsGroup" int64, opt "fsGroupChangePolicy" .text,
      opt "runAsGroup" int64, opt "runAsNonRoot" .flag, opt "runAsUser" int64, opt "seLinuxChangePolicy" .text,
      opt "seLinuxOptions" seLinuxOptions, opt "seccompProfile" profile,
      opt "supplementalGroups" (.list int64), opt "supplementalGroupsPolicy" .text,
      opt "sysctls" (.list (object (reqTexts ["name", "value"]))), opt "windowsOptions" windowsOptions]

def spec : Shape :=
  object
    ([opt "activeDeadlineSeconds" int64, opt "affinity" affinity, req "containers" (.list container),
        opt "dnsConfig"
          (object [opt "nameservers" (.list .text), opt "options" (.list (object (optTexts ["name", "value"]))),
            opt "searches" (.list .text)]),
        opt "ephemeralContainers" (.list ephemeralContainer),
        opt "hostAliases" (.list (object [opt "hostnames" (.list .text), req "ip" .text])),
        opt "imagePullSecrets" (.list named), opt "initContainers" (.list container),
        opt "nodeSelector" (.dict .text), opt "os" named, opt "overhead" (.dict .text),
        opt "priority" int32, opt "readinessGates" (.list (object [req "conditionType" .text])),
        opt "resourceClaims"
          (.list (object ([req "name" .text] ++ optTexts ["resourceClaimName", "resourceClaimTemplateName"]))),
        opt "resources" resources, opt "schedulingGates" (.list named),
        opt "securityContext" podSecurityContext, opt "terminationGracePeriodSeconds" int64,
        opt "tolerations"
          (.list (object (optTexts ["effect", "key", "operator", "value"] ++ [opt "tolerationSeconds" int64]))),
        opt "topologySpreadConstraints"
          (.list (object [opt "labelSelector" labelSelector, opt "matchLabelKeys" (.list .text),
            req "maxSkew" int32, opt "minDomains" int32, opt "nodeAffinityPolicy" .text,
            opt "nodeTaintsPolicy" .text, req "topologyKey" .text, req "whenUnsatisfiable" .text])),
        opt "volumes" (.list volume)]
      ++ optFlags ["automountServiceAccountToken", "enableServiceLinks", "hostIPC", "hostNetwork", "hostPID",
        "hostUsers", "setHostnameAsFQDN", "shareProcessNamespace"]
      ++ optTexts ["dnsPolicy", "hostname", "nodeName", "preemptionPolicy", "priorityClassName", "restartPolicy",
        "runtimeClassName", "schedulerName", "serviceAccount", "serviceAccountName", "subdomain"])

def containerState : Shape :=
  object
    [opt "running" (object [opt "startedAt" .time]),
      opt "terminated"
        (object [opt "containerID" .text, req "exitCode" int32, opt "finishedAt" .time, opt "message" .text,
          opt "reason" .text, opt "signal" int32, opt "startedAt" .time]),
      opt "waiting" (object (optTexts ["message", "reason"]))]

def containerStatus : Shape :=
  object
    [opt "allocatedResources" (.dict .text),
      opt "allocatedResourcesStatus"
        (.list (object [req "name" .text,
          opt "resources" (.list (object (optTexts ["health"] ++ reqTexts ["resourceID"])))])),
      opt "containerID" .text, req "image" .text, req "imageID" .text, opt "lastState" containerState,
      req "name" .text, req "ready" .flag, opt "resources" resources, req "restartCount" int32,
      opt "started" .flag, opt "state" containerState,
      opt "user"
        (object [opt "linux" (object [req "gid" int64, opt "supplementalGroups" (.list int64), req "uid" int64])]),
      opt "volumeMounts"
        (.list (object (reqTexts ["mountPath", "name"] ++ optFlags ["readOnly"] ++ optTexts ["recursiveReadOnly"])))]

def status : Shape :=
  object
    ([opt "conditions"
          (.list (object [opt "lastProbeTime" .time, opt "lastTransitionTime" .time, opt "message" .text,
            opt "reason" .text, req "status" .text, req "type" .text])),
        opt "containerStatuses" (.list containerStatus),
        opt "ephemeralContainerStatuses" (.list containerStatus),
        opt "hostIPs" (.list (object [req "ip" .text])),
        opt "initContainerStatuses" (.list containerStatus),
        opt "podIPs" (.list (object [req "ip" .text])),
        opt "resourceClaimStatuses" (.list (object [req "name" .text, opt "resourceClaimName" .text])),
        opt "startTime" .time]
      ++ optTexts ["hostIP", "message", "nominatedNodeName", "phase", "podIP", "qosClass", "reason", "resize"])

/-- The members of a pod besides the names of its type. -/
def shape : Shape :=
  object [req "metadata" Metadata.shape, opt "spec" spec, opt "status" status]

end AccessGate.Kind.Pod
