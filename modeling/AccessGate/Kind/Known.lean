/-
The kinds that the gate knows: those of the cluster that roles may refer to, pods, and stages.
-/
import AccessGate.Kind.Basic
import AccessGate.Kind.Pod

namespace AccessGate.Kind

open AccessGate.Shape (opt req object)
open AccessGate.Cluster

def objectReference : Shape :=
  object (Pod.optTexts ["apiVersion", "fieldPath", "kind", "name", "namespace", "resourceVersion", "uid"])

def configMap : Kind :=
  ⟨"", "v1", "ConfigMap", true,
    object [opt "binaryData" (.dict .bytes), opt "data" (.dict .text), opt "immutable" .flag,
      req "metadata" Metadata.shape]⟩

def event : Kind :=
  ⟨"", "v1", "Event", true,
    object
      [opt "action" .text, opt "count" (.integer 32), opt "eventTime" .microTime,
        opt "firstTimestamp" .time, req "involvedObject" objectReference, opt "lastTimestamp" .time,
        opt "message" .text, req "metadata" Metadata.shape, opt "reason" .text,
        opt "related" objectReference, opt "reportingComponent" .text, opt "reportingInstance" .text,
        opt "series" (object [opt "count" (.integer 32), opt "lastObservedTime" .microTime]),
        opt "source" (object (Pod.optTexts ["component", "host"])), opt "type" .text]⟩

def namespaceKind : Kind :=
  ⟨"", "v1", "Namespace", true,
    object
      [req "metadata" Metadata.shape, opt "spec" (object [opt "finalizers" (.list .text)]),
        opt "status"
          (object
            [opt "conditions"
                (.list (object [opt "lastTransitionTime" .time, opt "message" .text, opt "reason" .text,
                  req "status" .text, req "type" .text])),
              opt "phase" .text])]⟩

def secret : Kind :=
  ⟨"", "v1", "Secret", true,
    object [opt "data" (.dict .bytes), opt "immutable" .flag, req "metadata" Metadata.shape,
      opt "stringData" (.dict .text), opt "type" .text]⟩

def serviceAccount : Kind :=
  ⟨"", "v1", "ServiceAccount", true,
    object [opt "automountServiceAccountToken" .flag, opt "imagePullSecrets" (.list Pod.named),
      req "metadata" Metadata.shape, opt "secrets" (.list objectReference)]⟩

def rbacGroup : String := "rbac.authorization.k8s.io"

def role : Kind :=
  ⟨rbacGroup, "v1", "Role", true,
    object
      [req "metadata" Metadata.shape,
        opt "rules"
          (.list (object [opt "apiGroups" (.list .text), opt "nonResourceURLs" (.list .text),
            opt "resourceNames" (.list .text), opt "resources" (.list .text), req "verbs" (.list .text)]))]⟩

def roleBinding : Kind :=
  ⟨rbacGroup, "v1", "RoleBinding", true,
    object
      [req "metadata" Metadata.shape, req "roleRef" (object (Pod.reqTexts ["apiGroup", "kind", "name"])),
        opt "subjects"
          (.list (object [opt "apiGroup" .text, req "kind" .text, req "name" .text, opt "namespace" .text]))]⟩

def pod : Kind :=
  ⟨"", "v1", "Pod", true, Pod.shape⟩

/-- A stage: a record with one text in each of its parts. -/
def stage : Kind :=
  ⟨"kargo.akuity.io", "v1alpha1", "Stage", false,
    .record true
      [("metadata", .mandatory, Metadata.shape),
        ("spec", .defaulted, .record true [("shard", .defaulted, .text)]),
        ("status", .optional, .record true [("phase", .defaulted, .text)])]⟩

/-- The kinds of the cluster that roles may refer to. -/
def clusterKinds : List Kind :=
  [configMap, event, namespaceKind, secret, serviceAccount, role, roleBinding]

end AccessGate.Kind
