import ClusterPolicy.SortedMap

namespace ClusterPolicy

/-- What the compilers are told. -/
structure Settings where
  /-- The kind of each plural resource name -/
  resourceKinds : SortedMap String
  /-- The API group whose `impersonate` rules name identities -/
  authenticationGroup : String

namespace Settings

def defaultKinds : List (String × String) :=
  [("configmaps", "ConfigMap"),
    ("cronjobs", "CronJob"),
    ("daemonsets", "DaemonSet"),
    ("deployments", "Deployment"),
    ("endpoints", "Endpoints"),
    ("ingresses", "Ingress"),
    ("jobs", "Job"),
    ("namespaces", "Namespace"),
    ("networkpolicies", "NetworkPolicy"),
    ("nodes", "Node"),
    ("persistentvolumeclaims", "PersistentVolumeClaim"),
    ("persistentvolumes", "PersistentVolume"),
    ("pods", "Pod"),
    ("replicasets", "ReplicaSet"),
    ("secrets", "Secret"),
    ("serviceaccounts", "ServiceAccount"),
    ("services", "Service"),
    ("statefulsets", "StatefulSet")]

def default : Settings := ⟨.ofList defaultKinds, "authentication.k8s.io"⟩

def kindOf? (settings : Settings) (plural : String) : Option String := settings.resourceKinds.find? plural

end Settings

end ClusterPolicy
