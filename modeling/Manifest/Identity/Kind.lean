/-!
# Cluster-scoped kinds

Most kinds of resources live in a namespace.  The ones listed here cannot be
placed in any.
-/

namespace Manifest.Kind

/-- The kinds whose resources live outside every namespace. -/
def clusterScoped : List String :=
  ["APIService", "CSIDriver", "CSINode", "CertificateSigningRequest", "Cluster",
    "ClusterIssuer", "ClusterRole", "ClusterRoleBinding", "ComponentStatus",
    "CustomResourceDefinition", "IngressClass", "MutatingWebhookConfiguration",
    "Namespace", "Node", "PersistentVolume", "PodSecurityPolicy", "PriorityClass",
    "RuntimeClass", "SelfSubjectAccessReview", "SelfSubjectRulesReview",
    "StorageClass", "SubjectAccessReview", "TokenReview",
    "ValidatingWebhookConfiguration", "VolumeAttachment"]

/-- Whether resources of a kind live outside every namespace. -/
def isClusterScoped (kind : String) : Bool :=
  clusterScoped.contains kind

end Manifest.Kind
