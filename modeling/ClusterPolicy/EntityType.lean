/-! The entity types of the cluster's schema. -/

namespace ClusterPolicy.EntityType

def user : String := "k8s::User"

def group : String := "k8s::Group"

def serviceAccount : String := "k8s::ServiceAccount"

def principalUid : String := "k8s::PrincipalUID"

def extra : String := "k8s::Extra"

def resource : String := "k8s::Resource"

def nonResourceUrl : String := "k8s::NonResourceURL"

/-- Actions of requests to the API server. -/
def action : String := "k8s::Action"

/-- Actions of admission, on objects that are about to change. -/
def admissionAction : String := "k8s::admission::Action"

end ClusterPolicy.EntityType
