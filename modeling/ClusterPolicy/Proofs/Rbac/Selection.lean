import ClusterPolicy.Proofs.Rbac.Widening

namespace ClusterPolicy.Rbac

open Cedar (Entities EntityUid Request)
open Condition (both)

section
variable {request : Request} {graph : Entities}

namespace Target

variable {t : Target} {resources names : List String}

end Target

namespace Impersonation

variable {x : String} {resources before after names : List String} {target target' : Impersonation}

end Impersonation

end

end ClusterPolicy.Rbac
