import Agora.Service.Failure
import Agora.Store.Entity

set_option autoImplicit false

namespace Agora.Service

inductive EditError where
  | conflict (id version : Int)
  | store (error : Store.Error)
  deriving DecidableEq, Repr

def EditError.message : EditError → String
  | .conflict id version => s!"post {id} changed since version {version}"
  | .store error => error.message

def EditError.failure : EditError → Failure
  | .conflict _ _ => .conflict
  | .store error => .ofStore error

end Agora.Service
