import Agora.Service.Failure

set_option autoImplicit false

namespace Agora.Service

def parseId (raw : String) : Except Complaint Int :=
  match Text.Numeral.int64 raw with
  | .ok id => if 0 < id then .ok id else .error (.invalidId raw)
  | .error _ => .error (.invalidId raw)

end Agora.Service
