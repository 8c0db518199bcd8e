import IncidentaryOperator.Client.Provider

/-!
# The services list

`internal/client/services.go`: the services that are registered in the workspace, as the reconciler
asks for them.
-/

set_option autoImplicit false
set_option relaxedAutoImplicit false

namespace IncidentaryOperator.Client

/-- `ServiceEntry`: a registered service. -/
structure ServiceEntry where
  serviceID : String
  lastSeen : ℤ := 0
  instrumented : Bool := false
  deriving DecidableEq

/-- What `List` returns: an error, by its text, or the entries. -/
abbrev ServicesOutcome := Except String (List ServiceEntry)

/-- What `List` of a client returns: for the HTTP client whatever the network and the server make of
the request, for the stub always an empty list. -/
def ServicesClient.list (client : ServicesClient) (answer : ServicesOutcome) : ServicesOutcome :=
  match client with
  | .http _ _ => answer
  | .empty => .ok []

end IncidentaryOperator.Client
