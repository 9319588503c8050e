import CollectorGateway.Proofs.Client.Posting
import CollectorGateway.Proofs.Client.Uplink

/-!
What the client hands to its gateway beside its writer, and what it does about the
answers. A run is to the gateway the frames and the requests that are handled in it;
of each request handled the effects are among the actions, and its reply with them: sent
on a connection, or noted as dropped without one, or lost with a connection that fails.
-/

namespace CollectorGateway

open Gateway (Input)

namespace Client

variable {c c' : Client} {s : Stimulus} {input? : Option Input} {actions : List Action}

end Client

namespace Uplink

variable {u : Uplink}

def handed (u : Uplink) (s : Stimulus) : Option Input := (u.reaches s).bind u.client.handed

def inputs (u : Uplink) : List Stimulus → List Input
  | [] => []
  | s :: rest => (u.handed s).toList ++ (u.step s).1.inputs rest

end Uplink

end CollectorGateway
