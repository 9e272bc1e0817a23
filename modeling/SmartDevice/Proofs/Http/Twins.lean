import SmartDevice.Proofs.Command.Twins
import SmartDevice.Proofs.Http.Authorization

/-! # Requests do not tell twins apart

Free twins give the same answer to a request, and are free twins again afterwards. -/

namespace SmartDevice.Http

open Apply Command Running

variable {r s : Running}

theorem alike_authorize (request : Request) :
    Alike FreeTwins (authorize request) (authorize request) := by
  intro r s h
  have hcheck : r.device.check request.credential = s.device.check request.credential := by
    rw [Device.check, Device.check, h.twins.identity]
  simp only [authorize_apply, hcheck]
  cases s.device.check request.credential with
  | ok key => exact .ok h
  | error e => exact .error h

theorem alike_serve (endpoint : Endpoint) (request : Request) (body : Body) :
    Alike FreeTwins (endpoint.serve request body) (endpoint.serve request body) := by
  cases endpoint with
  | showIdentity =>
      intro r s h
      simp only [Endpoint.serve, bind_apply, get_apply, h.twins.identity]
      exact Alike.ofExcept _ r s h
  | showConfiguration =>
      intro r s h
      simp only [Endpoint.serve, Device.getConfig, bind_apply, get_apply, pure_apply,
        h.twins.config]
      exact Alike.ofExcept _ r s h
  | storeConfiguration =>
      simp only [Endpoint.serve, storeAnswer]
      split
      · exact .pure _
      · split
        · exact .pure _
        · exact .bind (alike_invocation (.saveConfiguration _)) fun _ => .pure _
  | factoryReset => exact .bind (alike_invocation (.factoryReset _)) fun _ => .pure _
  | restart => exact .bind (alike_invocation .restart) fun _ => .pure _
  | shutdown => exact .bind (alike_invocation .shutdown) fun _ => .pure _

theorem alike_handle (endpoint : Endpoint) (request : Request) (body : Body) :
    Alike FreeTwins (endpoint.handle request body) (endpoint.handle request body) := by
  unfold Endpoint.handle
  refine .ite (fun _ => .bind (alike_authorize request) fun _ => ?_) fun _ => ?_
  all_goals exact alike_serve endpoint request body

theorem respond_twins (h : FreeTwins r s) (request : Request) :
    (respond request r).1 = (respond request s).1 ∧
      FreeTwins (respond request r).2 (respond request s).2 :=
  respond_of_alike (fun endpoint body => alike_handle endpoint request body)
    (fun _ _ write h => h.withConsole write) h

end SmartDevice.Http
