import AtLeastOnce.Http.Router

/-!
# What the health endpoints answer

Each of the two paths leads to its own handler, whatever query follows it, and the
answer is there at once.
-/

namespace AtLeastOnce.Http

/-- The request fetches what is at a path, or asks what fetching it would be answered
with. -/
structure Request.Fetches (request : Request) (path : String) : Prop where
  path : targetPath? request.target = some path.toList
  method : request.method = "GET" ∨ request.method = "HEAD"

variable {router : Router} {request : Request} {path : String} (shutdown : Shutdown)

/-- `HEAD` is answered with the status of `GET`, and as soon. -/
theorem Request.Fetches.status_eq {handler : Handler} (fetches : request.Fetches path)
    (found : router.find? path.toList = some (handler, [])) :
    (router.answer shutdown request).delay = (handler shutdown []).delay ∧
      (router.answer shutdown request).result.status =
        (handler shutdown []).result.status := by
  unfold Router.answer
  rw [fetches.path, Option.getD_some, found]
  dsimp only
  rcases fetches.method with get | head
  · rw [if_pos get]
    exact ⟨rfl, rfl⟩
  · have other : request.method ≠ "GET" := by
      rw [head]
      decide
    rw [if_neg other, if_pos head]
    exact ⟨rfl, rfl⟩

theorem find?_healthz : healthRoutes.find? "/healthz".toList = some (liveness, []) := rfl

theorem find?_readyz : healthRoutes.find? "/readyz".toList = some (readiness, []) := rfl

/-- The process says that it lives as long as it can. -/
theorem Request.Fetches.live (fetches : request.Fetches "/healthz") :
    (healthRoutes.answer shutdown request).delay = some 0 ∧
      (healthRoutes.answer shutdown request).result.status = 200 :=
  fetches.status_eq shutdown find?_healthz

/-- It is ready until the flag goes up. -/
theorem Request.Fetches.ready (fetches : request.Fetches "/readyz") :
    (healthRoutes.answer shutdown request).delay = some 0 ∧
      (healthRoutes.answer shutdown request).result.status =
        if shutdown.triggered then 503 else 200 := by
  obtain ⟨delay, status⟩ := fetches.status_eq shutdown find?_readyz
  refine ⟨delay, status.trans ?_⟩
  unfold readiness immediately
  split <;> rfl

end AtLeastOnce.Http
