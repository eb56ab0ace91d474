import ApiGateway.Interfaces

/-!
# One request on its way through the proxy pipeline

The stages after the middleware share the request's context and response and
may change both before they throw. A stage is an operation over the services'
state together with the two; a call of a service sees its own part only.
-/

namespace ApiGateway

open Effects

/-- The response as the stages have written it. -/
structure HttpResponse where
  statusCode : Nat
  contentType : Option Text
  contentLength : Option Nat
  written : Bytes
deriving DecidableEq

/-- The response before any stage has touched it. -/
def HttpResponse.fresh : HttpResponse := ⟨200, none, none, []⟩

/-- The services' state, the request and the response. -/
structure Connection (σ : Type) where
  services : σ
  context : HttpContext
  response : HttpResponse

/-- A stage of the pipeline. -/
abbrev Stage (σ α : Type) := Effect Fault (Connection σ) α

namespace Connection

variable {σ α : Type}

/-- Call a service from within a stage. -/
def call (task : Task σ α) : Stage σ α := fun connection =>
  ((task connection.services).1, { connection with services := (task connection.services).2 })

/-- Change the request. -/
def changeContext (change : HttpContext → HttpContext) : Stage σ Unit :=
  Effect.update (fun connection => { connection with context := change connection.context })

/-- Set the status and append to the response. -/
def respond (status : Nat) (bytes : Bytes) : Stage σ Unit :=
  Effect.update (fun connection =>
    { connection with
      response := { connection.response with
        statusCode := status
        written := connection.response.written ++ bytes } })

@[simp] theorem call_run (task : Task σ α) (connection : Connection σ) :
    call task connection = ((task connection.services).1,
      { connection with services := (task connection.services).2 }) := rfl

theorem call_ok {task : Task σ α} (connection : Connection σ) {value : α} {after : σ}
    (returned : task connection.services = (.ok value, after)) :
    call task connection = (.ok value, { connection with services := after }) := by
  rw [call_run, returned]

theorem call_error {task : Task σ α} (connection : Connection σ) {fault : Fault} {after : σ}
    (thrown : task connection.services = (.error fault, after)) :
    (call task connection : Except Fault α × Connection σ) =
      (.error fault, { connection with services := after }) := by
  rw [call_run, thrown]

/-- A call keeps what it keeps of the services. -/
theorem preserves_call {invariant : σ → Prop} {task : Task σ α} (kept : Preserves invariant task) :
    Preserves (fun connection => invariant connection.services) (call task) :=
  fun connection holds => kept connection.services holds

end Connection

end ApiGateway
