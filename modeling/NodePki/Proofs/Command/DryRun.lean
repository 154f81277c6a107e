import Mathlib.Data.List.Induction
import NodePki.Proofs.Command.Ensure

/-!
# Requests of a dry run

What a dry run asks of the API server, in the order in which it asks: first the pod, then the services,
and nothing after these (`EnsureRequest.along_prepare`). All that the steps ask of a store of secrets is
answered from memory (`EnsureRequest.dryRun_requests`), so no attempt of theirs makes a request.
-/

namespace NodePki.EnsureRequest

open Program (Along Leads)

/-- The request that reads the pod. -/
def podRequest (r : EnsureRequest) : Kube.Request :=
  Kube.Request.sent { method := .get, path := s!"{Kube.collectionPath .pod r.ns}/{r.pod}" }

/-- The request that lists the services of the cluster. -/
def servicesRequest (r : EnsureRequest) : Kube.Request :=
  Kube.Request.sent
    { method := .get, path := Kube.collectionPath .service r.ns, selector := some r.selector }

/-- The requests of some exchanges. -/
def requests (t : Trace (Kube.Api.sum Surroundings)) : List Kube.Request :=
  (Trace.left t).map Exchange.op

/-- The requests that were made and the one that is made are the first of those for the pod and the
services. -/
def InOrder (r : EnsureRequest) (t : Trace (Kube.Api.sum Surroundings)) :
    (Kube.Api.sum Surroundings).Op → Prop
  | .inl request => requests t ++ [request] <+: [r.podRequest, r.servicesRequest]
  | .inr _ => True

variable {r : EnsureRequest} {config : Config} {t u : Trace (Kube.Api.sum Surroundings)}

theorem requests_append (t u : Trace (Kube.Api.sum Surroundings)) :
    requests (t ++ u) = requests t ++ requests u := by
  rw [requests, Trace.left_append, List.map_append]
  rfl

/-- A part of the command that may fail, and what follows it. -/
theorem along_during {ε α β : Type} {place : ε → CommandFault} {p : Kube.Calling (Except ε α)}
    {f : α → ExceptT CommandFault Kube.Calling β}
    {End : Trace (Kube.Api.sum Surroundings) → Except CommandFault β → Prop}
    (failed : ∀ t fault, End t (.error fault))
    (h : Along r.InOrder (fun t result => ∀ a, result = .ok a → Along r.InOrder End t (f a)) t p) :
    Along r.InOrder End t (during place p >>= f : ExceptT CommandFault Kube.Calling β) := by
  refine Program.along_try (Program.along_bind.2 (h.mono (fun _ _ ask => ask) fun t result ok => ?_))
  cases result with
  | ok a => exact (Program.along_done _).2 (ok a rfl)
  | error e => exact (Program.along_done _).2 (failed _ _)

/-- A check of what was found out. -/
theorem along_checked {ε α β : Type} {place : ε → CommandFault} {result : Except ε α}
    {f : α → ExceptT CommandFault Kube.Calling β}
    {End : Trace (Kube.Api.sum Surroundings) → Except CommandFault β → Prop}
    (failed : ∀ t fault, End t (.error fault))
    (h : ∀ a, result = .ok a → Along r.InOrder End t (f a)) :
    Along r.InOrder End t (checked place result >>= f : ExceptT CommandFault Kube.Calling β) :=
  along_during failed ((Program.along_done _).2 h)

theorem along_getPod (r : EnsureRequest) :
    Along r.InOrder (fun t result => ∀ pod, result = .ok pod → requests t = [r.podRequest]) []
      (Kube.getPod r.ns r.pod) := by
  unfold Kube.getPod Kube.getObject
  split
  · exact (Program.along_done _).2 fun _ h => nomatch h
  · refine Kube.along_request ?_ (fun e _ h => nomatch h) fun reply _ _ => ?_
    · exact ⟨[r.servicesRequest], rfl⟩
    · exact requests_append [] [⟨.inl _, reply⟩]

/-- The pod and the services are found out about by two requests, and by less only to no purpose. -/
theorem along_prepare (r : EnsureRequest) :
    Along r.InOrder (fun t result => ∀ found, result = .ok found →
      requests t = [r.podRequest, r.servicesRequest]) [] r.prepare := by
  have failed : ∀ (t : Trace (Kube.Api.sum Surroundings)) (fault : CommandFault)
      (found : Kube.Pod × NodeIdentity × List ServiceEndpoint), Except.error fault = .ok found →
        requests t = [r.podRequest, r.servicesRequest] := fun _ _ _ h => nomatch h
  refine along_during failed
    ((along_getPod r).mono (fun _ _ ask => ask) fun t result first pod ok => ?_)
  refine along_checked failed fun id _ => along_during failed ?_
  have hservices : requests t ++ [r.servicesRequest] = [r.podRequest, r.servicesRequest] := by
    rw [first pod ok]
    rfl
  refine Kube.along_request ?_ (fun e _ h => nomatch h) fun reply _ _ => ?_
  · exact ⟨[], (List.append_nil _).trans hservices⟩
  · refine along_checked failed fun endpoints _ => (Program.along_done _).2 fun _ _ => ?_
    exact (requests_append t [⟨.inl _, reply⟩]).trans hservices

/-- A dry run makes no other requests. -/
theorem along_run (config : Config) (dryRun : r.dryRun = true) :
    Along r.InOrder (fun _ _ => True) [] (r.run config) := by
  rw [run_eq]
  refine Program.along_try ((along_prepare r).mono (fun _ _ ask => ask) fun t result _ => ?_)
  cases result with
  | error fault => trivial
  | ok found =>
    obtain ⟨pod, id, services⟩ := found
    refine Program.along_try ?_
    rw [withStore, if_pos dryRun]
    refine Program.along_bind.2 (Program.along_right (fun _ _ => trivial) fun _ ending _ => ?_)
    refine (Program.along_done _).2 ?_
    cases ending.1 with
    | error fault => trivial
    | ok secret =>
      refine Program.along_try (Program.along_bind.2 ?_)
      exact Program.along_right (fun _ _ => trivial) fun _ _ _ =>
        (Program.along_done _).2 ((Program.along_done _).2 trivial)

/-- The requests of a run, if it is judged at each. -/
theorem requests_of_leads {p q : Kube.Calling (Except CommandFault (List String))}
    (h : Along r.InOrder (fun _ _ => True) [] p) (run : Leads p (t ++ u) q) :
    requests t <+: [r.podRequest, r.servicesRequest] := by
  induction t using List.reverseRecOn generalizing u with
  | nil => exact List.nil_prefix
  | append_singleton t e ih =>
    rw [List.append_assoc] at run
    have asked := h.asked run
    rw [requests_append]
    obtain ⟨request | op, answer⟩ := e
    · exact asked
    · exact (List.append_nil (requests t)).symm ▸ ih run

/-- A run that gets as far as to ensure the secrets has made both requests. -/
theorem Ensures.requests_eq {pod : Kube.Pod} {id : NodeIdentity} {services : List ServiceEndpoint}
    {v : Trace (SecretStore.sum Surroundings)} {secret : Except CommandFault Kube.Secret}
    (h : r.Ensures config t pod id services v secret)
    (only : requests t <+: [r.podRequest, r.servicesRequest]) :
    requests t = [r.podRequest, r.servicesRequest] := by
  obtain ⟨prepared, -, -⟩ := h
  have hbefore := (along_prepare r).ends prepared _ rfl
  refine only.eq_of_length_le ?_
  rw [requests_append, hbefore, List.length_append]
  exact Nat.le_add_right _ _

end NodePki.EnsureRequest
