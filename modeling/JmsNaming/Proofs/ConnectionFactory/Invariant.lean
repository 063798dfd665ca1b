import JmsNaming.Proofs.ConnectionFactory.Operations

/-
The invariant of connection factories: TLS is on exactly with a context, the endpoint is one that a client can
connect to, and the nodes are URIs that can be read. Every call keeps it, whether it succeeds or fails half-way.
-/
namespace JmsNaming.ConnectionFactory

/-- What holds of every factory that calls lead to from the defaults. -/
structure WellFormed (f : ConnectionFactory) : Prop where
  ssl_iff : f.ssl = true ↔ f.sslContext.isSome = true
  port_nonneg : 0 ≤ f.port
  port_le : f.port ≤ 65535
  host_ne : f.host ≠ ""
  nodes_read : ∀ uri ∈ f.uris, (Endpoint.read uri.toList).isOk = true

variable {f : ConnectionFactory} {provider : Tls.Provider}

theorem wellFormed_default : ({} : ConnectionFactory).WellFormed :=
  ⟨by decide, by decide, by decide, by decide, nofun⟩

/-- Every call keeps the invariant, on each way out. -/
theorem wellFormed_apply (h : f.WellFormed) (op : Operation) : (op.apply provider f).WellFormed := by
  obtain ⟨nodes, hnodes, hcases⟩ := apply_cases provider op f
  have hread : ∀ uri ∈ nodes, (Endpoint.read uri.toList).isOk = true := by
    rcases hnodes with rfl | hnodes
    · exact h.nodes_read
    · exact hnodes
  rcases hcases with heq | ⟨context, heq⟩ | ⟨uri, e, context, he, hssl, heq⟩
  · -- at most the nodes are new
    rw [heq]
    exact ⟨h.ssl_iff, h.port_nonneg, h.port_le, h.host_ne, hread⟩
  · -- TLS is on with a context
    rw [heq]
    exact ⟨by simp, h.port_nonneg, h.port_le, h.host_ne, hread⟩
  · -- an endpoint that was read, whose port and host are in order
    rw [heq]
    have hc : e.Carried := Endpoint.carried_of_read he
    exact ⟨by simp [hssl], hc.port_nonneg, hc.port_le, hc.host_ne, hread⟩

theorem wellFormed_afterCalls (calls : List (Tls.Provider × Operation)) (h : f.WellFormed) :
    (f.afterCalls calls).WellFormed := by
  induction calls generalizing f with
  | nil => exact h
  | cons call calls ih => exact ih (wellFormed_apply h call.2)

/-- From the defaults, whatever is called, under whatever provider each call runs, and whether it succeeds or fails:
TLS is on exactly with a context, the port is in range, the host is not empty and every node can be read. -/
theorem wellFormed_afterCalls_default (calls : List (Tls.Provider × Operation)) : (afterCalls calls {}).WellFormed :=
  wellFormed_afterCalls calls wellFormed_default

end JmsNaming.ConnectionFactory
