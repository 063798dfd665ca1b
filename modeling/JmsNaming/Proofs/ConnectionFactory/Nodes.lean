import JmsNaming.Proofs.ConnectionFactory.Operations

/-
Storing the nodes to try: all of them are read before the factory changes, but the list is stored before the first node
is taken over. So a node that cannot be read leaves the factory as it is, and TLS that is refused leaves the new list in
it.
-/
namespace JmsNaming.ConnectionFactory

variable {f : ConnectionFactory} {provider : Tls.Provider} {uri first : String} {uris : List String}

/-- The factory after nodes have been stored: the first one is taken over, if there is one. -/
def withNodes (f : ConnectionFactory) (provider : Tls.Provider) : List String → ConnectionFactory
  | [] => { f with uris := [] }
  | first :: rest => { (f.setUri provider first).2 with uris := first :: rest }

/-! ## Taking over the first node -/

/-- A URI is taken over in the same way whatever the nodes are, and leaves them as they are. -/
theorem setUri_withUris (f : ConnectionFactory) (uris : List String) : { f with uris }.setUri provider uri =
    ((f.setUri provider uri).1, { (f.setUri provider uri).2 with uris }) := by
  unfold setUri useSslProtocol
  cases Endpoint.read uri.toList with
  | error fault => rfl
  | ok e =>
    cases hssl : e.ssl with
    | false => simp [hssl]
    | true => cases provider.context Tls.defaultProtocol <;> simp [hssl]

/-- A URI that can be read is only refused for its TLS. -/
theorem setUri_of_readable (h : (Endpoint.read uri.toList).isOk = true) :
    (f.setUri provider uri).1 = .ok () ∨
      ∃ refusal, f.setUri provider uri = (.error (.tlsUnavailable refusal), f) := by
  rcases setUri_spec provider uri f with ⟨_, hread, -⟩ | ⟨_, refusal, -, -, -, heq⟩ | ⟨_, -, -, heq⟩
  · rw [hread] at h
    cases h
  · exact .inr ⟨refusal, heq⟩
  · exact .inl (by rw [heq])

/-! ## Storing the nodes -/

/-- The nodes are only rejected for one that cannot be read. -/
theorem exists_invalidUri_of_checkUris {e : ClientError} (h : checkUris uris = .error e) :
    ∃ fault, e = .invalidUri fault := by
  induction uris with
  | nil => cases h
  | cons uri rest ih =>
    rw [checkUris] at h
    cases hread : Endpoint.read uri.toList with
    | error fault =>
      rw [hread] at h
      cases h
      exact ⟨fault, rfl⟩
    | ok endpoint =>
      rw [hread] at h
      exact ih h

/-- The list of nodes is checked as a whole, or stored with the first node taken over as far as that goes. -/
theorem setUris_cons (provider : Tls.Provider) (f : ConnectionFactory) (first : String) (rest : List String) :
    (∃ uri ∈ first :: rest, (Endpoint.read uri.toList).isOk = false) ∧
        (∃ fault, f.setUris provider (first :: rest) = (.error (.invalidUri fault), f)) ∨
      (∀ uri ∈ first :: rest, (Endpoint.read uri.toList).isOk = true) ∧
        f.setUris provider (first :: rest) = ((f.setUri provider first).1, f.withNodes provider (first :: rest)) := by
  have hcheck := isOk_checkUris (first :: rest)
  cases he : checkUris (first :: rest) with
  | error e =>
    rw [he] at hcheck
    obtain ⟨uri, hmem, huri⟩ := List.all_eq_false.1 hcheck.symm
    obtain ⟨fault, rfl⟩ := exists_invalidUri_of_checkUris he
    exact .inl ⟨⟨uri, hmem, Bool.eq_false_iff.2 huri⟩, fault, by simp only [setUris, he]⟩
  | ok =>
    rw [he] at hcheck
    refine .inr ⟨List.all_eq_true.1 hcheck.symm, ?_⟩
    simp only [setUris, he, setUri_withUris, withNodes]

/-- Storing nodes succeeds exactly if all can be read and the first can be taken over, and then it does just that. If
it fails, the factory is as before exactly if some node cannot be read or the nodes are those it already had;
otherwise the nodes are stored, and TLS is refused to the first of them. -/
theorem setUris_eq_self_iff (provider : Tls.Provider) (uris : List String) (f : ConnectionFactory) :
    let change := f.setUris provider uris
    (change.1 = .ok () ↔ (∀ uri ∈ uris, (Endpoint.read uri.toList).isOk = true) ∧
        ∀ first ∈ uris.head?, (f.setUri provider first).1 = .ok ()) ∧
      (change.1 = .ok () ∧ change.2 = f.withNodes provider uris ∨
        ∃ e, change.1 = .error e ∧
          (change.2 = f ↔ (∃ uri ∈ uris, (Endpoint.read uri.toList).isOk = false) ∨ uris = f.uris) ∧
          ((∃ fault, e = .invalidUri fault) ∧ change.2 = f ∨
            (∃ refusal, e = .tlsUnavailable refusal) ∧ change.2 = { f with uris })) := by
  intro change
  cases uris with
  | nil => exact ⟨by simp [change, setUris], .inl ⟨rfl, rfl⟩⟩
  | cons first rest =>
    rcases setUris_cons provider f first rest with ⟨⟨uri, hmem, huri⟩, fault, heq⟩ | ⟨hall, heq⟩
    · -- a node cannot be read: nothing has been stored yet
      have hchange : change = (.error (.invalidUri fault), f) := heq
      rw [hchange]
      refine ⟨⟨by simp, fun h => ?_⟩, .inr ⟨_, rfl, ?_, .inl ⟨⟨fault, rfl⟩, rfl⟩⟩⟩
      · rw [h.1 uri hmem] at huri
        cases huri
      · exact ⟨fun _ => .inl ⟨uri, hmem, huri⟩, fun _ => rfl⟩
    · have hchange : change = ((f.setUri provider first).1, f.withNodes provider (first :: rest)) := heq
      rw [hchange]
      refine ⟨by simpa using fun _ => List.forall_mem_cons.1 hall, ?_⟩
      rcases setUri_of_readable (hall first List.mem_cons_self) with hok | ⟨refusal, hrefused⟩
      · exact .inl ⟨hok, rfl⟩
      · -- the first node is refused: the list is stored by then
        have hnodes : f.withNodes provider (first :: rest) = { f with uris := first :: rest } := by
          rw [withNodes, hrefused]
        rw [hnodes, hrefused]
        refine .inr ⟨_, rfl, ⟨fun h => .inr (congrArg uris h), ?_⟩, .inr ⟨⟨refusal, rfl⟩, rfl⟩⟩
        rintro (⟨uri, hmem, huri⟩ | hsame)
        · rw [hall uri hmem] at huri
          cases huri
        · rw [hsame]

/-- A list whose first node is refused its TLS is stored all the same. -/
theorem setUris_ne_self :
    let f : ConnectionFactory := { uris := ["amqp://a"] }
    let change := f.setUris (.failing "no provider") ["amqps://b", "amqp://c"]
    change.1 = .error (.tlsUnavailable { protocol := "TLSv1.2", reason := "no provider" }) ∧
      change.2.uris = ["amqps://b", "amqp://c"] ∧ change.2 ≠ f := by
  decide

end JmsNaming.ConnectionFactory
