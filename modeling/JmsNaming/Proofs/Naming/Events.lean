import JmsNaming.Naming.Resolve
import JmsNaming.Proofs.Log.Lines

/-
The events of a resolution: whatever is resolved, each has a text in each form of the log.
-/
namespace JmsNaming

variable {provider : Tls.Provider} {s : Source} {name : Option String} {f g : ConnectionFactory}
  {events : List Log.Event} {e : Log.Event}

theorem isPlain_rejection (event : String) (name : Option String) (error : ClientError) :
    (rejection event name error).IsPlain := by
  simp only [Log.Event.IsPlain, rejection, List.forall_mem_cons, List.not_mem_nil, false_implies, implies_true, and_true]
  exact ⟨⟨by decide, Value.isWritable_optional name⟩, by decide, rfl⟩

theorem isPlain_afterChange {event : String} {change : ConnectionFactory.Change ClientError}
    (h : afterChange event name change = (f, events)) : ∀ e ∈ events, e.IsPlain := by
  obtain ⟨outcome, g⟩ := change
  cases outcome with
  | ok _ =>
    cases h
    simp
  | error error =>
    cases h
    simpa using isPlain_rejection event name error

theorem isPlain_applyUri (h : applyUri provider s name f = .ok (g, events)) : ∀ e ∈ events, e.IsPlain := by
  obtain ⟨uri, -, hchange⟩ := map_eq_ok_iff.1 h
  exact isPlain_afterChange hchange

theorem isPlain_applyUris (h : applyUris provider s name f = .ok (g, events)) : ∀ e ∈ events, e.IsPlain := by
  obtain ⟨uris, -, hchange⟩ := map_eq_ok_iff.1 h
  cases uris with
  | none =>
    cases hchange
    simp
  | some text => exact isPlain_afterChange hchange

theorem isPlain_buildConnectionFactory : ∀ e ∈ (buildConnectionFactory provider s name).events, e.IsPlain := by
  have hstart : Log.Event.IsPlain { name := "creating_connection_factory", severity := .debug
                                    fields := [("name", .optional name), ("origin", .text s.origin)] } := by
    simp only [Log.Event.IsPlain, List.forall_mem_cons, List.not_mem_nil, false_implies, implies_true, and_true]
    exact ⟨⟨by decide, Value.isWritable_optional name⟩, by decide, rfl⟩
  cases huri : applyUri provider s name {} with
  | error fault => simpa [buildConnectionFactory, huri] using hstart
  | ok r =>
    have hfirst := List.forall_mem_cons.2 ⟨hstart, isPlain_applyUri huri⟩
    cases huris : applyUris provider s name r.1 with
    | error fault => simpa [buildConnectionFactory, huri, huris] using hfirst
    | ok r' =>
      have hall := List.forall_mem_append.2 ⟨hfirst, isPlain_applyUris huris⟩
      simpa [buildConnectionFactory, huri, huris] using hall

theorem isPlain_buildDestination {topic : Bool} : ∀ e ∈ (buildDestination s name topic).events, e.IsPlain := by
  simp only [buildDestination, List.forall_mem_cons, List.not_mem_nil, false_implies, implies_true, and_true,
    Log.Event.IsPlain]
  exact ⟨⟨by decide, Value.isWritable_optional name⟩, ⟨by decide, rfl⟩, by decide, rfl⟩

theorem isPlain_of_mem_resolveSource : ∀ e ∈ (resolveSource provider s name).events, e.IsPlain := by
  unfold resolveSource
  split
  · simp
  · split
    · simp
    · exact isPlain_buildConnectionFactory
    · exact isPlain_buildDestination

theorem isPlain_of_mem_resolve {input : Input} {environment : Option Table} :
    ∀ e ∈ (resolve provider input name environment).events, e.IsPlain := by
  unfold resolve
  split
  · simp
  · exact isPlain_of_mem_resolveSource

/-- Whatever is resolved, each event that is logged has a text. -/
theorem exists_text_of_resolve {input : Input} {environment : Option Table}
    (h : e ∈ (resolve provider input name environment).events) (format : Log.Format) (logger : String) :
    ∃ text, e.text format logger = .ok text :=
  Log.exists_text (isPlain_of_mem_resolve e h) format logger

end JmsNaming
