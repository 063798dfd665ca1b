import JmsNaming.Proofs.Naming.ConnectionFactory
import JmsNaming.Proofs.Uri.Password

/-
What the log of a resolution tells of a password: sources that differ only in the password of a
rejected URI log the same exactly if the URI is rejected for the same fault, and so whenever the
checks on the authority do not see the password. A password that is cut by a delimiter is quoted in
the fault.
-/
namespace JmsNaming

/-! ## Events of a rejected URI -/

namespace Source

variable {s t : Source} {provider : Tls.Provider}

/-- The events of taking over `uris`, none if they have no text. -/
def urisEvents (provider : Tls.Provider) (s : Source) (name : Option String) : List Log.Event :=
  match applyUris provider s name {} with
  | .ok r => r.2
  | .error _ => []

/-- A rejected `uri` is logged after the start, and `uris` is then taken over by the default factory. -/
theorem events_of_rejected {uri : String} {fault : Uri.Fault} (h : s.content "uri" = .ok (some uri))
    (hread : Endpoint.read uri.toList = .error fault) (name : Option String) :
    (buildConnectionFactory provider s name).events =
      { name := "creating_connection_factory", severity := .debug
        fields := [("name", .optional name), ("origin", .text s.origin)] } ::
        rejection "connection_factory_uri_rejected" name (.invalidUri fault) :: s.urisEvents provider name := by
  have happly : applyUri provider s name {} =
      .ok ({}, [rejection "connection_factory_uri_rejected" name (.invalidUri fault)]) := by
    simp only [applyUri, h, Except.map, Option.getD_some, ConnectionFactory.setUri, hread, afterChange]
  simp only [buildConnectionFactory, urisEvents, happly]
  cases applyUris provider s name {} with
  | error fault => rfl
  | ok r => rfl

theorem urisEvents_congr (h : s.content "uris" = t.content "uris") (name : Option String) :
    s.urisEvents provider name = t.urisEvents provider name := by
  unfold urisEvents applyUris
  rw [h]

theorem rejection_inj {event : String} {name : Option String} {φ ψ : Uri.Fault}
    (h : rejection event name (.invalidUri φ) = rejection event name (.invalidUri ψ)) : φ = ψ := by
  simp only [rejection, Log.Event.mk.injEq, List.cons.injEq, Prod.mk.injEq, Value.scalar.injEq,
    Scalar.text.injEq] at h
  exact Uri.Fault.message_injective h.2.2.1.2.1.2

/-- Two sources with a rejected `uri` and the same `uris` log the same exactly if both URIs have the same
fault. -/
theorem events_eq_iff_of_rejected (hs : s.IsConnectionFactory) (ht : t.IsConnectionFactory)
    (horigin : s.origin = t.origin) (huris : s.content "uris" = t.content "uris") {u v : String}
    (hu : s.content "uri" = .ok (some u)) (hv : t.content "uri" = .ok (some v)) {φ ψ : Uri.Fault}
    (hφ : Endpoint.read u.toList = .error φ) (hψ : Endpoint.read v.toList = .error ψ) (name : Option String) :
    (resolveSource provider s name).events = (resolveSource provider t name).events ↔ φ = ψ := by
  rw [resolveSource_connectionFactory hs, resolveSource_connectionFactory ht, events_of_rejected hu hφ,
    events_of_rejected hv hψ, horigin, urisEvents_congr huris]
  constructor
  · intro h
    exact rejection_inj (List.cons.inj (List.cons.inj h).2).1
  · rintro rfl
    rfl

/-! ## References with a password -/

section Reference

variable (user password rest : String)

/-- A reference with a URI that holds a password. -/
def referenceWith : Reference :=
  { className := some ClassName.connectionFactory
    addrs := [⟨"uri", .text (String.ofList (Uri.withPassword user.toList password.toList rest.toList))⟩] }

theorem choose_reference (r : Reference) : choose (.reference r) none = .ok (reference r) :=
  rfl

theorem origin_reference (r r' : Reference) : (reference r).origin = (reference r').origin :=
  rfl

theorem content_referenceWith : (reference (referenceWith user password rest)).content "uri" =
    .ok (some (String.ofList (Uri.withPassword user.toList password.toList rest.toList))) :=
  rfl

theorem isConnectionFactory_referenceWith : (reference (referenceWith user password rest)).IsConnectionFactory :=
  ⟨ClassName.connectionFactory, by decide, rfl⟩

theorem entry_referenceWith {name : String} (h : name ≠ "uri") :
    entry? (reference (referenceWith user password rest)) name = none := by
  have hn : ("uri" == name) = false := by simpa using Ne.symm h
  simp [ entry?, Reference.get?, referenceWith, hn]

end Reference

/-! ## Two passwords -/

/-- Two sources of connection factories that differ only in the password of a rejected `uri` log the same
exactly if both URIs have the same fault. They do, and log the same, if the checks on the authority see
neither password. -/
theorem resolve_events_eq_iff {input input' : Input} {environment environment' : Option Table}
    (hs : choose input environment = .ok s) (ht : choose input' environment' = .ok t)
    (hsf : s.IsConnectionFactory) (htf : t.IsConnectionFactory) (horigin : s.origin = t.origin)
    (hsame : ∀ name, name ≠ "uri" → s.entry? name = t.entry? name) {user p q rest : List Char}
    (hp : s.content "uri" = .ok (some (String.ofList (Uri.withPassword user p rest))))
    (hq : t.content "uri" = .ok (some (String.ofList (Uri.withPassword user q rest)))) {φ ψ : Uri.Fault}
    (hφ : Endpoint.read (Uri.withPassword user p rest) = .error φ)
    (hψ : Endpoint.read (Uri.withPassword user q rest) = .error ψ) (provider : Tls.Provider) (name : Option String) :
    ((resolve provider input name environment).events = (resolve provider input' name environment').events ↔ φ = ψ) ∧
      (Uri.Unseen user p rest → Uri.Unseen user q rest →
        (resolve provider input name environment).events = (resolve provider input' name environment').events) := by
  have hφ' : Endpoint.read (String.ofList (Uri.withPassword user p rest)).toList = .error φ := by
    rw [String.toList_ofList]
    exact hφ
  have hψ' : Endpoint.read (String.ofList (Uri.withPassword user q rest)).toList = .error ψ := by
    rw [String.toList_ofList]
    exact hψ
  have hevents : (resolve provider input name environment).events =
      (resolve provider input' name environment').events ↔ φ = ψ := by
    simp only [resolve, hs, ht]
    exact events_eq_iff_of_rejected hsf htf horigin (content_congr (hsame "uris" (by decide))) hp hq hφ' hψ' name
  refine ⟨hevents, fun hup huq => hevents.2 ?_⟩
  -- both authorities pass or fail the checks like the one without a password
  have hpp := Uri.partsOf_withPassword user p rest
  have hqp := Uri.partsOf_withPassword user q rest
  have hcheck : Uri.checkAuthority (Uri.partsOf (Uri.withPassword user p rest)).authority =
      Uri.checkAuthority (Uri.partsOf (Uri.withPassword user q rest)).authority := by
    rw [hpp.2, hqp.2, Uri.checkAuthority_of_unseen hup, Uri.checkAuthority_of_unseen huq]
  exact Uri.fault_eq_of_checkAuthority_eq hpp.1 hqp.1 hcheck (Endpoint.check_of_read_error hφ)
    (Endpoint.check_of_read_error hψ)

/-- Two passwords before a port that is out of range. -/
theorem resolve_events_eq_port_range :
    (resolve .working (.reference (referenceWith "app" "sesame" "broker:99999/prod")) (some "jms/cf") none).events =
      (resolve .working (.reference (referenceWith "app" "tulip" "broker:99999/prod")) (some "jms/cf") none).events := by
  have hsame : ∀ name, name ≠ "uri" →
      entry? (reference (referenceWith "app" "sesame" "broker:99999/prod")) name =
        entry? (reference (referenceWith "app" "tulip" "broker:99999/prod")) name := fun name hname => by
    rw [entry_referenceWith _ _ _ hname, entry_referenceWith _ _ _ hname]
  have hφ : Endpoint.read (Uri.withPassword "app".toList "sesame".toList "broker:99999/prod".toList) =
      .error .portRange := by decide
  have hψ : Endpoint.read (Uri.withPassword "app".toList "tulip".toList "broker:99999/prod".toList) =
      .error .portRange := by decide
  have hp : Uri.Unseen "app".toList "sesame".toList "broker:99999/prod".toList :=
    .inr ⟨List.all_iff_forall_prop.1 (by decide), List.all_iff_forall_prop.1 (by decide)⟩
  have hq : Uri.Unseen "app".toList "tulip".toList "broker:99999/prod".toList :=
    .inr ⟨List.all_iff_forall_prop.1 (by decide), List.all_iff_forall_prop.1 (by decide)⟩
  have hlog := resolve_events_eq_iff (choose_reference _) (choose_reference _)
    (isConnectionFactory_referenceWith "app" "sesame" "broker:99999/prod")
    (isConnectionFactory_referenceWith "app" "tulip" "broker:99999/prod") (origin_reference _ _) hsame
    (content_referenceWith _ _ _) (content_referenceWith _ _ _) hφ hψ .working (some "jms/cf")
  exact hlog.2 hp hq

/-- A slash that is not coded ends the authority inside of the password, and what stands before it is told as
the port. -/
theorem events_ne_of_cut_password :
    let uri (password : String) := Uri.withPassword "app".toList password.toList "broker/prod".toList
    let log (password : String) :=
      (resolve .working (.reference (referenceWith "app" password "broker/prod")) (some "jms/cf") none).events
    Endpoint.read (uri "open/sesame") = .error (.portText "open".toList) ∧
      Endpoint.read (uri "******/1") = .error (.portText "******".toList) ∧ log "open/sesame" ≠ log "******/1" := by
  intro uri log
  have hφ : Endpoint.read (uri "open/sesame") = .error (.portText "open".toList) := by decide
  have hψ : Endpoint.read (uri "******/1") = .error (.portText "******".toList) := by decide
  refine ⟨hφ, hψ, fun h => ?_⟩
  have huris : ∀ p : String, (reference (referenceWith "app" p "broker/prod")).content "uris" = .ok none :=
    fun _ => rfl
  have heq := (events_eq_iff_of_rejected (isConnectionFactory_referenceWith "app" "open/sesame" "broker/prod")
    (isConnectionFactory_referenceWith "app" "******/1" "broker/prod") (origin_reference _ _)
    ((huris _).trans (huris _).symm) (content_referenceWith _ _ _) (content_referenceWith _ _ _)
    (String.toList_ofList.symm ▸ hφ) (String.toList_ofList.symm ▸ hψ) (some "jms/cf")).1 h
  exact absurd heq (by decide)

end Source

end JmsNaming
