import JmsNaming.Proofs.ConnectionFactory.Uri
import JmsNaming.Proofs.Uri.Form
import JmsNaming.Proofs.Uri.Path
import JmsNaming.Proofs.Uri.Place

/-
Taking over a URI: what each component of the text does to the factory, what becomes of a path that does not begin with
a slash, and of a host with stray brackets.
-/
namespace JmsNaming.ConnectionFactory

open Text Uri

variable {provider : Tls.Provider} {uri : String} {f : ConnectionFactory}

/-- A URI that is accepted is read as the endpoint that the factory then has. -/
theorem read_of_setUri (h : (f.setUri provider uri).1 = .ok ()) :
    Endpoint.read uri.toList = .ok (f.setUri provider uri).2.toEndpoint := by
  rcases setUri_spec provider uri f with ⟨_, -, heq⟩ | ⟨_, _, -, -, -, heq⟩ | ⟨e, hread, -, heq⟩
  · rw [heq] at h
    cases h
  · rw [heq] at h
    cases h
  · rw [heq, hread, withEndpoint]

/-- A URI is rejected as one exactly if it cannot be read. -/
theorem setUri_invalidUri_iff :
    (∃ fault, (f.setUri provider uri).1 = .error (.invalidUri fault)) ↔ ¬∃ e, Endpoint.read uri.toList = .ok e := by
  rcases setUri_spec provider uri f with ⟨_, hread, heq⟩ | ⟨_, _, hread, -, -, heq⟩ | ⟨_, hread, -, heq⟩ <;>
    simp [heq, hread]

/-! ## Every component -/

/-- A URI of the grammar is accepted under a provider that refuses nothing, and gives the factory just the settings that
its components stand for, with a TLS context exactly if the scheme asks for TLS. -/
theorem setUri_form {u : Form} (h : u.Regular) (f : ConnectionFactory) :
    f.setUri .working (String.ofList u.text) = (.ok (), f.withEndpoint u.endpoint) := by
  rw [setUri_working, String.toList_ofList, Form.read_text h]

/-- A scheme in mixed letters, an address with a zone, an empty port, and components with colons and codes. -/
theorem setUri_form_mixed :
    let u : Form :=
      { scheme := "aMQp".toList
        authority :=
          { login := some ("app".toList, some "a:%40".toList), host := .address "fe80::1%eth0".toList, port := some [] }
        segment := some "%2Fprod".toList }
    let f : ConnectionFactory := { ssl := true, port := 1, uris := ["amqp://a"] }
    u.Regular ∧ String.ofList u.text = "aMQp://app:a:%40@[fe80::1%eth0]:/%2Fprod" ∧
      f.setUri .working "aMQp://app:a:%40@[fe80::1%eth0]:/%2Fprod" = (.ok (), f.withEndpoint
        { host := "fe80::1%eth0", port := 5672, username := "app", password := "a:@", virtualHost := "/prod" }) := by
  intro u f
  have hregular : u.Regular := by
    refine ⟨by decide, ?_, ?_, ⟨by decide, List.all_iff_forall_prop.1 (by decide)⟩, ?_, ?_⟩
    · rintro _ _ ⟨⟩
      exact List.all_iff_forall_prop.1 (by decide)
    · rintro _ _ ⟨⟩
      exact List.all_iff_forall_prop.1 (by decide)
    · rintro _ ⟨⟩
      exact ⟨nofun, by decide, by decide⟩
    · rintro _ ⟨⟩
      exact List.all_iff_forall_prop.1 (by decide)
  have htext : String.ofList u.text = "aMQp://app:a:%40@[fe80::1%eth0]:/%2Fprod" := by decide
  have hendpoint : u.endpoint =
      { host := "fe80::1%eth0", port := 5672, username := "app", password := "a:@", virtualHost := "/prod" } := by
    decide +kernel
  refine ⟨hregular, htext, ?_⟩
  rw [← htext, ← hendpoint]
  exact setUri_form hregular f

/-- A scheme with TLS also gives the factory a context. -/
theorem setUri_form_context :
    let u : Form :=
      { scheme := "amqps".toList, authority := { login := none, host := .name "broker".toList, port := none }
        segment := none }
    let f : ConnectionFactory := {}
    u.Regular ∧ String.ofList u.text = "amqps://broker" ∧ (f.setUri .working "amqps://broker").1 = .ok () ∧
      f.sslContext = none ∧ (f.setUri .working "amqps://broker").2.sslContext ≠ none := by
  intro u f
  have hhost : ∀ c ∈ "broker".toList, IsPlain c ∧ c ≠ ':' := List.all_iff_forall_prop.1 (by decide)
  exact ⟨⟨by decide, nofun, nofun, hhost, nofun, nofun⟩, by decide, by decide, rfl, by decide⟩

/-! ## The path -/

/-- Every text has components. The virtual host of a URI that is accepted is the path without its first character, which
loses nothing exactly if the path is empty or begins with a slash, as it does behind an authority. Any other path is
rejected exactly if the scheme is not one of AMQP or the path has a slash further on. -/
theorem setUri_virtualHost (provider : Tls.Provider) (uri : String) (f : ConnectionFactory) :
    let change := f.setUri provider uri
    (∃ u : Components, u.Proper ∧ clean uri.toList = u.text) ∧
      ∀ u : Components, u.Proper → clean uri.toList = u.text →
        (change.1 = .ok () → (u.Keeps change.2.virtualHost ↔ u.IsRooted) ∧
          ∀ c segment, u.path = c :: segment →
            '/' ∉ segment ∧ change.2.virtualHost = String.ofList (percentDecode segment)) ∧
        (u.authority ≠ none → u.IsRooted) ∧
        (¬u.IsRooted →
          ((∃ fault, change.1 = .error (.invalidUri fault)) ↔ ¬u.IsAmqp ∨ '/' ∈ u.path.drop 1)) := by
  intro change
  obtain ⟨u, hu, htext⟩ := Components.exists_proper (clean uri.toList)
  refine ⟨⟨u, hu, htext.symm⟩, fun u hu htext => ⟨fun hok => ?_, hu.isRooted, fun hrooted => ?_⟩⟩
  · have hread := read_of_setUri hok
    exact ⟨Endpoint.keeps_iff_of_read hread hu htext, (Endpoint.virtualHost_of_read hread hu htext).2⟩
  · have hunplaced : u.authority = none := not_not.1 (mt hu.isRooted hrooted)
    rw [setUri_invalidUri_iff, Endpoint.exists_read_iff_of_unplaced hu htext hunplaced, not_and_or, not_not]

/-- A path with a coded slash and no authority before it. -/
theorem setUri_virtualHost_coded :
    let change := ({} : ConnectionFactory).setUri .working "AMQP:/a%2Fb?/c"
    change.1 = .ok () ∧ change.2.virtualHost = "a/b" := by
  intro change
  let u : Components := { scheme := some "AMQP".toList, authority := none, path := "/a%2Fb".toList, tail := "?/c".toList }
  have hproper : u.Proper := by
    refine ⟨⟨nofun, nofun, fun _ => by decide, by decide, ?_⟩, ?_, nofun⟩
    · rintro _ ⟨⟩
      exact .inl rfl
    · rintro _ ⟨⟩
      decide
  have hok : change.1 = .ok () := by decide
  have htext : clean "AMQP:/a%2Fb?/c".toList = u.text := by decide
  obtain ⟨-, h⟩ := setUri_virtualHost .working "AMQP:/a%2Fb?/c" {}
  obtain ⟨haccepted, -, -⟩ := h u hproper htext
  obtain ⟨-, hpath⟩ := haccepted hok
  have hcoded : "a%2Fb".toList = percentEncode "a/b".toList := by decide
  rw [(hpath '/' "a%2Fb".toList (by decide)).2, hcoded, percentDecode_percentEncode, String.ofList_toList]
  exact ⟨hok, rfl⟩

/-- A path that does not begin with a slash is accepted, and loses its first character. -/
theorem setUri_virtualHost_cut :
    let u : Components := { scheme := some "amqp".toList, authority := none, path := "foo".toList, tail := [] }
    let change := ({} : ConnectionFactory).setUri .working "amqp:foo"
    u.Proper ∧ clean "amqp:foo".toList = u.text ∧ change.1 = .ok () ∧ change.2.virtualHost = "oo" ∧
      ¬u.Keeps change.2.virtualHost := by
  intro u change
  have hproper : u.Proper := by
    refine ⟨⟨nofun, nofun, fun _ => by decide, by decide, nofun⟩, ?_, nofun⟩
    rintro _ ⟨⟩
    decide
  refine ⟨hproper, by decide, by decide, by decide +kernel, ?_⟩
  rintro (⟨hpath, -⟩ | ⟨segment, hpath, -⟩)
  · cases hpath
  · have hhead : "foo".toList.head? = some '/' := congrArg List.head? hpath
    exact absurd hhead (by decide)

/-! ## The host and the port -/

/-- Every text has components. Behind the last `@`, the authority of a URI that is accepted is the host and the port that
the factory then has, exactly if an opening bracket there is closed. One that is not closed loses the last character,
and the port is the default one. -/
theorem setUri_place (provider : Tls.Provider) (uri : String) (f : ConnectionFactory) :
    let change := f.setUri provider uri
    (∃ u : Components, u.Proper ∧ clean uri.toList = u.text) ∧
      ∀ u : Components, u.Proper → clean uri.toList = u.text → change.1 = .ok () →
        let place := afterLast '@' (u.authority.getD [])
        ((∃ a : Authority, a.place = place ∧ a.Carries change.2.toEndpoint) ↔ ('[' ∈ place → ']' ∈ place)) ∧
        ('[' ∈ place → ']' ∉ place → ∃ c, place = '[' :: (change.2.host.toList ++ [c]) ∧
          change.2.port = Endpoint.defaultPort change.2.ssl) := by
  intro change
  obtain ⟨u, hu, htext⟩ := Components.exists_proper (clean uri.toList)
  refine ⟨⟨u, hu, htext.symm⟩, ?_⟩
  intro u hu htext hok place
  obtain ⟨port, hcheck, he⟩ := Endpoint.exists_check_of_read (read_of_setUri hok)
  obtain ⟨hbrackets, -, hport, -⟩ := Parts.check_eq_ok_iff.1 hcheck
  have hplace : place = hostPort (partsOf uri.toList).authority := by
    rw [Components.partsOf_eq hu htext]
    rfl
  rw [he, hplace]
  refine ⟨⟨?_, Endpoint.exists_carries hbrackets hport⟩, fun hopen hclose => ?_⟩
  · rintro ⟨a, ha, hcarries⟩
    exact Endpoint.close_mem_of_carries hbrackets hport ha hcarries
  · obtain ⟨c, hshort, -, hdefault⟩ := Endpoint.host_of_unclosed hbrackets hport hopen hclose
    exact ⟨c, hshort, hdefault⟩

/-- An opening bracket before the last `@`, a closing one inside the name of a later kind of address, and zeros in front
of the port. -/
theorem setUri_place_stray :
    let change := ({} : ConnectionFactory).setUri .working "amqp://a@[@v1.a]b:07"
    change.1 = .ok () ∧ change.2.host = "v1.a]b" ∧ change.2.port = 7 ∧
      ∃ a : Authority, a.place = "v1.a]b:07".toList ∧ a.Carries change.2.toEndpoint := by
  intro change
  let u : Components :=
    { scheme := some "amqp".toList, authority := some "a@[@v1.a]b:07".toList, path := [], tail := [] }
  have hproper : u.Proper := by
    refine ⟨⟨?_, nofun, nofun, by decide, nofun⟩, ?_, nofun⟩
    · rintro _ ⟨⟩
      exact List.all_iff_forall_prop.1 (by decide)
    · rintro _ ⟨⟩
      decide
  have hok : change.1 = .ok () := by decide
  obtain ⟨-, h⟩ := setUri_place .working "amqp://a@[@v1.a]b:07" {}
  obtain ⟨hcarries, -⟩ := h u hproper (by decide) hok
  exact ⟨hok, by decide, by decide, hcarries.2 (by decide)⟩

/-- A host in brackets without the closing one is accepted if the user has one, and loses its last colon. -/
theorem setUri_place_short :
    let u : Components := { scheme := some "amqp".toList, authority := some "]@[1::".toList, path := [], tail := [] }
    let change := ({} : ConnectionFactory).setUri .working "amqp://]@[1::"
    u.Proper ∧ clean "amqp://]@[1::".toList = u.text ∧ change.1 = .ok () ∧ change.2.host = "1:" ∧
      change.2.port = 5672 ∧ ¬∃ a : Authority, a.place = afterLast '@' (u.authority.getD []) ∧
        a.Carries change.2.toEndpoint := by
  intro u change
  have hproper : u.Proper := by
    refine ⟨⟨?_, nofun, nofun, by decide, nofun⟩, ?_, nofun⟩
    · rintro _ ⟨⟩
      exact List.all_iff_forall_prop.1 (by decide)
    · rintro _ ⟨⟩
      decide
  have hhost : change.2.host = "1:" := by decide
  refine ⟨hproper, by decide, by decide, hhost, by decide, ?_⟩
  rintro ⟨a, ha, hcarries⟩
  have hplace : a.place = "[1::".toList := ha.trans (by decide)
  cases hh : a.host with
  | address s =>
    have hclose : ']' ∈ a.place := by simp [Authority.place_of_address hh]
    rw [hplace] at hclose
    exact absurd hclose (by decide)
  | name s =>
    have hs := hhost.symm.trans hcarries.host
    rw [hh, Host.text] at hs
    split_ifs at hs with hnil
    · exact absurd hs (by decide)
    · rw [Authority.place_of_name hh, ← String.toList_ofList (l := s), ← hs] at hplace
      exact absurd (congrArg List.head? hplace) (by simp)

end JmsNaming.ConnectionFactory
