import JmsNaming.Proofs.Naming.Reads
import Mathlib.Logic.Relation

/-
Changes of a reference that its resolution does not see: entries behind others of their type, another order of the
entries of different types, and entries of types that are not read.
-/
namespace JmsNaming

namespace Reference

/-- A change of the entries that keeps the first one of each type that is read. -/
inductive Change : Reference → Reference → Prop where
  /-- An entry is added whose type already occurs. -/
  | add {r : Reference} {addr : RefAddr} (h : ∃ a ∈ r.addrs, a.type = addr.type) : Change r (r.add addr)
  /-- Entries are added whose types already occur. -/
  | extend {r : Reference} {addrs : List RefAddr} (h : ∀ addr ∈ addrs, ∃ a ∈ r.addrs, a.type = addr.type) :
    Change r (r.extend addrs)
  /-- Entries of different types change places, so that those of each type keep their order. -/
  | reorder {r : Reference} {addrs : List RefAddr}
    (h : ∀ type, addrs.filter (·.type == type) = r.addrs.filter (·.type == type)) : Change r { r with addrs }
  /-- An entry of a type that is not read is put anywhere. -/
  | insert {r : Reference} {front back : List RefAddr} {addr : RefAddr} (hr : r.addrs = front ++ back)
    (h : addr.type ∉ (Source.reference r).properties) : Change r { r with addrs := front ++ addr :: back }
  /-- An entry of a type that is not read is taken out. -/
  | remove {r : Reference} {front back : List RefAddr} {addr : RefAddr} (hr : r.addrs = front ++ addr :: back)
    (h : addr.type ∉ (Source.reference r).properties) : Change r { r with addrs := front ++ back }

variable {r r' : Reference} {addr : RefAddr} {addrs front back : List RefAddr} {type : String}

/-! ## First entries -/

/-- An entry of a type that occurs, be it null, hides those behind it. -/
theorem get?_extend (h : ∀ addr ∈ addrs, ∃ a ∈ r.addrs, a.type = addr.type) (type : String) :
    (r.extend addrs).get? type = r.get? type := by
  unfold get? extend
  rw [List.find?_append]
  cases hfirst : r.addrs.find? (·.type == type) with
  | some a => rfl
  | none =>
    rw [Option.none_or, List.find?_eq_none]
    intro addr haddr htype
    obtain ⟨a, ha, heq⟩ := h addr haddr
    exact List.find?_eq_none.1 hfirst a ha (heq ▸ htype)

theorem get?_of_filter_eq (h : addrs.filter (·.type == type) = r.addrs.filter (·.type == type)) :
    get? { r with addrs } type = r.get? type := by
  unfold get?
  rw [← List.head?_filter, h, List.head?_filter]

theorem find?_insert (h : addr.type ≠ type) :
    (front ++ addr :: back).find? (·.type == type) = (front ++ back).find? (·.type == type) := by
  rw [List.find?_append, List.find?_append, List.find?_cons_of_neg (by simpa using h)]

/-! ## Changes and what is read -/

/-- Entries of different types that stand side by side may change places. -/
theorem Change.swap {a b : RefAddr} (hr : r.addrs = front ++ a :: b :: back) (h : a.type ≠ b.type) :
    Change r { r with addrs := front ++ b :: a :: back } := by
  refine .reorder fun type => ?_
  rw [hr, List.filter_append, List.filter_append]
  by_cases ha : a.type = type
  · have hb : b.type ≠ type := fun hb => h (ha.trans hb.symm)
    simp [ha, hb]
  · simp [List.filter_cons, ha]

/-- A change keeps the class name and the first entry of each type that is read. -/
theorem get?_of_change (h : Change r r') :
    r'.className = r.className ∧ ∀ name ∈ (Source.reference r).properties, r'.get? name = r.get? name := by
  cases h with
  | add h =>
    refine ⟨rfl, fun name _ => get?_extend (fun addr haddr => ?_) name⟩
    rwa [List.mem_singleton.1 haddr]
  | extend h => exact ⟨rfl, fun name _ => get?_extend h name⟩
  | reorder h => exact ⟨rfl, fun name _ => get?_of_filter_eq (h name)⟩
  | insert hr h =>
    refine ⟨rfl, fun name hname => ?_⟩
    unfold get?
    rw [hr, find?_insert fun he => h (he ▸ hname)]
  | remove hr h =>
    refine ⟨rfl, fun name hname => ?_⟩
    unfold get?
    rw [hr, find?_insert fun he => h (he ▸ hname)]

end Reference

/-! ## Resolving changed references -/

section Resolving

variable {r r' : Reference} (provider : Tls.Provider) (name : Option String) (environment environment' : Option Table)

/-- References of one class that agree in the first entries of the properties that are read are resolved alike. -/
theorem resolve_reference_congr (hclass : r'.className = r.className)
    (h : ∀ name ∈ (Source.reference r).properties, r'.get? name = r.get? name) :
    resolve provider (.reference r') name environment' = resolve provider (.reference r) name environment := by
  have hagree : Source.AgreeOn (Source.reference r).properties (.reference r) (.reference r') := by
    intro name hname
    rw [Source.entry?, Source.entry?, h name hname]
  have hsource : Source.className (.reference r) = Source.className (.reference r') := by
    rw [Source.className, Source.className, hclass]
  have hcongr : resolveSource provider (.reference r) name = resolveSource provider (.reference r') name :=
    (Source.resolveSource_congr hsource hagree provider name).trans
      (Source.withOrigin_resolveSource provider (.reference r') name)
  simp only [resolve, Source.choose, hcongr]

/-- Resolving a reference depends on its class name and on the first entry of each property that its builder reads,
and on nothing else: other references that have these, and those that any sequence of changes leads to, have the same
outcome and log the same. -/
theorem resolve_reference_eq (r : Reference) :
    (∀ r', r'.className = r.className →
      (∀ name ∈ (Source.reference r).properties, r'.get? name = r.get? name) →
        resolve provider (.reference r') name environment' = resolve provider (.reference r) name environment) ∧
    ∀ r', Relation.ReflTransGen Reference.Change r r' →
      resolve provider (.reference r') name environment' = resolve provider (.reference r) name environment := by
  refine ⟨fun r' hclass h => resolve_reference_congr provider name environment environment' hclass h, fun r' h => ?_⟩
  induction h with
  | refl => exact resolve_reference_congr provider name environment environment' rfl fun _ _ => rfl
  | tail _ hstep ih =>
    obtain ⟨hclass, hfirst⟩ := Reference.get?_of_change hstep
    exact (resolve_reference_congr provider name environment' environment' hclass hfirst).trans ih

end Resolving

/-- A null hides the texts behind it, and a name for AMQP is not read where the word for truth is missing. -/
theorem resolve_reference_eq_hidden :
    let r : Reference :=
      { className := some ClassName.adminDestination
        addrs := [⟨"isQueue", .null⟩, ⟨"destinationName", .text "orders"⟩, ⟨"amqp", .text "yes"⟩] }
    let r' : Reference :=
      { className := some ClassName.adminDestination
        addrs := [⟨"amqpQueueName", .text "jobs"⟩, ⟨"destinationName", .text "orders"⟩, ⟨"isQueue", .null⟩,
          ⟨"amqp", .text "yes"⟩, ⟨"isQueue", .text "false"⟩, ⟨"amqp", .text "true"⟩] }
    Relation.ReflTransGen Reference.Change r r' ∧
      resolve .working (.reference r') (some "jms/orders") none =
        resolve .working (.reference r) (some "jms/orders") none ∧
      resolve .working (.reference { r' with factory := some "factory" }) (some "jms/orders") none =
        resolve .working (.reference r) (some "jms/orders") none := by
  intro r r'
  let hidden : List RefAddr := [⟨"isQueue", .text "false"⟩, ⟨"amqp", .text "true"⟩]
  have hextend : Reference.Change r (r.extend hidden) := .extend (by simp [r, hidden])
  have hswap : Reference.Change (r.extend hidden) { r' with addrs := r'.addrs.drop 1 } :=
    @Reference.Change.swap _ [] (r'.addrs.drop 3) ⟨"isQueue", .null⟩ ⟨"destinationName", .text "orders"⟩ rfl (by decide)
  have hinsert : Reference.Change { r' with addrs := r'.addrs.drop 1 } r' :=
    @Reference.Change.insert _ [] (r'.addrs.drop 1) ⟨"amqpQueueName", .text "jobs"⟩ rfl (by decide)
  have hchanges : Relation.ReflTransGen Reference.Change r r' :=
    ((Relation.ReflTransGen.single hextend).tail hswap).tail hinsert
  have hfirst : ∀ name ∈ (Source.reference r).properties, r'.get? name = r.get? name := by
    have hread : (Source.reference r).properties = ["isQueue", "destinationName", "amqp"] := by decide
    rw [hread]
    simp only [List.forall_mem_cons]
    exact ⟨rfl, rfl, rfl, nofun⟩
  have heq := resolve_reference_eq .working (some "jms/orders") none none r
  exact ⟨hchanges, heq.2 r' hchanges, heq.1 { r' with factory := some "factory" } rfl hfirst⟩

end JmsNaming
