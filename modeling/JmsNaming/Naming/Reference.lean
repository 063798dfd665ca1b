import JmsNaming.Value.Basic

/-
References: a class name and a list of typed address entries, the shape in which a naming service
hands a resource over. The first entry of a type counts.
-/
namespace JmsNaming

/-- An address entry; its content may be null. -/
structure RefAddr where
  type : String
  content : Value

structure Reference where
  className : Option String
  addrs : List RefAddr := []
  factory : Option String := none

namespace Reference

/-- The reference whose entries are those of a table, in order. -/
def ofTable (className : Option String) (table : List (String × Value)) (factory : Option String) : Reference :=
  { className, addrs := table.map fun e => ⟨e.1, e.2⟩, factory }

def add (r : Reference) (addr : RefAddr) : Reference :=
  { r with addrs := r.addrs ++ [addr] }

def extend (r : Reference) (addrs : List RefAddr) : Reference :=
  { r with addrs := r.addrs ++ addrs }

/-- The first entry of a type. -/
def get? (r : Reference) (type : String) : Option RefAddr :=
  r.addrs.find? (·.type == type)

/-- The entries are equal one by one. -/
def sameAddrs : List RefAddr → List RefAddr → Bool
  | [], [] => true
  | a :: as, b :: bs => a.type == b.type && a.content.same b.content && sameAddrs as bs
  | _, _ => false

/-- The references have the same class name and factory and equal entries in the same order. -/
def same (r s : Reference) : Bool :=
  r.className == s.className && r.factory == s.factory && sameAddrs r.addrs s.addrs

end Reference

end JmsNaming
