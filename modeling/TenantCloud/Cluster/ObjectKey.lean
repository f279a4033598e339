/-!
# Places in the cluster

An `ObjectKey` is a namespace and a name in it, an `ObjectAddress` a name that need not lie in a
namespace. Both are ordered by namespace first.
-/

set_option autoImplicit false

namespace TenantCloud

/-- A namespace and a name in it. -/
structure ObjectKey where
  ns : String
  name : String
  deriving DecidableEq

namespace ObjectKey

instance : Ord ObjectKey := ⟨compareLex (compareOn ObjectKey.ns) (compareOn ObjectKey.name)⟩

instance : Std.TransOrd ObjectKey :=
  inferInstanceAs (Std.TransCmp (compareLex (compareOn ObjectKey.ns) (compareOn ObjectKey.name)))

instance : Std.LawfulEqOrd ObjectKey where
  eq_of_compare {a b} h := by
    have h : compareLex (compareOn ObjectKey.ns) (compareOn ObjectKey.name) a b = .eq := h
    simp only [compareLex_eq_eq, compareOn] at h
    cases a; cases b
    simp_all [Std.LawfulEqCmp.compare_eq_iff_eq]

/-- The key as one text. -/
def render (k : ObjectKey) : String := k.ns ++ "/" ++ k.name

end ObjectKey

/-- A name, in a namespace or in none. -/
structure ObjectAddress where
  ns : Option String
  name : String
  deriving DecidableEq

namespace ObjectAddress

instance : Ord ObjectAddress :=
  ⟨compareLex (compareOn ObjectAddress.ns) (compareOn ObjectAddress.name)⟩

instance : Std.TransOrd ObjectAddress :=
  inferInstanceAs
    (Std.TransCmp (compareLex (compareOn ObjectAddress.ns) (compareOn ObjectAddress.name)))

instance : Std.LawfulEqOrd ObjectAddress where
  eq_of_compare {a b} h := by
    have h : compareLex (compareOn ObjectAddress.ns) (compareOn ObjectAddress.name) a b = .eq := h
    simp only [compareLex_eq_eq, compareOn] at h
    cases a; cases b
    simp_all [Std.LawfulEqCmp.compare_eq_iff_eq]

/-- The place that the address means: no namespace counts as the one without a name. -/
def key (a : ObjectAddress) : ObjectKey := ⟨a.ns.getD "", a.name⟩

/-- The same name in no namespace. -/
def bare (a : ObjectAddress) : ObjectAddress := { a with ns := none }

end ObjectAddress

end TenantCloud
