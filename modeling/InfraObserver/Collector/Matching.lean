import InfraObserver.Collector.Profile
import InfraObserver.Library.Dotted

/-!
# Automatic choice of a profile

`Match` looks for the profile with the longest prefix of a device's object id. It
compares texts, so a prefix can also match in the middle of a number; and of two
profiles with the same prefix it takes the one that it meets first.
-/

namespace InfraObserver

/-- The configured prefix stands at the beginning of an object id. -/
def Profile.Fits (profile : Profile) (oid : String) : Prop :=
  normOID profile.sysObjectIDPrefix ≠ "" ∧
    (normOID profile.sysObjectIDPrefix).toList <+: oid.toList

section Numbers

variable {profile : Profile} {numbers oid : List ℕ} {sysObjectID : String}

end Numbers

/-- The orders in which `Match` may go through the profiles. -/
def VisitsProfiles (profiles : StringMap Profile) (order : List Profile) : Prop :=
  order.Perm (profiles.toSortedList.map Prod.snd)

theorem VisitsProfiles.mem
    {profiles : StringMap Profile}
    {order : List Profile}
    (visits : VisitsProfiles profiles order)
    (profile : Profile) :
    profile ∈ order ↔ ∃ id, profiles.lookup id = some profile := by
  rw [List.Perm.mem_iff visits]
  simp

end InfraObserver

/-! ## Vendors with similar numbers -/

namespace InfraObserver.Matching

attribute [local instance] Platform.plain

/-- A profile for a prefix. -/
def vendor (id configured : String) : Profile := ⟨id, [], configured, []⟩

/-- Two vendors, and a product line of the second. -/
def documents : List Profile :=
  [vendor "acme" ".1.3.6.1.4.1.9", vendor "switch" "1.3.6.1.4.1.9.2",
    vendor "three" "1.3.6.1.4.1.3"]

end InfraObserver.Matching
